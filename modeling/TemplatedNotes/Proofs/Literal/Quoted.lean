/-
  TemplatedNotes/Proofs/Literal/Quoted.lean
  =========================================
  **A text between quotes is read as it was written.**

  The writer of sections puts a backslash before every quote and every backslash of a text and
  leaves everything else as it is.  Then no quote ends the text early (`isQuotable_escaped`),
  and each escape stands for the code point behind its backslash, because neither of the two is a
  letter with a meaning (`unescapeFrom_escaped`).  So a key and such a text are read as one
  pair, whatever the text is, as long as it is on one line (`evaluate_quoted`).
-/
import TemplatedNotes.Proofs.Literal.Grammar
import TemplatedNotes.Proofs.Literal.Lexeme
import TemplatedNotes.Proofs.Literal.Pairs
import TemplatedNotes.Proofs.Text.Lines

namespace TemplatedNotes.Literal

/-- The quote that the writer of sections uses. -/
def quote : CodePoint := .scalar '\x27'

/-- A text as it stands between the quotes. -/
def escaped (t : Text) : Text := Text.escapeWith ['\\', '\x27'] t

/-! ### Between the quotes -/

theorem escaped_special {c : CodePoint} (h : c = .scalar '\\' ∨ c = quote) (t : Text) :
    escaped (c :: t) = .scalar '\\' :: c :: escaped t := by
  have hc : c ∈ ([.scalar '\\', .scalar '\x27'] : Text) := by
    rcases h with rfl | rfl <;> decide
  simp only [escaped, Text.escapeWith, List.flatMap_cons, hc, if_true]
  rfl

theorem escaped_plain {c : CodePoint} (h₁ : c ≠ .scalar '\\') (h₂ : c ≠ quote) (t : Text) :
    escaped (c :: t) = c :: escaped t := by
  have hc : c ∉ ([.scalar '\\', .scalar '\x27'] : Text) := by simpa using ⟨h₁, h₂⟩
  simp only [escaped, Text.escapeWith, List.flatMap_cons, hc, if_false]
  rfl

theorem mem_of_mem_escaped {c : CodePoint} {t : Text} (h : c ∈ escaped t) :
    c ∈ t ∨ c = .scalar '\\' := by
  obtain ⟨d, hd, hc⟩ := List.mem_flatMap.1 h
  split at hc
  · rcases List.mem_cons.1 hc with rfl | hc
    · exact Or.inr rfl
    · exact Or.inl (List.mem_singleton.1 hc ▸ hd)
  · exact Or.inl (List.mem_singleton.1 hc ▸ hd)

/-- No code point of the text ends it: the first quote that does is the one behind it. -/
theorem isQuotable_escaped {t : Text} (h : Line.lineFeed ∉ t) : IsQuotable quote (escaped t) := by
  induction t with
  | nil => exact .nil
  | cons c t ih =>
    have hfeed : c ≠ .scalar '\n' := fun e => h (e ▸ List.mem_cons_self)
    have hrest := ih (fun m => h (List.mem_cons_of_mem c m))
    by_cases hspecial : c = .scalar '\\' ∨ c = quote
    · rw [escaped_special hspecial]
      exact .escape hfeed hrest
    · obtain ⟨hback, hquote⟩ := not_or.1 hspecial
      rw [escaped_plain hback hquote]
      exact .plain hquote hback hfeed hrest

/-- **Decoding gives the text back.** -/
theorem unescapeFrom_escaped (t : Text) : unescapeFrom 0 (escaped t) = .ok t := by
  induction t with
  | nil => rfl
  | cons c t ih =>
    by_cases hspecial : c = .scalar '\\' ∨ c = quote
    · have hescape : escape (c :: escaped t) = .ok ([c], 1) := by
        rcases hspecial with rfl | rfl <;> rfl
      rw [escaped_special hspecial, unescapeFrom, if_pos rfl, hescape]
      show unescapeFrom 0 (escaped t) >>= _ = _
      rw [ih]
      rfl
    · obtain ⟨hback, hquote⟩ := not_or.1 hspecial
      rw [escaped_plain hback hquote, unescapeFrom, if_neg hback, ih]
      rfl

/-! ### The quoted text as a token -/

/-- A text between quotes. -/
def quoted (t : Text) : Text := quote :: escaped t ++ [quote]

theorem lexeme?_quoted {t : Text} (h : Line.lineFeed ∉ t) (rest : Text) :
    lexeme? (quoted t ++ rest) = some (some .quoted, (quoted t).length) :=
  lexeme?_of_isQuotable (Or.inr rfl) (isQuotable_escaped h) rest

theorem decodeQuoted_quoted (t : Text) : decodeQuoted (quoted t) = .ok t := by
  have hinside : ((quoted t).drop 1).dropLast = escaped t := by simp [quoted]
  rw [decodeQuoted, hinside, unescapeFrom_escaped]

/-! ### A key and a quoted text -/

theorem scan_quoted {k t : Text} (hk : IsIdentifier k) (ht : Line.lineFeed ∉ t) :
    scan (.scalar '\x7b' :: (k ++ .scalar ':' :: .scalar ' ' :: quoted t ++ [.scalar '\x7d'])) =
      .ok [⟨.mark, [.scalar '\x7b'], 0⟩, ⟨.identifier, k, 1⟩, ⟨.mark, [.scalar ':'], 1 + k.length⟩,
        ⟨.quoted, quoted t, 1 + k.length + 1 + 1⟩,
        ⟨.mark, [.scalar '\x7d'], 1 + k.length + 1 + 1 + (quoted t).length⟩,
        ⟨.finish, [], 1 + k.length + 1 + 1 + (quoted t).length + 1⟩] := by
  have hspace : scanFrom (1 + k.length + 1) 0 (.scalar ' ' :: (quoted t ++ [.scalar '\x7d'])) =
      scanFrom (1 + k.length + 1 + 1) 0 (quoted t ++ [.scalar '\x7d']) :=
    scanFrom_space _ (c := quote) (by decide) _
  rw [scan, scanFrom_mark 0 (by decide) (by decide), Nat.zero_add, List.append_assoc,
    List.cons_append, List.cons_append,
    scanFrom_identifier 1 hk (by decide), scanFrom_mark _ (by decide) (by decide), hspace,
    scanFrom_token _ (by simp [quoted]) (lexeme?_quoted ht _),
    scanFrom_mark _ (by decide) (by decide), scanFrom]
  rfl

variable [Runtime]

theorem document_quoted {k t s : Text} (h : decodeQuoted s = .ok t) (p₁ p₂ p₃ p₄ p₅ p₆ : Nat) :
    document [⟨.mark, [.scalar '\x7b'], p₁⟩, ⟨.identifier, k, p₂⟩, ⟨.mark, [.scalar ':'], p₃⟩,
        ⟨.quoted, s, p₄⟩, ⟨.mark, [.scalar '\x7d'], p₅⟩, ⟨.finish, [], p₆⟩] =
      .ok (.dict [(.text k, .text t)]) := by
  have hvalue : value maxDepth [⟨.quoted, s, p₄⟩, ⟨.mark, [.scalar '\x7d'], p₅⟩,
      ⟨.finish, [], p₆⟩] =
      .ok (.text t, [⟨.mark, [.scalar '\x7d'], p₅⟩, ⟨.finish, [], p₆⟩]) := by
    obtain ⟨depth, hdepth⟩ := Nat.exists_eq_add_one.2 maxDepth_pos
    rw [hdepth, value_of_kind rfl (by simp), atom]
    simp only [h]
    rfl
  have hpair : pair (value maxDepth) [⟨.identifier, k, p₂⟩, ⟨.mark, [.scalar ':'], p₃⟩,
      ⟨.quoted, s, p₄⟩, ⟨.mark, [.scalar '\x7d'], p₅⟩, ⟨.finish, [], p₆⟩] =
      .ok ((.text k, .text t), [⟨.mark, [.scalar '\x7d'], p₅⟩, ⟨.finish, [], p₆⟩]) :=
    Outcome.bind_eq_ok.2 ⟨k, rfl, Outcome.bind_eq_ok.2 ⟨_, expect_mark ':' p₃ _,
      Outcome.bind_eq_ok.2 ⟨_, hvalue, rfl⟩⟩⟩
  have hrow : Reader.repeated (pair (value maxDepth)) '\x7d' 6 [⟨.identifier, k, p₂⟩,
      ⟨.mark, [.scalar ':'], p₃⟩, ⟨.quoted, s, p₄⟩, ⟨.mark, [.scalar '\x7d'], p₅⟩,
      ⟨.finish, [], p₆⟩] = .ok ([(.text k, .text t)], [⟨.finish, [], p₆⟩]) := by
    rw [repeated_of_not_isAt _ _ (isAt_of_ne_mark _ (by simp) _)]
    exact Outcome.bind_eq_ok.2 ⟨_, hpair, Outcome.bind_eq_ok.2 ⟨_, separator_of_isMark rfl _,
      Outcome.bind_eq_ok.2 ⟨_, repeated_of_isAt _ 4 (isAt_mark '\x7d' p₅ _), rfl⟩⟩⟩
  refine Outcome.bind_eq_ok.2 ⟨_, expect_mark '\x7b' p₁ _, ?_⟩
  exact Outcome.bind_eq_ok.2 ⟨_, Outcome.bind_eq_ok.2 ⟨_, hrow, rfl⟩, rfl⟩

/-- **A key and a text between quotes** are one pair. -/
theorem evaluate_quoted {k t : Text} (hk : IsIdentifier k) (ht : Line.lineFeed ∉ t) :
    evaluate (k ++ .scalar ':' :: .scalar ' ' :: quoted t) =
      .ok (.mapping .arguments [(.text k, .text t)]) := by
  have hbraced : braced (k ++ .scalar ':' :: .scalar ' ' :: quoted t) =
      .scalar '\x7b' :: (k ++ .scalar ':' :: .scalar ' ' :: quoted t ++ [.scalar '\x7d']) := by
    refine braced_of_identifier hk (by simp) (fun c hc => ?_)
    have hlast : (.scalar ':' :: .scalar ' ' :: quoted t : Text).getLast? = some quote := by
      rw [quoted, ← List.cons_append, ← List.cons_append, List.getLast?_concat]
    rw [hlast] at hc
    cases hc
    decide
  have hparse : parse (k ++ .scalar ':' :: .scalar ' ' :: quoted t) =
      .ok (.mapping .arguments [(.text k, .text t)]) := by
    rw [parse, hbraced, scan_quoted hk ht]
    show document _ >>= _ = _
    rw [document_quoted (decodeQuoted_quoted t)]
    rfl
  rw [evaluate, hparse]

end TemplatedNotes.Literal
