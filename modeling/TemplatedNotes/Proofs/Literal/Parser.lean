/-
  TemplatedNotes/Proofs/Literal/Parser.lean
  =========================================
  **Literals that are no literals.**

  A malformed literal has no arguments, and the reader says so for every failure but one
  (`kindName_of_evaluate_eq_error`).  A key with a bare word after it that is no constant is
  malformed, whatever stands behind (`parse_bareWord`).
-/
import TemplatedNotes.Proofs.Literal.Token
import TemplatedNotes.Proofs.Text.Blank
import TemplatedNotes.Literal.Parser

namespace TemplatedNotes.Literal

/-! ### Failures of the evaluation -/

theorem evaluate_of_parse_eq_error [Runtime] {raw : Text} {f : Failure} (h : parse raw = .error f)
    (hf : isIgnored f = true) : evaluate raw = .ok Arguments.empty := by
  rw [evaluate, h]
  exact if_pos hf

/-- Only one kind of failure is not taken for a literal without arguments. -/
theorem kindName_of_evaluate_eq_error [Runtime] {raw : Text} {f : Failure}
    (h : evaluate raw = .error f) :
    f.kindName = Text.of "OverflowError" := by
  unfold evaluate at h
  split at h
  · cases h
  · split at h
    · cases h
    · next hf =>
      cases h
      simpa [isIgnored] using hf

/-! ### A key and a bare word -/

theorem isAt_of_ne_mark (mark : Char) {t : Token} (h : t.kind ≠ .mark) (rest : List Token) :
    isAt mark (t :: rest) = false := by
  simp [isAt, current, h]

theorem isAt_mark (c : Char) (position : Nat) (rest : List Token) :
    isAt c (⟨.mark, [.scalar c], position⟩ :: rest) = true := by
  simp [isAt, current]

theorem expect_mark (c : Char) (position : Nat) (rest : List Token) :
    expect c (⟨.mark, [.scalar c], position⟩ :: rest) = .ok rest :=
  if_pos (isAt_mark c position rest)

/-- A bare word is a value only if it is a constant. -/
theorem value_bareWord (depth : Nat) {w : Text} (hw : constant? w = none) (position : Nat)
    (rest : List Token) :
    value (depth + 1) (⟨.identifier, w, position⟩ :: rest) =
      .error (.literal (.unexpected w position)) := by
  have hne : (⟨.identifier, w, position⟩ : Token).kind ≠ .mark := by simp
  simp only [value, isAt_of_ne_mark _ hne, Bool.or_self, Bool.false_eq_true, if_false, atom,
    current, hw]
  rfl

theorem pair_bareWord (depth : Nat) {k w : Text} (hw : constant? w = none) (p₁ p₂ p₃ : Nat)
    (rest : List Token) :
    pair (value (depth + 1)) (⟨.identifier, k, p₁⟩ :: ⟨.mark, [.scalar ':'], p₂⟩ ::
        ⟨.identifier, w, p₃⟩ :: rest) =
      .error (.literal (.unexpected w p₃)) :=
  Outcome.bind_eq_error.2 (Or.inr ⟨k, rfl, Outcome.bind_eq_error.2 (Or.inr
    ⟨_, expect_mark ':' p₂ _, Outcome.bind_eq_error.2 (Or.inl
      (value_bareWord depth hw p₃ rest))⟩)⟩)

theorem repeated_eq_error {α : Type} {entry : Reader α} {close : Char} {rounds : Nat}
    {tokens : List Token} {f : Failure} (hclose : isAt close tokens = false)
    (hentry : entry tokens = .error f) :
    Reader.repeated entry close (rounds + 1) tokens = .error f := by
  simp only [Reader.repeated, hclose, Bool.false_eq_true, if_false]
  exact Outcome.bind_eq_error.2 (Or.inl hentry)

theorem document_bareWord [Runtime] {k w : Text} (hw : constant? w = none) (p₁ p₂ p₃ p₄ : Nat)
    (rest : List Token) :
    document (⟨.mark, [.scalar '\x7b'], p₁⟩ :: ⟨.identifier, k, p₂⟩ ::
        ⟨.mark, [.scalar ':'], p₃⟩ :: ⟨.identifier, w, p₄⟩ :: rest) =
      .error (.literal (.unexpected w p₄)) := by
  obtain ⟨depth, hdepth⟩ := Nat.exists_eq_add_one.2 maxDepth_pos
  have hpair := pair_bareWord depth (k := k) hw p₂ p₃ p₄ rest
  rw [← hdepth] at hpair
  refine Outcome.bind_eq_error.2 (Or.inr ⟨_, expect_mark '\x7b' p₁ _, ?_⟩)
  refine Outcome.bind_eq_error.2 (Or.inl (Outcome.bind_eq_error.2 (Or.inl ?_)))
  exact repeated_eq_error (isAt_of_ne_mark _ (by simp) _) hpair

/-- What a key and a bare word in braces are cut into. -/
theorem scan_bareWord {k w : Text} (hk : IsIdentifier k) (hw : IsIdentifier w) (t : Text) :
    scan (.scalar '\x7b' :: (k ++ .scalar ':' :: .scalar ' ' :: (w ++ .scalar ' ' :: t))) =
      (scanFrom (1 + k.length + 1 + 1 + w.length) 0 (.scalar ' ' :: t)).map (fun ts =>
        ⟨.mark, [.scalar '\x7b'], 0⟩ :: ⟨.identifier, k, 1⟩ ::
          ⟨.mark, [.scalar ':'], 1 + k.length⟩ ::
          ⟨.identifier, w, 1 + k.length + 1 + 1⟩ :: ts) := by
  have hword := scanFrom_identifier (1 + k.length + 1 + 1) hw (by decide) t (c := .scalar ' ')
  have hspace : scanFrom (1 + k.length + 1) 0 (.scalar ' ' :: (w ++ .scalar ' ' :: t)) =
      scanFrom (1 + k.length + 1 + 1) 0 (w ++ .scalar ' ' :: t) := by
    cases w with
    | nil => exact absurd hw.starts (by simp)
    | cons d rest =>
      exact scanFrom_space _ (isBlank_of_startsIdentifier (by simpa using hw.starts)) _
  rw [scan, scanFrom_mark 0 (by decide) (by decide), Nat.zero_add,
    scanFrom_identifier 1 hk (by decide), scanFrom_mark _ (by decide) (by decide), hspace, hword]
  cases scanFrom (1 + k.length + 1 + 1 + w.length) 0 (.scalar ' ' :: t) <;> rfl

/-- A text that starts with an identifier and does not end blank, in braces. -/
theorem braced_of_identifier {k t : Text} (hk : IsIdentifier k) (hne : t ≠ [])
    (hlast : ∀ c, t.getLast? = some c → c.isBlank = false) :
    braced (k ++ t) = .scalar '\x7b' :: (k ++ t ++ [.scalar '\x7d']) := by
  cases k with
  | nil => exact absurd hk.starts (by simp)
  | cons c rest =>
    have hc : startsIdentifier c = true := by simpa using hk.starts
    have htrim : Text.trim (c :: rest ++ t) = c :: rest ++ t := by
      refine Text.trim_eq_self (fun d hd => ?_) (fun d hd => ?_)
      · cases hd
        exact isBlank_of_startsIdentifier hc
      · rw [List.getLast?_append, List.getLast?_eq_some_getLast hne, Option.some_or,
          ← List.getLast?_eq_some_getLast hne] at hd
        exact hlast d hd
    have hbrace : ¬ (c :: rest ++ t).head? = some (.scalar '\x7b') := by
      intro h
      exact ne_of_startsIdentifier hc (by decide) (Option.some.inj h)
    unfold braced
    rw [htrim]
    exact if_neg hbrace

/-- **A key and a bare word that is no constant** are no literal, whatever follows them. -/
theorem parse_bareWord [Runtime] {k w t : Text} (hk : IsIdentifier k) (hw : IsIdentifier w)
    (hconstant : constant? w = none) (hne : t ≠ [])
    (hlast : ∀ c, t.getLast? = some c → c.isBlank = false) :
    ∃ f, parse (k ++ .scalar ':' :: .scalar ' ' :: (w ++ .scalar ' ' :: t)) =
      .error (.literal f) := by
  have hend : ∀ c,
      (.scalar ':' :: .scalar ' ' :: (w ++ .scalar ' ' :: t) : Text).getLast? = some c →
      c.isBlank = false := by
    intro c hc
    refine hlast c ?_
    rw [← hc, List.getLast?_eq_some_getLast hne]
    simp [List.getLast?_append, List.getLast?_cons, List.getLast?_eq_some_getLast hne]
  have hscan : scan (braced (k ++ .scalar ':' :: .scalar ' ' :: (w ++ .scalar ' ' :: t))) =
      scan (.scalar '\x7b' :: (k ++ .scalar ':' :: .scalar ' ' :: (w ++ .scalar ' ' ::
        (t ++ [.scalar '\x7d'])))) := by
    rw [braced_of_identifier hk (by simp) hend]
    simp
  unfold parse
  rw [hscan, scan_bareWord hk hw]
  cases hrest : scanFrom (1 + k.length + 1 + 1 + w.length) 0
      (.scalar ' ' :: (t ++ [.scalar '\x7d'])) with
  | error f =>
    obtain ⟨c, p, rfl⟩ := scanFrom_eq_error hrest
    exact ⟨_, rfl⟩
  | ok ts =>
    exact ⟨_, Outcome.bind_eq_error.2 (Or.inr ⟨_, rfl, Outcome.bind_eq_error.2 (Or.inl
      (document_bareWord hconstant _ _ _ _ ts))⟩)⟩

end TemplatedNotes.Literal
