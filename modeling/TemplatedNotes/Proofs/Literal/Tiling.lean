/-
  TemplatedNotes/Proofs/Literal/Tiling.lean
  =========================================
  **The tokens of an argument literal and its white space tile it.**

  `Tiles position t tokens` says that a text from a position on is made of the words of the tokens,
  in their order and at their positions, and of white space between them: nothing of the text is
  lost, taken twice or moved.  Cutting a text takes one word or one run of white space after the
  other off its start (`scanFrom_of_gap`, `scanFrom_of_token`), so by induction on what is left it
  comes to the end of the text, or to a place where no word starts.

    * `scan_tiles` — the two ends of cutting a text, with what the tokens are in each.
-/
import TemplatedNotes.Proofs.Literal.Lexeme

namespace TemplatedNotes.Literal

/-- A text from a position on, as the words of tokens and white space. -/
inductive Tiles : Nat → Text → List Token → Prop where
  | nil {position : Nat} : Tiles position [] []
  | gap {position : Nat} {w t : Text} {tokens : List Token} (hw : IsLexeme none w)
      (ht : Tiles (position + w.length) t tokens) : Tiles position (w ++ t) tokens
  | token {position : Nat} {kind : TokenKind} {w t : Text} {tokens : List Token}
      (hw : IsLexeme (some kind) w) (ht : Tiles (position + w.length) t tokens) :
      Tiles position (w ++ t) (⟨kind, w, position⟩ :: tokens)

/-- The token at the end of a text. -/
def finish (t : Text) : Token := ⟨.finish, [], t.length⟩

/-- A token stands at a place of a text. -/
def Token.Covers (k : Token) (i : Nat) : Prop := k.position ≤ i ∧ i < k.position + k.text.length

/-! ### Tokens that tile a text -/

section Tiles

variable {position : Nat} {t : Text} {tokens : List Token}

theorem Tiles.isLexeme (h : Tiles position t tokens) :
    ∀ k ∈ tokens, IsLexeme (some k.kind) k.text := by
  induction h with
  | nil => simp
  | gap hw ht ih => exact ih
  | token hw ht ih =>
    intro k hk
    rcases List.mem_cons.1 hk with rfl | hk
    · exact hw
    · exact ih k hk

theorem Tiles.ne_nil (h : Tiles position t tokens) {k : Token} (hk : k ∈ tokens) : k.text ≠ [] :=
  (h.isLexeme k hk).ne_nil

theorem Tiles.kind_ne (h : Tiles position t tokens) {k : Token} (hk : k ∈ tokens) :
    k.kind ≠ .finish := by
  intro hkind
  have hlexeme := h.isLexeme k hk
  rw [hkind] at hlexeme
  exact hlexeme

/-- The tokens stand inside the text. -/
theorem Tiles.inside (h : Tiles position t tokens) :
    ∀ k ∈ tokens, position ≤ k.position ∧ k.position + k.text.length ≤ position + t.length := by
  induction h with
  | nil => simp
  | gap hw ht ih =>
    intro k hk
    have hinside := ih k hk
    rw [List.length_append]
    omega
  | token hw ht ih =>
    intro k hk
    rw [List.length_append]
    rcases List.mem_cons.1 hk with rfl | hk
    · constructor
      · exact Nat.le_refl _
      · simp only
        omega
    · have hinside := ih k hk
      omega

/-- Each token ends before the next one starts. -/
theorem Tiles.pairwise (h : Tiles position t tokens) :
    tokens.Pairwise (fun a b => a.position + a.text.length ≤ b.position) := by
  induction h with
  | nil => exact .nil
  | gap hw ht ih => exact ih
  | token hw ht ih =>
    apply List.Pairwise.cons _ ih
    intro k hk
    exact (ht.inside k hk).1

/-- Behind a word the places of a text are those of the rest. -/
theorem drop_append_of_le {w : Text} {i : Nat} (h : position + w.length ≤ i) :
    (w ++ t).drop (i - position) = t.drop (i - (position + w.length)) := by
  have hplace : i - position = w.length + (i - (position + w.length)) := by omega
  rw [hplace, List.drop_length_add_append]

/-- A token's word is the part of the text at its position. -/
theorem Tiles.slice (h : Tiles position t tokens) :
    ∀ k ∈ tokens, (t.drop (k.position - position)).take k.text.length = k.text := by
  induction h with
  | nil => simp
  | gap hw ht ih =>
    intro k hk
    rw [drop_append_of_le (ht.inside k hk).1]
    exact ih k hk
  | token hw ht ih =>
    intro k hk
    rcases List.mem_cons.1 hk with rfl | hk
    · simp
    · rw [drop_append_of_le (ht.inside k hk).1]
      exact ih k hk

/-- Where no token stands the text is white space. -/
def BlankOutside (position : Nat) (t : Text) (tokens : List Token) : Prop :=
  ∀ i c, t[i]? = some c → (∀ k ∈ tokens, ¬ k.Covers (position + i)) → c.isBlank = true

theorem BlankOutside.of_append {w : Text} (h : BlankOutside (position + w.length) t tokens)
    {i : Nat} (hi : w.length ≤ i) {c : CodePoint} (hc : (w ++ t)[i]? = some c)
    (hcovers : ∀ k ∈ tokens, ¬ k.Covers (position + i)) : c.isBlank = true := by
  rw [List.getElem?_append_right hi] at hc
  apply h (i - w.length) c hc
  have hplace : position + w.length + (i - w.length) = position + i := by omega
  rwa [hplace]

theorem Tiles.blankOutside (h : Tiles position t tokens) : BlankOutside position t tokens := by
  induction h with
  | nil => simp [BlankOutside]
  | @gap position w t tokens hw ht ih =>
    intro i c hc hcovers
    by_cases hi : i < w.length
    · rw [List.getElem?_append_left hi] at hc
      exact hw.2 c (List.mem_of_getElem? hc)
    · exact ih.of_append (Nat.le_of_not_lt hi) hc hcovers
  | @token position kind w t tokens hw ht ih =>
    intro i c hc hcovers
    have hi : ¬ i < w.length := by
      intro hi
      apply hcovers _ List.mem_cons_self
      exact ⟨Nat.le_add_right _ _, Nat.add_lt_add_left hi _⟩
    apply ih.of_append (Nat.le_of_not_lt hi) hc
    intro k hk
    exact hcovers k (List.mem_cons_of_mem _ hk)

theorem Tiles.pairwise_finish (h : Tiles 0 t tokens) :
    (tokens ++ [finish t]).Pairwise (fun a b => a.position < b.position) := by
  refine List.pairwise_append.2 ⟨?_, by simp, ?_⟩
  · apply h.pairwise.imp_of_mem
    intro a b ha hb hab
    have hpos := List.length_pos_iff.2 (h.ne_nil ha)
    omega
  · intro a ha b hb
    obtain rfl := List.mem_singleton.1 hb
    have hpos := List.length_pos_iff.2 (h.ne_nil ha)
    have hinside := h.inside a ha
    simp only [finish]
    omega

end Tiles

/-! ### Cutting -/

/-- What is found at the start of a text is a word, and the rest of the text follows it. -/
theorem exists_of_lexeme? {t : Text} {kind : Option TokenKind} {n : Nat}
    (h : lexeme? t = some (kind, n)) :
    ∃ w rest, t = w ++ rest ∧ n = w.length ∧ IsLexeme kind w := by
  obtain ⟨hlexeme, hle⟩ := isLexeme_of_lexeme? h
  refine ⟨t.take n, t.drop n, (List.take_append_drop n t).symm, ?_, hlexeme⟩
  rw [List.length_take, Nat.min_eq_left hle]

theorem scanFrom_gap (position : Nat) {w t : Text} (hw : w ≠ [])
    (h : lexeme? (w ++ t) = some (none, w.length)) :
    scanFrom position 0 (w ++ t) = scanFrom (position + w.length) 0 t := by
  cases w with
  | nil => exact absurd rfl hw
  | cons c rest =>
    rw [List.cons_append] at h ⊢
    rw [scanFrom, h]
    simp only [List.length_cons, Nat.add_sub_cancel]
    rw [scanFrom_skip (position + 1) (by simp), List.drop_left,
      show position + 1 + rest.length = position + (rest.length + 1) by omega]

/-- Cutting a text from a position on comes to its end, with tokens that tile the text. -/
def Ends (position : Nat) (t : Text) (o : Outcome (List Token)) : Prop :=
  ∃ tokens, Tiles position t tokens ∧
    o = .ok (tokens ++ [⟨.finish, [], position + t.length⟩])

/-- Cutting a text from a position on is stuck in a place where no word starts, behind tokens that
    tile what comes before it. -/
def Stuck (position : Nat) (t : Text) (o : Outcome (List Token)) : Prop :=
  ∃ before c after tokens, t = before ++ c :: after ∧ Tiles position before tokens ∧
    (∀ kind w, w <+: c :: after → ¬ IsLexeme kind w) ∧
    o = .error (.literal (.unexpectedCharacter c (position + before.length)))

section Steps

variable {position : Nat} {w t : Text} {o : Outcome (List Token)}

theorem ends_gap (hw : IsLexeme none w) (h : Ends (position + w.length) t o) :
    Ends position (w ++ t) o := by
  obtain ⟨tokens, htiles, rfl⟩ := h
  refine ⟨tokens, .gap hw htiles, ?_⟩
  rw [List.length_append, Nat.add_assoc]

theorem ends_token {kind : TokenKind} (hw : IsLexeme (some kind) w)
    (h : Ends (position + w.length) t o) :
    Ends position (w ++ t) (o.map (⟨kind, w, position⟩ :: ·)) := by
  obtain ⟨tokens, htiles, rfl⟩ := h
  refine ⟨⟨kind, w, position⟩ :: tokens, .token hw htiles, ?_⟩
  rw [List.length_append, Nat.add_assoc]
  rfl

theorem stuck_gap (hw : IsLexeme none w) (h : Stuck (position + w.length) t o) :
    Stuck position (w ++ t) o := by
  obtain ⟨before, c, after, tokens, rfl, htiles, hnone, rfl⟩ := h
  refine ⟨w ++ before, c, after, tokens, by simp, .gap hw htiles, hnone, ?_⟩
  rw [List.length_append, Nat.add_assoc]

theorem stuck_token {kind : TokenKind} (hw : IsLexeme (some kind) w)
    (h : Stuck (position + w.length) t o) :
    Stuck position (w ++ t) (o.map (⟨kind, w, position⟩ :: ·)) := by
  obtain ⟨before, c, after, tokens, rfl, htiles, hnone, rfl⟩ := h
  refine ⟨w ++ before, c, after, _, by simp, .token hw htiles, hnone, ?_⟩
  rw [List.length_append, Nat.add_assoc]
  rfl

end Steps

/-- Cutting a text ends or is stuck, by induction on what is left of the text. -/
theorem ends_or_stuck (position : Nat) (t : Text) :
    Ends position t (scanFrom position 0 t) ∨ Stuck position t (scanFrom position 0 t) := by
  induction hn : t.length using Nat.strongRecOn generalizing position t with
  | ind n ih =>
    subst hn
    cases hlexeme : lexeme? t with
    | none =>
      cases t with
      | nil => exact Or.inl ⟨[], .nil, rfl⟩
      | cons c rest =>
        right
        refine ⟨[], c, rest, [], rfl, .nil, ?_, ?_⟩
        · intro kind w hw
          exact not_isLexeme_of_lexeme? hlexeme hw kind
        · rw [scanFrom, hlexeme]
          show Except.error (Failure.literal (strayFault c position)) = _
          rw [strayFault_of_lexeme? hlexeme]
          rfl
    | some found =>
      obtain ⟨kind, m⟩ := found
      obtain ⟨w, rest, rfl, rfl, hw⟩ := exists_of_lexeme? hlexeme
      have hless : rest.length < (w ++ rest).length := by
        have hpos := List.length_pos_iff.2 hw.ne_nil
        rw [List.length_append]
        omega
      have hrest := ih _ hless (position + w.length) rest rfl
      cases kind with
      | none =>
        rw [scanFrom_gap position hw.ne_nil hlexeme]
        exact hrest.imp (ends_gap hw) (stuck_gap hw)
      | some kind =>
        rw [scanFrom_token position hw.ne_nil hlexeme]
        exact hrest.imp (ends_token hw) (stuck_token hw)

/-- **Cutting a text into tokens** ends with tokens that tile the text, each at the place of its
    word, the next one behind it, with nothing but white space where no token stands, and the end
    of the text last; or it fails at the first place, behind tokens that tile what comes before,
    where neither a word nor white space starts, and names that place. -/
theorem scan_tiles (t : Text) :
    (∃ tokens, scan t = .ok (tokens ++ [finish t]) ∧ Tiles 0 t tokens ∧
      (tokens ++ [finish t]).Pairwise (fun a b => a.position < b.position) ∧
      (∀ k ∈ tokens ++ [finish t], (t.drop k.position).take k.text.length = k.text ∧
        (k.text = [] ↔ k.kind = .finish)) ∧
      ∀ i c, t[i]? = some c → (∀ k ∈ tokens, ¬ k.Covers i) → c.isBlank = true) ∨
    ∃ before c after tokens f, t = before ++ c :: after ∧ Tiles 0 before tokens ∧
      (∀ kind w, w <+: c :: after → ¬ IsLexeme kind w) ∧ scan t = .error f ∧
      f = .literal (.unexpectedCharacter c before.length) ∧
      f.kindName = Text.of "ArgumentSyntaxError" ∧
      f.message = Text.of "Unexpected character " ++ Quoted.encode [c] ++ Text.of " at " ++
        Integer.natText before.length := by
  rcases ends_or_stuck 0 t with hends | hstuck
  · left
    obtain ⟨tokens, htiles, hscan⟩ := hends
    rw [Nat.zero_add] at hscan
    refine ⟨tokens, hscan, htiles, htiles.pairwise_finish, ?_, ?_⟩
    · intro k hk
      rcases List.mem_append.1 hk with hk | hk
      · have hslice := htiles.slice k hk
        rw [Nat.sub_zero] at hslice
        exact ⟨hslice, iff_of_false (htiles.ne_nil hk) (htiles.kind_ne hk)⟩
      · obtain rfl := List.mem_singleton.1 hk
        exact ⟨rfl, iff_of_true rfl rfl⟩
    · intro i c hc hcovers
      apply htiles.blankOutside i c hc
      rwa [Nat.zero_add]
  · right
    obtain ⟨before, c, after, tokens, ht, htiles, hnone, hscan⟩ := hstuck
    rw [Nat.zero_add] at hscan
    exact ⟨before, c, after, tokens, _, ht, htiles, hnone, hscan, rfl, rfl, rfl⟩

end TemplatedNotes.Literal
