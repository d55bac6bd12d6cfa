/-
  TemplatedNotes/Proofs/Literal/Token.lean
  ========================================
  **What the start of an argument literal is cut into, whatever follows.**

  Three kinds of tokens are known from their own letters and the code point after them: an
  identifier, a mark and white space.  Each lemma gives the token and leaves the cutting of what
  follows it (`scanFrom_identifier`, `scanFrom_mark`, `scanFrom_space`).  A text that cannot be
  cut fails at one of its code points (`scanFrom_eq_error`).
-/
import TemplatedNotes.Proofs.Action
import TemplatedNotes.Literal.Token

namespace TemplatedNotes

/-- Below the digits of other scripts only the ASCII digits are digits. -/
theorem CodePoint.isDigit_eq_isAsciiDigit {c : CodePoint} (h : c.value < 0x660) :
    c.isDigit = c.isAsciiDigit := by
  have hzeros : digitZeros = 0x30 :: digitZeros.tail := rfl
  have hlate : ∀ z ∈ digitZeros.tail, 0x660 ≤ z := by decide
  have hnone : digitZeros.tail.find? (fun z => z ≤ c.value && c.value < z + 10) = none := by
    refine List.find?_eq_none.2 (fun z hz => ?_)
    have hle := hlate z hz
    simp only [Bool.and_eq_true, decide_eq_true_eq, not_and]
    omega
  unfold isDigit digitValue? isAsciiDigit
  rw [hzeros, List.find?_cons, hnone]
  by_cases h₁ : 48 ≤ c.value <;> by_cases h₂ : c.value ≤ 57 <;>
    simp [h₁, h₂, Nat.lt_succ_iff]

namespace Literal

/-! ### Code points -/

theorem startsIdentifier_iff {c : CodePoint} :
    startsIdentifier c = true ↔
      65 ≤ c.value ∧ c.value ≤ 90 ∨ 97 ≤ c.value ∧ c.value ≤ 122 ∨ c.value = 95 ∨
        c.value = 36 := by
  have hu : c = .scalar '_' ↔ c.value = 95 :=
    ⟨fun h => by rw [h]; rfl, fun h => CodePoint.value_injective h⟩
  have hd : c = .scalar '$' ↔ c.value = 36 :=
    ⟨fun h => by rw [h]; rfl, fun h => CodePoint.value_injective h⟩
  simp [startsIdentifier, CodePoint.isAsciiLetter, hu, hd, or_assoc]

theorem isDigit_of_startsIdentifier {c : CodePoint} (h : startsIdentifier c = true) :
    c.isDigit = false := by
  rw [startsIdentifier_iff] at h
  rw [CodePoint.isDigit_eq_isAsciiDigit (by omega)]
  simp only [CodePoint.isAsciiDigit, Bool.and_eq_false_iff, decide_eq_false_iff_not]
  omega

theorem isBlank_of_startsIdentifier {c : CodePoint} (h : startsIdentifier c = true) :
    c.isBlank = false := by
  rw [startsIdentifier_iff] at h
  simp only [CodePoint.isBlank, Bool.or_eq_false_iff, Bool.and_eq_false_iff,
    decide_eq_false_iff_not, beq_eq_false_iff_ne]
  omega

theorem ne_of_startsIdentifier {c d : CodePoint} (h : startsIdentifier c = true)
    (hd : startsIdentifier d = false) : c ≠ d := by
  rintro rfl
  rw [h] at hd
  cases hd

theorem isMark_of_startsIdentifier {c : CodePoint} (h : startsIdentifier c = true) :
    isMark c = false := by
  refine List.any_eq_false.2 (fun m hm => ?_)
  have hno : marks.all (fun m => !startsIdentifier (.scalar m)) = true := by decide
  have hm' : startsIdentifier (.scalar m) = false := by simpa using List.all_eq_true.1 hno m hm
  simpa using ne_of_startsIdentifier h hm'

/-! ### Lexemes -/

theorem countWhile_cons_neg {p : CodePoint → Bool} {c : CodePoint} (h : p c = false) (t : Text) :
    countWhile p (c :: t) = 0 := by
  simp [countWhile, h]

theorem countWhile_append_cons {p : CodePoint → Bool} {w : Text} (hw : ∀ d ∈ w, p d = true)
    {c : CodePoint} (hc : p c = false) (t : Text) : countWhile p (w ++ c :: t) = w.length := by
  induction w with
  | nil => exact countWhile_cons_neg hc t
  | cons d rest ih =>
    have hd : p d = true := hw d List.mem_cons_self
    have hrest := ih (fun x hx => hw x (List.mem_cons_of_mem d hx))
    simp only [countWhile] at hrest
    simp [countWhile, hd, hrest]

theorem numberLength_eq_zero {c : CodePoint} (hdigit : c.isDigit = false) (hpoint : c ≠ .scalar '.')
    (t : Text) : numberLength (c :: t) = 0 := by
  have hhex : hexLength (c :: t) = 0 := by
    unfold hexLength
    split
    · next heq =>
      injection heq with hc
      rw [hc] at hdigit
      exact absurd hdigit (by decide)
    · rfl
  have hfraction : fractionLength (c :: t) = 0 := by
    unfold fractionLength
    split
    · next heq =>
      injection heq with hc
      exact absurd hc hpoint
    · rfl
  simp [numberLength, hhex, decimalLength, countWhile_cons_neg hdigit, hfraction]

/-- Letters that make an identifier. -/
structure IsIdentifier (w : Text) : Prop where
  starts : w.head?.any startsIdentifier = true
  continues : ∀ c ∈ w, continuesIdentifier c = true

theorem lexeme?_identifier {w : Text} (hw : IsIdentifier w) {c : CodePoint}
    (hc : continuesIdentifier c = false) (t : Text) :
    lexeme? (w ++ c :: t) = some (some .identifier, w.length) := by
  cases w with
  | nil => exact absurd hw.starts (by simp)
  | cons d rest =>
    have hd : startsIdentifier d = true := by simpa using hw.starts
    have hnumber : numberLength (d :: (rest ++ c :: t)) = 0 :=
      numberLength_eq_zero (isDigit_of_startsIdentifier hd)
        (ne_of_startsIdentifier hd (by decide)) _
    have hquotes : ¬ (d = .scalar '"' ∨ d = .scalar '\x27') := by
      rintro (h | h)
      · exact ne_of_startsIdentifier hd (by decide) h
      · exact ne_of_startsIdentifier hd (by decide) h
    have hcount : countWhile continuesIdentifier (rest ++ c :: t) = rest.length :=
      countWhile_append_cons (fun x hx => hw.continues x (List.mem_cons_of_mem d hx)) hc t
    simp [lexeme?, hnumber, hquotes, isMark_of_startsIdentifier hd, hd, hcount]

theorem lexeme?_mark {c : CodePoint} (hmark : isMark c = true) (hdigit : c.isDigit = false)
    (t : Text) : lexeme? (c :: t) = some (some .mark, 1) := by
  have hne : ∀ d, isMark d = false → c ≠ d := by
    rintro d hd rfl
    rw [hmark] at hd
    cases hd
  have hnumber : numberLength (c :: t) = 0 := numberLength_eq_zero hdigit (hne _ (by decide)) t
  have hquotes : ¬ (c = .scalar '"' ∨ c = .scalar '\x27') := by
    rintro (h | h)
    · exact hne _ (by decide) h
    · exact hne _ (by decide) h
  simp [lexeme?, hnumber, hquotes, hmark]

theorem lexeme?_space {c : CodePoint} (hc : c.isBlank = false) (t : Text) :
    lexeme? (.scalar ' ' :: c :: t) = some (none, 1) := by
  have hnumber : numberLength (.scalar ' ' :: c :: t) = 0 :=
    numberLength_eq_zero (by decide) (by decide) _
  have hmark : isMark (.scalar ' ') = false := by decide
  have hstart : startsIdentifier (.scalar ' ') = false := by decide
  have hblank : (CodePoint.scalar ' ').isBlank = true := by decide
  simp [lexeme?, hnumber, hmark, hstart, hblank, countWhile_cons_neg hc]

/-! ### Tokens -/

/-- Code points of a token cut already only move the position. -/
theorem scanFrom_skip (position : Nat) {skip : Nat} {t : Text} (h : skip ≤ t.length) :
    scanFrom position skip t = scanFrom (position + skip) 0 (t.drop skip) := by
  induction t generalizing position skip with
  | nil =>
    obtain rfl := Nat.le_zero.1 h
    rfl
  | cons c rest ih =>
    cases skip with
    | zero => rfl
    | succ skip =>
      rw [scanFrom, ih (position + 1) (Nat.le_of_succ_le_succ h), List.drop_succ_cons,
        show position + 1 + skip = position + (skip + 1) by omega]

theorem scanFrom_token (position : Nat) {w t : Text} {kind : TokenKind} (hw : w ≠ [])
    (h : lexeme? (w ++ t) = some (some kind, w.length)) :
    scanFrom position 0 (w ++ t) =
      (scanFrom (position + w.length) 0 t).map (⟨kind, w, position⟩ :: ·) := by
  cases w with
  | nil => exact absurd rfl hw
  | cons c rest =>
    rw [List.cons_append] at h ⊢
    rw [scanFrom, h]
    simp only [List.length_cons, Nat.add_sub_cancel]
    rw [scanFrom_skip (position + 1) (by simp), List.drop_left,
      show position + 1 + rest.length = position + (rest.length + 1) by omega,
      List.take_succ_cons, List.take_left]
    rfl

theorem scanFrom_identifier (position : Nat) {w : Text} (hw : IsIdentifier w) {c : CodePoint}
    (hc : continuesIdentifier c = false) (t : Text) :
    scanFrom position 0 (w ++ c :: t) =
      (scanFrom (position + w.length) 0 (c :: t)).map (⟨.identifier, w, position⟩ :: ·) := by
  have hne : w ≠ [] := by
    rintro rfl
    exact absurd hw.starts (by simp)
  exact scanFrom_token position hne (lexeme?_identifier hw hc t)

theorem scanFrom_mark (position : Nat) {c : CodePoint} (hmark : isMark c = true)
    (hdigit : c.isDigit = false) (t : Text) :
    scanFrom position 0 (c :: t) =
      (scanFrom (position + 1) 0 t).map (⟨.mark, [c], position⟩ :: ·) :=
  scanFrom_token position (w := [c]) (by simp) (lexeme?_mark hmark hdigit t)

theorem scanFrom_space (position : Nat) {c : CodePoint} (hc : c.isBlank = false) (t : Text) :
    scanFrom position 0 (.scalar ' ' :: c :: t) = scanFrom (position + 1) 0 (c :: t) := by
  rw [scanFrom, lexeme?_space hc]

theorem lexeme?_lineFeed (t : Text) : lexeme? (.scalar '\n' :: t) ≠ none := by
  have hnumber : numberLength (.scalar '\n' :: t) = 0 := by
    have hdigits : countWhile CodePoint.isDigit (.scalar '\n' :: t) = 0 := by
      rw [countWhile, List.takeWhile_cons_of_neg (by decide)]
      rfl
    simp [numberLength, hexLength, decimalLength, hdigits, fractionLength]
  rw [lexeme?, hnumber]
  simp only [ne_eq, not_true_eq_false, ↓reduceIte]
  rw [if_neg (by decide), if_neg (by decide), if_neg (by decide), if_pos (by decide)]
  simp

/-- **Cutting never stalls**: a line feed is white space, so it is never where nothing starts. -/
theorem strayFault_of_lexeme? {c : CodePoint} {t : Text} (h : lexeme? (c :: t) = none)
    (position : Nat) : strayFault c position = .unexpectedCharacter c position := by
  refine if_neg ?_
  rintro rfl
  exact lexeme?_lineFeed t h

/-- Cutting a text fails only at a code point where nothing starts. -/
theorem scanFrom_eq_error {position skip : Nat} {t : Text} {f : Failure}
    (h : scanFrom position skip t = .error f) :
    ∃ c p, f = .literal (.unexpectedCharacter c p) := by
  induction t generalizing position skip with
  | nil => cases skip <;> cases h
  | cons c rest ih =>
    cases skip with
    | succ skip => exact ih h
    | zero =>
      rw [scanFrom] at h
      split at h
      · next hlexeme =>
        cases h
        exact ⟨c, position, by rw [strayFault_of_lexeme? hlexeme]⟩
      · exact ih h
      · rcases Outcome.bind_eq_error.1 h with h | ⟨ts, -, h⟩
        · exact ih h
        · cases h

end Literal

end TemplatedNotes
