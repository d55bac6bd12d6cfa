/-
  TemplatedNotes/Proofs/Literal/Numeral.lean
  ==========================================
  **Every number token is read as the number it denotes.**

  A number token is cut by a grammar of its spelling and read by its marks alone: `0x` for base
  sixteen, a point or the letter of an exponent for a fraction, base ten otherwise.  The marks do
  not mislead: the `e` of `0xfe` is no exponent, the zeros of `007` are no mark of a base, and the
  digits of every script count.  Whole numbers are exact (`IsNumeral`), of any size in base sixteen
  and up to the greatest number of digits in base ten; what has more digits is refused, and nothing
  else is.
-/
import Mathlib.Data.Nat.Digits.Defs
import TemplatedNotes.Proofs.Literal.Cursor

namespace TemplatedNotes

/-! ### Numerals -/

/-- The digits of a text, the first one worth most, denote a number in a base. -/
def IsNumeral (base : Nat) (valueOf? : CodePoint → Option Nat) (w : Text) (n : Nat) : Prop :=
  ∃ ds, List.Forall₂ (fun c d => valueOf? c = some d ∧ d < base) w ds ∧
    n = Nat.ofDigits base ds.reverse

theorem Integer.ofDigits_eq (base : Nat) (ds : List Nat) :
    Integer.ofDigits base ds = Nat.ofDigits base ds.reverse := by
  rw [Nat.ofDigits_eq_foldr, List.foldr_reverse, Integer.ofDigits]
  congr
  funext n d
  rw [Nat.mul_comm, Nat.add_comm]
  rfl

namespace Literal

variable {base : Nat} {valueOf? : CodePoint → Option Nat} {w digits : Text}

/-- Digits are read as the number that they denote where both give each digit the same value. -/
theorem isNumeral_ofDigits
    (h : ∀ c ∈ w, ∃ d < base, valueOf? c = some d ∧ Integer.digitIn base c = some d) :
    IsNumeral base valueOf? w (Integer.ofDigits base (w.filterMap (Integer.digitIn base))) := by
  refine ⟨_, ?_, Integer.ofDigits_eq base _⟩
  induction w with
  | nil => exact .nil
  | cons c rest ih =>
    obtain ⟨⟨d, hlt, hvalue, hdigit⟩, hrest⟩ := List.forall_mem_cons.1 h
    rw [List.filterMap_cons_some hdigit]
    exact .cons ⟨hvalue, hlt⟩ (ih hrest)

/-- No letter of base sixteen is a decimal digit, and the decimal digits among the others have the
    same value in both bases. -/
theorem exists_of_isHexDigit {c : CodePoint} (h : c.isHexDigit = true) :
    ∃ d < 16, c.hexValue? = some d ∧ Integer.digitIn 16 c = some d := by
  obtain ⟨d, hd⟩ := Option.isSome_iff_exists.1 h
  have hlow : c.value < 128 := by
    unfold CodePoint.hexValue? at hd
    split at hd
    · omega
    · split at hd
      · omega
      · split at hd
        · omega
        · cases hd
  have hall : ∀ n < 128, (CodePoint.ofNat n).isHexDigit = true →
      Integer.digitIn 16 (CodePoint.ofNat n) = (CodePoint.ofNat n).hexValue? := by
    decide +kernel
  have hdigit := hall c.value hlow
  rw [CodePoint.ofNat_value] at hdigit
  exact ⟨d, CodePoint.hexValue?_lt hd, hd, (hdigit h).trans hd⟩

theorem exists_of_isDigit {c : CodePoint} (h : c.isDigit = true) :
    ∃ d < 10, c.digitValue? = some d ∧ Integer.digitIn 10 c = some d := by
  obtain ⟨d, hlt, hvalue⟩ := CodePoint.digitValue?_of_isDigit h
  exact ⟨d, hlt, hvalue, by simp [Integer.digitIn, hvalue, hlt]⟩

/-! ### The words of whole numbers -/

/-- A whole number in base sixteen with its digits. -/
def IsHexadecimal (w digits : Text) : Prop :=
  ∃ x, (x = 'x' ∨ x = 'X') ∧ w = .scalar '0' :: .scalar x :: digits ∧ digits ≠ [] ∧
    ∀ c ∈ digits, c.isHexDigit = true

/-- A whole number in base ten. -/
def IsDecimal (w : Text) : Prop := w ≠ [] ∧ ∀ c ∈ w, c.isDigit = true

theorem exists_of_isHexadecimal (h : IsHexadecimal w digits) :
    ∃ n : Nat, IsNumeral 16 CodePoint.hexValue? digits n ∧ decodeNumber w = .ok (.int n) := by
  obtain ⟨x, hx, rfl, hne, hdigits⟩ := h
  refine ⟨_, isNumeral_ofDigits ?_, decodeNumber_hexadecimal hx hne hdigits⟩
  exact fun c hc => exists_of_isHexDigit (hdigits c hc)

theorem exists_of_isDecimal (h : IsDecimal w) :
    ∃ n : Nat, IsNumeral 10 CodePoint.digitValue? w n ∧
      decodeNumber w =
        if w.length ≤ Integer.maxDigits then .ok (.int n)
        else .error (.integer (.tooManyDigits w.length)) := by
  obtain ⟨hne, hdigits⟩ := h
  refine ⟨_, isNumeral_ofDigits (fun c hc => exists_of_isDigit (hdigits c hc)), ?_⟩
  have hread := decodeNumber_whole hne hdigits
  by_cases hlong : w.length > Integer.maxDigits
  · rw [hread, if_pos hlong, if_neg (Nat.not_le.2 hlong)]
  · rw [hread, if_neg hlong, if_pos (Nat.not_lt.1 hlong)]
    rfl

/-- A word that is no whole number is read as a fraction. -/
theorem exists_of_other (h : IsNumber w) (hhex : ∀ digits, ¬ IsHexadecimal w digits)
    (hdecimal : ¬ IsDecimal w) : ∃ x, decodeNumber w = .ok (.float x) := by
  cases h with
  | @hexadecimal x digits hx hne hdigits => exact absurd ⟨x, hx, rfl, hne, hdigits⟩ (hhex digits)
  | @decimal whole fraction exponent hwhole hfraction hexponent hsome =>
    refine decodeNumber_fraction hwhole hfraction hexponent hsome (fun hnil => hdecimal ?_)
    obtain ⟨rfl, rfl⟩ := List.append_eq_nil_iff.1 hnil
    have hne : whole ≠ [] := by simpa using hsome
    simpa [IsDecimal] using ⟨hne, hwhole⟩

/-- A word of a number is refused only for the number of its decimal digits. -/
theorem exists_ok_iff (h : IsNumber w) :
    (∃ n, decodeNumber w = .ok n) ↔ ¬ (IsDecimal w ∧ Integer.maxDigits < w.length) := by
  constructor
  · rintro ⟨n, hn⟩ ⟨hdecimal, hlong⟩
    obtain ⟨m, -, hread⟩ := exists_of_isDecimal hdecimal
    rw [if_neg (Nat.not_le.2 hlong), hn] at hread
    cases hread
  · intro hshort
    rcases decodeNumber_cases h with ⟨n, hn⟩ | ⟨x, hx⟩ | ⟨hlong, hdigits, -⟩
    · exact ⟨_, hn⟩
    · exact ⟨_, hx⟩
    · exact absurd ⟨⟨h.ne_nil, hdigits⟩, hlong⟩ hshort

/-! ### Number tokens -/

/-- **The reader of numbers agrees with the cut of a text into tokens.**  A number token in base
    sixteen gives exactly the number that its digits denote, whatever its size, a token of decimal
    digits the number that they denote unless there are more than 4300 of them, and every other
    number token a fraction; so a number token has a value unless it is a whole number in base ten
    that is too long. -/
theorem number_spec {source : Text} {tokens : List Token} (h : scan source = .ok tokens)
    {k : Token} (hk : k ∈ tokens) (hkind : k.kind = .number) :
    (∀ digits, IsHexadecimal k.text digits → ∃ n : Nat,
        IsNumeral 16 CodePoint.hexValue? digits n ∧ decodeNumber k.text = .ok (.int n)) ∧
      (IsDecimal k.text → ∃ n : Nat, IsNumeral 10 CodePoint.digitValue? k.text n ∧
        decodeNumber k.text =
          if k.text.length ≤ 4300 then .ok (.int n)
          else .error (.integer (.tooManyDigits k.text.length))) ∧
      ((∀ digits, ¬ IsHexadecimal k.text digits) → ¬ IsDecimal k.text →
        ∃ x, decodeNumber k.text = .ok (.float x)) ∧
      ((∃ v, decodeNumber k.text = .ok v) ↔ ¬ (IsDecimal k.text ∧ 4300 < k.text.length)) := by
  have hnumber : IsNumber k.text := (areCut_of_scan h).isNumber k hk hkind
  exact ⟨fun digits hhex => exists_of_isHexadecimal hhex, exists_of_isDecimal,
    exists_of_other hnumber, exists_ok_iff hnumber⟩

/-- A letter of base sixteen that could start an exponent, a fraction without digits behind its
    point, and digits of another script. -/
theorem number_spec_mixed :
    ∃ tokens, scan (Text.of "[0xFe1, 1.e3, \u0661\u0662]") = .ok tokens ∧
      (⟨.number, Text.of "0xFe1", 1⟩ ∈ tokens ∧ ∃ n : Nat,
        IsNumeral 16 CodePoint.hexValue? (Text.of "Fe1") n ∧
          decodeNumber (Text.of "0xFe1") = .ok (.int n)) ∧
      (⟨.number, Text.of "1.e3", 8⟩ ∈ tokens ∧
        ∃ x, decodeNumber (Text.of "1.e3") = .ok (.float x)) ∧
      ⟨.number, Text.of "\u0661\u0662", 14⟩ ∈ tokens ∧ ∃ n : Nat,
        IsNumeral 10 CodePoint.digitValue? (Text.of "\u0661\u0662") n ∧
          decodeNumber (Text.of "\u0661\u0662") = .ok (.int n) := by
  obtain ⟨tokens, hscan, hhex, hfraction, hdecimal⟩ : ∃ tokens,
      scan (Text.of "[0xFe1, 1.e3, \u0661\u0662]") = .ok tokens ∧
        ⟨.number, Text.of "0xFe1", 1⟩ ∈ tokens ∧ ⟨.number, Text.of "1.e3", 8⟩ ∈ tokens ∧
        ⟨.number, Text.of "\u0661\u0662", 14⟩ ∈ tokens :=
    ⟨_, rfl, by decide, by decide, by decide⟩
  refine ⟨tokens, hscan, ⟨hhex, ?_⟩, ⟨hfraction, ?_⟩, hdecimal, ?_⟩
  · exact (number_spec hscan hhex rfl).1 _ ⟨'x', Or.inl rfl, rfl, by decide, by decide⟩
  · refine (number_spec hscan hfraction rfl).2.2.1 ?_ ?_
    · rintro digits ⟨x, -, heq, -⟩
      exact absurd (List.cons.inj heq).1 (by decide)
    · rintro ⟨-, hdigits⟩
      exact absurd (hdigits (.scalar '.') (by decide)) (by decide)
  · exact (number_spec hscan hdecimal rfl).2.1 ⟨by decide, by decide⟩

end Literal

end TemplatedNotes
