/-
  TemplatedNotes/Proofs/Literal/Spelling.lean
  ===========================================
  **A quoted literal is decoded to the characters that it spells.**

  A character can be spelled in six ways: as itself, by the letter that stands for it or by itself
  after a backslash, by two hexadecimal digits after `\x`, by some in braces after `\u`, and by its
  UTF-16 units with four digits each after `\u`.  `Spelled` is a character with a spelling that fits
  it.

  Decoding goes on behind each spelling as if it had not been there (`Decodes`), so what a literal
  stands for is put together from its spellings one by one (`decodes_spelled`), whatever stands next
  to what.  None of them ends the literal, which is therefore one token (`isQuotable_spelled`).

    * `decodeQuoted_spelled` — the decoded text has the UTF-16 units of what was spelled, and it is
      what was spelled exactly if no character was spelled by two units, which stay apart.
-/
import TemplatedNotes.Proofs.Literal.Quoted
import TemplatedNotes.Proofs.Literal.Refusal
import TemplatedNotes.Proofs.Literal.Tiling
import TemplatedNotes.Proofs.Text.Utf8

namespace TemplatedNotes

/-- The UTF-16 units of a code point; a surrogate is a unit by itself. -/
def CodePoint.units (c : CodePoint) : List Nat :=
  if c.value < 0x10000 then [c.value]
  else [0xD800 + (c.value - 0x10000) / 0x400, 0xDC00 + (c.value - 0x10000) % 0x400]

/-- The UTF-16 units of a text. -/
def Text.utf16 (t : Text) : List Nat := t.flatMap CodePoint.units

theorem CodePoint.value_ofNat {n : Nat} (h : n < 0x110000) : (ofNat n).value = n := by
  by_cases hvalid : n.isValidChar
  · rw [ofNat, ofNat?, dif_pos hvalid, Option.getD_some]
    rfl
  · have hsurrogate : 0xD800 ≤ n ∧ n < 0xE000 := by
      rw [Nat.isValidChar] at hvalid
      omega
    rw [ofNat, ofNat?, dif_neg hvalid, dif_pos hsurrogate, Option.getD_some, value]
    exact Nat.add_sub_cancel' hsurrogate.1

theorem CodePoint.lt_of_mem_units {c : CodePoint} (h : c.value < 0x110000) {n : Nat}
    (hn : n ∈ c.units) : n < 0x10000 := by
  unfold CodePoint.units at hn
  split at hn
  · next hbasic =>
    rw [List.mem_singleton.1 hn]
    exact hbasic
  · have hpair := List.mem_pair.1 hn
    omega

namespace Literal

/-- The letters that a character has after a backslash. -/
def letterEscapes : List (Char × Char) :=
  [('n', '\n'), ('t', '\t'), ('r', '\r'), ('b', '\x08'), ('f', '\x0c'), ('v', '\x0b'),
    ('0', '\x00')]

/-- The characters that mean something else after a backslash. -/
def letters : List Char := ['n', 't', 'r', 'b', 'f', 'v', '0', 'u', 'x']

/-- Hexadecimal digits of a number. -/
def AreHex (digits : Text) (n : Nat) : Prop :=
  (∀ d ∈ digits, d.isHexDigit = true) ∧ hexValue digits = n

instance (digits : Text) (n : Nat) : Decidable (AreHex digits n) :=
  inferInstanceAs (Decidable (_ ∧ _))

/-- The ways to spell a character between quotes. -/
inductive Spelling where
  | raw
  | letter (l : Char)
  | itself
  | byte (digits : Text)
  | braced (digits : Text)
  | units (digits : List Text)

namespace Spelling

/-- The spelling of a character. -/
def text (c : Char) : Spelling → Text
  | raw => [.scalar c]
  | letter l => [.scalar '\\', .scalar l]
  | itself => [.scalar '\\', .scalar c]
  | byte digits => .scalar '\\' :: .scalar 'x' :: digits
  | braced digits => bracedEscape digits
  | units digits => digits.flatMap (fun unit => .scalar '\\' :: .scalar 'u' :: unit)

/-- A spelling is one of a character, inside a quote. -/
def Fits (quote : CodePoint) (c : Char) : Spelling → Prop
  | raw => c ≠ '\n' ∧ c ≠ '\\' ∧ .scalar c ≠ quote
  | letter l => (l, c) ∈ letterEscapes
  | itself => c ≠ '\n' ∧ c ∉ letters
  | byte digits => digits.length = 2 ∧ AreHex digits c.toNat
  | braced digits => digits ≠ [] ∧ AreHex digits c.toNat
  | units digits =>
    List.Forall₂ (fun unit n => unit.length = 4 ∧ AreHex unit n) digits (CodePoint.scalar c).units

instance decidableFits (quote : CodePoint) (c : Char) : (s : Spelling) → Decidable (s.Fits quote c)
  | raw => inferInstanceAs (Decidable (_ ∧ _ ∧ _))
  | letter l => inferInstanceAs (Decidable ((l, c) ∈ letterEscapes))
  | itself => inferInstanceAs (Decidable (_ ∧ _))
  | byte digits => inferInstanceAs (Decidable (_ ∧ AreHex digits c.toNat))
  | braced digits => inferInstanceAs (Decidable (_ ∧ AreHex digits c.toNat))
  | units digits => inferInstanceAs (Decidable (List.Forall₂ _ digits _))

/-- What a spelling is decoded to: by units, each of them becomes a code point. -/
def decoded (c : Char) : Spelling → Text
  | units _ => (CodePoint.scalar c).units.map CodePoint.ofNat
  | _ => [.scalar c]

end Spelling

/-- A character with a spelling of it inside a quote. -/
structure Spelled (quote : CodePoint) where
  char : Char
  spelling : Spelling
  fits : spelling.Fits quote char

namespace Spelled

variable {quote : CodePoint}

/-- How it is written. -/
def text (s : Spelled quote) : Text := s.spelling.text s.char

/-- What it is decoded to. -/
def decoded (s : Spelled quote) : Text := s.spelling.decoded s.char

/-- A character beyond U+FFFF is written by its two surrogates. -/
def IsPair (s : Spelled quote) : Prop := 0x10000 ≤ s.char.toNat ∧ ∃ ds, s.spelling = .units ds

end Spelled

/-- The characters that are spelled. -/
def spelledText {quote : CodePoint} (ss : List (Spelled quote)) : Text :=
  ss.map (fun s => .scalar s.char)

/-- The literal of some spelled characters. -/
def spelledLiteral {quote : CodePoint} (ss : List (Spelled quote)) : Text :=
  quote :: (ss.flatMap Spelled.text ++ [quote])

/-! ### What an escape stands for -/

/-- Decoding goes on behind a text, and what comes of the text stands in front. -/
def Decodes (w t : Text) : Prop :=
  ∀ rest, unescapeFrom 0 (w ++ rest) = (unescapeFrom 0 rest).map (t ++ ·)

theorem Decodes.append {w w' t t' : Text} (h : Decodes w t) (h' : Decodes w' t') :
    Decodes (w ++ w') (t ++ t') := by
  intro rest
  rw [List.append_assoc, h, h']
  cases unescapeFrom 0 rest with
  | error f => rfl
  | ok after => simp [Except.map]

theorem decodes_nil : Decodes [] [] := by
  intro rest
  rw [List.nil_append]
  cases unescapeFrom 0 rest <;> rfl

theorem decodes_flatMap {α : Type} {written meant : α → Text} (as : List α)
    (h : ∀ a ∈ as, Decodes (written a) (meant a)) :
    Decodes (as.flatMap written) (as.flatMap meant) := by
  induction as with
  | nil => exact decodes_nil
  | cons a more ih =>
    obtain ⟨ha, hmore⟩ := List.forall_mem_cons.1 h
    rw [List.flatMap_cons, List.flatMap_cons]
    exact ha.append (ih hmore)

theorem decodes_raw {c : CodePoint} (hc : c ≠ .scalar '\\') : Decodes [c] [c] := by
  intro rest
  rw [List.singleton_append, unescapeFrom, if_neg hc]
  rfl

theorem unescapeFrom_length (w rest : Text) :
    unescapeFrom w.length (w ++ rest) = unescapeFrom 0 rest := by
  induction w with
  | nil => rfl
  | cons c more ih => exact ih

/-- What stands behind a backslash is an escape by itself. -/
theorem decodes_escape {w t : Text} (h : ∀ rest, escape (w ++ rest) = .ok (t, w.length)) :
    Decodes (.scalar '\\' :: w) t := by
  intro rest
  rw [List.cons_append, unescapeFrom, if_pos rfl, h]
  show unescapeFrom w.length (w ++ rest) >>= _ = _
  rw [unescapeFrom_length]
  cases unescapeFrom 0 rest <;> rfl

/-! ### Numbers -/

theorem codePointText_of_lt {n : Nat} (h : n < 0x110000) :
    codePointText n = .ok [CodePoint.ofNat n] := by
  have hnone : CodePoint.ofNat? n ≠ none := by
    rw [Ne, CodePoint.ofNat?_eq_none_iff]
    omega
  obtain ⟨c, hc⟩ := Option.ne_none_iff_exists'.1 hnone
  simp [codePointText, CodePoint.ofNat, hc]

theorem toNat_lt (c : Char) : c.toNat < 0x110000 := by
  have hvalid : c.toNat < 0xd800 ∨ 0xdfff < c.toNat ∧ c.toNat < 0x110000 := c.valid
  omega

theorem codePointText_toNat (c : Char) : codePointText c.toNat = .ok [.scalar c] := by
  have hvalue : CodePoint.ofNat c.toNat = .scalar c := CodePoint.ofNat_value (.scalar c)
  rw [codePointText_of_lt (toNat_lt c), hvalue]

/-- Digits without braces are taken by their count. -/
theorem numberEscape?_of_ne_brace (braces : Bool) (width : Nat) {d : CodePoint}
    (hd : d ≠ .scalar '\x7b') (rest : Text) :
    numberEscape? braces width (d :: rest) =
      let digits := (d :: rest).take width
      if digits.length = width ∧ digits.all CodePoint.isHexDigit then some (digits, width + 1)
      else none := by
  unfold numberEscape?
  split
  · next more heq => exact absurd (List.cons.inj heq).1 hd
  · rfl

/-- A number has as many digits as its letter asks for. -/
theorem numberEscape?_digits (braces : Bool) {width : Nat} (hwidth : width ≠ 0) {digits : Text}
    (hlength : digits.length = width) (h : ∀ d ∈ digits, d.isHexDigit = true) (rest : Text) :
    numberEscape? braces width (digits ++ rest) = some (digits, width + 1) := by
  have htake : (digits ++ rest).take width = digits := by rw [← hlength, List.take_left]
  cases digits with
  | nil => exact absurd hlength.symm hwidth
  | cons d more =>
    have hbrace : d ≠ .scalar '\x7b' := by
      rintro rfl
      exact absurd (h _ List.mem_cons_self) (by decide)
    rw [List.cons_append, numberEscape?_of_ne_brace braces width hbrace, ← List.cons_append, htake]
    exact if_pos ⟨hlength, List.all_eq_true.2 h⟩

/-- A number in braces ends at the closing one. -/
theorem numberEscape?_braced (width : Nat) {digits : Text} (hne : digits ≠ [])
    (h : ∀ d ∈ digits, d.isHexDigit = true) (rest : Text) :
    numberEscape? true width (.scalar '\x7b' :: (digits ++ .scalar '\x7d' :: rest)) =
      some (digits, digits.length + 3) := by
  have htake : (digits ++ .scalar '\x7d' :: rest).takeWhile CodePoint.isHexDigit = digits := by
    rw [List.takeWhile_append_of_pos h, List.takeWhile_cons_of_neg (by decide), List.append_nil]
  have hempty : digits.isEmpty = false := by simpa using hne
  simp [numberEscape?, htake, hempty]

theorem decodes_byte {digits : Text} {c : Char} (hlength : digits.length = 2)
    (h : AreHex digits c.toNat) : Decodes (.scalar '\\' :: .scalar 'x' :: digits) [.scalar c] := by
  apply decodes_escape
  intro rest
  have hnumber := numberEscape?_digits false (by decide) hlength h.1 rest
  have hletter : (CodePoint.scalar 'x') ≠ .scalar 'u' := by decide
  simp only [List.cons_append, escape, hletter, if_false, if_true, hnumber, h.2,
    codePointText_toNat, List.length_cons, hlength]
  rfl

theorem decodes_braced {digits : Text} {c : Char} (hne : digits ≠ [])
    (h : AreHex digits c.toNat) : Decodes (bracedEscape digits) [.scalar c] := by
  have htext : bracedEscape digits =
      .scalar '\\' :: .scalar 'u' :: .scalar '\x7b' :: (digits ++ [.scalar '\x7d']) := rfl
  rw [htext]
  apply decodes_escape
  intro rest
  have hnumber := numberEscape?_braced 4 hne h.1 rest
  simp only [List.cons_append, List.append_assoc, List.nil_append, escape, if_true, hnumber, h.2,
    codePointText_toNat, List.length_cons, List.length_append, List.length_nil]
  rfl

theorem decodes_unit {digits : Text} {n : Nat} (hlength : digits.length = 4)
    (h : AreHex digits n) :
    Decodes (.scalar '\\' :: .scalar 'u' :: digits) [CodePoint.ofNat n] := by
  apply decodes_escape
  intro rest
  have hnumber := numberEscape?_digits true (by decide) hlength h.1 rest
  have hlt : n < 0x110000 := by
    have hbound := hexValue_lt digits
    rw [h.2, hlength] at hbound
    omega
  simp only [List.cons_append, escape, if_true, hnumber, h.2, codePointText_of_lt hlt,
    List.length_cons, hlength]
  rfl

theorem decodes_units {digits : List Text} {ns : List Nat}
    (h : List.Forall₂ (fun unit n => unit.length = 4 ∧ AreHex unit n) digits ns) :
    Decodes (digits.flatMap (fun unit => .scalar '\\' :: .scalar 'u' :: unit))
      (ns.map CodePoint.ofNat) := by
  induction h with
  | nil => exact decodes_nil
  | cons hunit _ ih =>
    rw [List.flatMap_cons, List.map_cons, ← List.singleton_append]
    exact (decodes_unit hunit.1 hunit.2).append ih

/-! ### Letters and other characters -/

theorem decodes_letter {l c : Char} (h : (l, c) ∈ letterEscapes) :
    Decodes [.scalar '\\', .scalar l] [.scalar c] := by
  have htable : ∀ p ∈ letterEscapes, p.1 ≠ 'u' ∧ p.1 ≠ 'x' ∧ p.1 ≠ '\n' ∧
      (controlLetters.find? (fun q => CodePoint.scalar p.1 == .scalar q.1)).map
        (fun q => CodePoint.ofNat q.2) = some (.scalar p.2) := by
    decide
  obtain ⟨hu, hx, hfeed, hfind⟩ := htable _ h
  obtain ⟨q, hq, hc⟩ := Option.map_eq_some_iff.1 hfind
  apply decodes_escape
  intro rest
  simp only [List.singleton_append, escape, CodePoint.scalar.injEq, hu, hx, hfeed, if_false, hq, hc]
  rfl

theorem decodes_itself {c : Char} (hfeed : c ≠ '\n') (h : c ∉ letters) :
    Decodes [.scalar '\\', .scalar c] [.scalar c] := by
  have hne : ∀ l ∈ letters, c ≠ l := fun l hl hc => h (hc ▸ hl)
  have hu := hne 'u' (by decide)
  have hx := hne 'x' (by decide)
  have hfind : controlLetters.find? (fun p => CodePoint.scalar c == .scalar p.1) = none := by
    refine List.find?_eq_none.2 (fun p hp heq => ?_)
    have htable : ∀ p ∈ controlLetters, p.1 ∈ letters := by decide
    exact hne p.1 (htable p hp) (by simpa using heq)
  apply decodes_escape
  intro rest
  simp only [List.singleton_append, escape, CodePoint.scalar.injEq, hu, hx, hfeed, if_false, hfind]
  rfl

/-- **A spelling stands for its character**, or for its units one by one. -/
theorem decodes_spelling {quote : CodePoint} {c : Char} {s : Spelling} (h : s.Fits quote c) :
    Decodes (s.text c) (s.decoded c) := by
  cases s with
  | raw => exact decodes_raw (by simpa using h.2.1)
  | letter l => exact decodes_letter h
  | itself => exact decodes_itself h.1 h.2
  | byte digits => exact decodes_byte h.1 h.2
  | braced digits => exact decodes_braced h.1 h.2
  | units digits => exact decodes_units h

theorem decodes_spelled {quote : CodePoint} (ss : List (Spelled quote)) :
    Decodes (ss.flatMap Spelled.text) (ss.flatMap Spelled.decoded) :=
  decodes_flatMap ss (fun s _ => decodes_spelling s.fits)

/-! ### The literal as a token -/

/-- The quotes of literals. -/
def IsQuote (quote : CodePoint) : Prop := quote = .scalar '"' ∨ quote = .scalar '\x27'

section Quotable

variable {quote : CodePoint}

theorem IsQuotable.append {w w' : Text} (h : IsQuotable quote w) (h' : IsQuotable quote w') :
    IsQuotable quote (w ++ w') := by
  induction h with
  | nil => exact h'
  | escape hc _ ih => exact .escape hc ih
  | plain hquote hback hfeed _ ih => exact .plain hquote hback hfeed ih

theorem isQuotable_flatMap {α : Type} {written : α → Text} (as : List α)
    (h : ∀ a ∈ as, IsQuotable quote (written a)) : IsQuotable quote (as.flatMap written) := by
  induction as with
  | nil => exact .nil
  | cons a more ih =>
    obtain ⟨ha, hmore⟩ := List.forall_mem_cons.1 h
    rw [List.flatMap_cons]
    exact ha.append (ih hmore)

theorem isQuotable_of_isHexDigit (hquote : IsQuote quote) {digits : Text}
    (h : ∀ d ∈ digits, d.isHexDigit = true) : IsQuotable quote digits := by
  induction digits with
  | nil => exact .nil
  | cons d more ih =>
    obtain ⟨hd, hmore⟩ := List.forall_mem_cons.1 h
    have hplain : ∀ c : CodePoint, c.isHexDigit = false → d ≠ c := by
      rintro c hc rfl
      rw [hd] at hc
      cases hc
    refine .plain (hplain quote ?_) (hplain _ (by decide)) (hplain _ (by decide)) (ih hmore)
    rcases hquote with rfl | rfl <;> decide

theorem isQuotable_units (hquote : IsQuote quote) {digits : List Text} {ns : List Nat}
    (h : List.Forall₂ (fun unit n => unit.length = 4 ∧ AreHex unit n) digits ns) :
    IsQuotable quote (digits.flatMap (fun unit => .scalar '\\' :: .scalar 'u' :: unit)) := by
  induction h with
  | nil => exact .nil
  | cons hunit _ ih =>
    rw [List.flatMap_cons]
    exact (IsQuotable.escape (by decide) (isQuotable_of_isHexDigit hquote hunit.2.1)).append ih

/-- **No spelling ends the literal.** -/
theorem isQuotable_spelling (hquote : IsQuote quote) {c : Char} {s : Spelling}
    (h : s.Fits quote c) : IsQuotable quote (s.text c) := by
  cases s with
  | raw => exact .plain h.2.2 (by simpa using h.2.1) (by simpa using h.1) .nil
  | letter l =>
    have htable : ∀ p ∈ letterEscapes, CodePoint.scalar p.1 ≠ .scalar '\n' := by decide
    exact .escape (htable _ h) .nil
  | itself => exact .escape (by simpa using h.1) .nil
  | byte digits => exact .escape (by decide) (isQuotable_of_isHexDigit hquote h.2.1)
  | braced digits =>
    have hbrace : ∀ c : CodePoint, c = .scalar '\x7b' ∨ c = .scalar '\x7d' →
        IsQuotable quote [c] := by
      rintro c (rfl | rfl)
      all_goals
        refine .plain ?_ (by decide) (by decide) .nil
        rcases hquote with rfl | rfl <;> decide
    have hdigits := isQuotable_of_isHexDigit hquote h.2.1
    have hinside := (hbrace _ (.inl rfl)).append (hdigits.append (hbrace _ (.inr rfl)))
    exact .escape (by decide) hinside
  | units digits => exact isQuotable_units hquote h

theorem isQuotable_spelled (hquote : IsQuote quote) (ss : List (Spelled quote)) :
    IsQuotable quote (ss.flatMap Spelled.text) :=
  isQuotable_flatMap ss (fun s _ => isQuotable_spelling hquote s.fits)

/-- **What may stand between quotes is one token**, with its quotes. -/
theorem scan_of_isQuotable (hquote : IsQuote quote) {inner : Text} (h : IsQuotable quote inner) :
    scan (quote :: (inner ++ [quote])) =
      .ok [⟨.quoted, quote :: (inner ++ [quote]), 0⟩, finish (quote :: (inner ++ [quote]))] := by
  have hlexeme := lexeme?_of_isQuotable hquote h []
  rw [scan, ← List.append_nil (quote :: (inner ++ [quote])),
    scanFrom_token 0 (List.cons_ne_nil _ _) hlexeme, scanFrom, List.append_nil, Nat.zero_add]
  rfl

end Quotable

/-! ### What is spelled and what is decoded -/

/-- The code points of the units of a character have these units. -/
theorem utf16_map_units (c : Char) :
    Text.utf16 ((CodePoint.scalar c).units.map CodePoint.ofNat) = (CodePoint.scalar c).units := by
  have hunit : ∀ n < 0x10000, (CodePoint.ofNat n).units = [n] := by
    intro n hn
    rw [CodePoint.units, CodePoint.value_ofNat (by omega), if_pos hn]
  have hunits : ∀ n ∈ (CodePoint.scalar c).units, n < 0x10000 :=
    fun n hn => CodePoint.lt_of_mem_units (c := .scalar c) (toNat_lt c) hn
  generalize (CodePoint.scalar c).units = ns at hunits
  induction ns with
  | nil => rfl
  | cons n more ih =>
    obtain ⟨hn, hmore⟩ := List.forall_mem_cons.1 hunits
    rw [List.map_cons, Text.utf16, List.flatMap_cons, hunit n hn]
    exact congrArg (n :: ·) (ih hmore)

namespace Spelled

variable {quote : CodePoint} (s : Spelled quote)

/-- A character is decoded to itself, or to its two surrogates if it was written by them. -/
theorem decoded_cases :
    ¬ s.IsPair ∧ s.decoded = [.scalar s.char] ∨
      s.IsPair ∧ s.decoded = (CodePoint.scalar s.char).units.map CodePoint.ofNat := by
  obtain ⟨c, spelling, fits⟩ := s
  cases spelling with
  | units digits =>
    by_cases hbasic : (CodePoint.scalar c).value < 0x10000
    · refine Or.inl ⟨fun hpair => absurd hbasic (Nat.not_lt.2 hpair.1), ?_⟩
      show (CodePoint.scalar c).units.map CodePoint.ofNat = _
      rw [CodePoint.units, if_pos hbasic, List.map_singleton, CodePoint.ofNat_value]
    · exact Or.inr ⟨⟨Nat.not_lt.1 hbasic, digits, rfl⟩, rfl⟩
  | _ =>
    refine Or.inl ⟨?_, rfl⟩
    rintro ⟨-, digits, hunits⟩
    cases hunits

theorem utf16_decoded : Text.utf16 s.decoded = (CodePoint.scalar s.char).units := by
  rcases s.decoded_cases with ⟨-, h⟩ | ⟨-, h⟩
  · rw [h]
    exact List.append_nil _
  · rw [h]
    exact utf16_map_units s.char

variable {s}

theorem decoded_of_not_isPair (hpair : ¬ s.IsPair) : s.decoded = [.scalar s.char] := by
  rcases s.decoded_cases with ⟨-, h⟩ | ⟨hs, -⟩
  · exact h
  · exact absurd hs hpair

theorem length_decoded_of_isPair (hpair : s.IsPair) : s.decoded.length = 2 := by
  rcases s.decoded_cases with ⟨hs, -⟩ | ⟨-, h⟩
  · exact absurd hpair hs
  · have hhigh : ¬ (CodePoint.scalar s.char).value < 0x10000 := Nat.not_lt.2 hpair.1
    rw [h, CodePoint.units, if_neg hhigh]
    rfl

end Spelled

theorem utf16_decoded {quote : CodePoint} (ss : List (Spelled quote)) :
    Text.utf16 (ss.flatMap Spelled.decoded) = Text.utf16 (spelledText ss) := by
  induction ss with
  | nil => rfl
  | cons s more ih =>
    have hsplit : Text.utf16 (s.decoded ++ more.flatMap Spelled.decoded) =
        Text.utf16 s.decoded ++ Text.utf16 (more.flatMap Spelled.decoded) := List.flatMap_append
    rw [List.flatMap_cons, hsplit, ih, s.utf16_decoded]
    rfl

theorem length_le_length_decoded {quote : CodePoint} (ss : List (Spelled quote)) :
    ss.length ≤ (ss.flatMap Spelled.decoded).length := by
  induction ss with
  | nil => exact Nat.le_refl 0
  | cons s more ih =>
    have hpos : 1 ≤ s.decoded.length := by
      by_cases h : s.IsPair
      · rw [Spelled.length_decoded_of_isPair h]
        decide
      · rw [Spelled.decoded_of_not_isPair h]
        exact Nat.le_refl 1
    rw [List.flatMap_cons, List.length_append, List.length_cons]
    omega

/-- The decoded text is what was spelled if it has no pairs, and too long if it has. -/
theorem decoded_eq_iff {quote : CodePoint} (ss : List (Spelled quote)) :
    ss.flatMap Spelled.decoded = spelledText ss ↔ ∀ s ∈ ss, ¬ s.IsPair := by
  induction ss with
  | nil => simp [spelledText]
  | cons s more ih =>
    rw [List.forall_mem_cons, List.flatMap_cons]
    by_cases h : s.IsPair
    · refine iff_of_false (fun heq => ?_) (fun hnone => hnone.1 h)
      have hlength := congrArg List.length heq
      have hmore := length_le_length_decoded more
      rw [List.length_append, Spelled.length_decoded_of_isPair h, spelledText, List.length_map,
        List.length_cons] at hlength
      omega
    · rw [Spelled.decoded_of_not_isPair h, ← ih]
      simp [h, spelledText]

/-- **A quoted literal and what it spells.**  However each character of a text is spelled, the
    literal is one token, alone and in front of anything else, and it is decoded to a text with the
    UTF-16 units of the spelled one.  That text is the spelled one exactly if no character beyond
    U+FFFF was written by its two surrogates, which are not joined. -/
theorem decodeQuoted_spelled {quote : CodePoint} (hquote : IsQuote quote)
    (ss : List (Spelled quote)) :
    scan (spelledLiteral ss) =
        .ok [⟨.quoted, spelledLiteral ss, 0⟩, finish (spelledLiteral ss)] ∧
      (∀ position rest, scanFrom position 0 (spelledLiteral ss ++ rest) =
        (scanFrom (position + (spelledLiteral ss).length) 0 rest).map
          (⟨.quoted, spelledLiteral ss, position⟩ :: ·)) ∧
      ∃ t, decodeQuoted (spelledLiteral ss) = .ok t ∧ t = ss.flatMap Spelled.decoded ∧
        Text.utf16 t = Text.utf16 (spelledText ss) ∧
        (t = spelledText ss ↔ ∀ s ∈ ss, ¬ s.IsPair) := by
  have hquotable := isQuotable_spelled hquote ss
  have hinside : ((spelledLiteral ss).drop 1).dropLast = ss.flatMap Spelled.text := by
    simp [spelledLiteral]
  have hdecodes := decodes_spelled ss []
  rw [List.append_nil] at hdecodes
  refine ⟨scan_of_isQuotable hquote hquotable, fun position rest => ?_,
    ss.flatMap Spelled.decoded, ?_, rfl, utf16_decoded ss, decoded_eq_iff ss⟩
  · exact scanFrom_token position (List.cons_ne_nil _ _) (lexeme?_of_isQuotable hquote hquotable rest)
  · rw [decodeQuoted, hinside, hdecodes]
    simp [unescapeFrom, Except.map]

/-- Spellings of all kinds side by side: a smile by its units, after a backslash and in braces,
    a quote after a backslash, a line feed by its letter and by two digits, and a zero in front of a
    digit. -/
def mixedSpelling : List (Spelled quote) :=
  [⟨'a', .raw, by decide⟩, ⟨'\x27', .itself, by decide⟩, ⟨'\n', .letter 'n', by decide⟩,
    ⟨'\n', .byte (Text.of "0a"), by decide⟩, ⟨'\x00', .letter '0', by decide⟩,
    ⟨'1', .raw, by decide⟩, ⟨'😀', .itself, by decide⟩,
    ⟨'😀', .braced (Text.of "01F600"), by decide⟩,
    ⟨'A', .units [Text.of "0041"], by decide⟩]

theorem decodeQuoted_spelled_mixed : IsQuote quote ∧
    scan (Text.of "'a\\'\\n\\x0a\\01\\😀\\u\x7b01F600\x7d\\u0041'") =
      .ok [⟨.quoted, Text.of "'a\\'\\n\\x0a\\01\\😀\\u\x7b01F600\x7d\\u0041'", 0⟩,
        ⟨.finish, [], 32⟩] ∧
    decodeQuoted (Text.of "'a\\'\\n\\x0a\\01\\😀\\u\x7b01F600\x7d\\u0041'") =
      .ok (Text.of "a'\n\n\x001😀😀A") := by
  have hquote : IsQuote quote := Or.inr rfl
  obtain ⟨hscan, -, t, hdecode, rfl, -, -⟩ := decodeQuoted_spelled hquote mixedSpelling
  exact ⟨hquote, hscan, hdecode⟩

/-- **Two surrogates stay apart**: a smile that is written by its two units is not decoded to a
    smile, but to a text that no file can hold. -/
theorem decodeQuoted_pair :
    ∃ ss : List (Spelled quote), spelledText ss = Text.of "😀" ∧
      spelledLiteral ss = Text.of "'\\ud83d\\ude00'" ∧
      decodeQuoted (Text.of "'\\ud83d\\ude00'") = .ok [.surrogate 0x3d, .surrogate 0x600] ∧
      decodeQuoted (Text.of "'\\ud83d\\ude00'") ≠ .ok (Text.of "😀") ∧
      Utf8.encode? [.surrogate 0x3d, .surrogate 0x600] = none := by
  have hdecode : decodeQuoted (Text.of "'\\ud83d\\ude00'") =
      .ok [.surrogate 0x3d, .surrogate 0x600] := rfl
  refine ⟨[⟨'😀', .units [Text.of "d83d", Text.of "de00"], by decide⟩], rfl, rfl, hdecode, ?_, rfl⟩
  rw [hdecode]
  exact fun hsmile => absurd (Except.ok.inj hsmile) (by decide)

end Literal

end TemplatedNotes
