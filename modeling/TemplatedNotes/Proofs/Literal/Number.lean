/-
  TemplatedNotes/Proofs/Literal/Number.lean
  =========================================
  **The words of numbers have values.**

  The grammar of numbers and the readers of whole numbers and of fractions are three descriptions
  of one syntax.  A word of the grammar in base sixteen is read as a whole number, a decimal word
  with a point or an exponent as a fraction, and a decimal word of digits alone as a whole number
  if it has no more digits than are read; that is the only way in which a word of a number has no
  value (`decodeNumber_cases`).
-/
import TemplatedNotes.Proofs.Literal.Lexeme
import TemplatedNotes.Proofs.Literal.Refusal
import TemplatedNotes.Proofs.Text.Utf8

namespace TemplatedNotes

/-! ### Digits -/

namespace CodePoint

variable {c : CodePoint}

theorem exists_zero_of_isDigit (h : c.isDigit = true) :
    ∃ z ∈ digitZeros, z ≤ c.value ∧ c.value < z + 10 ∧ c.digitValue? = some (c.value - z) := by
  unfold isDigit digitValue? at h
  rw [Option.isSome_map] at h
  obtain ⟨z, hz⟩ := Option.isSome_iff_exists.1 h
  have hrange := List.find?_some hz
  simp only [Bool.and_eq_true, decide_eq_true_eq] at hrange
  refine ⟨z, List.mem_of_find?_eq_some hz, hrange.1, hrange.2, ?_⟩
  rw [digitValue?, hz, Option.map_some]

theorem digitValue?_of_isDigit (h : c.isDigit = true) : ∃ d < 10, c.digitValue? = some d := by
  obtain ⟨z, -, hle, hlt, hvalue⟩ := exists_zero_of_isDigit h
  exact ⟨c.value - z, by omega, hvalue⟩

/-- No digit of any script is white space. -/
theorem isBlank_of_isDigit (h : c.isDigit = true) : c.isBlank = false := by
  have hall : ∀ z ∈ digitZeros, ∀ d < 10, (ofNat (z + d)).isBlank = false := by decide +kernel
  obtain ⟨z, hz, hle, hlt, -⟩ := exists_zero_of_isDigit h
  have hblank := hall z hz (c.value - z) (by omega)
  rwa [Nat.add_sub_cancel' hle, ofNat_value] at hblank

theorem ne_of_isDigit {d : CodePoint} (h : c.isDigit = true) (hd : d.isDigit = false) : c ≠ d := by
  rintro rfl
  rw [h] at hd
  cases hd

end CodePoint

namespace Literal

/-! ### Whole numbers -/

variable {w : Text} {base : Nat}

theorem digitIn_of_isDigit {c : CodePoint} (h : c.isDigit = true) (hbase : 10 ≤ base) :
    (Integer.digitIn base c).isSome = true := by
  obtain ⟨d, hd, hvalue⟩ := CodePoint.digitValue?_of_isDigit h
  have hlt : d < base := by omega
  simp [Integer.digitIn, hvalue, hlt]

theorem digitIn_of_isHexDigit {c : CodePoint} (h : c.isHexDigit = true) :
    (Integer.digitIn 16 c).isSome = true := by
  by_cases hdigit : c.isDigit = true
  · exact digitIn_of_isDigit hdigit (by omega)
  · have hnone : c.digitValue? = none := by
      simpa [CodePoint.isDigit] using hdigit
    unfold CodePoint.isHexDigit at h
    obtain ⟨d, hd⟩ := Option.isSome_iff_exists.1 h
    have hlt : d < 16 := CodePoint.hexValue?_lt hd
    simp [Integer.digitIn, hnone, hd, Option.filter, hlt]

/-- Digits of a base and nothing else. -/
def AreDigits (base : Nat) (w : Text) : Prop :=
  ∀ c ∈ w, c ≠ .scalar '_' ∧ (Integer.digitIn base c).isSome = true

theorem AreDigits.spanDigits_eq (h : AreDigits base w) :
    Integer.spanDigits base w = (w.filterMap (Integer.digitIn base), []) := by
  induction w with
  | nil => rfl
  | cons c rest ih =>
    obtain ⟨⟨hne, hsome⟩, hrest⟩ := List.forall_mem_cons.1 h
    obtain ⟨d, hd⟩ := Option.isSome_iff_exists.1 hsome
    simp [Integer.spanDigits, hne, hd, ih hrest]

theorem AreDigits.length_filterMap (h : AreDigits base w) :
    (w.filterMap (Integer.digitIn base)).length = w.length := by
  induction w with
  | nil => rfl
  | cons c rest ih =>
    obtain ⟨⟨-, hsome⟩, hrest⟩ := List.forall_mem_cons.1 h
    obtain ⟨d, hd⟩ := Option.isSome_iff_exists.1 hsome
    simp [hd, ih hrest]

theorem AreDigits.underscoresFit (h : AreDigits base w) {last : Bool}
    (hne : w ≠ [] ∨ last = false) : Integer.underscoresFit base last w = true := by
  induction w generalizing last with
  | nil =>
    have hlast : last = false := hne.resolve_left (fun hnil => hnil rfl)
    simp [Integer.underscoresFit, hlast]
  | cons c rest ih =>
    obtain ⟨⟨hline, hsome⟩, hrest⟩ := List.forall_mem_cons.1 h
    simp [Integer.underscoresFit, hline, hsome, ih hrest (Or.inr rfl)]

theorem areDigits_of_isDigit (h : ∀ c ∈ w, c.isDigit = true) (hbase : 10 ≤ base) :
    AreDigits base w := by
  intro c hc
  exact ⟨CodePoint.ne_of_isDigit (h c hc) (by decide), digitIn_of_isDigit (h c hc) hbase⟩

theorem areDigits_of_isHexDigit (h : ∀ c ∈ w, c.isHexDigit = true) : AreDigits 16 w := by
  intro c hc
  refine ⟨?_, digitIn_of_isHexDigit (h c hc)⟩
  rintro rfl
  exact absurd (h _ hc) (by decide)

theorem dropWhile_isPadding {c : CodePoint} (h : c.isBlank = false) (rest : Text) :
    (c :: rest).dropWhile Integer.isPadding = c :: rest := by
  apply List.dropWhile_cons_of_neg
  simp [Integer.isPadding, h]

theorem splitSign_of_ne {c : CodePoint} (hplus : c ≠ .scalar '+') (hminus : c ≠ .scalar '-')
    (rest : Text) : Integer.splitSign (c :: rest) = (false, c :: rest) := by
  unfold Integer.splitSign
  split
  · next heq => exact absurd (List.cons.inj heq).1 hminus
  · next heq => exact absurd (List.cons.inj heq).1 hplus
  · rfl

/-- The whole number that digits of a base denote. -/
def wholeNumber (base : Nat) (w : Text) : Int :=
  (Integer.ofDigits base (w.filterMap (Integer.digitIn base)) : Nat)

/-- Digits of a base behind nothing but a sign and the mark of the base. -/
theorem read_digits {t body : Text} {negative : Bool}
    (hbody : Integer.splitSign (t.dropWhile Integer.isPadding) = (negative, body))
    (hmark : Integer.dropMark base body = w) (hne : w ≠ []) (hw : AreDigits base w) :
    Integer.read base t =
      if base = 10 ∧ w.length > Integer.maxDigits then .error (.tooManyDigits w.length)
      else .ok (if negative then -wholeNumber base w else wholeNumber base w) := by
  have hfit : Integer.underscoresFit base true w = true := hw.underscoresFit (Or.inl hne)
  unfold Integer.read
  rw [hbody]
  simp only [hmark, hw.spanDigits_eq, hfit, hw.length_filterMap]
  simp [wholeNumber]

/-- **A word in base sixteen** is read, however long it is. -/
theorem decodeNumber_hexadecimal {x : Char} (hx : x = 'x' ∨ x = 'X') (hne : w ≠ [])
    (hw : ∀ c ∈ w, c.isHexDigit = true) :
    decodeNumber (.scalar '0' :: .scalar x :: w) = .ok (.int (wholeNumber 16 w)) := by
  have hdigits := areDigits_of_isHexDigit hw
  have hletter : (Integer.markLetters 16).contains x = true := by
    rcases hx with rfl | rfl <;> decide
  have hmark : Integer.dropMark 16 (.scalar '0' :: .scalar x :: w) = w := by
    cases w with
    | nil => exact absurd rfl hne
    | cons c rest =>
      have hline : c ≠ .scalar '_' := (hdigits c List.mem_cons_self).1
      simp only [Integer.dropMark, hletter, if_true]
      split
      · next heq => exact absurd (List.cons.inj heq).1 hline
      · rfl
  have hbody : Integer.splitSign ((.scalar '0' :: .scalar x :: w : Text).dropWhile
      Integer.isPadding) = (false, .scalar '0' :: .scalar x :: w) := by
    have hblank : (CodePoint.scalar '0').isBlank = false := by decide
    rw [dropWhile_isPadding hblank]
    exact splitSign_of_ne (by decide) (by decide) _
  have hread := read_digits hbody hmark hne hdigits
  rw [if_neg (fun h => absurd h.1 (by decide))] at hread
  have hstart : (.scalar '0' :: .scalar x :: w : Text).take 2 = Text.of "0x" ∨
      (.scalar '0' :: .scalar x :: w : Text).take 2 = Text.of "0X" := by
    rcases hx with rfl | rfl
    · exact Or.inl rfl
    · exact Or.inr rfl
  rw [decodeNumber, if_pos hstart, hread]
  rfl

/-- A text with the mark of base sixteen at its start holds its letter. -/
theorem mem_of_take_two {c : CodePoint} (h : w.take 2 = [.scalar '0', c]) : c ∈ w := by
  have hc : c ∈ w.take 2 := by simp [h]
  exact List.mem_of_mem_take hc

/-- A word without the letters of base sixteen is a fraction or a whole number. -/
theorem decodeNumber_decimal (hx : ∀ c ∈ w, c ≠ .scalar 'x' ∧ c ≠ .scalar 'X') :
    decodeNumber w =
      if w.any (fun c => c == .scalar '.' || c == .scalar 'e' || c == .scalar 'E') then
        match Decimal.read? w with
        | some x => .ok (.float x)
        | none => .error (.fraction w)
      else
        match Integer.read 10 w with
        | .ok n => .ok (.int n)
        | .error f => .error (.integer f) := by
  have hstart : ¬ (w.take 2 = Text.of "0x" ∨ w.take 2 = Text.of "0X") := by
    rintro (h | h)
    · exact (hx _ (mem_of_take_two h)).1 rfl
    · exact (hx _ (mem_of_take_two h)).2 rfl
  exact if_neg hstart

theorem dropMark_ten (w : Text) : Integer.dropMark 10 w = w := by
  unfold Integer.dropMark
  split
  · simp [Integer.markLetters]
  · rfl

theorem splitSign_digits (hne : w ≠ []) (hw : ∀ c ∈ w, c.isDigit = true) :
    Integer.splitSign w = (false, w) := by
  cases w with
  | nil => exact absurd rfl hne
  | cons c rest =>
    have hc : c.isDigit = true := hw c List.mem_cons_self
    exact splitSign_of_ne (CodePoint.ne_of_isDigit hc (by decide))
      (CodePoint.ne_of_isDigit hc (by decide)) rest

theorem read_whole (hne : w ≠ []) (hw : ∀ c ∈ w, c.isDigit = true) :
    Integer.read 10 w =
      if w.length > Integer.maxDigits then .error (.tooManyDigits w.length)
      else .ok (wholeNumber 10 w) := by
  have hbody : Integer.splitSign (w.dropWhile Integer.isPadding) = (false, w) := by
    rw [← splitSign_digits hne hw]
    cases w with
    | nil => rfl
    | cons c rest =>
      rw [dropWhile_isPadding (CodePoint.isBlank_of_isDigit (hw c List.mem_cons_self))]
  simpa using read_digits hbody (dropMark_ten w) hne (areDigits_of_isDigit hw (by omega))

/-- Digits behind a minus sign. -/
theorem read_minus (hne : w ≠ []) (hw : ∀ c ∈ w, c.isDigit = true) :
    Integer.read 10 (.scalar '-' :: w) =
      if w.length > Integer.maxDigits then .error (.tooManyDigits w.length)
      else .ok (-wholeNumber 10 w) := by
  have hbody : Integer.splitSign ((.scalar '-' :: w : Text).dropWhile Integer.isPadding) =
      (true, w) := by
    rw [dropWhile_isPadding (by decide)]
    rfl
  simpa using read_digits hbody (dropMark_ten w) hne (areDigits_of_isDigit hw (by omega))

/-- **A word of decimal digits** is read unless it has too many of them. -/
theorem decodeNumber_whole (hne : w ≠ []) (hw : ∀ c ∈ w, c.isDigit = true) :
    decodeNumber w =
      if w.length > Integer.maxDigits then .error (.integer (.tooManyDigits w.length))
      else .ok (.int (wholeNumber 10 w)) := by
  have hother : ∀ c ∈ w, ∀ d, d.isDigit = false → c ≠ d :=
    fun c hc d hd => CodePoint.ne_of_isDigit (hw c hc) hd
  have hnone :
      ¬ w.any (fun c => c == .scalar '.' || c == .scalar 'e' || c == .scalar 'E') = true := by
    rw [Bool.not_eq_true, List.any_eq_false]
    intro c hc
    simp [hother c hc (.scalar '.') (by decide), hother c hc (.scalar 'e') (by decide),
      hother c hc (.scalar 'E') (by decide)]
  have hx : ∀ c ∈ w, c ≠ .scalar 'x' ∧ c ≠ .scalar 'X' :=
    fun c hc => ⟨hother c hc _ (by decide), hother c hc _ (by decide)⟩
  rw [decodeNumber_decimal hx, if_neg hnone, read_whole hne hw]
  by_cases hlong : w.length > Integer.maxDigits
  · simp only [hlong, if_true]
  · simp only [hlong, if_false]

/-! ### Fractions -/

theorem trimPadding_eq_self (h : ∀ c ∈ w, c.isBlank = false) : Integer.trimPadding w = w := by
  have hdrop : ∀ t : Text, (∀ c ∈ t, c.isBlank = false) → t.dropWhile Integer.isPadding = t := by
    intro t ht
    cases t with
    | nil => rfl
    | cons c rest => exact dropWhile_isPadding (ht c List.mem_cons_self) rest
  rw [Integer.trimPadding, hdrop w h, hdrop w.reverse (fun c hc => h c (List.mem_reverse.1 hc)),
    List.reverse_reverse]

theorem dropUnderscores_eq_some (h : ∀ c ∈ w, c ≠ .scalar '_') (last : Bool) :
    Decimal.dropUnderscores last w = some w := by
  induction w generalizing last with
  | nil => rfl
  | cons c rest ih =>
    obtain ⟨hc, hrest⟩ := List.forall_mem_cons.1 h
    simp [Decimal.dropUnderscores, hc, ih hrest]

theorem spanDigits_append (hw : ∀ c ∈ w, c.isDigit = true) {rest : Text}
    (hrest : ∀ c ∈ rest.head?, c.isDigit = false) :
    Decimal.spanDigits (w ++ rest) = (w.filterMap CodePoint.digitValue?, rest) := by
  induction w with
  | nil =>
    cases rest with
    | nil => rfl
    | cons c more =>
      have hnone : c.digitValue? = none := by simpa [CodePoint.isDigit] using hrest c rfl
      simp [Decimal.spanDigits, hnone]
  | cons c w ih =>
    obtain ⟨hc, hw⟩ := List.forall_mem_cons.1 hw
    obtain ⟨d, -, hd⟩ := CodePoint.digitValue?_of_isDigit hc
    simp [Decimal.spanDigits, hd, ih hw]

theorem filterMap_digitValue?_ne_nil (hne : w ≠ []) (hw : ∀ c ∈ w, c.isDigit = true) :
    w.filterMap CodePoint.digitValue? ≠ [] := by
  cases w with
  | nil => exact absurd rfl hne
  | cons c rest =>
    obtain ⟨d, -, hd⟩ := CodePoint.digitValue?_of_isDigit (hw c List.mem_cons_self)
    simp [hd]

theorem IsExponent.head? {t : Text} (h : IsExponent t) : ∀ c ∈ t.head?, c.isDigit = false := by
  cases h with
  | nil => simp
  | intro he =>
    intro c hc
    obtain rfl := Option.some.inj hc
    rcases he with rfl | rfl <;> decide

theorem exists_exponent? {t : Text} (h : IsExponent t) : ∃ e, Decimal.exponent? t = some e := by
  cases h with
  | nil => exact ⟨0, rfl⟩
  | @intro e sign digits he hsign hne hdigits =>
    have hspan : Decimal.spanDigits digits = (digits.filterMap CodePoint.digitValue?, []) := by
      have happend : Decimal.spanDigits (digits ++ []) = _ :=
        spanDigits_append hdigits (by simp)
      rwa [List.append_nil] at happend
    have hsplit : ∃ negative, Integer.splitSign (sign ++ digits) = (negative, digits) := by
      rcases hsign with rfl | rfl | rfl
      · exact ⟨false, splitSign_digits hne hdigits⟩
      · exact ⟨false, rfl⟩
      · exact ⟨true, rfl⟩
    obtain ⟨negative, hsplit⟩ := hsplit
    have hsome := filterMap_digitValue?_ne_nil hne hdigits
    simp only [Decimal.exponent?, he, if_true, hsplit, hspan, List.isEmpty_iff, hsome,
      List.isEmpty_nil, Bool.not_true, or_false, if_false, Bool.false_eq_true]
    exact ⟨_, rfl⟩

theorem exists_parts? {whole fraction exponent : Text} (hwhole : ∀ c ∈ whole, c.isDigit = true)
    (hfraction : IsFraction fraction) (hexponent : IsExponent exponent)
    (hsome : whole ≠ [] ∨ 1 < fraction.length) (negative : Bool) :
    ∃ p, Decimal.parts? negative (whole ++ (fraction ++ exponent)) = some p := by
  obtain ⟨e, he⟩ := exists_exponent? hexponent
  cases hfraction with
  | nil =>
    have hne : whole ≠ [] := by simpa using hsome
    have hdigits := filterMap_digitValue?_ne_nil hne hwhole
    have hspan := spanDigits_append hwhole hexponent.head?
    rw [List.nil_append, Decimal.parts?, hspan]
    dsimp only
    split
    · next rest =>
      cases hexponent with
      | intro he' => rcases he' with h | h <;> cases h
    · simp [hdigits, he]
  | @point digits hdigits =>
    have hrest : ∀ c ∈ (.scalar '.' :: (digits ++ exponent) : Text).head?, c.isDigit = false := by
      intro c hc
      obtain rfl := Option.some.inj hc
      decide
    rw [List.cons_append, Decimal.parts?, spanDigits_append hwhole hrest]
    simp only [spanDigits_append hdigits hexponent.head?, he]
    have hnot : ¬ ((whole.filterMap CodePoint.digitValue?).isEmpty ∧
        (digits.filterMap CodePoint.digitValue?).isEmpty) := by
      rintro ⟨h₁, h₂⟩
      rcases hsome with hne | hlong
      · exact filterMap_digitValue?_ne_nil hne hwhole (List.isEmpty_iff.1 h₁)
      · have hne : digits ≠ [] := by
          rintro rfl
          simp at hlong
        exact filterMap_digitValue?_ne_nil hne hdigits (List.isEmpty_iff.1 h₂)
    rw [if_neg hnot]
    exact ⟨_, rfl⟩

/-- The letters of the words of decimal numbers. -/
def decimalLetters : Text := [.scalar '.', .scalar 'e', .scalar 'E', .scalar '+', .scalar '-']

theorem mem_decimalLetters_of_isFraction (h : IsFraction w) :
    ∀ c ∈ w, c.isDigit = true ∨ c ∈ decimalLetters := by
  cases h with
  | nil => simp
  | point hdigits =>
    intro c hc
    rcases List.mem_cons.1 hc with rfl | hc
    · right
      decide
    · exact Or.inl (hdigits c hc)

theorem mem_decimalLetters_of_isExponent (h : IsExponent w) :
    ∀ c ∈ w, c.isDigit = true ∨ c ∈ decimalLetters := by
  cases h with
  | nil => simp
  | intro he hsign hne hdigits =>
    intro c hc
    simp only [List.mem_cons, List.mem_append] at hc
    rcases hc with rfl | hc | hc
    · right
      rcases he with rfl | rfl <;> decide
    · right
      rcases hsign with rfl | rfl | rfl
      · cases hc
      · obtain rfl := List.mem_singleton.1 hc
        decide
      · obtain rfl := List.mem_singleton.1 hc
        decide
    · exact Or.inl (hdigits c hc)

/-- The first code point of a text is still its first in lower case if it is a digit or a point. -/
theorem head?_lower {c : CodePoint} (hc : 46 ≤ c.value ∧ c.value ≤ 57) (rest : Text) :
    (Text.lower (c :: rest)).head? = some c := by
  have hall : ∀ n, 46 ≤ n → n ≤ 57 → CaseRun.apply lowerRuns n = n := by
    intro n hlow hhigh
    have hcases : ∀ d < 12, CaseRun.apply lowerRuns (46 + d) = 46 + d := by decide +kernel
    have hn := hcases (n - 46) (by omega)
    rwa [show 46 + (n - 46) = n by omega] at hn
  have hsigma : ¬ c.value = 0x3a3 := by omega
  have hdot : ¬ c.value = 0x130 := by omega
  have hlower : CodePoint.lower [] c rest = [c] := by
    simp [CodePoint.lower, hsigma, hdot, hall c.value hc.1 hc.2, CodePoint.ofNat_value]
  simp [Text.lower, Text.lowerAfter, hlower]

/-- A text that starts with a digit or a point spells no number by a word, in any case. -/
theorem ne_special {c : CodePoint} (hc : c.isDigit = true ∨ c = .scalar '.') (rest word : Text)
    (hword : word ∈ [Text.of "inf", Text.of "infinity", Text.of "nan"]) :
    (if (c :: rest).all (fun d => d.value < 128) then Text.lower (c :: rest) else c :: rest) ≠
      word := by
  have hhead : (if (c :: rest).all (fun d => d.value < 128) then Text.lower (c :: rest)
      else c :: rest).head? = some c := by
    split
    · next hall =>
      have hlow : c.value < 128 := by simpa using List.all_eq_true.1 hall c List.mem_cons_self
      apply head?_lower
      rcases hc with hc | rfl
      · rw [CodePoint.isDigit_eq_isAsciiDigit (by omega)] at hc
        simp only [CodePoint.isAsciiDigit, Bool.and_eq_true, decide_eq_true_eq] at hc
        omega
      · decide
    · rfl
  intro heq
  rw [heq] at hhead
  have hletter : ∀ v ∈ [Text.of "inf", Text.of "infinity", Text.of "nan"], ∀ d ∈ v.head?,
      d.isDigit = false ∧ d ≠ .scalar '.' := by decide
  obtain ⟨hdigit, hpoint⟩ := hletter word hword c hhead
  rcases hc with hc | hc
  · rw [hdigit] at hc
    cases hc
  · exact hpoint hc

section Decimal

variable {whole fraction exponent : Text}

theorem isDigit_or_mem_decimalLetters (hwhole : ∀ c ∈ whole, c.isDigit = true)
    (hfraction : IsFraction fraction) (hexponent : IsExponent exponent) :
    ∀ c ∈ whole ++ (fraction ++ exponent), c.isDigit = true ∨ c ∈ decimalLetters := by
  intro c hc
  rcases List.mem_append.1 hc with hc | hc
  · exact Or.inl (hwhole c hc)
  · rcases List.mem_append.1 hc with hc | hc
    · exact mem_decimalLetters_of_isFraction hfraction c hc
    · exact mem_decimalLetters_of_isExponent hexponent c hc

/-- What is behind a sign perhaps is read as the number that its parts are. -/
theorem exists_read? {sign : Text} (hsign : sign = [] ∨ sign = [.scalar '-'])
    (hwhole : ∀ c ∈ whole, c.isDigit = true) (hfraction : IsFraction fraction)
    (hexponent : IsExponent exponent) (hsome : whole ≠ [] ∨ 1 < fraction.length) :
    ∃ x, Decimal.read? (sign ++ (whole ++ (fraction ++ exponent))) = some x := by
  have hletters : ∀ c ∈ sign ++ (whole ++ (fraction ++ exponent)),
      c.isDigit = true ∨ c ∈ decimalLetters := by
    intro c hc
    rcases List.mem_append.1 hc with hc | hc
    · rcases hsign with rfl | rfl
      · cases hc
      · exact Or.inr (List.mem_singleton.1 hc ▸ by decide)
    · exact isDigit_or_mem_decimalLetters hwhole hfraction hexponent c hc
  have hsolid : ∀ d ∈ decimalLetters, d.isBlank = false ∧ d ≠ .scalar '_' := by decide
  have htrim : Integer.trimPadding (sign ++ (whole ++ (fraction ++ exponent))) =
      sign ++ (whole ++ (fraction ++ exponent)) := by
    apply trimPadding_eq_self
    intro c hc
    rcases hletters c hc with hdigit | hletter
    · exact CodePoint.isBlank_of_isDigit hdigit
    · exact (hsolid c hletter).1
  have hline : Decimal.dropUnderscores false (sign ++ (whole ++ (fraction ++ exponent))) =
      some (sign ++ (whole ++ (fraction ++ exponent))) := by
    apply dropUnderscores_eq_some
    intro c hc
    rcases hletters c hc with hdigit | hletter
    · exact CodePoint.ne_of_isDigit hdigit (by decide)
    · exact (hsolid c hletter).2
  obtain ⟨c, rest, hcons, hc⟩ : ∃ c rest, whole ++ (fraction ++ exponent) = c :: rest ∧
      (c.isDigit = true ∨ c = .scalar '.') := by
    cases whole with
    | cons c rest => exact ⟨c, _, rfl, Or.inl (hwhole c List.mem_cons_self)⟩
    | nil =>
      cases hfraction with
      | nil => simp at hsome
      | point hdigits => exact ⟨_, _, rfl, Or.inr rfl⟩
  have hne : ∀ d, d.isDigit = false → d ≠ .scalar '.' → c ≠ d := by
    intro d hdigit hpoint
    rcases hc with hc | rfl
    · exact CodePoint.ne_of_isDigit hc hdigit
    · exact Ne.symm hpoint
  obtain ⟨negative, hsplit⟩ : ∃ negative, Integer.splitSign (sign ++ (c :: rest)) =
      (negative, c :: rest) := by
    rcases hsign with rfl | rfl
    · exact ⟨false, splitSign_of_ne (hne _ (by decide) (by decide))
        (hne _ (by decide) (by decide)) rest⟩
    · exact ⟨true, rfl⟩
  obtain ⟨p, hp⟩ := exists_parts? hwhole hfraction hexponent hsome negative
  unfold Decimal.read?
  rw [htrim, hline]
  rw [hcons] at hp ⊢
  dsimp only
  rw [hsplit]
  dsimp only
  have hspecial := ne_special hc rest
  rw [if_neg (not_or.2 ⟨hspecial _ (by simp), hspecial _ (by simp)⟩),
    if_neg (hspecial _ (by simp)), hp]
  exact ⟨_, rfl⟩

/-- **A decimal word with a point or an exponent** is read as a fraction. -/
theorem decodeNumber_fraction (hwhole : ∀ c ∈ whole, c.isDigit = true)
    (hfraction : IsFraction fraction) (hexponent : IsExponent exponent)
    (hsome : whole ≠ [] ∨ 1 < fraction.length) (hne : fraction ++ exponent ≠ []) :
    ∃ x, decodeNumber (whole ++ (fraction ++ exponent)) = .ok (.float x) := by
  obtain ⟨x, hread⟩ := exists_read? (Or.inl rfl) hwhole hfraction hexponent hsome
  rw [List.nil_append] at hread
  have hx : ∀ c ∈ whole ++ (fraction ++ exponent), c ≠ .scalar 'x' ∧ c ≠ .scalar 'X' := by
    have hletters : ∀ d ∈ decimalLetters, d ≠ .scalar 'x' ∧ d ≠ .scalar 'X' := by decide
    intro c hc
    rcases isDigit_or_mem_decimalLetters hwhole hfraction hexponent c hc with hdigit | hletter
    · exact ⟨CodePoint.ne_of_isDigit hdigit (by decide),
        CodePoint.ne_of_isDigit hdigit (by decide)⟩
    · exact hletters c hletter
  have hany : (whole ++ (fraction ++ exponent)).any
      (fun c => c == .scalar '.' || c == .scalar 'e' || c == .scalar 'E') = true := by
    apply List.any_eq_true.2
    cases hfraction with
    | point hdigits => exact ⟨.scalar '.', by simp, by simp⟩
    | nil =>
      cases hexponent with
      | nil => exact absurd rfl hne
      | @intro e sign digits he =>
        refine ⟨.scalar e, by simp, ?_⟩
        rcases he with rfl | rfl <;> simp
  refine ⟨x, ?_⟩
  rw [decodeNumber_decimal hx, if_pos hany, hread]

end Decimal

/-- **The word of a number has a value**, a fraction or a whole number, unless it is made of more
    decimal digits than are read. -/
theorem decodeNumber_cases {w : Text} (h : IsNumber w) :
    (∃ n, decodeNumber w = .ok (.int n)) ∨ (∃ x, decodeNumber w = .ok (.float x)) ∨
      Integer.maxDigits < w.length ∧ (∀ c ∈ w, c.isDigit = true) ∧
        decodeNumber w = .error (.integer (.tooManyDigits w.length)) := by
  cases h with
  | hexadecimal hx hne hdigits => exact Or.inl ⟨_, decodeNumber_hexadecimal hx hne hdigits⟩
  | @decimal whole fraction exponent hwhole hfraction hexponent hsome =>
    by_cases hne : fraction ++ exponent = []
    · rw [hne, List.append_nil]
      have hdigits : whole ≠ [] := by
        rcases hsome with hsome | hlong
        · exact hsome
        · rw [(List.append_eq_nil_iff.1 hne).1] at hlong
          simp at hlong
      have hread := decodeNumber_whole hdigits hwhole
      by_cases hlong : whole.length > Integer.maxDigits
      · rw [if_pos hlong] at hread
        exact Or.inr (Or.inr ⟨hlong, hwhole, hread⟩)
      · rw [if_neg hlong] at hread
        exact Or.inl ⟨_, hread⟩
    · exact Or.inr (Or.inl (decodeNumber_fraction hwhole hfraction hexponent hsome hne))

end Literal

end TemplatedNotes
