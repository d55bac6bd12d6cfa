/-
  TemplatedNotes/Proofs/Json/Word.lean
  ====================================
  **The words of JSON: texts, numbers and constants.**

      text     ::= '"' {plain | '\' letter | '\u' hex hex hex hex} '"'
      number   ::= ['-'] whole [fraction] [exponent]      whole    ::= '0' | nonzero {digit}
      fraction ::= '.' digit {digit}                      exponent ::= 'e' ['+' | '-'] digit {digit}

  `IsAtom w v` says that the word `w` denotes the value `v`, without a scan from left to right.  A
  text between quotes is read to the first quote that no backslash takes along, so what is read is
  the same (`textUnits_eq_ok_iff`).  A number ends where no more of it can follow, so its word is
  read as a whole in front of anything that cannot go on with it (`Stops`).

  Two things are wider than in other readers of JSON, `NaN` and the infinities being constants, and
  one is narrower: a whole number has at most as many digits as are read.
-/
import TemplatedNotes.Proofs.Json.Written
import TemplatedNotes.Proofs.Literal.Number

namespace TemplatedNotes.Json

/-! ### Texts -/

/-- What stands between quotes, and the code points that it spells. -/
inductive IsQuoted : Text → Text → Prop where
  | nil : IsQuoted [] []
  | plain {c : CodePoint} {w t : Text} (hquote : c ≠ .scalar '"') (hslash : c ≠ .scalar '\\')
      (hcontrol : 32 ≤ c.value) (h : IsQuoted w t) : IsQuoted (c :: w) (c :: t)
  | letter {l e : Char} {w t : Text} (hl : (l, e) ∈ escapeLetters) (h : IsQuoted w t) :
      IsQuoted (.scalar '\\' :: .scalar l :: w) (.scalar e :: t)
  | number {a b x d : CodePoint} {n : Nat} {w t : Text} (hn : hexQuad? a b x d = some n)
      (h : IsQuoted w t) :
      IsQuoted (.scalar '\\' :: .scalar 'u' :: a :: b :: x :: d :: w) (CodePoint.ofNat n :: t)

theorem consRead_eq_ok_iff {c : CodePoint} {r : Except Fault (Text × Text)} {t rest : Text} :
    consRead c r = .ok (t, rest) ↔ ∃ more, r = .ok (more, rest) ∧ t = c :: more := by
  constructor
  · intro h
    obtain ⟨⟨more, after⟩, hr, heq⟩ := Outcome.map_eq_ok.1 h
    cases heq
    exact ⟨more, hr, rfl⟩
  · rintro ⟨more, rfl, rfl⟩
    rfl

theorem exists_of_textUnits {t x rest : Text} (h : textUnits t = .ok (x, rest)) :
    ∃ w, t = w ++ .scalar '"' :: rest ∧ IsQuoted w x := by
  fun_induction textUnits t generalizing x with
  | case1 => cases h
  | case2 after =>
    cases h
    exact ⟨[], rfl, .nil⟩
  | case3 a b c d after n hn ih =>
    obtain ⟨more, hmore, rfl⟩ := consRead_eq_ok_iff.1 h
    obtain ⟨w, rfl, hw⟩ := ih hmore
    exact ⟨_, rfl, .number hn hw⟩
  | case4 => cases h
  | case5 after l hl e he ih =>
    obtain ⟨more, hmore, rfl⟩ := consRead_eq_ok_iff.1 h
    obtain ⟨w, rfl, hw⟩ := ih hmore
    obtain ⟨before, behind, htable, -⟩ := List.lookup_eq_some_iff.1 he
    exact ⟨_, rfl, .letter (by simp [htable]) hw⟩
  | case6 => cases h
  | case7 => cases h
  | case8 c after hquote hnumber hletter hplain ih =>
    obtain ⟨more, hmore, rfl⟩ := consRead_eq_ok_iff.1 h
    obtain ⟨w, rfl, hw⟩ := ih hmore
    obtain ⟨hcontrol, hslash⟩ := not_or.1 hplain
    exact ⟨_, rfl, .plain hquote hslash (Nat.not_lt.1 hcontrol) hw⟩

theorem textUnits_of_isQuoted {w x : Text} (h : IsQuoted w x) (rest : Text) :
    textUnits (w ++ .scalar '"' :: rest) = .ok (x, rest) := by
  have hletters : ∀ p ∈ escapeLetters, escapeLetters.lookup p.1 = some p.2 := by decide
  induction h with
  | nil => rw [List.nil_append, textUnits]
  | plain hquote hslash hcontrol _ ih =>
    rw [List.cons_append, textUnits_plain hquote hslash hcontrol, ih]
    rfl
  | letter hl _ ih =>
    rw [List.cons_append, List.cons_append, textUnits_escape (hletters _ hl), ih]
    rfl
  | number hn _ ih =>
    simp only [List.cons_append]
    rw [textUnits_number hn, ih]
    rfl

/-- **What is read between quotes** is what they spell. -/
theorem textUnits_eq_ok_iff {t x rest : Text} :
    textUnits t = .ok (x, rest) ↔ ∃ w, t = w ++ .scalar '"' :: rest ∧ IsQuoted w x := by
  constructor
  · exact exists_of_textUnits
  · rintro ⟨w, rfl, hw⟩
    exact textUnits_of_isQuoted hw rest

theorem quotedText_eq_ok_iff {t x rest : Text} :
    quotedText t = .ok (x, rest) ↔
      ∃ w s, t = w ++ .scalar '"' :: rest ∧ IsQuoted w s ∧ x = joinPairs s := by
  constructor
  · intro h
    obtain ⟨⟨s, after⟩, hs, heq⟩ := Outcome.map_eq_ok.1 h
    cases heq
    obtain ⟨w, rfl, hw⟩ := textUnits_eq_ok_iff.1 hs
    exact ⟨w, s, rfl, hw, rfl⟩
  · rintro ⟨w, s, rfl, hw, rfl⟩
    rw [quotedText, textUnits_of_isQuoted hw]
    rfl

/-- A text without quotes, backslashes and control characters spells itself. -/
theorem isQuoted_self {t : Text}
    (h : ∀ c ∈ t, c ≠ .scalar '"' ∧ c ≠ .scalar '\\' ∧ 32 ≤ c.value) : IsQuoted t t := by
  induction t with
  | nil => exact .nil
  | cons c more ih =>
    obtain ⟨⟨hquote, hslash, hcontrol⟩, hmore⟩ := List.forall_mem_cons.1 h
    exact .plain hquote hslash hcontrol (ih hmore)

/-! ### The parts of numbers -/

/-- ASCII digits, at least one. -/
structure AreDigits (w : Text) : Prop where
  ne_nil : w ≠ []
  digits : ∀ c ∈ w, c.isAsciiDigit = true

/-- Digits that do not start with a zero, or a single zero. -/
structure IsWhole (w : Text) : Prop extends AreDigits w where
  zero : w.head? = some (.scalar '0') → w = [.scalar '0']

def isMinus (c : CodePoint) : Bool := c == '-'

def isPlusOrMinus (c : CodePoint) : Bool := c == '+' || c == '-'

/-- A sign of some, or none. -/
def IsSign (signs : CodePoint → Bool) (w : Text) : Prop := w = [] ∨ ∃ c, signs c = true ∧ w = [c]

inductive IsFraction : Text → Prop where
  | nil : IsFraction []
  | point {digits : Text} (h : AreDigits digits) : IsFraction (.scalar '.' :: digits)

inductive IsExponent : Text → Prop where
  | nil : IsExponent []
  | intro {e : Char} {sign digits : Text} (he : e = 'e' ∨ e = 'E')
      (hsign : IsSign isPlusOrMinus sign) (h : AreDigits digits) :
      IsExponent (.scalar e :: (sign ++ digits))

/-- The whole number of digits behind a sign or none. -/
def signedNumber (sign digits : Text) : Int :=
  if sign.isEmpty then Literal.wholeNumber 10 digits else -Literal.wholeNumber 10 digits

/-- A word of a number, and the number. -/
inductive IsNumber : Text → Scalar → Prop where
  | whole {sign digits : Text} (hsign : IsSign isMinus sign) (h : IsWhole digits)
      (hshort : digits.length ≤ Integer.maxDigits) :
      IsNumber (sign ++ digits) (.int (signedNumber sign digits))
  | decimal {sign whole fraction exponent : Text} {x : Binary64}
      (hsign : IsSign isMinus sign) (hwhole : IsWhole whole) (hfraction : IsFraction fraction)
      (hexponent : IsExponent exponent) (hne : fraction ++ exponent ≠ [])
      (hx : Decimal.read? (sign ++ (whole ++ (fraction ++ exponent))) = some x) :
      IsNumber (sign ++ (whole ++ (fraction ++ exponent))) (.float x)

theorem isDigit_of_isAsciiDigit {c : CodePoint} (h : c.isAsciiDigit = true) : c.isDigit = true := by
  have hrange : 48 ≤ c.value ∧ c.value ≤ 57 := by
    simpa [CodePoint.isAsciiDigit] using h
  rwa [CodePoint.isDigit_eq_isAsciiDigit (by omega)]

theorem AreDigits.isDigit {w : Text} (h : AreDigits w) : ∀ c ∈ w, c.isDigit = true :=
  fun c hc => isDigit_of_isAsciiDigit (h.digits c hc)

theorem IsSign.eq_minus {w : Text} (h : IsSign isMinus w) : w = [] ∨ w = [.scalar '-'] := by
  refine h.imp_right ?_
  rintro ⟨c, hc, rfl⟩
  simpa [isMinus] using hc

theorem IsFraction.literal {w : Text} (h : IsFraction w) : Literal.IsFraction w := by
  cases h with
  | nil => exact .nil
  | point h => exact .point h.isDigit

theorem IsExponent.literal {w : Text} (h : IsExponent w) : Literal.IsExponent w := by
  cases h with
  | nil => exact .nil
  | intro he hsign h =>
    refine .intro he (hsign.imp_right ?_) h.ne_nil h.isDigit
    rintro ⟨c, hc, rfl⟩
    simpa [isPlusOrMinus] using hc

/-- A whole number is read unless it has too many digits. -/
theorem read_signed {sign digits : Text} (hsign : IsSign isMinus sign) (h : IsWhole digits) :
    Integer.read 10 (sign ++ digits) =
      if digits.length > Integer.maxDigits then .error (.tooManyDigits digits.length)
      else .ok (signedNumber sign digits) := by
  rcases hsign.eq_minus with rfl | rfl
  · exact Literal.read_whole h.ne_nil h.isDigit
  · exact Literal.read_minus h.ne_nil h.isDigit

/-! ### What is read of a number -/

/-- No number goes on with a text. -/
def Stops (t : Text) : Prop :=
  ∀ c ∈ t.head?, c.isAsciiDigit = false ∧ c ≠ .scalar '.' ∧ c ≠ .scalar 'e' ∧ c ≠ .scalar 'E'

theorem leadingDigits_append {w rest : Text} (hw : ∀ c ∈ w, c.isAsciiDigit = true)
    (hrest : ∀ c ∈ rest.head?, c.isAsciiDigit = false) : leadingDigits (w ++ rest) = w := by
  have hnone : rest.takeWhile CodePoint.isAsciiDigit = [] := by
    cases rest with
    | nil => rfl
    | cons c more => exact List.takeWhile_cons_of_neg (by simp [hrest c rfl])
  rw [leadingDigits, List.takeWhile_append_of_pos hw, hnone, List.append_nil]

theorem areDigits_leadingDigits {t : Text} (h : leadingDigits t ≠ []) :
    AreDigits (leadingDigits t) := ⟨h, fun _ hc => List.mem_takeWhile_imp hc⟩

theorem exists_append_leadingDigits (t : Text) : ∃ rest, t = leadingDigits t ++ rest := by
  obtain ⟨rest, hrest⟩ := List.takeWhile_prefix CodePoint.isAsciiDigit (l := t)
  exact ⟨rest, hrest.symm⟩

/-- The sign at the start of a text. -/
def leadingSign (signs : CodePoint → Bool) (t : Text) : Text := (t.take 1).filter signs

section Sign

variable {signs : CodePoint → Bool}

theorem leadingSign_append {sign rest : Text} (hsign : IsSign signs sign)
    (hrest : ∀ c ∈ rest.head?, signs c = false) : leadingSign signs (sign ++ rest) = sign := by
  rcases hsign with rfl | ⟨c, hc, rfl⟩
  · cases rest with
    | nil => rfl
    | cons c more => simp [leadingSign, hrest c rfl]
  · simp [leadingSign, hc]

theorem isSign_leadingSign (signs : CodePoint → Bool) (t : Text) :
    IsSign signs (leadingSign signs t) ∧ ∃ rest, t = leadingSign signs t ++ rest := by
  cases t with
  | nil => exact ⟨Or.inl rfl, [], rfl⟩
  | cons c more =>
    cases hc : signs c with
    | true =>
      have hsign : leadingSign signs (c :: more) = [c] := by simp [leadingSign, hc]
      exact ⟨Or.inr ⟨c, hc, hsign⟩, more, by rw [hsign, List.singleton_append]⟩
    | false =>
      have hsign : leadingSign signs (c :: more) = [] := by simp [leadingSign, hc]
      exact ⟨Or.inl hsign, c :: more, by rw [hsign, List.nil_append]⟩

end Sign

/-- The digits of a whole number at the start of a text: a zero stands alone. -/
def wholeDigits (t : Text) : Text :=
  if (leadingDigits t).head? == some (.scalar '0') then (leadingDigits t).take 1
  else leadingDigits t

theorem wholeDigits_append {w rest : Text} (hw : IsWhole w)
    (hrest : ∀ c ∈ rest.head?, c.isAsciiDigit = false) : wholeDigits (w ++ rest) = w := by
  unfold wholeDigits
  rw [leadingDigits_append hw.digits hrest]
  split
  · next hzero =>
    rw [hw.zero (by simpa using hzero)]
    rfl
  · rfl

theorem isWhole_wholeDigits {t : Text} (h : wholeDigits t ≠ []) : IsWhole (wholeDigits t) := by
  by_cases hzero : (leadingDigits t).head? = some (.scalar '0')
  · obtain ⟨more, hmore⟩ := List.head?_eq_some_iff.1 hzero
    have heq : wholeDigits t = [.scalar '0'] := by simp [wholeDigits, hmore]
    rw [heq]
    exact ⟨⟨List.cons_ne_nil _ _, by simp; decide⟩, fun _ => rfl⟩
  · have heq : wholeDigits t = leadingDigits t := by simp [wholeDigits, hzero]
    rw [heq] at h ⊢
    exact ⟨areDigits_leadingDigits h, fun hhead => absurd hhead hzero⟩

theorem exists_append_wholeDigits (t : Text) : ∃ rest, t = wholeDigits t ++ rest := by
  obtain ⟨rest, hrest⟩ := exists_append_leadingDigits t
  unfold wholeDigits
  split
  · refine ⟨(leadingDigits t).drop 1 ++ rest, ?_⟩
    rw [← List.append_assoc, List.take_append_drop, ← hrest]
  · exact ⟨rest, hrest⟩

theorem leadingWhole_append {sign rest : Text}
    (hsign : leadingSign isMinus (sign ++ rest) = sign) :
    leadingWhole (sign ++ rest) =
      if (wholeDigits rest).isEmpty then [] else sign ++ wholeDigits rest := by
  have hunfold : leadingWhole (sign ++ rest) =
      if (wholeDigits ((sign ++ rest).drop (leadingSign isMinus (sign ++ rest)).length)).isEmpty
      then []
      else leadingSign isMinus (sign ++ rest) ++
        wholeDigits ((sign ++ rest).drop (leadingSign isMinus (sign ++ rest)).length) := rfl
  rw [hunfold, hsign, List.drop_left]

theorem leadingFraction_append {w rest : Text} (hw : IsFraction w)
    (hrest : ∀ c ∈ rest.head?, c.isAsciiDigit = false ∧ c ≠ .scalar '.') :
    leadingFraction (w ++ rest) = w := by
  cases hw with
  | nil =>
    rw [List.nil_append]
    unfold leadingFraction
    split
    · exact absurd rfl (hrest _ rfl).2
    · rfl
  | point h =>
    have hdigits := leadingDigits_append h.digits (fun c hc => (hrest c hc).1)
    simp [leadingFraction, hdigits, h.ne_nil]

theorem isFraction_leadingFraction (t : Text) :
    IsFraction (leadingFraction t) ∧ ∃ rest, t = leadingFraction t ++ rest := by
  unfold leadingFraction
  split
  · next rest =>
    dsimp only
    split
    · exact ⟨.nil, _, rfl⟩
    · next hne =>
      obtain ⟨after, hafter⟩ := exists_append_leadingDigits rest
      exact ⟨.point (areDigits_leadingDigits (by simpa using hne)), after,
        congrArg (.scalar '.' :: ·) hafter⟩
  · exact ⟨.nil, t, rfl⟩

theorem leadingExponent_append_sign (e : Char) {sign rest : Text}
    (hsign : leadingSign isPlusOrMinus (sign ++ rest) = sign) :
    leadingExponent (.scalar e :: (sign ++ rest)) =
      if e = 'e' ∨ e = 'E' then
        if (leadingDigits rest).isEmpty then [] else .scalar e :: (sign ++ leadingDigits rest)
      else [] := by
  have hunfold : leadingExponent (.scalar e :: (sign ++ rest)) =
      if e = 'e' ∨ e = 'E' then
        if (leadingDigits ((sign ++ rest).drop
          (leadingSign isPlusOrMinus (sign ++ rest)).length)).isEmpty then []
        else .scalar e :: (leadingSign isPlusOrMinus (sign ++ rest) ++
          leadingDigits ((sign ++ rest).drop
            (leadingSign isPlusOrMinus (sign ++ rest)).length))
      else [] := rfl
  rw [hunfold, hsign, List.drop_left]

theorem leadingExponent_append {w rest : Text} (hw : IsExponent w) (hrest : Stops rest) :
    leadingExponent (w ++ rest) = w := by
  cases hw with
  | nil =>
    rw [List.nil_append]
    unfold leadingExponent
    split
    · next e more =>
      obtain ⟨-, -, hlower, hupper⟩ := hrest _ rfl
      apply if_neg
      rintro (rfl | rfl)
      · exact hlower rfl
      · exact hupper rfl
    · rfl
  | @intro e sign digits he hsign h =>
    have hhead : ∀ c ∈ (digits ++ rest).head?, isPlusOrMinus c = false := by
      intro c hc
      rw [List.head?_append_of_ne_nil _ h.ne_nil] at hc
      have hdigit := h.digits c (List.mem_of_mem_head? hc)
      cases hc : isPlusOrMinus c with
      | false => rfl
      | true =>
        have hsigns : c = .scalar '+' ∨ c = .scalar '-' := by simpa [isPlusOrMinus] using hc
        rcases hsigns with rfl | rfl <;> exact absurd hdigit (by decide)
    have hdigits := leadingDigits_append h.digits (fun c hc => (hrest c hc).1)
    rw [List.cons_append, List.append_assoc,
      leadingExponent_append_sign e (leadingSign_append hsign hhead), if_pos he, hdigits]
    simp [h.ne_nil]

theorem isExponent_leadingExponent (t : Text) :
    IsExponent (leadingExponent t) ∧ ∃ rest, t = leadingExponent t ++ rest := by
  cases t with
  | nil => exact ⟨.nil, [], rfl⟩
  | cons c more =>
    cases c with
    | surrogate u => exact ⟨.nil, _, rfl⟩
    | scalar e =>
      obtain ⟨hsign, after, hafter⟩ := isSign_leadingSign isPlusOrMinus more
      obtain ⟨rest, hrest⟩ := exists_append_leadingDigits after
      have hread := leadingExponent_append_sign e (hafter ▸ rfl :
        leadingSign isPlusOrMinus (leadingSign isPlusOrMinus more ++ after) = _)
      rw [← hafter] at hread
      rw [hread]
      split
      · next he =>
        split
        · exact ⟨.nil, _, rfl⟩
        · next hne =>
          refine ⟨.intro he hsign (areDigits_leadingDigits (by simpa using hne)), rest, ?_⟩
          rw [List.cons_append, List.append_assoc, ← hrest, ← hafter]
      · exact ⟨.nil, _, rfl⟩

/-- A text in the parts that a number is read in. -/
structure LeadsWith (whole fraction exponent rest : Text) : Prop where
  whole : leadingWhole (whole ++ (fraction ++ (exponent ++ rest))) = whole
  fraction : leadingFraction (fraction ++ (exponent ++ rest)) = fraction
  exponent : leadingExponent (exponent ++ rest) = exponent

theorem LeadsWith.number_eq {whole fraction exponent rest : Text}
    (h : LeadsWith whole fraction exponent rest) :
    number (whole ++ (fraction ++ (exponent ++ rest))) =
      if whole.isEmpty then .error .malformed
      else if fraction.isEmpty && exponent.isEmpty then
        match Integer.read 10 whole with
        | .ok n => .ok (.scalar (.int n), fraction ++ (exponent ++ rest))
        | .error _ => .error .malformed
      else
        match Decimal.read? (whole ++ fraction ++ exponent) with
        | some x => .ok (.scalar (.float x), rest)
        | none => .error .malformed := by
  have hfraction : (whole ++ (fraction ++ (exponent ++ rest))).drop whole.length =
      fraction ++ (exponent ++ rest) := List.drop_left
  have hexponent : (whole ++ (fraction ++ (exponent ++ rest))).drop
      (whole.length + fraction.length) = exponent ++ rest := by
    rw [← List.append_assoc, ← List.length_append, List.drop_left]
  have hrest : (whole ++ (fraction ++ (exponent ++ rest))).drop
      (whole ++ fraction ++ exponent).length = rest := by
    rw [← List.append_assoc, ← List.append_assoc, List.drop_left]
  unfold number
  cases hinteger : Integer.read 10 whole <;>
    cases hdecimal : Decimal.read? (whole ++ fraction ++ exponent) <;>
    simp only [h.whole, hfraction, h.fraction, hexponent, h.exponent, hrest, hinteger, hdecimal]

/-- Every text has these parts, the first of them empty if no number starts the text. -/
theorem exists_leadsWith (t : Text) :
    ∃ whole fraction exponent rest, t = whole ++ (fraction ++ (exponent ++ rest)) ∧
      LeadsWith whole fraction exponent rest ∧ IsFraction fraction ∧ IsExponent exponent ∧
      (whole = [] ∨ ∃ sign digits, IsSign isMinus sign ∧ IsWhole digits ∧
        whole = sign ++ digits) := by
  obtain ⟨hsign, after, hafter⟩ := isSign_leadingSign isMinus t
  have hwhole := leadingWhole_append (hafter ▸ rfl :
    leadingSign isMinus (leadingSign isMinus t ++ after) = _)
  rw [← hafter] at hwhole
  have hparts : ∃ whole behind, t = whole ++ behind ∧ leadingWhole t = whole ∧
      (whole = [] ∨ ∃ sign digits, IsSign isMinus sign ∧ IsWhole digits ∧
        whole = sign ++ digits) := by
    by_cases hnone : wholeDigits after = []
    · rw [hnone] at hwhole
      exact ⟨[], t, rfl, hwhole, Or.inl rfl⟩
    · rw [if_neg (by simpa using hnone)] at hwhole
      obtain ⟨behind, hbehind⟩ := exists_append_wholeDigits after
      refine ⟨_, behind, ?_, hwhole, Or.inr ⟨_, _, hsign, isWhole_wholeDigits hnone, rfl⟩⟩
      rw [List.append_assoc, ← hbehind, ← hafter]
  obtain ⟨whole, behind, ht, hleads, hshape⟩ := hparts
  obtain ⟨hfraction, behind', hbehind⟩ := isFraction_leadingFraction behind
  obtain ⟨hexponent, rest, hrest⟩ := isExponent_leadingExponent behind'
  rw [hrest] at hbehind
  rw [hbehind] at ht
  refine ⟨whole, _, _, rest, ht, ⟨?_, ?_, ?_⟩, hfraction, hexponent, hshape⟩
  · rw [← ht, hleads]
  · rw [← hbehind]
  · rw [← hrest]

theorem exists_of_number {t rest : Text} {v : Value} (h : number t = .ok (v, rest)) :
    ∃ w s, t = w ++ rest ∧ v = .scalar s ∧ IsNumber w s := by
  obtain ⟨whole, fraction, exponent, after, rfl, hleads, hfraction, hexponent, hshape⟩ :=
    exists_leadsWith t
  rw [hleads.number_eq] at h
  rcases hshape with rfl | ⟨sign, digits, hsign, hdigits, rfl⟩
  · cases h
  have hsome : (sign ++ digits).isEmpty = false := by simp [hdigits.ne_nil]
  rw [hsome, if_neg Bool.false_ne_true] at h
  by_cases hnone : fraction ++ exponent = []
  · obtain ⟨rfl, rfl⟩ := List.append_eq_nil_iff.1 hnone
    simp only [List.isEmpty_nil, Bool.and_self, if_true, read_signed hsign hdigits] at h
    split at h
    · next n hn =>
      split at hn
      · cases hn
      · next hshort =>
        cases hn
        cases h
        exact ⟨_, _, rfl, rfl, .whole hsign hdigits (Nat.not_lt.1 hshort)⟩
    · cases h
  · rw [if_neg (by simpa using hnone)] at h
    split at h
    · next x hx =>
      cases h
      rw [List.append_assoc, List.append_assoc] at hx
      refine ⟨_, _, ?_, rfl, .decimal hsign hdigits hfraction hexponent hnone hx⟩
      simp only [List.append_assoc]
    · cases h

/-- What may follow a whole number in a number does not go on with it. -/
theorem head?_fraction_exponent {fraction exponent rest : Text} (hfraction : IsFraction fraction)
    (hexponent : IsExponent exponent) (hrest : Stops rest) :
    (∀ c ∈ (fraction ++ (exponent ++ rest)).head?, c.isAsciiDigit = false) ∧
      ∀ c ∈ (exponent ++ rest).head?, c.isAsciiDigit = false ∧ c ≠ .scalar '.' := by
  have hbehind : ∀ c ∈ (exponent ++ rest).head?, c.isAsciiDigit = false ∧ c ≠ .scalar '.' := by
    intro c hc
    cases hexponent with
    | nil => exact ⟨(hrest c hc).1, (hrest c hc).2.1⟩
    | intro he hsign h =>
      cases hc
      rcases he with rfl | rfl <;> decide
  refine ⟨fun c hc => ?_, hbehind⟩
  cases hfraction with
  | nil => exact (hbehind c hc).1
  | point h =>
    cases hc
    decide

theorem leadsWith_of_stops {sign digits fraction exponent rest : Text}
    (hsign : IsSign isMinus sign) (hdigits : IsWhole digits) (hfraction : IsFraction fraction)
    (hexponent : IsExponent exponent) (hrest : Stops rest) :
    LeadsWith (sign ++ digits) fraction exponent rest := by
  obtain ⟨hbehind, hbehind'⟩ := head?_fraction_exponent hfraction hexponent hrest
  refine ⟨?_, leadingFraction_append hfraction hbehind', leadingExponent_append hexponent hrest⟩
  have hhead : ∀ c ∈ (digits ++ (fraction ++ (exponent ++ rest))).head?, isMinus c = false := by
    intro c hc
    rw [List.head?_append_of_ne_nil _ hdigits.ne_nil] at hc
    have hdigit := hdigits.digits c (List.mem_of_mem_head? hc)
    cases hminus : isMinus c with
    | false => rfl
    | true =>
      obtain rfl : c = .scalar '-' := by simpa [isMinus] using hminus
      exact absurd hdigit (by decide)
  rw [List.append_assoc, leadingWhole_append (leadingSign_append hsign hhead),
    wholeDigits_append hdigits hbehind, if_neg (by simpa using hdigits.ne_nil)]

theorem number_of_isNumber {w rest : Text} {s : Scalar} (h : IsNumber w s) (hrest : Stops rest) :
    number (w ++ rest) = .ok (.scalar s, rest) := by
  cases h with
  | @whole sign digits hsign h hshort =>
    have hleads := leadsWith_of_stops hsign h .nil .nil hrest
    have hsome : (sign ++ digits).isEmpty = false := by simp [h.ne_nil]
    have hread := hleads.number_eq
    rw [hsome, if_neg Bool.false_ne_true, read_signed hsign h,
      if_neg (Nat.not_lt.2 hshort)] at hread
    exact hread
  | @decimal sign whole fraction exponent x hsign hwhole hfraction hexponent hne hx =>
    have hleads := leadsWith_of_stops hsign hwhole hfraction hexponent hrest
    have hsome : (sign ++ whole).isEmpty = false := by simp [hwhole.ne_nil]
    have hread := hleads.number_eq
    rw [← List.append_assoc, ← List.append_assoc] at hx
    rw [hsome, if_neg Bool.false_ne_true, if_neg (by simpa using hne), hx] at hread
    simpa only [List.append_assoc] using hread

/-! ### Atoms -/

/-- A word of a value without parts, and the value. -/
inductive IsAtom : Text → Value → Prop where
  | text {w t : Text} (h : IsQuoted w t) :
      IsAtom (.scalar '"' :: (w ++ [.scalar '"'])) (Value.text (joinPairs t))
  | constant {c : Text × Scalar} (hc : c ∈ constants) : IsAtom c.1 (.scalar c.2)
  | number {w : Text} {s : Scalar} (h : IsNumber w s) : IsAtom w (.scalar s)

theorem IsWhole.exists_digit {w : Text} (h : IsWhole w) :
    ∃ c more, w = c :: more ∧ c.isAsciiDigit = true := by
  cases w with
  | nil => exact absurd rfl h.ne_nil
  | cons c more => exact ⟨c, more, rfl, h.digits c List.mem_cons_self⟩

/-- A number starts with a digit, or with a sign and a digit. -/
theorem IsNumber.exists_digit {w : Text} {s : Scalar} (h : IsNumber w s) :
    ∃ c more, c.isAsciiDigit = true ∧ (w = c :: more ∨ w = .scalar '-' :: c :: more) := by
  have hshape : ∃ sign digits rest, IsSign isMinus sign ∧ IsWhole digits ∧
      w = sign ++ (digits ++ rest) := by
    cases h with
    | whole hsign h hshort => exact ⟨_, _, [], hsign, h, by rw [List.append_nil]⟩
    | decimal hsign hwhole => exact ⟨_, _, _, hsign, hwhole, rfl⟩
  obtain ⟨sign, digits, rest, hsign, hdigits, rfl⟩ := hshape
  obtain ⟨c, more, rfl, hc⟩ := hdigits.exists_digit
  rcases hsign.eq_minus with rfl | rfl
  · exact ⟨c, more ++ rest, hc, Or.inl rfl⟩
  · exact ⟨c, more ++ rest, hc, Or.inr rfl⟩

theorem ne_of_isAsciiDigit {c d : CodePoint} (h : c.isAsciiDigit = true)
    (hd : d.isAsciiDigit = false) : c ≠ d := by
  rintro rfl
  rw [h] at hd
  cases hd

/-- No constant starts a number: it has no digit in its first two places. -/
theorem constants_of_isNumber {w : Text} {s : Scalar} (h : IsNumber w s) (rest : Text) :
    constants.find? (fun c => c.1.isPrefixOf (w ++ rest)) = none := by
  have htable : ∀ p ∈ constants, ∀ i < 2, (p.1[i]?).any (fun d => !d.isAsciiDigit) = true := by
    decide
  obtain ⟨c, more, hc, hw⟩ := h.exists_digit
  obtain ⟨i, hi, hdigit⟩ : ∃ i < 2, (w ++ rest)[i]? = some c := by
    rcases hw with rfl | rfl
    · exact ⟨0, by decide, rfl⟩
    · exact ⟨1, by decide, rfl⟩
  refine List.find?_eq_none.2 (fun p hp hstart => ?_)
  obtain ⟨after, hafter⟩ := List.isPrefixOf_iff_prefix.1 hstart
  have hplace := htable p hp i hi
  cases hd : p.1[i]? with
  | none =>
    rw [hd] at hplace
    cases hplace
  | some d =>
    -- the place is one of the constant, so the digit would be in it
    rw [← hafter, List.getElem?_append_left (List.getElem?_eq_some_iff.1 hd).1, hd] at hdigit
    rw [hd, Option.some.inj hdigit, Option.any_some, hc] at hplace
    cases hplace

theorem atom_of_isAtom {w rest : Text} {v : Value} (h : IsAtom w v) (hrest : Stops rest) :
    atom (w ++ rest) = .ok (v, rest) := by
  cases h with
  | @text w t h =>
    have hquoted : quotedText (w ++ [.scalar '"'] ++ rest) = .ok (joinPairs t, rest) :=
      quotedText_eq_ok_iff.2 ⟨w, t, by simp, h, rfl⟩
    rw [List.cons_append, atom, hquoted]
    rfl
  | @constant c hc =>
    have hfind : ∀ c ∈ constants, ∀ rest, atom (c.1 ++ rest) = .ok (.scalar c.2, rest) := by
      simp only [constants, List.forall_mem_cons]
      refine ⟨?_, ?_, ?_, ?_, ?_, ?_, by simp⟩
      all_goals exact fun _ => rfl
    exact hfind c hc rest
  | @number w s h =>
    have hnone := constants_of_isNumber h rest
    obtain ⟨c, more, hc, hw⟩ := h.exists_digit
    rw [← number_of_isNumber h hrest]
    unfold atom
    split
    · next quoted heq =>
      rcases hw with rfl | rfl
      · exact absurd (List.cons.inj heq).1 (ne_of_isAsciiDigit hc (by decide))
      · exact absurd (List.cons.inj heq).1 (by decide)
    · rw [hnone]

/-- **What is read as a value without parts** is its word. -/
theorem exists_of_atom {t rest : Text} {v : Value} (h : atom t = .ok (v, rest)) :
    ∃ w, t = w ++ rest ∧ IsAtom w v := by
  unfold atom at h
  split at h
  · next more =>
    obtain ⟨⟨x, after⟩, hx, heq⟩ := Outcome.map_eq_ok.1 h
    cases heq
    obtain ⟨w, s, rfl, hw, rfl⟩ := quotedText_eq_ok_iff.1 hx
    exact ⟨_, by simp, .text hw⟩
  · split at h
    · next c hc =>
      cases h
      have hstart : c.1.isPrefixOf t = true := by simpa using List.find?_some hc
      obtain ⟨after, rfl⟩ := List.isPrefixOf_iff_prefix.1 hstart
      exact ⟨c.1, by rw [List.drop_left], .constant (List.mem_of_find?_eq_some hc)⟩
    · obtain ⟨w, s, rfl, rfl, hw⟩ := exists_of_number h
      exact ⟨w, rfl, .number hw⟩

end TemplatedNotes.Json
