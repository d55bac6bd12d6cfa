/-
  TemplatedNotes/Proofs/Literal/Lexeme.lean
  =========================================
  **The words that tokens of an argument literal are made of.**

      number     ::= '0' ('x' | 'X') hex {hex}
                   | (digit {digit} ['.' {digit}] | '.' digit {digit}) [exponent]
      exponent   ::= ('e' | 'E') ['+' | '-'] digit {digit}
      quoted     ::= quote {'\' any | plain} quote
      identifier ::= letter {letter | ascii digit}

  A mark is a word by itself, and so is a run of white space, which makes no token.  `IsLexeme`
  says so of each kind without a scan from left to right.  What `lexeme?` finds at the start of a
  text is such a word (`isLexeme_of_lexeme?`), and where it finds nothing no such word starts
  (`not_isLexeme_of_lexeme?`).
-/
import Mathlib.Data.List.TakeWhile
import TemplatedNotes.Proofs.Literal.Token

namespace TemplatedNotes.Literal

/-! ### Words -/

inductive IsExponent : Text → Prop where
  | nil : IsExponent []
  | intro {e : Char} {sign digits : Text} (he : e = 'e' ∨ e = 'E')
      (hsign : sign = [] ∨ sign = [.scalar '+'] ∨ sign = [.scalar '-']) (hne : digits ≠ [])
      (hdigits : ∀ c ∈ digits, c.isDigit = true) : IsExponent (.scalar e :: (sign ++ digits))

inductive IsFraction : Text → Prop where
  | nil : IsFraction []
  | point {digits : Text} (hdigits : ∀ c ∈ digits, c.isDigit = true) :
      IsFraction (.scalar '.' :: digits)

/-- A number in base sixteen, or a decimal one with a digit before or behind its point. -/
inductive IsNumber : Text → Prop where
  | hexadecimal {x : Char} {digits : Text} (hx : x = 'x' ∨ x = 'X') (hne : digits ≠ [])
      (hdigits : ∀ c ∈ digits, c.isHexDigit = true) :
      IsNumber (.scalar '0' :: .scalar x :: digits)
  | decimal {whole fraction exponent : Text} (hwhole : ∀ c ∈ whole, c.isDigit = true)
      (hfraction : IsFraction fraction) (hexponent : IsExponent exponent)
      (hsome : whole ≠ [] ∨ 1 < fraction.length) : IsNumber (whole ++ (fraction ++ exponent))

/-- What may stand between quotes. -/
inductive IsQuotable (quote : CodePoint) : Text → Prop where
  | nil : IsQuotable quote []
  | escape {c : CodePoint} {t : Text} (hc : c ≠ .scalar '\n') (ht : IsQuotable quote t) :
      IsQuotable quote (.scalar '\\' :: c :: t)
  | plain {c : CodePoint} {t : Text} (hquote : c ≠ quote) (hback : c ≠ .scalar '\\')
      (hfeed : c ≠ .scalar '\n') (ht : IsQuotable quote t) : IsQuotable quote (c :: t)

/-- The words of each kind; the end of a text is no word, white space has no kind. -/
def IsLexeme : Option TokenKind → Text → Prop
  | some .number, w => IsNumber w
  | some .quoted, w =>
    ∃ quote inner, (quote = .scalar '"' ∨ quote = .scalar '\x27') ∧ IsQuotable quote inner ∧
      w = quote :: (inner ++ [quote])
  | some .mark, w => ∃ c, isMark c = true ∧ w = [c]
  | some .identifier, w => IsIdentifier w
  | some .finish, _ => False
  | none, w => w ≠ [] ∧ ∀ c ∈ w, c.isBlank = true

theorem IsNumber.ne_nil {w : Text} (h : IsNumber w) : w ≠ [] := by
  cases h with
  | hexadecimal => simp
  | decimal hwhole hfraction hexponent hsome =>
    intro hnil
    simp only [List.append_eq_nil_iff] at hnil
    obtain ⟨hw, hf, -⟩ := hnil
    simp [hw, hf] at hsome

theorem IsLexeme.ne_nil {kind : Option TokenKind} {w : Text} (h : IsLexeme kind w) : w ≠ [] := by
  match kind, h with
  | some .number, h => exact IsNumber.ne_nil h
  | some .quoted, ⟨quote, inner, _, _, hw⟩ => simp [hw]
  | some .mark, ⟨c, _, hw⟩ => simp [hw]
  | some .identifier, h =>
    rintro rfl
    exact absurd h.starts (by simp)
  | none, h => exact h.1

/-! ### What is found is a word -/

theorem countWhile_le (p : CodePoint → Bool) (t : Text) : countWhile p t ≤ t.length :=
  (List.takeWhile_prefix p).length_le

theorem take_countWhile (p : CodePoint → Bool) (t : Text) :
    t.take (countWhile p t) = t.takeWhile p :=
  (List.prefix_iff_eq_take.1 (List.takeWhile_prefix p)).symm

theorem of_mem_take_countWhile {p : CodePoint → Bool} {t : Text} :
    ∀ c ∈ t.take (countWhile p t), p c = true := by
  intro c hc
  rw [take_countWhile] at hc
  exact List.mem_takeWhile_imp hc

theorem take_countWhile_ne_nil {p : CodePoint → Bool} {t : Text} (h : countWhile p t ≠ 0) :
    t.take (countWhile p t) ≠ [] := by
  rw [take_countWhile]
  exact fun hnil => h (by rw [countWhile, hnil, List.length_nil])

theorem hexLength_le (t : Text) : hexLength t ≤ t.length := by
  unfold hexLength
  split
  · next x rest =>
    have hle := countWhile_le CodePoint.isHexDigit rest
    simp only [List.length_cons]
    split
    · split <;> omega
    · omega
  · omega

theorem isNumber_take_hexLength {t : Text} (h : hexLength t ≠ 0) :
    IsNumber (t.take (hexLength t)) := by
  unfold hexLength at h ⊢
  split at h
  · next x rest =>
    split at h
    · next hx =>
      by_cases hdigits : countWhile CodePoint.isHexDigit rest = 0
      · simp [hdigits] at h
      · simp only [hx, if_true, hdigits, if_false, List.take_succ_cons]
        exact .hexadecimal hx (take_countWhile_ne_nil hdigits) of_mem_take_countWhile
    · exact absurd rfl h
  · exact absurd rfl h

theorem fractionLength_le (t : Text) : fractionLength t ≤ t.length := by
  unfold fractionLength
  split
  · next rest =>
    have hle := countWhile_le CodePoint.isDigit rest
    simp only [List.length_cons]
    omega
  · omega

theorem isFraction_take (t : Text) : IsFraction (t.take (fractionLength t)) := by
  unfold fractionLength
  split
  · next rest =>
    rw [Nat.add_comm, List.take_succ_cons]
    exact .point of_mem_take_countWhile
  · exact .nil

/-- The length of a sign at the start of a text. -/
def signLength : Text → Nat
  | .scalar s :: _ => if s = '+' ∨ s = '-' then 1 else 0
  | _ => 0

theorem exponentLength_cons (e : Char) (rest : Text) :
    exponentLength (.scalar e :: rest) =
      if e = 'e' ∨ e = 'E' then
        if countWhile CodePoint.isDigit (rest.drop (signLength rest)) = 0 then 0
        else 1 + signLength rest + countWhile CodePoint.isDigit (rest.drop (signLength rest))
      else 0 := rfl

theorem isSign_take (t : Text) :
    t.take (signLength t) = [] ∨ t.take (signLength t) = [.scalar '+'] ∨
      t.take (signLength t) = [.scalar '-'] := by
  unfold signLength
  split
  · next s rest =>
    by_cases hs : s = '+' ∨ s = '-'
    · rcases hs with rfl | rfl
      · exact Or.inr (Or.inl (by simp))
      · exact Or.inr (Or.inr (by simp))
    · exact Or.inl (by simp [hs])
  · exact Or.inl (by simp)

theorem exponentLength_le (t : Text) : exponentLength t ≤ t.length := by
  cases t with
  | nil => exact Nat.le_refl 0
  | cons c rest =>
    cases c with
    | surrogate u => exact Nat.zero_le _
    | scalar e =>
      have hle := countWhile_le CodePoint.isDigit (rest.drop (signLength rest))
      rw [exponentLength_cons, List.length_cons]
      rw [List.length_drop] at hle
      split
      · split <;> omega
      · omega

theorem isExponent_take (t : Text) : IsExponent (t.take (exponentLength t)) := by
  cases t with
  | nil => exact .nil
  | cons c rest =>
    cases c with
    | surrogate u => exact .nil
    | scalar e =>
      rw [exponentLength_cons]
      by_cases he : e = 'e' ∨ e = 'E'
      · by_cases hdigits : countWhile CodePoint.isDigit (rest.drop (signLength rest)) = 0
        · simp only [he, hdigits, if_true]
          exact .nil
        · simp only [he, hdigits, if_true, if_false]
          rw [Nat.add_assoc, Nat.add_comm, List.take_succ_cons, List.take_add]
          exact .intro he (isSign_take rest) (take_countWhile_ne_nil hdigits)
            of_mem_take_countWhile
      · simp only [he, if_false]
        exact .nil

theorem decimalLength_le (t : Text) : decimalLength t ≤ t.length := by
  have hwhole := countWhile_le CodePoint.isDigit t
  have hfraction := fractionLength_le (t.drop (countWhile CodePoint.isDigit t))
  have hexponent := exponentLength_le (t.drop (countWhile CodePoint.isDigit t +
    fractionLength (t.drop (countWhile CodePoint.isDigit t))))
  simp only [List.length_drop] at hfraction hexponent
  unfold decimalLength
  dsimp only
  split <;> omega

theorem isNumber_take_decimalLength {t : Text} (h : decimalLength t ≠ 0) :
    IsNumber (t.take (decimalLength t)) := by
  unfold decimalLength at h ⊢
  dsimp only at h ⊢
  split at h
  · exact absurd rfl h
  · next hsome =>
    rw [if_neg hsome, List.take_add, List.take_add, List.append_assoc]
    refine .decimal of_mem_take_countWhile (isFraction_take _) (isExponent_take _) ?_
    by_cases hwhole : countWhile CodePoint.isDigit t = 0
    · right
      rw [List.length_take, Nat.min_eq_left (fractionLength_le _)]
      omega
    · exact Or.inl (take_countWhile_ne_nil hwhole)

theorem isNumber_take {t : Text} (h : numberLength t ≠ 0) :
    IsNumber (t.take (numberLength t)) ∧ numberLength t ≤ t.length := by
  by_cases hhex : hexLength t = 0
  · have hlength : numberLength t = decimalLength t := if_pos hhex
    rw [hlength] at h ⊢
    exact ⟨isNumber_take_decimalLength h, decimalLength_le t⟩
  · have hlength : numberLength t = hexLength t := if_neg hhex
    rw [hlength]
    exact ⟨isNumber_take_hexLength hhex, hexLength_le t⟩

theorem quotedLength?_eq_some {quote : CodePoint} {t : Text} {n : Nat}
    (h : quotedLength? quote t = some n) :
    ∃ inner, IsQuotable quote inner ∧ t.take n = inner ++ [quote] ∧ n ≤ t.length := by
  fun_induction quotedLength? quote t generalizing n with
  | case1 => cases h
  | case2 rest => cases h
  | case3 c rest hc ih =>
    obtain ⟨m, hm, rfl⟩ := Option.map_eq_some_iff.1 h
    obtain ⟨inner, hinner, htake, hle⟩ := ih hm
    exact ⟨_, .escape hc hinner, by simp [htake], by simp only [List.length_cons]; omega⟩
  | case4 rest hne =>
    cases h
    exact ⟨[], .nil, by simp, by simp⟩
  | case5 c rest hne hquote hstop => cases h
  | case6 c rest hne hquote hstop ih =>
    obtain ⟨m, hm, rfl⟩ := Option.map_eq_some_iff.1 h
    obtain ⟨inner, hinner, htake, hle⟩ := ih hm
    obtain ⟨hfeed, hback⟩ := not_or.1 hstop
    exact ⟨_, .plain hquote hback hfeed hinner, by simp [htake],
      by simp only [List.length_cons]; omega⟩

theorem take_countWhile_succ {p : CodePoint → Bool} (c : CodePoint) (rest : Text) :
    (c :: rest).take (countWhile p rest + 1) = c :: rest.takeWhile p := by
  rw [List.take_succ_cons, take_countWhile]

/-- **What is found at the start of a text is a word** of its kind. -/
theorem isLexeme_of_lexeme? {t : Text} {kind : Option TokenKind} {n : Nat}
    (h : lexeme? t = some (kind, n)) : IsLexeme kind (t.take n) ∧ n ≤ t.length := by
  cases t with
  | nil => cases h
  | cons c rest =>
    unfold lexeme? at h
    dsimp only at h
    by_cases hnumber : numberLength (c :: rest) = 0
    · rw [if_neg (not_not_intro hnumber)] at h
      split at h
      · next m hquoted =>
        cases h
        split at hquoted
        · next hquote =>
          obtain ⟨inner, hinner, htake, hle⟩ := quotedLength?_eq_some hquoted
          exact ⟨⟨c, inner, hquote, hinner, by rw [List.take_succ_cons, htake]⟩,
            Nat.succ_le_succ hle⟩
        · cases hquoted
      · by_cases hmark : isMark c = true
        · rw [if_pos hmark] at h
          cases h
          exact ⟨⟨c, hmark, rfl⟩, by simp⟩
        · rw [if_neg hmark] at h
          by_cases hstart : startsIdentifier c = true
          · rw [if_pos hstart] at h
            cases h
            rw [take_countWhile_succ]
            refine ⟨⟨by simpa using hstart, ?_⟩, Nat.succ_le_succ (countWhile_le _ _)⟩
            intro d hd
            rcases List.mem_cons.1 hd with rfl | hd
            · simp [continuesIdentifier, hstart]
            · exact List.mem_takeWhile_imp hd
          · rw [if_neg hstart] at h
            by_cases hblank : c.isBlank = true
            · rw [if_pos hblank] at h
              cases h
              rw [take_countWhile_succ]
              refine ⟨⟨by simp, ?_⟩, Nat.succ_le_succ (countWhile_le _ _)⟩
              intro d hd
              rcases List.mem_cons.1 hd with rfl | hd
              · exact hblank
              · exact List.mem_takeWhile_imp hd
            · rw [if_neg hblank] at h
              cases h
    · rw [if_pos hnumber] at h
      cases h
      exact isNumber_take hnumber

/-! ### Where a word starts something is found -/

theorem countWhile_append_ne_zero {p : CodePoint → Bool} {w : Text} (hne : w ≠ [])
    (hw : ∀ c ∈ w, p c = true) (t : Text) : countWhile p (w ++ t) ≠ 0 := by
  cases w with
  | nil => exact absurd rfl hne
  | cons c rest =>
    have hc : p c = true := hw c List.mem_cons_self
    simp [countWhile, hc]

theorem decimalLength_ne_zero {whole fraction : Text} (hwhole : ∀ c ∈ whole, c.isDigit = true)
    (hfraction : IsFraction fraction) (hsome : whole ≠ [] ∨ 1 < fraction.length) (t : Text) :
    decimalLength (whole ++ (fraction ++ t)) ≠ 0 := by
  unfold decimalLength
  dsimp only
  by_cases hnil : whole = []
  · subst hnil
    cases hfraction with
    | nil => simp at hsome
    | @point digits hdigits =>
      have hne : digits ≠ [] := by
        rintro rfl
        simp at hsome
      have hpoint : (CodePoint.scalar '.').isDigit = false := by decide
      have hcount := countWhile_append_ne_zero hne hdigits t
      have hlength : fractionLength (.scalar '.' :: (digits ++ t)) =
          1 + countWhile CodePoint.isDigit (digits ++ t) := rfl
      rw [List.nil_append, List.cons_append, countWhile_cons_neg hpoint, List.drop_zero, hlength]
      simp only [true_and, Nat.zero_add]
      split <;> omega
  · have hcount := countWhile_append_ne_zero hnil hwhole (fraction ++ t)
    rw [if_neg (fun h => hcount h.1)]
    omega

theorem numberLength_ne_zero {w : Text} (h : IsNumber w) (t : Text) :
    numberLength (w ++ t) ≠ 0 := by
  cases h with
  | @hexadecimal x digits hx hne hdigits =>
    have hcount := countWhile_append_ne_zero hne hdigits t
    have hhex : hexLength (.scalar '0' :: .scalar x :: (digits ++ t)) ≠ 0 := by
      simp [hexLength, hx, hcount]
    rw [List.cons_append, List.cons_append, numberLength, if_neg hhex]
    exact hhex
  | decimal hwhole hfraction hexponent hsome =>
    have hdecimal := decimalLength_ne_zero hwhole hfraction hsome
    unfold numberLength
    dsimp only
    split
    · rw [List.append_assoc, List.append_assoc]
      exact hdecimal _
    · assumption

theorem quotedLength?_of_isQuotable {quote : CodePoint} (hback : quote ≠ .scalar '\\')
    {inner : Text} (h : IsQuotable quote inner) (t : Text) :
    quotedLength? quote (inner ++ quote :: t) = some (inner.length + 1) := by
  induction h with
  | nil =>
    rw [List.nil_append, quotedLength?.eq_3 _ _ _ (fun _ _ e => absurd e hback), if_pos rfl]
    rfl
  | @escape c rest hc _ ih =>
    rw [List.cons_append, List.cons_append, quotedLength?, if_neg hc, ih]
    rfl
  | @plain c rest hquote hplain hfeed _ ih =>
    rw [List.cons_append, quotedLength?.eq_3 _ _ _ (fun _ _ e => absurd e hplain),
      if_neg hquote, if_neg (not_or.2 ⟨hfeed, hplain⟩), ih]
    rfl

/-- What may stand between quotes is found with them, whatever stands behind. -/
theorem lexeme?_of_isQuotable {quote : CodePoint}
    (hquote : quote = .scalar '"' ∨ quote = .scalar '\x27') {inner : Text}
    (h : IsQuotable quote inner) (t : Text) :
    lexeme? (quote :: (inner ++ [quote]) ++ t) =
      some (some .quoted, (quote :: (inner ++ [quote])).length) := by
  have hback : quote ≠ .scalar '\\' := by rcases hquote with rfl | rfl <;> decide
  have hnumber : numberLength (quote :: (inner ++ quote :: t)) = 0 := by
    rcases hquote with rfl | rfl <;> exact numberLength_eq_zero (by decide) (by decide) _
  have hlength := quotedLength?_of_isQuotable hback h t
  have happend : quote :: (inner ++ [quote]) ++ t = quote :: (inner ++ quote :: t) := by simp
  rw [happend]
  simp only [lexeme?, hnumber, ne_eq, not_true_eq_false, if_false, if_pos hquote, hlength]
  simp

/-- What is not there where nothing is found. -/
theorem lexeme?_eq_none {c : CodePoint} {rest : Text} (h : lexeme? (c :: rest) = none) :
    numberLength (c :: rest) = 0 ∧
      (c = .scalar '"' ∨ c = .scalar '\x27' → quotedLength? c rest = none) ∧
      isMark c = false ∧ startsIdentifier c = false ∧ c.isBlank = false := by
  unfold lexeme? at h
  dsimp only at h
  split at h
  · cases h
  · next hnumber =>
    split at h
    · cases h
    · next hquoted =>
      split at h
      · cases h
      · next hmark =>
        split at h
        · cases h
        · next hstart =>
          split at h
          · cases h
          · next hblank =>
            refine ⟨not_not.1 hnumber, ?_, by simpa using hmark, by simpa using hstart,
              by simpa using hblank⟩
            intro hquote
            rwa [if_pos hquote] at hquoted

/-- **Where nothing is found no word starts.** -/
theorem not_isLexeme_of_lexeme? {t w : Text} (h : lexeme? t = none) (hw : w <+: t)
    (kind : Option TokenKind) : ¬ IsLexeme kind w := by
  intro hlexeme
  obtain ⟨after, rfl⟩ := hw
  obtain ⟨c, rest, rfl⟩ := List.exists_cons_of_ne_nil hlexeme.ne_nil
  obtain ⟨hnumber, hquoted, hmark, hstart, hblank⟩ := lexeme?_eq_none h
  match kind, hlexeme with
  | some .number, hlexeme => exact numberLength_ne_zero hlexeme after hnumber
  | some .quoted, ⟨quote, inner, hquote, hinner, hw⟩ =>
    obtain ⟨rfl, rfl⟩ := List.cons.inj hw
    have hback : c ≠ .scalar '\\' := by
      rcases hquote with rfl | rfl <;> decide
    have hfound := quotedLength?_of_isQuotable hback hinner after
    have hnone : quotedLength? c (inner ++ [c] ++ after) = none := hquoted hquote
    rw [List.append_assoc, List.singleton_append, hfound] at hnone
    cases hnone
  | some .mark, ⟨d, hd, hw⟩ =>
    obtain ⟨rfl, -⟩ := List.cons.inj hw
    rw [hmark] at hd
    cases hd
  | some .identifier, hlexeme =>
    have hhead : startsIdentifier c = true := by simpa using hlexeme.starts
    rw [hstart] at hhead
    cases hhead
  | none, hlexeme =>
    have hhead := hlexeme.2 c List.mem_cons_self
    rw [hblank] at hhead
    cases hhead

end TemplatedNotes.Literal
