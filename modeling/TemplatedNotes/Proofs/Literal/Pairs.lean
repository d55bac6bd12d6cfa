/-
  TemplatedNotes/Proofs/Literal/Pairs.lean
  ========================================
  **Literals that start with a name and a colon.**

  A text that starts with a name is a literal only if the name is an identifier and something
  stands behind it (`isIdentifier_of_parse`, `not_parse_of_isClassName`).  What follows the colon
  is a value and perhaps more pairs, each behind a comma and with a colon of its own
  (`pairs_of_parse`).  So such a literal names a script in its first pair, or it holds both a
  comma and a second colon (`template?_eq_none_of_parse`), and it is none at all when the value is
  a bare word (`not_parse_of_bareWord`).
-/
import TemplatedNotes.Proofs.Literal.Refusal

namespace TemplatedNotes.Literal

variable {α : Type} {raw : Text} {tokens rest : List Token}

/-! ### Rows of entries -/

theorem exists_of_isAt {mark : Char} (h : isAt mark tokens = true) :
    ∃ t ∈ tokens, t.text = [.scalar mark] := by
  cases tokens with
  | nil => simp [isAt, current] at h
  | cons t more =>
    have ht : t.kind = .mark ∧ t.text = [.scalar mark] := by simpa [isAt, current] using h
    exact ⟨t, List.mem_cons_self, ht.2⟩

theorem isAt_of_expect {mark : Char} (h : expect mark tokens = .ok rest) :
    isAt mark tokens = true := by
  unfold expect at h
  split at h
  · assumption
  · cases h

/-- Entries that are read end at once, or there is a first one. -/
theorem repeated_eq_ok {entry : Reader α} {close : Char} {rounds : Nat} {xs : List α}
    (h : Reader.repeated entry close rounds tokens = .ok (xs, rest)) :
    xs = [] ∧ isAt close tokens = true ∨
      ∃ x ts ts' n more, entry tokens = .ok (x, ts) ∧ separator close ts = .ok ts' ∧
        Reader.repeated entry close n ts' = .ok (more, rest) ∧ xs = x :: more := by
  cases rounds with
  | zero => cases h
  | succ n =>
    cases hclose : isAt close tokens with
    | true =>
      rw [repeated_of_isAt entry n hclose] at h
      cases h
      exact Or.inl ⟨rfl, rfl⟩
    | false =>
      rw [repeated_of_not_isAt entry n hclose] at h
      obtain ⟨⟨x, ts⟩, hx, h⟩ := Outcome.bind_eq_ok.1 h
      obtain ⟨ts', hts', h⟩ := Outcome.bind_eq_ok.1 h
      obtain ⟨⟨more, after⟩, hmore, h⟩ := Outcome.bind_eq_ok.1 h
      cases h
      exact Or.inr ⟨x, ts, ts', n, more, hx, hts', hmore, rfl⟩

/-- Without a colon there is no pair. -/
theorem repeated_eq_nil_of_colon {value : Reader Value} {close : Char} {rounds : Nat}
    {xs : List (Scalar × Value)}
    (h : Reader.repeated (pair value) close rounds tokens = .ok (xs, rest))
    (hcolon : ∀ t ∈ tokens, t.text ≠ [.scalar ':']) : xs = [] := by
  rcases repeated_eq_ok h with ⟨hnil, -⟩ | ⟨x, ts, ts', n, more, hx, -, -, -⟩
  · exact hnil
  · obtain ⟨k, -, hx⟩ := Outcome.bind_eq_ok.1 hx
    obtain ⟨after, hafter, -⟩ := Outcome.bind_eq_ok.1 hx
    obtain ⟨t, ht, htext⟩ := exists_of_isAt (isAt_of_expect hafter)
    exact absurd htext (hcolon t ((List.tail_suffix tokens).mem ht))

/-- Without a comma there is no entry after the first one. -/
theorem repeated_eq_nil_of_comma {entry : Reader α} {close : Char} {rounds : Nat} {xs : List α}
    {ts : List Token} (hseparator : separator close tokens = .ok ts)
    (h : Reader.repeated entry close rounds ts = .ok (xs, rest))
    (hcomma : ∀ t ∈ tokens, t.text ≠ [.scalar ',']) : xs = [] := by
  unfold separator at hseparator
  cases hclose : isAt close tokens with
  | true =>
    rw [hclose] at hseparator
    cases hseparator
    cases rounds with
    | zero => cases h
    | succ n =>
      rw [repeated_of_isAt entry n hclose] at h
      cases h
      rfl
  | false =>
    rw [hclose] at hseparator
    obtain ⟨t, ht, htext⟩ := exists_of_isAt (isAt_of_expect hseparator)
    exact absurd htext (hcomma t ht)

/-! ### What stands behind a name -/

theorem document_eq_ok [Runtime] {v : Value} (h : document tokens = .ok v) :
    ∃ ts rounds pairs after, expect '\x7b' tokens = .ok ts ∧
      Reader.repeated (pair (value maxDepth)) '\x7d' rounds ts = .ok (pairs, after) ∧
      v = Value.dict (Entries.ofList pairs) := by
  obtain ⟨ts, hts, h⟩ := Outcome.bind_eq_ok.1 h
  obtain ⟨⟨w, after⟩, hw, h⟩ := Outcome.bind_eq_ok.1 h
  obtain ⟨⟨pairs, after'⟩, hpairs, hdict⟩ := Outcome.bind_eq_ok.1 hw
  cases hdict
  dsimp only at h
  split at h
  · cases h
    exact ⟨ts, _, pairs, after, hts, hpairs, rfl⟩
  · cases h

/-- An object whose first token is an identifier: a colon, a value, and more pairs. -/
theorem document_identifier [Runtime] {k : Text} {p₁ p₂ : Nat} {ts : List Token} {v : Value}
    (h : document (⟨.mark, [.scalar '\x7b'], p₁⟩ :: ⟨.identifier, k, p₂⟩ :: ts) = .ok v) :
    isAt ':' ts = true ∧
      ∃ x after ts' rounds more last, value maxDepth ts.tail = .ok (x, after) ∧
        separator '\x7d' after = .ok ts' ∧
        Reader.repeated (pair (value maxDepth)) '\x7d' rounds ts' = .ok (more, last) ∧
        v = Value.dict (Entries.ofList ((.text k, x) :: more)) := by
  obtain ⟨us, rounds, pairs, last, hus, hpairs, rfl⟩ := document_eq_ok h
  rw [expect_mark] at hus
  cases hus
  rcases repeated_eq_ok hpairs with ⟨-, hclose⟩ | ⟨p, after, ts', n, more, hp, hs, hmore, rfl⟩
  · rw [isAt_of_ne_mark _ (by simp)] at hclose
    cases hclose
  · obtain ⟨k', hk, hp⟩ := Outcome.bind_eq_ok.1 hp
    cases hk
    obtain ⟨us, hus, hp⟩ := Outcome.bind_eq_ok.1 hp
    have hcolon : isAt ':' ts = true := isAt_of_expect hus
    obtain ⟨⟨x, after'⟩, hx, hp⟩ := Outcome.bind_eq_ok.1 hp
    cases hp
    have htail : us = ts.tail := by
      rw [expect, List.tail_cons, if_pos hcolon] at hus
      exact (Except.ok.inj hus).symm
    rw [htail] at hx
    exact ⟨hcolon, x, after, ts', n, more, last, hx, hs, hmore, rfl⟩

/-- A text that starts with neither white space nor a brace and does not end blank, in braces. -/
theorem braced_of_head {c : CodePoint} {t : Text} (hblank : c.isBlank = false)
    (hbrace : c ≠ .scalar '\x7b') (hlast : ∀ d, (c :: t).getLast? = some d → d.isBlank = false) :
    braced (c :: t) = .scalar '\x7b' :: (c :: t ++ [.scalar '\x7d']) := by
  have htrim : Text.trim (c :: t) = c :: t := by
    refine Text.trim_eq_self (fun d hd => ?_) hlast
    cases hd
    exact hblank
  unfold braced
  rw [htrim]
  exact if_neg (fun h => hbrace (Option.some.inj h))

theorem tokens_of_parse [Runtime] {v : Value} (h : parse raw = .ok v) :
    ∃ tokens w, scan (braced raw) = .ok tokens ∧ document tokens = .ok w ∧
      v = Arguments.ofValue w := by
  obtain ⟨tokens, htokens, h⟩ := Outcome.bind_eq_ok.1 h
  obtain ⟨w, hw, h⟩ := Outcome.bind_eq_ok.1 h
  cases h
  exact ⟨tokens, w, htokens, hw, rfl⟩

/-! ### Names -/

/-- What a name of a class is for a literal: a word that does not start with a digit, whose ASCII
    characters can stand in an identifier. -/
structure IsClassName (name : Text) : Prop where
  isWord : Text.IsWord name
  no_digit : ∀ c ∈ name.head?, c.isDigit = false
  ascii : ∀ c ∈ name, c.value < 128 → continuesIdentifier c = true

theorem IsIdentifier.ne_nil {w : Text} (h : IsIdentifier w) : w ≠ [] := by
  rintro rfl
  exact absurd h.starts (by simp)

theorem startsIdentifier_of_continues {c : CodePoint} (h : continuesIdentifier c = true)
    (hdigit : c.isDigit = false) : startsIdentifier c = true := by
  rcases Bool.or_eq_true_iff.1 h with h | h
  · exact h
  · have hsmall : c.value < 0x660 := by
      have hrange : 48 ≤ c.value ∧ c.value ≤ 57 := by simpa [CodePoint.isAsciiDigit] using h
      omega
    rw [CodePoint.isDigit_eq_isAsciiDigit hsmall, h] at hdigit
    cases hdigit

/-- Beyond ASCII only numbers start, and they start with a digit. -/
theorem lexeme?_of_le {c : CodePoint} (h : 128 ≤ c.value) (hblank : c.isBlank = false) (t : Text) :
    lexeme? (c :: t) = none ∨
      c.isDigit = true ∧ ∃ n, lexeme? (c :: t) = some (some .number, n) := by
  have hne : ∀ d : Char, d.toNat < 128 → c ≠ .scalar d := by
    rintro d hd rfl
    exact absurd hd (Nat.not_lt.2 h)
  have hquotes : ¬ (c = .scalar '"' ∨ c = .scalar '\x27') := by
    rintro (hc | hc)
    · exact hne '"' (by decide) hc
    · exact hne '\x27' (by decide) hc
  have hmark : isMark c = false := by
    refine List.any_eq_false.2 (fun m hm => ?_)
    have hsmall : ∀ m ∈ marks, m.toNat < 128 := by simp [marks]
    simpa using hne m (hsmall m hm)
  have hstart : startsIdentifier c = false := by
    cases hs : startsIdentifier c with
    | false => rfl
    | true =>
      rw [startsIdentifier_iff] at hs
      omega
  by_cases hnumber : numberLength (c :: t) = 0
  · exact Or.inl (by simp [lexeme?, hnumber, hquotes, hmark, hstart, hblank])
  · refine Or.inr ⟨?_, numberLength (c :: t), by simp [lexeme?, hnumber]⟩
    cases hdigit : c.isDigit with
    | true => rfl
    | false => exact absurd (numberLength_eq_zero hdigit (hne '.' (by decide)) t) hnumber

theorem isAt_scanFrom_of_le {c : CodePoint} (h : 128 ≤ c.value) (hblank : c.isBlank = false)
    {t : Text} {position : Nat} {ts : List Token} (hscan : scanFrom position 0 (c :: t) = .ok ts)
    (mark : Char) : c.isDigit = true ∧ isAt mark ts = false := by
  rw [scanFrom] at hscan
  rcases lexeme?_of_le h hblank t with hl | ⟨hdigit, n, hl⟩
  · rw [hl] at hscan
    cases hscan
  · rw [hl] at hscan
    obtain ⟨more, -, he⟩ := Outcome.bind_eq_ok.1 hscan
    cases he
    exact ⟨hdigit, isAt_of_ne_mark mark (by simp) more⟩

theorem IsClassName.braced_append {name t : Text} (h : IsClassName name)
    (hlast : ∀ d, (name ++ t).getLast? = some d → d.isBlank = false) :
    braced (name ++ t) = .scalar '\x7b' :: (name ++ t ++ [.scalar '\x7d']) := by
  obtain ⟨hword, -, hascii⟩ := h
  cases name with
  | nil => exact absurd rfl hword.ne_nil
  | cons c rest =>
    have hbrace : c ≠ .scalar '\x7b' := by
      rintro rfl
      exact absurd (hascii _ List.mem_cons_self (by decide)) (by decide)
    exact braced_of_head (hword.solid c List.mem_cons_self) hbrace hlast

/-- A name is an identifier, or one and then a character beyond ASCII, which may also come first. -/
theorem IsClassName.cases_identifier {name : Text} (h : IsClassName name) :
    IsIdentifier name ∨
      ∃ w c rest, name = w ++ c :: rest ∧ 128 ≤ c.value ∧ c.isBlank = false ∧
        (w = [] ∧ c.isDigit = false ∨ IsIdentifier w ∧ continuesIdentifier c = false) := by
  have hsplit := List.takeWhile_append_dropWhile (p := continuesIdentifier) (l := name)
  have hcontinues : ∀ c ∈ name.takeWhile continuesIdentifier, continuesIdentifier c = true :=
    fun c hc => List.mem_takeWhile_imp hc
  have hidentifier : name.takeWhile continuesIdentifier ≠ [] →
      IsIdentifier (name.takeWhile continuesIdentifier) := by
    intro hne
    refine ⟨?_, hcontinues⟩
    cases hw : name.takeWhile continuesIdentifier with
    | nil => exact absurd hw hne
    | cons c w =>
      have hc : continuesIdentifier c = true := hcontinues c (by simp [hw])
      have hdigit : c.isDigit = false := by
        refine h.no_digit c ?_
        rw [← hsplit, hw]
        rfl
      simpa using startsIdentifier_of_continues hc hdigit
  cases hrest : name.dropWhile continuesIdentifier with
  | nil =>
    rw [hrest, List.append_nil] at hsplit
    rw [hsplit] at hidentifier
    exact Or.inl (hidentifier h.isWord.ne_nil)
  | cons c rest =>
    have hno : continuesIdentifier c = false := by
      have hhead := List.head?_dropWhile_not continuesIdentifier name
      rw [hrest] at hhead
      simpa using hhead
    rw [hrest] at hsplit
    have hmem : c ∈ name := by
      rw [← hsplit]
      simp
    have hlarge : 128 ≤ c.value := by
      by_contra hlt
      rw [h.ascii c hmem (Nat.not_le.1 hlt)] at hno
      cases hno
    refine Or.inr ⟨_, c, rest, hsplit.symm, hlarge, h.isWord.solid c hmem, ?_⟩
    by_cases hw : name.takeWhile continuesIdentifier = []
    · rw [hw, List.nil_append] at hsplit
      exact Or.inl ⟨hw, h.no_digit c (by rw [← hsplit]; rfl)⟩
    · exact Or.inr ⟨hidentifier hw, hno⟩

/-- **A name in front of a literal is an identifier.** -/
theorem isIdentifier_of_parse [Runtime] {name t : Text} (h : IsClassName name)
    (hlast : ∀ d, (name ++ t).getLast? = some d → d.isBlank = false) {v : Value}
    (hparse : parse (name ++ t) = .ok v) : IsIdentifier name := by
  obtain ⟨tokens, w, hscan, hdocument, -⟩ := tokens_of_parse hparse
  rw [h.braced_append hlast, scan, scanFrom_mark 0 (by decide) (by decide)] at hscan
  obtain ⟨ts, hts, rfl⟩ := Outcome.map_eq_ok.1 hscan
  rcases h.cases_identifier with hname | ⟨w, c, rest, rfl, hlarge, hblank, hw⟩
  · exact hname
  · exfalso
    rw [List.append_assoc, List.append_assoc, List.cons_append] at hts
    rcases hw with ⟨rfl, hdigit⟩ | ⟨hw, hno⟩
    · have hstarts := (isAt_scanFrom_of_le hlarge hblank hts ':').1
      rw [hdigit] at hstarts
      cases hstarts
    · rw [scanFrom_identifier _ hw hno] at hts
      obtain ⟨us, hus, rfl⟩ := Outcome.map_eq_ok.1 hts
      have hcolon := (document_identifier hdocument).1
      rw [(isAt_scanFrom_of_le hlarge hblank hus ':').2] at hcolon
      cases hcolon

/-- A name alone is no literal. -/
theorem not_parse_of_isClassName [Runtime] {name : Text} (h : IsClassName name) {v : Value} :
    parse name ≠ .ok v := by
  intro hparse
  have hlast : ∀ d, (name ++ []).getLast? = some d → d.isBlank = false := by
    intro d hd
    rw [List.append_nil] at hd
    exact h.isWord.solid d (List.mem_of_getLast? hd)
  rw [← List.append_nil name] at hparse
  have hname := isIdentifier_of_parse h hlast hparse
  obtain ⟨tokens, w, hscan, hdocument, -⟩ := tokens_of_parse hparse
  rw [h.braced_append hlast, scan, scanFrom_mark 0 (by decide) (by decide), List.append_nil,
    scanFrom_identifier _ hname (by decide), scanFrom_mark _ (by decide) (by decide)] at hscan
  obtain ⟨ts, hts, rfl⟩ := Outcome.map_eq_ok.1 hscan
  obtain ⟨us, hus, rfl⟩ := Outcome.map_eq_ok.1 hts
  obtain ⟨vs, hvs, rfl⟩ := Outcome.map_eq_ok.1 hus
  have hcolon := (document_identifier hdocument).1
  simp [isAt, current] at hcolon

/-! ### A name, a colon and more -/

/-- **What is read of a name, a colon and more**: a value behind the colon, and more pairs. -/
theorem pairs_of_parse [Runtime] {k m : Text} (hk : IsIdentifier k)
    (hlast : ∀ d, m.getLast? = some d → d.isBlank = false) (hne : m ≠ []) {v : Value}
    (h : parse (k ++ .scalar ':' :: .scalar ' ' :: m) = .ok v) :
    ∃ ts, scanFrom (1 + k.length + 1) 0 (.scalar ' ' :: (m ++ [.scalar '\x7d'])) = .ok ts ∧
      ∃ x after ts' rounds more last, value maxDepth ts = .ok (x, after) ∧
        separator '\x7d' after = .ok ts' ∧
        Reader.repeated (pair (value maxDepth)) '\x7d' rounds ts' = .ok (more, last) ∧
        v = Arguments.ofValue (Value.dict (Entries.ofList ((.text k, x) :: more))) := by
  obtain ⟨tokens, w, hscan, hdocument, rfl⟩ := tokens_of_parse h
  have hend : ∀ d, (.scalar ':' :: .scalar ' ' :: m : Text).getLast? = some d →
      d.isBlank = false := by
    intro d hd
    refine hlast d ?_
    rw [← hd, List.getLast?_cons_of_ne_nil (by simp), List.getLast?_cons_of_ne_nil hne]
  rw [braced_of_identifier hk (by simp) hend, scan, scanFrom_mark 0 (by decide) (by decide),
    List.append_assoc, List.cons_append, List.cons_append, scanFrom_identifier _ hk (by decide),
    scanFrom_mark _ (by decide) (by decide), Nat.zero_add] at hscan
  obtain ⟨ts, hts, rfl⟩ := Outcome.map_eq_ok.1 hscan
  obtain ⟨us, hus, rfl⟩ := Outcome.map_eq_ok.1 hts
  obtain ⟨vs, hvs, rfl⟩ := Outcome.map_eq_ok.1 hus
  obtain ⟨-, x, after, ts', rounds, more, last, hx, hs, hmore, rfl⟩ :=
    document_identifier hdocument
  exact ⟨vs, hvs, x, after, ts', rounds, more, last, hx, hs, hmore, rfl⟩

theorem template?_singleton {k : Text} (hk : k ≠ Arguments.templateKey) (x : Value) :
    Arguments.template? (Arguments.ofValue (Value.dict (Entries.ofList [(.text k, x)]))) =
      none := by
  have hne : (Scalar.text k).same (.text Arguments.templateKey) = false := by
    show (Scalar.text k == .text Arguments.templateKey) = false
    rw [beq_eq_false_iff_ne]
    exact fun h => hk (Scalar.text.inj h)
  simp [Arguments.template?, Arguments.ofValue, Arguments.ofEntries, Arguments.entriesOf,
    Arguments.wrapEntries, Value.dict, Entries.ofList, Entries.set, Entries.get?, hne]

/-- The tokens of a text hold nothing that does not stand in it. -/
theorem text_ne_of_mem_scanFrom {position skip : Nat} {t : Text} {ts : List Token}
    (h : scanFrom position skip t = .ok ts) {c : CodePoint} (hc : c ∉ t) :
    ∀ k ∈ ts, k.text ≠ [c] := by
  intro k hk htext
  have hpart := text_isInfix_of_mem_scanFrom h k hk
  rw [htext] at hpart
  exact hc (hpart.mem (List.mem_singleton_self c))

/-- **A literal without a comma or without a second colon** names no script behind its first
    pair. -/
theorem template?_eq_none_of_parse [Runtime] {k m : Text} (hk : IsIdentifier k)
    (htemplate : k ≠ Arguments.templateKey)
    (hlast : ∀ d, m.getLast? = some d → d.isBlank = false) (hne : m ≠ [])
    (hno : .scalar ',' ∉ m ∨ .scalar ':' ∉ m) {v : Value}
    (h : parse (k ++ .scalar ':' :: .scalar ' ' :: m) = .ok v) :
    Arguments.template? v = none := by
  obtain ⟨ts, hts, x, after, ts', rounds, more, last, hx, hs, hmore, rfl⟩ :=
    pairs_of_parse hk hlast hne h
  have hinside : ∀ t ∈ ts, IsInside (.scalar ' ' :: (m ++ [.scalar '\x7d'])) t := by
    intro t ht
    have hpart : (t.text.drop 1).dropLast <:+: t.text :=
      (List.dropLast_prefix _).isInfix.trans (List.drop_suffix 1 t.text).isInfix
    exact hpart.trans (text_isInfix_of_mem_scanFrom hts t ht)
  have hafter : after <:+ ts := (isSound_value maxDepth ts hinside).2 x after hx
  have hmore_nil : more = [] := by
    rcases hno with hcomma | hcolon
    · have htext := text_ne_of_mem_scanFrom hts (c := .scalar ',') (by simpa using hcomma)
      exact repeated_eq_nil_of_comma hs hmore (fun t ht => htext t (hafter.mem ht))
    · have htext := text_ne_of_mem_scanFrom hts (c := .scalar ':') (by simpa using hcolon)
      exact repeated_eq_nil_of_colon hmore
        (fun t ht => htext t (hafter.mem ((isSuffix_of_separator hs).mem ht)))
  rw [hmore_nil]
  exact template?_singleton htemplate x

/-- **A bare word that is no constant** behind a name and a colon is no value. -/
theorem not_parse_of_bareWord [Runtime] {k w t : Text} (hk : IsIdentifier k) (hw : IsIdentifier w)
    (hconstant : constant? w = none) (ht : ∀ c ∈ t.head?, continuesIdentifier c = false)
    (hlast : ∀ d, (w ++ t).getLast? = some d → d.isBlank = false) {v : Value} :
    parse (k ++ .scalar ':' :: .scalar ' ' :: (w ++ t)) ≠ .ok v := by
  intro h
  have hne : w ++ t ≠ [] := by simp [hw.ne_nil]
  obtain ⟨ts, hts, x, after, ts', rounds, more, last, hx, -⟩ := pairs_of_parse hk hlast hne h
  obtain ⟨c, rest, hrest, hc⟩ : ∃ c rest, t ++ [.scalar '\x7d'] = c :: rest ∧
      continuesIdentifier c = false := by
    cases t with
    | nil => exact ⟨_, [], rfl, by decide⟩
    | cons c rest => exact ⟨c, _, rfl, ht c rfl⟩
  rw [List.append_assoc, hrest] at hts
  have hspace : scanFrom (1 + k.length + 1) 0 (.scalar ' ' :: (w ++ c :: rest)) =
      scanFrom (1 + k.length + 1 + 1) 0 (w ++ c :: rest) := by
    cases w with
    | nil => exact absurd rfl hw.ne_nil
    | cons d more =>
      have hd : startsIdentifier d = true := by simpa using hw.starts
      exact scanFrom_space _ (isBlank_of_startsIdentifier hd) _
  rw [hspace, scanFrom_identifier _ hw hc] at hts
  obtain ⟨us, -, rfl⟩ := Outcome.map_eq_ok.1 hts
  obtain ⟨depth, hdepth⟩ := Nat.exists_eq_add_one.2 maxDepth_pos
  rw [hdepth, value_bareWord depth hconstant (1 + k.length + 1 + 1) us] at hx
  cases hx

end TemplatedNotes.Literal
