/-
  TemplatedNotes/Proofs/Section/Kind.lean
  =======================================
  **The three kinds of lines as patterns.**

      fence       ```(`*)[^`]*$
      opening     %%(?!%%\s*$)\s*([^%\s].*?)\s*%%\s*$
      terminator  %%%%\s*$

  A line is read from its ends; here the three kinds are given by patterns that are tried from left
  to right, their groups being the backticks beyond three and the payload.  A payload with percent
  signs in it leaves many places to end it.  The pattern takes as little as will do, so what its
  group takes does not end blank (`isBlank_of_fewest`), and the parts of an opening line are
  determined by the line: so the group is the payload that is found from the ends.

    * `opening_spec` — which lines the opening pattern fits, with what group, and that no line is of
      two kinds.
-/
import TemplatedNotes.Proofs.Section.Opening
import TemplatedNotes.Proofs.Text.Pattern

namespace TemplatedNotes.Section

/-! ### The three patterns -/

/-- Nothing is left, or the line feed that ends a text. -/
def atEnd (t : Text) : Bool := t == [] || t == [lineFeed]

theorem tail_cases {t : Text} (h : atEnd t = true) : t = [] ∨ t = [lineFeed] := by
  simpa [atEnd] using h

/-- The pattern of fences; its group is the backticks beyond three. -/
def fencePattern : Pattern where
  before := [.exactly [backtick, backtick, backtick]]
  group := [.most (· == backtick)]
  after := [.most (· != backtick), .test atEnd]

/-- What may not come behind the delimiter of an opening line. -/
def terminatorAhead : List Pattern.Part :=
  [.exactly delimiter, .most CodePoint.isBlank, .test atEnd]

/-- The pattern of opening lines; its group is the payload. -/
def openingPattern : Pattern where
  before := [.exactly delimiter, .test (fun t => (Pattern.first? terminatorAhead t).isNone),
    .most CodePoint.isBlank]
  group := [.one (fun c => c != .scalar '%' && !c.isBlank), .fewest (· != lineFeed)]
  after := [.most CodePoint.isBlank, .exactly delimiter, .most CodePoint.isBlank, .test atEnd]

/-- The pattern of terminators. -/
def terminatorPattern : Pattern where
  before := [.exactly terminator, .most CodePoint.isBlank, .test atEnd]
  group := []
  after := []

section Opening

variable {t p gap tail : Text}

/-- What the pattern asks for behind the payload, in a text without line feeds. -/
theorem exists_of_fits_after (h : Pattern.Fits openingPattern.after t) (hfeed : lineFeed ∉ t) :
    ∃ gap tail, t = gap ++ (delimiter ++ tail) ∧ (∀ c ∈ gap, c.isBlank = true) ∧
      ∀ c ∈ tail, c.isBlank = true := by
  obtain ⟨gap, _, rfl, hgap, _, _, rfl, rfl, tail, rest, rfl, htail, _, _, rfl, ⟨rfl, hend⟩, -⟩ := h
  rcases tail_cases hend with rfl | rfl
  · exact ⟨gap, tail, by simp, hgap, htail⟩
  · exact absurd (by simp) hfeed

theorem fits_after (hgap : ∀ c ∈ gap, c.isBlank = true) (htail : ∀ c ∈ tail, c.isBlank = true) :
    Pattern.Fits openingPattern.after (gap ++ (delimiter ++ tail)) :=
  ⟨gap, _, rfl, hgap, delimiter, _, rfl, rfl, tail, [], by simp, htail, [], [], rfl, ⟨rfl, rfl⟩,
    trivial⟩

/-- **An opening line is found.** -/
theorem OpeningLine.exists_captured? (o : OpeningLine) (hfeed : lineFeed ∉ o.text) :
    ∃ p, openingPattern.captured? o.text = some p := by
  obtain ⟨c, q, hcons⟩ := List.exists_cons_of_ne_nil o.ne_nil
  obtain ⟨hpercent, hsolid⟩ := o.solid_head c (by rw [hcons]; rfl)
  -- neither white space nor the payload lets a second delimiter follow the first
  have hnone : Pattern.first? terminatorAhead
      (o.indent ++ (o.payload ++ (o.gap ++ (delimiter ++ o.tail)))) = none := by
    refine Pattern.first?_eq_none_iff.2 ?_
    rintro ⟨_, rest, hbehind, rfl, -⟩
    cases hindent : o.indent with
    | nil =>
      rw [hindent, hcons] at hbehind
      exact hpercent (List.cons.inj hbehind).1
    | cons d more =>
      rw [hindent] at hbehind
      have hd := o.blank_indent d (by simp [hindent])
      exact percent_ne_of_isBlank hd (List.cons.inj hbehind).1
  have hfeedless : lineFeed ∉ q := fun hmem => hfeed (by simp [text, hcons, hmem])
  have hq : ∀ d ∈ q, (d != lineFeed) = true :=
    fun d hd => bne_iff_ne.2 (ne_of_mem_of_not_mem hd hfeedless)
  have hfits : Pattern.Fits openingPattern.parts o.text := by
    refine ⟨delimiter, _, rfl, rfl, [], _, rfl, ⟨rfl, by simp [hnone]⟩, o.indent, _, rfl,
      o.blank_indent, [c], q ++ (o.gap ++ (delimiter ++ o.tail)), by simp [hcons],
      ⟨c, by simp [hpercent, hsolid], rfl⟩, q, _, rfl, hq, ?_⟩
    exact fits_after o.blank_gap o.blank_tail
  exact Option.isSome_iff_exists.1 (Pattern.isSome_captured?_iff.2 hfits)

/-- A payload that ended blank could have been found without its end. -/
theorem isBlank_of_fewest {q : Text} {ws : List Text}
    (h : Pattern.first? (.fewest (· != lineFeed) :: openingPattern.after)
      (q ++ (gap ++ (delimiter ++ tail))) = some (q :: ws))
    (hgap : ∀ c ∈ gap, c.isBlank = true) (htail : ∀ c ∈ tail, c.isBlank = true) {d : CodePoint}
    (hd : q.getLast? = some d) : d.isBlank = false := by
  obtain ⟨v, rfl⟩ := List.getLast?_eq_some_iff.1 hd
  by_contra hblank
  have hgap' : ∀ c ∈ d :: gap, c.isBlank = true := by
    simpa using ⟨by simpa using hblank, hgap⟩
  exact Pattern.not_fits_of_fewest h (fits_after hgap' htail)

/-- **What is found is an opening line.** -/
theorem exists_of_captured? (hfeed : lineFeed ∉ t) (h : openingPattern.captured? t = some p) :
    ∃ o : OpeningLine, o.text = t ∧ o.payload = p := by
  obtain ⟨_, hfound, rfl⟩ := Option.map_eq_some_iff.1 h
  obtain ⟨_, _, _, rfl, rfl, rfl, htest⟩ := Pattern.exists_of_first?_cons hfound
  obtain ⟨_, _, _, rfl, rfl, ⟨rfl, -⟩, hmost⟩ := Pattern.exists_of_first?_cons htest
  obtain ⟨indent, _, _, rfl, rfl, hindent, hone⟩ := Pattern.exists_of_first?_cons hmost
  obtain ⟨_, _, _, rfl, rfl, ⟨c, hc, rfl⟩, hfewest⟩ := Pattern.exists_of_first?_cons hone
  obtain ⟨q, _, _, rfl, rfl, hq, hafter⟩ := Pattern.exists_of_first?_cons hfewest
  obtain ⟨gap, tail, rfl, hgap, htail⟩ :=
    exists_of_fits_after (Pattern.fits_of_first? hafter) (fun hmem => hfeed (by simp [hmem]))
  have hsolid : c ≠ .scalar '%' ∧ c.isBlank = false := by simpa using hc
  have hlast : ∀ d, (c :: q).getLast? = some d → d.isBlank = false := by
    intro d hd
    cases hq : q.getLast? with
    | none =>
      rw [List.getLast?_cons, hq] at hd
      obtain rfl := Option.some.inj hd
      exact hsolid.2
    | some e =>
      rw [List.getLast?_cons, hq] at hd
      obtain rfl := Option.some.inj hd
      exact isBlank_of_fewest hfewest hgap htail hq
  refine ⟨⟨indent, c :: q, gap, tail, hindent, hgap, htail, by simp, ?_, hlast⟩, ?_, ?_⟩
  · intro d hd
    obtain rfl := Option.some.inj hd
    exact hsolid
  · simp [OpeningLine.text]
  · simp [openingPattern]

/-- **The group of the opening pattern** is the payload of the line's parts. -/
theorem captured?_opening_eq_some_iff (hfeed : lineFeed ∉ t) :
    openingPattern.captured? t = some p ↔ ∃ o : OpeningLine, o.text = t ∧ o.payload = p := by
  constructor
  · exact exists_of_captured? hfeed
  · rintro ⟨o, rfl, rfl⟩
    obtain ⟨p, hp⟩ := o.exists_captured? hfeed
    obtain ⟨o', htext, rfl⟩ := exists_of_captured? hfeed hp
    rw [hp, OpeningLine.text_injective htext]

theorem payload?_eq_captured? (hfeed : lineFeed ∉ t) : payload? t = openingPattern.captured? t := by
  ext p
  rw [payload?_eq_some_iff, captured?_opening_eq_some_iff hfeed]

end Opening

/-! ### Fences and terminators -/

section Others

variable {t : Text}

/-- Where a line holds no more backticks its fence ends. -/
theorem fenceDepth?_append {ticks rest : Text} (hticks : ∀ c ∈ ticks, (c == backtick) = true)
    (hrest : backtick ∉ rest) :
    fenceDepth? ([backtick, backtick, backtick] ++ (ticks ++ rest)) = some ticks.length := by
  have hall : ∀ c ∈ [backtick, backtick, backtick] ++ ticks, (c == backtick) = true := by
    simpa using hticks
  have hstop : rest.takeWhile (· == backtick) = [] ∧ rest.dropWhile (· == backtick) = rest := by
    cases rest with
    | nil => exact ⟨rfl, rfl⟩
    | cons c more =>
      have hc : ¬ (c == backtick) = true := by
        rw [beq_iff_eq]
        rintro rfl
        exact hrest List.mem_cons_self
      exact ⟨List.takeWhile_cons_of_neg hc, List.dropWhile_cons_of_neg hc⟩
  rw [← List.append_assoc, fenceDepth?, List.takeWhile_append_of_pos hall,
    List.dropWhile_append_of_pos hall, hstop.1, hstop.2]
  simp [hrest]

theorem exists_of_fenceDepth? {depth : Nat} (h : fenceDepth? t = some depth) :
    ∃ ticks rest, t = [backtick, backtick, backtick] ++ (ticks ++ rest) ∧
      (∀ c ∈ ticks, (c == backtick) = true) ∧ backtick ∉ rest := by
  unfold fenceDepth? at h
  dsimp only at h
  split at h
  · next hfence =>
    have hall : ∀ c ∈ t.takeWhile (· == backtick), (c == backtick) = true :=
      List.all_eq_true.1 List.all_takeWhile
    have ht := List.takeWhile_append_dropWhile (p := (· == backtick)) (l := t)
    rcases hticks : t.takeWhile (· == backtick) with _ | ⟨a, _ | ⟨b, _ | ⟨c, ticks⟩⟩⟩
    · simp [hticks] at hfence
    · simp [hticks] at hfence
    · simp [hticks] at hfence
    · rw [hticks] at hall ht
      obtain ⟨rfl, rfl, rfl, hmore⟩ :
          a = backtick ∧ b = backtick ∧ c = backtick ∧ ∀ d ∈ ticks, (d == backtick) = true := by
        simpa using hall
      exact ⟨ticks, _, ht.symm, hmore, hfence.2⟩
  · cases h

theorem fenceDepth?_of_captured? {g : Text} (h : fencePattern.captured? t = some g) :
    fenceDepth? t = some g.length := by
  obtain ⟨_, hfound, rfl⟩ := Option.map_eq_some_iff.1 h
  obtain ⟨_, _, _, rfl, rfl, rfl, hmost⟩ := Pattern.exists_of_first?_cons hfound
  obtain ⟨ticks, _, _, rfl, rfl, hticks, hafter⟩ := Pattern.exists_of_first?_cons hmost
  obtain ⟨rest, _, rfl, hrest, _, tail, rfl, ⟨rfl, hend⟩, -⟩ := Pattern.fits_of_first? hafter
  have hnone : backtick ∉ rest ++ ([] ++ tail) := by
    intro hmem
    rcases List.mem_append.1 hmem with hmem | hmem
    · simpa using hrest _ hmem
    · rcases tail_cases hend with rfl | rfl
      · cases hmem
      · exact absurd hmem (by decide)
  rw [fenceDepth?_append hticks hnone]
  simp [fencePattern]

theorem exists_captured?_of_fenceDepth? {depth : Nat} (h : fenceDepth? t = some depth) :
    ∃ g, fencePattern.captured? t = some g := by
  obtain ⟨ticks, rest, rfl, hticks, hrest⟩ := exists_of_fenceDepth? h
  have hother : ∀ c ∈ rest, (c != backtick) = true :=
    fun c hc => bne_iff_ne.2 (ne_of_mem_of_not_mem hc hrest)
  have hfits : Pattern.Fits fencePattern.parts
      ([backtick, backtick, backtick] ++ (ticks ++ rest)) :=
    ⟨_, _, rfl, rfl, ticks, rest, rfl, hticks, rest, [], by simp, hother, [], [], rfl, ⟨rfl, rfl⟩,
      trivial⟩
  exact Option.isSome_iff_exists.1 (Pattern.isSome_captured?_iff.2 hfits)

/-- The depth of a fence is the length of its pattern's group. -/
theorem fenceDepth?_eq_captured? : fenceDepth? t = (fencePattern.captured? t).map List.length := by
  cases hcaptured : fencePattern.captured? t with
  | some g => exact fenceDepth?_of_captured? hcaptured
  | none =>
    rw [Option.map_none, Option.eq_none_iff_forall_ne_some]
    intro depth hdepth
    obtain ⟨g, hg⟩ := exists_captured?_of_fenceDepth? hdepth
    rw [hcaptured] at hg
    cases hg

theorem isTerminator_eq_captured? : isTerminator t = (terminatorPattern.captured? t).isSome := by
  rw [Bool.eq_iff_iff, isTerminator_iff, Pattern.isSome_captured?_iff]
  constructor
  · rintro ⟨rest, rfl, hblank⟩
    exact ⟨terminator, rest, rfl, rfl, rest, [], by simp, List.all_eq_true.1 hblank, [], [], rfl,
      ⟨rfl, rfl⟩, trivial⟩
  · rintro ⟨_, _, rfl, rfl, rest, _, rfl, hrest, _, tail, rfl, ⟨rfl, hend⟩, -⟩
    refine ⟨_, rfl, List.all_eq_true.2 (fun c hc => ?_)⟩
    rcases List.mem_append.1 hc with hc | hc
    · exact hrest c hc
    · rcases tail_cases hend with rfl | rfl
      · cases hc
      · exact List.mem_singleton.1 hc ▸ by decide

/-! ### One kind for each line -/

/-- What fits a pattern that starts with a fixed text starts as that text does. -/
theorem head?_of_fits {v : Text} {parts : List Pattern.Part} (hv : v ≠ [])
    (h : Pattern.Fits (.exactly v :: parts) t) : t.head? = v.head? := by
  obtain ⟨_, rest, rfl, rfl, -⟩ := h
  exact List.head?_append_of_ne_nil _ hv

/-- A terminator does not fit the opening pattern, which looks ahead for it. -/
theorem not_fits_opening (h : Pattern.Fits terminatorPattern.parts t) :
    ¬ Pattern.Fits openingPattern.parts t := by
  rintro ⟨_, _, rfl, rfl, _, behind, rfl, ⟨rfl, hnone⟩, -⟩
  obtain ⟨_, rest, heq, rfl, hrest⟩ := h
  have hbehind : behind = delimiter ++ rest := List.append_cancel_left heq
  have hfits : Pattern.Fits terminatorAhead behind := ⟨delimiter, rest, hbehind, rfl, hrest⟩
  rw [Option.isNone_iff_eq_none] at hnone
  exact Pattern.first?_eq_none_iff.1 hnone hfits

/-- **No text fits two of the three patterns.** -/
theorem pairwise_captured? (t : Text) :
    [fencePattern, openingPattern, terminatorPattern].Pairwise
      (fun P Q => P.captured? t = none ∨ Q.captured? t = none) := by
  have hfence : ∀ parts, (Pattern.Fits parts t → t.head? = some (.scalar '%')) →
      Pattern.Fits fencePattern.parts t → ¬ Pattern.Fits parts t := by
    intro parts hparts hfits hother
    have hticks := head?_of_fits (by simp) hfits
    rw [hparts hother] at hticks
    exact absurd hticks (by decide)
  have hopening : fencePattern.captured? t = none ∨ openingPattern.captured? t = none :=
    Pattern.captured?_eq_none_or (hfence _ (head?_of_fits (by simp [delimiter])))
  have hterminator : fencePattern.captured? t = none ∨ terminatorPattern.captured? t = none :=
    Pattern.captured?_eq_none_or (hfence _ (head?_of_fits (by simp [terminator])))
  have hahead : openingPattern.captured? t = none ∨ terminatorPattern.captured? t = none :=
    Pattern.captured?_eq_none_or (fun hfits hmarks => not_fits_opening hmarks hfits)
  simpa using ⟨⟨hopening, hterminator⟩, hahead⟩

end Others

/-! ### The three kinds of lines -/

/-- **The opening pattern is unambiguous.**  A line matches it exactly when it can be taken apart as
    an opening line, its group is the payload then, and there is one way only to take it apart.  The
    three readers of lines find what the patterns find, and no line matches two of them. -/
theorem opening_spec {line : Text} (hfeed : lineFeed ∉ line) :
    (∀ p, openingPattern.captured? line = some p ↔
        ∃ o : OpeningLine, o.text = line ∧ o.payload = p) ∧
      (∀ o o' : OpeningLine, o.text = line → o'.text = line → o = o') ∧
      payload? line = openingPattern.captured? line ∧
      fenceDepth? line = (fencePattern.captured? line).map List.length ∧
      isTerminator line = (terminatorPattern.captured? line).isSome ∧
      [fencePattern, openingPattern, terminatorPattern].Pairwise
        (fun P Q => P.captured? line = none ∨ Q.captured? line = none) := by
  refine ⟨fun p => captured?_opening_eq_some_iff hfeed, ?_, payload?_eq_captured? hfeed,
    fenceDepth?_eq_captured?, isTerminator_eq_captured?, pairwise_captured? line⟩
  intro o o' ho ho'
  exact OpeningLine.text_injective (ho.trans ho'.symm)

/-- A payload that holds percent signs and ends in a pair of them. -/
theorem opening_spec_percents :
    lineFeed ∉ Text.of "%%  50%% a%%%% " ∧
      payload? (Text.of "%%  50%% a%%%% ") = some (Text.of "50%% a%%") ∧
      ∀ o : OpeningLine, o.text = Text.of "%%  50%% a%%%% " → o.payload = Text.of "50%% a%%" := by
  have hfeed : lineFeed ∉ Text.of "%%  50%% a%%%% " := by decide
  obtain ⟨hcaptured, hunique, hpayload, -⟩ := opening_spec hfeed
  have hfound : ∃ o : OpeningLine, o.text = Text.of "%%  50%% a%%%% " ∧
      o.payload = Text.of "50%% a%%" := by
    refine ⟨⟨Text.of "  ", Text.of "50%% a%%", [], Text.of " ", by decide, by decide, by decide,
      by decide, ?_, ?_⟩, rfl, rfl⟩
    · intro c hc
      obtain rfl := Option.some.inj hc
      decide
    · intro c hc
      obtain rfl := Option.some.inj hc
      decide
  refine ⟨hfeed, hpayload.trans ((hcaptured _).2 hfound), ?_⟩
  intro o ho
  obtain ⟨o', ho', hpart⟩ := hfound
  rw [hunique o o' ho ho', hpart]

end TemplatedNotes.Section
