/-
  TemplatedNotes/Proofs/Section/Reading.lean
  ==========================================
  **The sections of a note, said without reading it line by line.**

  A line is visible when it is no fence and the fences before it leave none open.  The sections of
  a note are its visible opening lines, each with the first visible terminator that comes after it
  before another section opens.

    * `IsSection` — what a section of some lines is;
    * `mem_iff_isSection` — the reader finds the sections and nothing else;
    * `read_spec` — the same for a whole note, with what follows for the order and the ends of
      sections and for terminators that close none.
-/
import Mathlib.Data.Nat.Find
import Mathlib.Order.Bounds.Basic
import TemplatedNotes.Proofs.Literal.Parser
import TemplatedNotes.Proofs.Section.Mark
import TemplatedNotes.Runtime.Usual

namespace TemplatedNotes.Reference

/-! ### Visible lines -/

/-- The fences that the lines before an index leave open. -/
def fencesBefore (lines : List Text) (i : Nat) : List Nat := (lines.take i).foldl fencesAfter []

/-- A line stands at an index and is visible there. -/
def VisibleAt (lines : List Text) (i : Nat) (line : Text) : Prop :=
  lines[i]? = some line ∧ Section.fenceDepth? line = none ∧ fencesBefore lines i = []

section

variable [Runtime]

/-- A section opens at an index: a visible line has the form of an opening line and its arguments
    give the key of the script a text that is not empty. -/
def OpensAt (lines : List Text) (i : Nat) (script : Text) (arguments : Value) : Prop :=
  ∃ line payload, VisibleAt lines i line ∧ Section.payload? line = some payload ∧
    Literal.evaluate payload = .ok arguments ∧
    Entries.get? (Arguments.entriesOf arguments) (.text Arguments.templateKey) =
      some (.text script) ∧ script ≠ []

/-- A visible terminator stands at an index. -/
def EndsAt (lines : List Text) (j : Nat) : Prop :=
  ∃ line, VisibleAt lines j line ∧ Section.isTerminator line = true

/-- A visible terminator after an opening line, with no other opening line between the two. -/
def CanCloseAt (lines : List Text) (i j : Nat) : Prop :=
  i < j ∧ EndsAt lines j ∧
    ∀ k, i < k → k < j → ¬ ∃ script arguments, OpensAt lines k script arguments

/-- A section of some lines of a note. -/
structure IsSection (source : Text) (lines : List Text) (r : Reference) : Prop where
  source_eq : r.source = source
  opensAt : OpensAt lines r.start r.script r.arguments
  finish_iff : ∀ j, r.finish = some j ↔ IsLeast {j | CanCloseAt lines r.start j} j
  finish_none : r.finish = none ↔ ∀ j, ¬ CanCloseAt lines r.start j

/-- A line that means nothing for sections, even when it is visible. -/
structure IsPlain (line : Text) : Prop where
  no_fence : Section.fenceDepth? line = none
  mark_eq : mark line = .ok .plain

/-! ### Marks by position -/

omit [Runtime] in
theorem template?_eq_some_iff {v : Value} {script : Text} :
    Arguments.template? v = some script ↔
      Entries.get? (Arguments.entriesOf v) (.text Arguments.templateKey) = some (.text script) ∧
        script ≠ [] := by
  unfold Arguments.template?
  split
  · next t ht =>
    rw [ht]
    constructor
    · intro h
      split at h
      · cases h
      · next hne =>
        cases h
        exact ⟨rfl, fun e => hne (by rw [e]; rfl)⟩
    · rintro ⟨h, hne⟩
      cases h
      rw [if_neg (fun he => hne (List.isEmpty_iff.1 he))]
  · next hno =>
    constructor
    · intro h
      cases h
    · rintro ⟨h, -⟩
      exact absurd h (hno script)

theorem opening?_eq_some_iff {line script : Text} {arguments : Value} :
    opening? line = .ok (some (script, arguments)) ↔
      ∃ payload, Section.payload? line = some payload ∧
        Literal.evaluate payload = .ok arguments ∧
        Arguments.template? arguments = some script := by
  unfold opening?
  cases Section.payload? line with
  | none =>
    constructor
    · intro h
      cases h
    · rintro ⟨payload, h, -⟩
      cases h
  | some payload =>
    rw [Outcome.bind_eq_ok]
    constructor
    · rintro ⟨v, hv, h⟩
      have hmap : (Arguments.template? v).map (fun s => (s, v)) = some (script, arguments) :=
        Except.ok.inj h
      obtain ⟨s, hs, he⟩ := Option.map_eq_some_iff.1 hmap
      cases he
      exact ⟨payload, rfl, hv, hs⟩
    · rintro ⟨payload', hp, hv, hs⟩
      cases hp
      exact ⟨arguments, hv, by rw [hs]; rfl⟩

theorem mark_eq_opening_iff {line script : Text} {arguments : Value} :
    mark line = .ok (.opening script arguments) ↔
      opening? line = .ok (some (script, arguments)) := by
  unfold mark
  rw [Outcome.bind_eq_ok]
  constructor
  · rintro ⟨o, ho, h⟩
    rcases o with _ | ⟨s, a⟩
    · cases ht : Section.isTerminator line with
      | true =>
        rw [ht] at h
        cases h
      | false =>
        rw [ht] at h
        cases h
    · cases h
      exact ho
  · intro h
    exact ⟨_, h, rfl⟩

/-- A terminator is no opening line, so its form alone makes it one. -/
theorem mark_eq_terminator_iff {line : Text} :
    mark line = .ok .terminator ↔ Section.isTerminator line = true := by
  unfold mark
  rw [Outcome.bind_eq_ok]
  constructor
  · rintro ⟨o, ho, h⟩
    rcases o with _ | ⟨s, a⟩
    · cases ht : Section.isTerminator line with
      | true => rfl
      | false =>
        rw [ht] at h
        cases h
    · cases h
  · intro h
    refine ⟨none, ?_, by rw [h]; rfl⟩
    rw [opening?, Section.payload?_of_isTerminator h]

/-- A line at an index has the mark that it has behind the fences before it. -/
theorem getElem?_marksFrom {fences : List Nat} {lines : List Text} {ms : List Mark}
    (h : marksFrom fences lines = .ok ms) {i : Nat} {m : Mark} :
    ms[i]? = some m ↔
      ∃ line, lines[i]? = some line ∧
        markBehind ((lines.take i).foldl fencesAfter fences) line = .ok m := by
  induction lines generalizing fences ms i with
  | nil =>
    cases h
    simp
  | cons line rest ih =>
    obtain ⟨m', ms', hm, hms, rfl⟩ := marksFrom_cons.1 h
    cases i with
    | zero =>
      constructor
      · intro he
        cases he
        exact ⟨line, rfl, hm⟩
      · rintro ⟨line', hl, hm'⟩
        cases hl
        exact congrArg some (Except.ok.inj (hm.symm.trans hm'))
    | succ i => exact ih hms

/-- A mark that is not plain belongs to a visible line. -/
theorem markBehind_eq_ok_iff {fences : List Nat} {line : Text} {m : Mark} (hm : m ≠ .plain) :
    markBehind fences line = .ok m ↔
      (Section.fenceDepth? line = none ∧ fences = []) ∧ mark line = .ok m := by
  have hv : isVisible fences line = true ↔ Section.fenceDepth? line = none ∧ fences = [] := by
    simp [isVisible]
  unfold markBehind
  split
  · next h => exact ⟨fun he => ⟨hv.1 h, he⟩, fun he => he.2⟩
  · next h =>
    constructor
    · intro he
      exact absurd (Except.ok.inj he).symm hm
    · rintro ⟨he, -⟩
      exact absurd (hv.2 he) h

theorem opensAt_iff {lines : List Text} {ms : List Mark} (h : marksFrom [] lines = .ok ms)
    {i : Nat} {script : Text} {arguments : Value} :
    OpensAt lines i script arguments ↔ ms[i]? = some (.opening script arguments) := by
  rw [getElem?_marksFrom h]
  simp only [markBehind_eq_ok_iff (m := .opening script arguments) (by simp),
    mark_eq_opening_iff, opening?_eq_some_iff, template?_eq_some_iff]
  constructor
  · rintro ⟨line, payload, ⟨hl, hd, hf⟩, hp, hv, hs, hne⟩
    exact ⟨line, hl, ⟨hd, hf⟩, payload, hp, hv, hs, hne⟩
  · rintro ⟨line, hl, ⟨hd, hf⟩, payload, hp, hv, hs, hne⟩
    exact ⟨line, payload, ⟨hl, hd, hf⟩, hp, hv, hs, hne⟩

theorem endsAt_iff {lines : List Text} {ms : List Mark} (h : marksFrom [] lines = .ok ms)
    {j : Nat} : EndsAt lines j ↔ ms[j]? = some .terminator := by
  rw [getElem?_marksFrom h]
  simp only [markBehind_eq_ok_iff (m := .terminator) (by simp), mark_eq_terminator_iff]
  constructor
  · rintro ⟨line, ⟨hl, hd, hf⟩, ht⟩
    exact ⟨line, hl, ⟨hd, hf⟩, ht⟩
  · rintro ⟨line, hl, ⟨hd, hf⟩, ht⟩
    exact ⟨line, ⟨hl, hd, hf⟩, ht⟩

/-! ### Notes that cannot be read -/

theorem opening?_eq_error_iff {line : Text} {f : Failure} :
    opening? line = .error f ↔
      ∃ payload, Section.payload? line = some payload ∧ Literal.evaluate payload = .error f := by
  unfold opening?
  cases Section.payload? line with
  | none =>
    constructor
    · intro h
      cases h
    · rintro ⟨payload, h, -⟩
      cases h
  | some payload =>
    constructor
    · intro h
      rcases Outcome.bind_eq_error.1 h with h | ⟨arguments, -, h⟩
      · exact ⟨payload, rfl, h⟩
      · cases h
    · rintro ⟨payload', hp, h⟩
      cases hp
      exact Outcome.bind_eq_error.2 (Or.inl h)

theorem mark_eq_error_iff {line : Text} {f : Failure} :
    mark line = .error f ↔ opening? line = .error f := by
  constructor
  · intro h
    rcases Outcome.bind_eq_error.1 h with h | ⟨o, -, h⟩
    · exact h
    · rcases o with _ | ⟨script, arguments⟩
      · cases h
      · cases h
  · intro h
    exact Outcome.bind_eq_error.2 (Or.inl h)

theorem markBehind_eq_error_iff {fences : List Nat} {line : Text} {f : Failure} :
    markBehind fences line = .error f ↔
      (Section.fenceDepth? line = none ∧ fences = []) ∧ opening? line = .error f := by
  have hv : isVisible fences line = true ↔ Section.fenceDepth? line = none ∧ fences = [] := by
    simp [isVisible]
  unfold markBehind
  by_cases h : isVisible fences line = true
  · rw [if_pos h, mark_eq_error_iff]
    exact ⟨fun he => ⟨hv.1 h, he⟩, fun he => he.2⟩
  · rw [if_neg h]
    constructor
    · intro he
      cases he
    · rintro ⟨he, -⟩
      exact absurd (hv.2 he) h

/-- The marks of lines fail at the first line that cannot be read. -/
theorem marksFrom_eq_error_iff {fences : List Nat} {lines : List Text} {f : Failure} :
    marksFrom fences lines = .error f ↔
      ∃ i line, lines[i]? = some line ∧
        markBehind ((lines.take i).foldl fencesAfter fences) line = .error f ∧
        ∃ ms, marksFrom fences (lines.take i) = .ok ms := by
  induction lines generalizing fences with
  | nil =>
    constructor
    · intro h
      cases h
    · rintro ⟨i, line, h, -⟩
      cases h
  | cons first rest ih =>
    constructor
    · intro h
      rcases Outcome.bind_eq_error.1 h with h | ⟨m, hm, h⟩
      · exact ⟨0, first, rfl, h, [], rfl⟩
      · rcases Outcome.bind_eq_error.1 h with h | ⟨ms, -, h⟩
        · obtain ⟨i, line, hl, hline, ms, hms⟩ := ih.1 h
          exact ⟨i + 1, line, hl, hline, m :: ms, marksFrom_cons.2 ⟨m, ms, hm, hms, rfl⟩⟩
        · cases h
    · rintro ⟨i, line, hl, hline, ms, hms⟩
      cases i with
      | zero =>
        cases hl
        exact Outcome.bind_eq_error.2 (Or.inl hline)
      | succ i =>
        obtain ⟨m, ms', hm, hms', -⟩ := marksFrom_cons.1 hms
        have hrest : marksFrom (fencesAfter fences first) rest = .error f :=
          ih.2 ⟨i, line, hl, hline, ms', hms'⟩
        exact Outcome.bind_eq_error.2
          (Or.inr ⟨m, hm, Outcome.bind_eq_error.2 (Or.inl hrest)⟩)

/-- Reading fails only where the arguments of a visible opening line do. -/
theorem kindName_of_marksFrom_eq_error {fences : List Nat} {lines : List Text} {f : Failure}
    (h : marksFrom fences lines = .error f) : f.kindName = Text.of "OverflowError" := by
  obtain ⟨i, line, -, hline, -⟩ := marksFrom_eq_error_iff.1 h
  obtain ⟨-, hopening⟩ := markBehind_eq_error_iff.1 hline
  obtain ⟨payload, -, hpayload⟩ := opening?_eq_error_iff.1 hopening
  exact Literal.kindName_of_evaluate_eq_error hpayload

/-! ### The end of a section -/

/-- **The mark that closes a section** is the least place where a terminator can close it. -/
theorem closing_eq_some_iff_isLeast {lines : List Text} {ms : List Mark}
    (h : marksFrom [] lines = .ok ms) {i j : Nat} :
    (closing (ms.drop (i + 1))).map (i + 1 + ·) = some j ↔
      IsLeast {j | CanCloseAt lines i j} j := by
  simp only [Option.map_eq_some_iff, closing_eq_some_iff, List.getElem?_drop]
  constructor
  · rintro ⟨d, ⟨hd, hplain⟩, rfl⟩
    have hbetween : ∀ k, i < k → k < i + 1 + d → ms[k]? = some .plain := by
      intro k hik hkj
      have hk := hplain (k - (i + 1)) (by omega)
      rwa [show i + 1 + (k - (i + 1)) = k by omega] at hk
    refine ⟨⟨by omega, (endsAt_iff h).2 hd, fun k hik hkj => ?_⟩, fun k hk => ?_⟩
    · rintro ⟨s, a, ho⟩
      have ho' := (opensAt_iff h).1 ho
      rw [hbetween k hik hkj] at ho'
      cases ho'
    · -- an earlier terminator would stand among plain lines
      obtain ⟨hik, hend, -⟩ := hk
      by_contra hlt
      have hend' := (endsAt_iff h).1 hend
      rw [hbetween k hik (by omega)] at hend'
      cases hend'
  · rintro ⟨⟨hij, hend, hno⟩, hleast⟩
    have hd := (endsAt_iff h).1 hend
    refine ⟨j - (i + 1), ⟨by rwa [show i + 1 + (j - (i + 1)) = j by omega], fun k hk => ?_⟩,
      by omega⟩
    have hkj : i + 1 + k < j := by omega
    obtain ⟨hlen, -⟩ := List.getElem?_eq_some_iff.1 hd
    have hmark : ms[i + 1 + k]? = some ms[i + 1 + k] :=
      List.getElem?_eq_getElem (by omega)
    cases hm : ms[i + 1 + k] with
    | plain => rw [hmark, hm]
    | opening s a =>
      exact absurd ⟨s, a, (opensAt_iff h).2 (by rw [hmark, hm])⟩ (hno _ (by omega) hkj)
    | terminator =>
      have hcan : CanCloseAt lines i (i + 1 + k) :=
        ⟨by omega, (endsAt_iff h).2 (by rw [hmark, hm]), fun k' h₁ h₂ => hno k' h₁ (by omega)⟩
      have hle := hleast hcan
      omega

theorem closing_eq_none_iff {lines : List Text} {ms : List Mark}
    (h : marksFrom [] lines = .ok ms) {i : Nat} :
    (closing (ms.drop (i + 1))).map (i + 1 + ·) = none ↔ ∀ j, ¬ CanCloseAt lines i j := by
  constructor
  · intro hnone j hj
    -- a nonempty set of places has a least one
    classical
    have hex : ∃ j, CanCloseAt lines i j := ⟨j, hj⟩
    have hleast : IsLeast {j | CanCloseAt lines i j} (Nat.find hex) :=
      ⟨Nat.find_spec hex, fun k hk => Nat.find_min' hex hk⟩
    rw [← closing_eq_some_iff_isLeast h, hnone] at hleast
    cases hleast
  · intro hno
    cases hc : (closing (ms.drop (i + 1))).map (i + 1 + ·) with
    | none => rfl
    | some j => exact absurd ((closing_eq_some_iff_isLeast h).1 hc).1 (hno j)

/-- **The reader finds the sections and nothing else.** -/
theorem mem_iff_isSection {source : Text} {lines : List Text} {rs : List Reference}
    (h : readLines source lines = .ok rs) (r : Reference) :
    r ∈ rs ↔ IsSection source lines r := by
  obtain ⟨ms, hms, rfl⟩ := readLines_eq_ok.1 h
  rw [mem_sections]
  simp only [Nat.zero_add]
  constructor
  · rintro ⟨i, s, a, hi, rfl⟩
    exact ⟨rfl, (opensAt_iff hms).2 hi, fun j => closing_eq_some_iff_isLeast hms,
      closing_eq_none_iff hms⟩
  · rintro ⟨hsource, hopens, hfinish, -⟩
    refine ⟨r.start, r.script, r.arguments, (opensAt_iff hms).1 hopens, ?_⟩
    have hend : r.finish = (closing (ms.drop (r.start + 1))).map (r.start + 1 + ·) :=
      Option.ext (fun j => (hfinish j).trans (closing_eq_some_iff_isLeast hms).symm)
    rw [← hend, ← hsource]

/-! ### The order of sections -/

theorem pairwise_start {source : Text} {lines : List Text} {rs : List Reference}
    (h : readLines source lines = .ok rs) : rs.Pairwise (fun a b => a.start < b.start) := by
  obtain ⟨ms, -, rfl⟩ := readLines_eq_ok.1 h
  exact pairwise_sections source 0 ms

theorem not_opensAt_of_endsAt {lines : List Text} {j : Nat} (h : EndsAt lines j) {script : Text}
    {arguments : Value} : ¬ OpensAt lines j script arguments := by
  rintro ⟨line, payload, hv, hp, -⟩
  obtain ⟨line', hv', ht⟩ := h
  have hl : line' = line := Option.some.inj (hv'.1.symm.trans hv.1)
  rw [← hl, Section.payload?_of_isTerminator ht] at hp
  cases hp

theorem IsSection.start_lt_finish {source : Text} {lines : List Text} {r : Reference}
    (h : IsSection source lines r) {j : Nat} (hj : r.finish = some j) : r.start < j :=
  ((h.finish_iff j).1 hj).1.1

theorem IsSection.finish_lt_start {source : Text} {lines : List Text} {a b : Reference}
    (ha : IsSection source lines a) (hb : IsSection source lines b) (hlt : a.start < b.start)
    {j : Nat} (hj : a.finish = some j) : j < b.start := by
  obtain ⟨-, hend, hno⟩ := ((ha.finish_iff j).1 hj).1
  by_contra hle
  have hne : b.start ≠ j := by
    rintro rfl
    exact not_opensAt_of_endsAt hend hb.opensAt
  exact hno b.start hlt (by omega) ⟨b.script, b.arguments, hb.opensAt⟩

theorem pairwise_finish {source : Text} {lines : List Text} {rs : List Reference}
    (h : readLines source lines = .ok rs) :
    rs.Pairwise (fun a b => ∀ j, a.finish = some j → j < b.start) := by
  refine (pairwise_start h).imp_of_mem ?_
  intro a b ha hb hlt j hj
  exact ((mem_iff_isSection h a).1 ha).finish_lt_start ((mem_iff_isSection h b).1 hb) hlt hj

/-! ### Terminators that close nothing -/

omit [Runtime] in
theorem closing_set {ms : List Mark} {j : Nat} (hj : ms[j]? = some .terminator)
    (hne : closing ms ≠ some j) : closing (ms.set j .plain) = closing ms := by
  induction ms generalizing j with
  | nil => cases hj
  | cons m rest ih =>
    cases j with
    | zero =>
      cases hj
      exact absurd rfl hne
    | succ j =>
      cases m with
      | plain =>
        have hrest : closing rest ≠ some j := by
          intro he
          exact hne (by rw [closing, he]; rfl)
        rw [List.set_cons_succ, closing, closing, ih hj hrest]
      | opening script arguments => rfl
      | terminator => rfl

omit [Runtime] in
theorem sections_set {source : Text} {index : Nat} {ms : List Mark} {j : Nat}
    (hj : ms[j]? = some .terminator)
    (hno : ∀ r ∈ sections source index ms, r.finish ≠ some (index + j)) :
    sections source index (ms.set j .plain) = sections source index ms := by
  induction ms generalizing index j with
  | nil => cases hj
  | cons m rest ih =>
    cases j with
    | zero =>
      cases hj
      rfl
    | succ j =>
      have hindex : index + (j + 1) = index + 1 + j := by omega
      have hj' : rest[j]? = some .terminator := hj
      rw [List.set_cons_succ]
      by_cases ho : ∃ script arguments, m = .opening script arguments
      · obtain ⟨script, arguments, rfl⟩ := ho
        rw [sections] at hno
        have hrest : ∀ r ∈ sections source (index + 1) rest, r.finish ≠ some (index + 1 + j) :=
          fun r hr => hindex ▸ hno r (List.mem_cons_of_mem _ hr)
        have hclosing : closing rest ≠ some j := by
          intro he
          exact hno _ List.mem_cons_self (by rw [he, hindex]; rfl)
        rw [sections, sections, closing_set hj' hclosing, ih hj' hrest]
      · rw [sections_cons rest ho] at hno
        rw [sections_cons _ ho, sections_cons rest ho]
        exact ih hj' (fun r hr => hindex ▸ hno r hr)

/-- A plain line in the place of one that is no fence is a plain mark in its place. -/
theorem marksFrom_set {fences : List Nat} {lines : List Text} {ms : List Mark}
    (h : marksFrom fences lines = .ok ms) {j : Nat} {line plain : Text}
    (hl : lines[j]? = some line) (hd : Section.fenceDepth? line = none) (hplain : IsPlain plain) :
    marksFrom fences (lines.set j plain) = .ok (ms.set j .plain) := by
  induction lines generalizing fences ms j with
  | nil => cases hl
  | cons first rest ih =>
    obtain ⟨m, ms', hm, hms, rfl⟩ := marksFrom_cons.1 h
    cases j with
    | zero =>
      cases hl
      refine marksFrom_cons.2 ⟨.plain, ms', ?_, ?_, rfl⟩
      · unfold markBehind
        split
        · exact hplain.mark_eq
        · rfl
      · rw [fencesAfter, hplain.no_fence]
        rwa [fencesAfter, hd] at hms
    | succ j => exact marksFrom_cons.2 ⟨m, ms'.set j .plain, hm, ih hms hl, rfl⟩

/-- A terminator that closes no section means nothing: any plain line may stand in its place. -/
theorem readLines_set {source : Text} {lines : List Text} {rs : List Reference}
    (h : readLines source lines = .ok rs) {j : Nat} {plain : Text} (hj : EndsAt lines j)
    (hno : ∀ r ∈ rs, r.finish ≠ some j) (hplain : IsPlain plain) :
    readLines source (lines.set j plain) = .ok rs := by
  obtain ⟨ms, hms, rfl⟩ := readLines_eq_ok.1 h
  have hmark := (endsAt_iff hms).1 hj
  obtain ⟨line, ⟨hl, hd, -⟩, -⟩ := hj
  refine readLines_eq_ok.2 ⟨ms.set j .plain, marksFrom_set hms hl hd hplain, ?_⟩
  exact (sections_set hmark (fun r hr => by rw [Nat.zero_add]; exact hno r hr)).symm

/-! ### The sections of a note -/

/-- **The sections of a note.**  They are its visible opening lines in order, each with the first
    visible terminator that can close it.  So a section ends behind its opening line and before
    the next section opens, no terminator ends two sections, and one that ends none could as well
    be any plain line. -/
theorem read_spec {source text : Text} {rs : List Reference} (h : read source text = .ok rs) :
    rs.Pairwise (fun a b => a.start < b.start) ∧
    (∀ r, r ∈ rs ↔ IsSection source (Line.split text) r) ∧
    (∀ r ∈ rs, ∀ j, r.finish = some j → r.start < j) ∧
    rs.Pairwise (fun a b => ∀ j, a.finish = some j → j < b.start) ∧
    rs.Pairwise (fun a b => ∀ j, a.finish = some j → b.finish ≠ some j) ∧
    (∀ j plain, EndsAt (Line.split text) j → (∀ r ∈ rs, r.finish ≠ some j) → IsPlain plain →
      readLines source ((Line.split text).set j plain) = .ok rs) := by
  have hsection := mem_iff_isSection h
  refine ⟨pairwise_start h, hsection, fun r hr j hj => ?_, pairwise_finish h, ?_, ?_⟩
  · exact ((hsection r).1 hr).start_lt_finish hj
  · refine (pairwise_finish h).imp_of_mem ?_
    intro a b ha hb hlt j hja hjb
    have hbefore := hlt j hja
    have hafter := ((hsection b).1 hb).start_lt_finish hjb
    omega
  · intro j plain hj hno hplain
    exact readLines_set h hj hno hplain

end

attribute [local instance] Runtime.usual

/-- A note with a hidden opening line, a terminator that closes nothing, a section without a
    terminator and one with its own. -/
def mixedNote : Text :=
  Text.of ("```\n%% template: 'x' %%\n```\n%%%%\n%% template: 'a' %%\n" ++
    "%% template: 'b' %%\nold\n%%%%")

theorem read_spec_mixedNote :
    ∃ rs, read (Text.of "n.md") mixedNote = .ok rs ∧
      rs.map (fun r => (r.start, r.finish)) = [(4, none), (5, some 7)] ∧
      ∀ r, r ∈ rs ↔ IsSection (Text.of "n.md") (Line.split mixedNote) r := by
  have hs : (read (Text.of "n.md") mixedNote).toOption.map
      (List.map (fun r => (r.start, r.finish))) = some [(4, none), (5, some 7)] := by
    decide +kernel
  cases h : read (Text.of "n.md") mixedNote with
  | error f =>
    rw [h] at hs
    cases hs
  | ok rs =>
    rw [h] at hs
    exact ⟨rs, rfl, Option.some.inj hs, (read_spec h).2.1⟩

end TemplatedNotes.Reference
