/-
  TemplatedNotes/Proofs/Section/Mark.lean
  =======================================
  **Reading a note in two passes: what each line means, then which sections that makes.**

  The reader of a note keeps the open fences and the pending section side by side in one pass.
  Here the two are taken apart.  `marksFrom` gives each line its mark: a visible line may open a
  section or be a terminator, and every other line is plain.  `sections` pairs marks without any
  state: an opening mark is closed by the first mark after it that is not plain, if that is a
  terminator.

    * `readLines_eq` — the reader is the second pass after the first;
    * `mem_sections` — the sections by position, with `closing_eq_some_iff` for their ends;
    * `marksFrom_append` — the open fences are all that the first pass carries along.
-/
import TemplatedNotes.Proofs.Action
import TemplatedNotes.Proofs.Section.Line
import TemplatedNotes.Section.Reference

namespace TemplatedNotes.Reference

/-! ### Marks -/

/-- What a line means for the sections of a note. -/
inductive Mark where
  | plain
  | opening (script : Text) (arguments : Value)
  | terminator

/-- What a visible line means. -/
def mark [Runtime] (line : Text) : Outcome Mark := do
  match ← opening? line with
  | some (script, arguments) => return .opening script arguments
  | none => return if Section.isTerminator line then .terminator else .plain

/-- The open fences after a line. -/
def fencesAfter (fences : List Nat) (line : Text) : List Nat :=
  match Section.fenceDepth? line with
  | some depth => afterFence fences depth
  | none => fences

/-- Whether a line is visible behind open fences: it is no fence and none is open. -/
def isVisible (fences : List Nat) (line : Text) : Bool :=
  (Section.fenceDepth? line).isNone && fences.isEmpty

/-- What a line means behind open fences. -/
def markBehind [Runtime] (fences : List Nat) (line : Text) : Outcome Mark :=
  if isVisible fences line then mark line else .ok .plain

/-- What lines mean behind open fences. -/
def marksFrom [Runtime] (fences : List Nat) : List Text → Outcome (List Mark)
  | [] => .ok []
  | line :: rest => do
    let m ← markBehind fences line
    let ms ← marksFrom (fencesAfter fences line) rest
    return m :: ms

theorem marksFrom_cons [Runtime] {fences : List Nat} {line : Text} {rest : List Text}
    {ms : List Mark} :
    marksFrom fences (line :: rest) = .ok ms ↔
      ∃ m ms', markBehind fences line = .ok m ∧
        marksFrom (fencesAfter fences line) rest = .ok ms' ∧ ms = m :: ms' := by
  rw [marksFrom, Outcome.bind_eq_ok]
  constructor
  · rintro ⟨m, hm, h⟩
    obtain ⟨ms', hms, h⟩ := Outcome.bind_eq_ok.1 h
    cases h
    exact ⟨m, ms', hm, hms, rfl⟩
  · rintro ⟨m, ms', hm, hms, rfl⟩
    exact ⟨m, hm, Outcome.bind_eq_ok.2 ⟨ms', hms, rfl⟩⟩

theorem length_marksFrom [Runtime] {fences : List Nat} {lines : List Text} {ms : List Mark}
    (h : marksFrom fences lines = .ok ms) : ms.length = lines.length := by
  induction lines generalizing fences ms with
  | nil =>
    cases h
    rfl
  | cons line rest ih =>
    obtain ⟨m, ms', -, hms, rfl⟩ := marksFrom_cons.1 h
    rw [List.length_cons, List.length_cons, ih hms]

/-- The second of two runs of lines is read behind the fences that the first one leaves open. -/
theorem marksFrom_append [Runtime] {fences : List Nat} {xs ys : List Text} {ms : List Mark} :
    marksFrom fences (xs ++ ys) = .ok ms ↔
      ∃ ms₁ ms₂, marksFrom fences xs = .ok ms₁ ∧
        marksFrom (xs.foldl fencesAfter fences) ys = .ok ms₂ ∧ ms = ms₁ ++ ms₂ := by
  induction xs generalizing fences ms with
  | nil =>
    constructor
    · intro h
      exact ⟨[], ms, rfl, h, rfl⟩
    · rintro ⟨ms₁, ms₂, h₁, h₂, rfl⟩
      cases h₁
      exact h₂
  | cons line rest ih =>
    rw [List.cons_append, marksFrom_cons]
    constructor
    · rintro ⟨m, ms', hm, hms, rfl⟩
      obtain ⟨ms₁, ms₂, h₁, h₂, rfl⟩ := ih.1 hms
      exact ⟨m :: ms₁, ms₂, marksFrom_cons.2 ⟨m, ms₁, hm, h₁, rfl⟩, h₂, rfl⟩
    · rintro ⟨ms₁, ms₂, h₁, h₂, rfl⟩
      obtain ⟨m, ms', hm, hms, rfl⟩ := marksFrom_cons.1 h₁
      exact ⟨m, ms' ++ ms₂, hm, ih.2 ⟨ms', ms₂, hms, h₂, rfl⟩, rfl⟩

/-! ### Sections -/

/-- How many marks after an opening mark its terminator comes, if it has one. -/
def closing : List Mark → Option Nat
  | [] => none
  | .plain :: rest => (closing rest).map (· + 1)
  | .opening _ _ :: _ => none
  | .terminator :: _ => some 0

/-- The sections that marks make, the first mark at an index. -/
def sections (source : Text) (index : Nat) : List Mark → List Reference
  | [] => []
  | .opening script arguments :: rest =>
    ⟨source, script, index, (closing rest).map (index + 1 + ·), arguments⟩ ::
      sections source (index + 1) rest
  | _ :: rest => sections source (index + 1) rest

/-- The terminator is the first mark that is not plain. -/
theorem closing_eq_some_iff {ms : List Mark} {j : Nat} :
    closing ms = some j ↔ ms[j]? = some .terminator ∧ ∀ i < j, ms[i]? = some .plain := by
  induction ms generalizing j with
  | nil => simp [closing]
  | cons m rest ih =>
    cases m with
    | plain =>
      cases j with
      | zero => simp [closing]
      | succ j =>
        have hmap : closing (.plain :: rest) = some (j + 1) ↔ closing rest = some j := by
          simp [closing]
        rw [hmap, ih, List.getElem?_cons_succ]
        refine and_congr_right (fun _ => ⟨fun h i hi => ?_, fun h i hi => ?_⟩)
        · cases i with
          | zero => rfl
          | succ i => exact h i (Nat.lt_of_succ_lt_succ hi)
        · exact h (i + 1) (Nat.succ_lt_succ hi)
    | opening script arguments =>
      constructor
      · intro h
        cases h
      · rintro ⟨hj, hi⟩
        cases j with
        | zero => cases hj
        | succ j => cases hi 0 (Nat.succ_pos j)
    | terminator =>
      constructor
      · intro h
        cases h
        exact ⟨rfl, fun i hi => absurd hi (Nat.not_lt_zero i)⟩
      · rintro ⟨hj, hi⟩
        cases j with
        | zero => rfl
        | succ j => cases hi 0 (Nat.succ_pos j)

theorem sections_cons {source : Text} {index : Nat} {m : Mark} (rest : List Mark)
    (h : ¬ ∃ script arguments, m = .opening script arguments) :
    sections source index (m :: rest) = sections source (index + 1) rest := by
  cases m with
  | opening script arguments => exact absurd ⟨script, arguments, rfl⟩ h
  | plain => rfl
  | terminator => rfl

theorem mem_sections {source : Text} {index : Nat} {ms : List Mark} {r : Reference} :
    r ∈ sections source index ms ↔
      ∃ i script arguments, ms[i]? = some (.opening script arguments) ∧
        r = ⟨source, script, index + i,
          (closing (ms.drop (i + 1))).map (index + i + 1 + ·), arguments⟩ := by
  induction ms generalizing index with
  | nil => simp [sections]
  | cons m rest ih =>
    have hrest : r ∈ sections source (index + 1) rest ↔
        ∃ i script arguments, (m :: rest)[i + 1]? = some (.opening script arguments) ∧
          r = ⟨source, script, index + (i + 1),
            (closing ((m :: rest).drop (i + 1 + 1))).map (index + (i + 1) + 1 + ·),
            arguments⟩ := by
      rw [ih]
      simp only [List.getElem?_cons_succ, List.drop_succ_cons]
      simp only [Nat.add_assoc, Nat.add_comm 1]
    by_cases ho : ∃ script arguments, m = .opening script arguments
    · obtain ⟨script, arguments, rfl⟩ := ho
      rw [sections, List.mem_cons, hrest]
      constructor
      · rintro (rfl | ⟨i, s, a, hi, rfl⟩)
        · exact ⟨0, script, arguments, rfl, rfl⟩
        · exact ⟨i + 1, s, a, hi, rfl⟩
      · rintro ⟨i, s, a, hi, rfl⟩
        cases i with
        | zero =>
          cases hi
          exact Or.inl rfl
        | succ i => exact Or.inr ⟨i, s, a, hi, rfl⟩
    · rw [sections_cons rest ho, hrest]
      constructor
      · rintro ⟨i, s, a, hi, rfl⟩
        exact ⟨i + 1, s, a, hi, rfl⟩
      · rintro ⟨i, s, a, hi, rfl⟩
        cases i with
        | zero => exact absurd ⟨s, a, Option.some.inj hi⟩ ho
        | succ i => exact ⟨i, s, a, hi, rfl⟩

theorem pairwise_sections (source : Text) (index : Nat) (ms : List Mark) :
    (sections source index ms).Pairwise (fun a b => a.start < b.start) := by
  induction ms generalizing index with
  | nil => exact List.Pairwise.nil
  | cons m rest ih =>
    by_cases ho : ∃ script arguments, m = .opening script arguments
    · obtain ⟨script, arguments, rfl⟩ := ho
      rw [sections, List.pairwise_cons]
      refine ⟨fun r hr => ?_, ih (index + 1)⟩
      obtain ⟨i, s, a, -, rfl⟩ := mem_sections.1 hr
      show index < index + 1 + i
      omega
    · rw [sections_cons rest ho]
      exact ih (index + 1)

/-! ### The reader -/

/-- A section after more marks, the first of them at an index. -/
def closedBy (r : Reference) (index : Nat) (ms : List Mark) : Reference :=
  match closing ms with
  | some j => { r with finish := some (index + j) }
  | none => r

theorem closedBy_plain (r : Reference) (index : Nat) (ms : List Mark) :
    closedBy r index (.plain :: ms) = closedBy r (index + 1) ms := by
  unfold closedBy
  rw [closing]
  cases closing ms with
  | none => rfl
  | some j =>
    show { r with finish := some (index + (j + 1)) } = { r with finish := some (index + 1 + j) }
    rw [Nat.add_assoc, Nat.add_comm 1 j]

/-- A section just opened is closed as the marks after its opening mark say. -/
theorem closedBy_opened (source script : Text) (start index : Nat) (arguments : Value)
    (ms : List Mark) :
    closedBy ⟨source, script, start, none, arguments⟩ index ms =
      ⟨source, script, start, (closing ms).map (index + ·), arguments⟩ := by
  unfold closedBy
  cases closing ms <;> rfl

/-- What a mark at an index makes of the sections read so far. -/
def Progress.afterMark (source : Text) (index : Nat) (p : Progress) : Mark → Progress
  | .plain => p
  | .opening script arguments =>
    { p with done := p.references, pending := some ⟨source, script, index, none, arguments⟩ }
  | .terminator => p.close index

theorem Progress.fences_afterMark (source : Text) (index : Nat) (p : Progress) (m : Mark) :
    (p.afterMark source index m).fences = p.fences := by
  cases m with
  | plain => rfl
  | opening script arguments => rfl
  | terminator =>
    obtain ⟨fences, done, pending⟩ := p
    cases pending <;> rfl

variable [Runtime]

/-- One step of the reader: the mark of the line, the sections after it, and the fences. -/
theorem step_eq (source : Text) (index : Nat) (p : Progress) (line : Text) :
    p.step source index line =
      (markBehind p.fences line).map (fun m =>
        { p.afterMark source index m with fences := fencesAfter p.fences line }) := by
  unfold Progress.step markBehind isVisible fencesAfter
  cases hd : Section.fenceDepth? line with
  | some depth => rfl
  | none =>
    cases hf : p.fences.isEmpty with
    | false => rfl
    | true =>
      simp only [Bool.not_true, Bool.false_eq_true, if_false, Option.isNone_none, Bool.and_self,
        if_true, mark]
      cases opening? line with
      | error f => rfl
      | ok o =>
        cases o with
        | some sa => rfl
        | none =>
          cases Section.isTerminator line with
          | false => rfl
          | true =>
            have hc := p.fences_afterMark source index .terminator
            show Except.ok (p.close index) = .ok { p.close index with fences := p.fences }
            rw [← hc]
            rfl

/-- All sections that are read from a line on: those read before, the pending one as the marks
    that follow close it, and those that the marks make. -/
theorem references_readFrom {source : Text} {index : Nat} {p : Progress} {lines : List Text} :
    (readFrom source index p lines).map Progress.references =
      (marksFrom p.fences lines).map (fun ms =>
        p.done ++ (p.pending.map (closedBy · index ms)).toList ++ sections source index ms) := by
  induction lines generalizing index p with
  | nil =>
    obtain ⟨fences, done, pending⟩ := p
    cases pending <;> simp [readFrom, marksFrom, Except.map, Progress.references, sections,
      closedBy, closing]
  | cons line rest ih =>
    rw [readFrom, step_eq, marksFrom]
    cases hm : markBehind p.fences line with
    | error f => rfl
    | ok m =>
      have hrest := @ih (index + 1)
        { p.afterMark source index m with fences := fencesAfter p.fences line }
      refine hrest.trans ?_
      show (marksFrom (fencesAfter p.fences line) rest).map _ =
        (marksFrom (fencesAfter p.fences line) rest >>= fun ms => pure (m :: ms)).map _
      cases marksFrom (fencesAfter p.fences line) rest with
      | error f => rfl
      | ok ms =>
        refine congrArg Except.ok ?_
        obtain ⟨fences, done, pending⟩ := p
        cases m with
        | plain => simp only [Progress.afterMark, closedBy_plain, sections]
        | opening script arguments =>
          have hp : pending.map (closedBy · index (.opening script arguments :: ms)) = pending := by
            cases pending <;> rfl
          simp only [Progress.afterMark, Progress.references, Option.map_some, closedBy_opened,
            sections, hp, Option.toList_some, List.append_assoc, List.singleton_append]
        | terminator =>
          cases pending with
          | none => rfl
          | some r =>
            simp [Progress.afterMark, Progress.close, closedBy, closing, sections]

/-- **The reader of a note is marking and then pairing.** -/
theorem readLines_eq (source : Text) (lines : List Text) :
    readLines source lines = (marksFrom [] lines).map (sections source 0) := by
  rw [readLines, references_readFrom]
  rfl

theorem readLines_eq_error (source : Text) {lines : List Text} {f : Failure}
    (h : marksFrom [] lines = .error f) : readLines source lines = .error f := by
  rw [readLines_eq, h]
  rfl

theorem readLines_eq_ok {source : Text} {lines : List Text} {rs : List Reference} :
    readLines source lines = .ok rs ↔
      ∃ ms, marksFrom [] lines = .ok ms ∧ rs = sections source 0 ms := by
  rw [readLines_eq, Outcome.map_eq_ok]
  exact exists_congr fun ms => and_congr_right fun _ => eq_comm

end TemplatedNotes.Reference
