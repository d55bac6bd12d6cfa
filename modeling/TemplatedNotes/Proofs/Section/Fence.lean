/-
  TemplatedNotes/Proofs/Section/Fence.lean
  ========================================
  **A fenced block is invisible, at every depth.**

  The open fences are no plain stack: a fence line takes away the open fence of its depth wherever
  it stands, with all that was opened inside.  What holds through the lines of a block is weaker
  than "the stack comes back": the fences that were open when the block began, and the fence of
  the block itself, stay at the bottom (`isPrefix_foldl_fencesAfter`), as long as no line inside
  has the depth of one of them.  So no line inside is visible, and the closing fence leaves the
  reader as it was (`readFrom_fencedBlock`).

  The lines behind the block are then read as without it, at greater line numbers: a reader that
  starts later finds the same sections, moved (`step_moved` for a line, `readFrom_moved` for all).
  So lines that leave the reader as it was change nothing else, wherever they stand
  (`readLines_insert`).
-/
import TemplatedNotes.Proofs.Section.Reading
import TemplatedNotes.Runtime.Usual

namespace TemplatedNotes.Reference

/-! ### The bottom of the open fences -/

theorem bne_of_not_mem {fences : List Nat} {depth : Nat} (h : depth ∉ fences) :
    ∀ d ∈ fences, (d != depth) = true := by
  intro d hd
  have hne : d ≠ depth := by
    intro he
    exact h (he ▸ hd)
  simpa using hne

theorem isPrefix_fencesAfter {bottom fences : List Nat} {line : Text} (h : bottom <+: fences)
    (hline : ∀ depth ∈ Section.fenceDepth? line, depth ∉ bottom) :
    bottom <+: fencesAfter fences line := by
  unfold fencesAfter
  cases hd : Section.fenceDepth? line with
  | none => exact h
  | some depth =>
    have hnot : depth ∉ bottom := hline depth hd
    obtain ⟨inner, rfl⟩ := h
    show bottom <+: afterFence (bottom ++ inner) depth
    by_cases hmem : depth ∈ bottom ++ inner
    · -- the fence that is closed stands above the bottom
      rw [afterFence_of_mem hmem, List.takeWhile_append_of_pos (bne_of_not_mem hnot)]
      exact List.prefix_append _ _
    · rw [afterFence_of_not_mem hmem, List.append_assoc]
      exact List.prefix_append _ _

theorem isPrefix_foldl_fencesAfter {bottom fences : List Nat} {lines : List Text}
    (h : bottom <+: fences)
    (hlines : ∀ line ∈ lines, ∀ depth ∈ Section.fenceDepth? line, depth ∉ bottom) :
    bottom <+: lines.foldl fencesAfter fences := by
  induction lines generalizing fences with
  | nil => exact h
  | cons line rest ih =>
    apply ih
    · exact isPrefix_fencesAfter h (hlines line List.mem_cons_self)
    · intro l hl
      exact hlines l (List.mem_cons_of_mem line hl)

/-- The fence of a block, closed after lines that leave it open, takes all that was opened in the
    block with it. -/
theorem fencesAfter_of_isPrefix {fences stack : List Nat} {depth : Nat} {line : Text}
    (hd : Section.fenceDepth? line = some depth) (hnot : depth ∉ fences)
    (h : fences ++ [depth] <+: stack) : fencesAfter stack line = fences := by
  obtain ⟨inner, rfl⟩ := h
  rw [fencesAfter, hd]
  show afterFence (fences ++ [depth] ++ inner) depth = fences
  rw [afterFence_of_mem (by simp), List.append_assoc,
    List.takeWhile_append_of_pos (bne_of_not_mem hnot)]
  simp

/-! ### Reading what is hidden -/

theorem readFrom_append [Runtime] (source : Text) (index : Nat) (p : Progress) (xs ys : List Text) :
    readFrom source index p (xs ++ ys) =
      readFrom source index p xs >>= fun q => readFrom source (index + xs.length) q ys := by
  induction xs generalizing index p with
  | nil => rfl
  | cons line rest ih =>
    have hindex : index + (line :: rest).length = index + 1 + rest.length := by
      rw [List.length_cons]
      omega
    rw [List.cons_append, readFrom, readFrom, hindex]
    cases p.step source index line with
    | error f => rfl
    | ok q => exact ih (index + 1) q

theorem step_hidden [Runtime] (source : Text) (index : Nat) {p : Progress} (h : p.fences ≠ [])
    (line : Text) :
    p.step source index line = .ok { p with fences := fencesAfter p.fences line } := by
  have hvisible : isVisible p.fences line = false := by
    unfold isVisible
    cases hf : p.fences with
    | nil => exact absurd hf h
    | cons d rest => simp
  rw [step_eq, markBehind, hvisible]
  rfl

/-- Lines behind a fence that none of them closes change nothing but the open fences. -/
theorem readFrom_hidden [Runtime] {source : Text} {index : Nat} {p : Progress} {bottom : List Nat}
    {lines : List Text} (hne : bottom ≠ []) (hp : bottom <+: p.fences)
    (hlines : ∀ line ∈ lines, ∀ depth ∈ Section.fenceDepth? line, depth ∉ bottom) :
    readFrom source index p lines = .ok { p with fences := lines.foldl fencesAfter p.fences } := by
  induction lines generalizing index p with
  | nil => rfl
  | cons line rest ih =>
    have hopen : p.fences ≠ [] := by
      intro hnil
      rw [hnil] at hp
      exact hne (List.prefix_nil.1 hp)
    have hnext : bottom <+: fencesAfter p.fences line :=
      isPrefix_fencesAfter hp (hlines line List.mem_cons_self)
    rw [readFrom, step_hidden source index hopen line]
    apply ih (p := { p with fences := fencesAfter p.fences line })
    · exact hnext
    · intro l hl
      exact hlines l (List.mem_cons_of_mem line hl)

theorem step_fence [Runtime] (source : Text) (index : Nat) (p : Progress) {line : Text}
    {depth : Nat}
    (hd : Section.fenceDepth? line = some depth) :
    p.step source index line = .ok { p with fences := fencesAfter p.fences line } := by
  have hvisible : isVisible p.fences line = false := by
    simp [isVisible, hd]
  rw [step_eq, markBehind, hvisible]
  rfl

/-- **A fenced block leaves the reader as it was.** -/
theorem readFrom_fencedBlock [Runtime] {source : Text} {index : Nat} {p : Progress} {depth : Nat}
    {opener closer : Text} {body : List Text} (hopen : Section.fenceDepth? opener = some depth)
    (hclose : Section.fenceDepth? closer = some depth) (hdepth : depth ∉ p.fences)
    (hbody : ∀ line ∈ body, ∀ d ∈ Section.fenceDepth? line, d ≠ depth ∧ d ∉ p.fences) :
    readFrom source index p (opener :: body ++ [closer]) = .ok p := by
  have hfirst : fencesAfter p.fences opener = p.fences ++ [depth] := by
    rw [fencesAfter, hopen]
    exact afterFence_of_not_mem hdepth
  have hlines : ∀ line ∈ body, ∀ d ∈ Section.fenceDepth? line, d ∉ p.fences ++ [depth] := by
    intro line hl d hd hmem
    obtain ⟨hne, hnot⟩ := hbody line hl d hd
    rcases List.mem_append.1 hmem with hmem | hmem
    · exact hnot hmem
    · exact hne (List.mem_singleton.1 hmem)
  have hstack : p.fences ++ [depth] <+: body.foldl fencesAfter (p.fences ++ [depth]) :=
    isPrefix_foldl_fencesAfter (List.prefix_refl _) hlines
  have hinside : readFrom source (index + 1) { p with fences := p.fences ++ [depth] } body =
      .ok { p with fences := body.foldl fencesAfter (p.fences ++ [depth]) } :=
    readFrom_hidden (by simp) (List.prefix_refl _) hlines
  have hlast := step_fence source (index + 1 + body.length)
    { p with fences := body.foldl fencesAfter (p.fences ++ [depth]) } hclose
  rw [fencesAfter_of_isPrefix hclose hdepth hstack] at hlast
  rw [List.cons_append, readFrom, step_fence source index p hopen, hfirst]
  show readFrom source (index + 1) _ (body ++ [closer]) = _
  rw [readFrom_append, hinside]
  show readFrom source (index + 1 + body.length) _ [closer] = _
  rw [readFrom, hlast]
  rfl

/-! ### Sections that move -/

/-- The number of a line when `count` lines are put in front of the line `start`. -/
def moveIndex (start count i : Nat) : Nat := if start ≤ i then i + count else i

/-- A section when `count` lines are put in front of the line `start`. -/
def moved (start count : Nat) (r : Reference) : Reference :=
  { r with start := moveIndex start count r.start, finish := r.finish.map (moveIndex start count) }

def Progress.moved (start count : Nat) (p : Progress) : Progress :=
  ⟨p.fences, p.done.map (Reference.moved start count), p.pending.map (Reference.moved start count)⟩

theorem moveIndex_of_le {start i : Nat} (h : start ≤ i) (count : Nat) :
    moveIndex start count i = i + count := if_pos h

theorem moveIndex_of_lt {start i : Nat} (h : i < start) (count : Nat) :
    moveIndex start count i = i := if_neg (Nat.not_le.2 h)

theorem moveIndex_lt_or_le (start count i : Nat) :
    moveIndex start count i < start ∨ start + count ≤ moveIndex start count i := by
  by_cases h : start ≤ i
  · rw [moveIndex_of_le h]
    omega
  · rw [moveIndex_of_lt (Nat.not_le.1 h)]
    omega

theorem Progress.references_moved (start count : Nat) (p : Progress) :
    (p.moved start count).references = p.references.map (Reference.moved start count) := by
  obtain ⟨fences, done, pending⟩ := p
  cases pending <;> simp [Progress.moved, Progress.references]

theorem Progress.afterMark_moved (source : Text) {start index : Nat} (h : start ≤ index)
    (count : Nat) (p : Progress) (m : Mark) :
    (p.moved start count).afterMark source (index + count) m =
      (p.afterMark source index m).moved start count := by
  cases m with
  | plain => rfl
  | opening script arguments =>
    have hnew : Reference.moved start count ⟨source, script, index, none, arguments⟩ =
        ⟨source, script, index + count, none, arguments⟩ := by
      rw [Reference.moved, moveIndex_of_le h]
      rfl
    simp only [Progress.afterMark, Progress.references_moved]
    simp [Progress.moved, hnew]
  | terminator =>
    obtain ⟨fences, done, pending⟩ := p
    cases pending with
    | none => rfl
    | some r =>
      simp [Progress.afterMark, Progress.close, Progress.moved, Reference.moved,
        moveIndex_of_le h]

/-- A line that is read later does the same at its new number. -/
theorem step_moved [Runtime] (source : Text) {start index : Nat} (h : start ≤ index) (count : Nat)
    (p : Progress) (line : Text) :
    (p.moved start count).step source (index + count) line =
      (p.step source index line).map (Progress.moved start count) := by
  rw [step_eq, step_eq]
  show (markBehind p.fences line).map _ = _
  cases markBehind p.fences line with
  | error f => rfl
  | ok m =>
    have hmark := p.afterMark_moved source h count m
    refine congrArg Except.ok ?_
    show { (p.moved start count).afterMark source (index + count) m with
      fences := fencesAfter p.fences line } = _
    rw [hmark]
    rfl

theorem readFrom_moved [Runtime] (source : Text) {start index : Nat} (h : start ≤ index)
    (count : Nat)
    (p : Progress) (lines : List Text) :
    readFrom source (index + count) (p.moved start count) lines =
      (readFrom source index p lines).map (Progress.moved start count) := by
  induction lines generalizing index p with
  | nil => rfl
  | cons line rest ih =>
    rw [readFrom, readFrom, step_moved source h]
    cases p.step source index line with
    | error f => rfl
    | ok q =>
      have hrest := ih (Nat.le_succ_of_le h) q
      rw [Nat.succ_eq_add_one, Nat.add_right_comm] at hrest
      exact hrest

/-! ### Sections read so far -/

/-- A section that stands in front of a line. -/
def IsBefore (n : Nat) (r : Reference) : Prop := r.start < n ∧ ∀ j, r.finish = some j → j < n

theorem moved_of_isBefore {start : Nat} {r : Reference} (h : r.IsBefore start) (count : Nat) :
    r.moved start count = r := by
  obtain ⟨source, script, first, finish, arguments⟩ := r
  obtain ⟨hstart, hfinish⟩ := h
  have hend : finish.map (moveIndex start count) = finish := by
    cases finish with
    | none => rfl
    | some j => exact congrArg some (moveIndex_of_lt (hfinish j rfl) count)
  simp only [moved, moveIndex_of_lt hstart, hend]

theorem isBefore_step [Runtime] {source : Text} {index : Nat} {p q : Progress} {line : Text}
    (h : p.step source index line = .ok q) (hp : ∀ r ∈ p.references, r.IsBefore index) :
    ∀ r ∈ q.references, r.IsBefore (index + 1) := by
  have hgrow : ∀ r ∈ p.references, r.IsBefore (index + 1) := by
    intro r hr
    obtain ⟨hstart, hfinish⟩ := hp r hr
    exact ⟨by omega, fun j hj => Nat.lt_succ_of_lt (hfinish j hj)⟩
  rw [step_eq] at h
  cases hm : markBehind p.fences line with
  | error f =>
    rw [hm] at h
    cases h
  | ok m =>
    rw [hm] at h
    cases h
    cases m with
    | plain => exact hgrow
    | opening script arguments =>
      intro r hr
      rcases List.mem_append.1 hr with hr | hr
      · exact hgrow r hr
      · obtain rfl := List.mem_singleton.1 hr
        refine ⟨Nat.lt_succ_self index, fun j hj => ?_⟩
        cases hj
    | terminator =>
      obtain ⟨fences, done, pending⟩ := p
      cases pending with
      | none => exact hgrow
      | some last =>
        intro r hr
        have hr' : r ∈ done ++ [{ last with finish := some index }] := by
          simpa [Progress.afterMark, Progress.close, Progress.references] using hr
        rcases List.mem_append.1 hr' with hr' | hr'
        · exact hgrow r (List.mem_append_left _ hr')
        · obtain rfl := List.mem_singleton.1 hr'
          have hlast := hgrow last (by simp [Progress.references])
          refine ⟨hlast.1, fun j hj => ?_⟩
          cases hj
          exact Nat.lt_succ_self _

theorem isBefore_readFrom [Runtime] {source : Text} {index : Nat} {p q : Progress}
    {lines : List Text}
    (h : readFrom source index p lines = .ok q) (hp : ∀ r ∈ p.references, r.IsBefore index) :
    ∀ r ∈ q.references, r.IsBefore (index + lines.length) := by
  induction lines generalizing index p with
  | nil =>
    cases h
    exact hp
  | cons line rest ih =>
    obtain ⟨p', hstep, hrest⟩ := Outcome.bind_eq_ok.1 h
    have hnext := ih hrest (isBefore_step hstep hp)
    rwa [Nat.add_assoc, Nat.add_comm 1] at hnext

theorem Progress.moved_of_isBefore {start : Nat} {p : Progress}
    (h : ∀ r ∈ p.references, r.IsBefore start) (count : Nat) : p.moved start count = p := by
  obtain ⟨fences, done, pending⟩ := p
  have hdone : done.map (Reference.moved start count) = done := by
    refine (List.map_congr_left (fun r hr => ?_)).trans (List.map_id done)
    exact Reference.moved_of_isBefore (h r (List.mem_append_left _ hr)) count
  have hpending : pending.map (Reference.moved start count) = pending := by
    cases pending with
    | none => rfl
    | some r =>
      exact congrArg some (Reference.moved_of_isBefore (h r (by simp [Progress.references])) count)
  rw [Progress.moved, hdone, hpending]

theorem fences_readFrom [Runtime] {source : Text} {index : Nat} {p q : Progress} {lines : List Text}
    (h : readFrom source index p lines = .ok q) : q.fences = lines.foldl fencesAfter p.fences := by
  induction lines generalizing index p with
  | nil =>
    cases h
    rfl
  | cons line rest ih =>
    obtain ⟨p', hstep, hrest⟩ := Outcome.bind_eq_ok.1 h
    have hfences : p'.fences = fencesAfter p.fences line := by
      rw [step_eq] at hstep
      cases hm : markBehind p.fences line with
      | error f =>
        rw [hm] at hstep
        cases hstep
      | ok m =>
        rw [hm] at hstep
        cases hstep
        rfl
    rw [List.foldl_cons, ← hfences]
    exact ih hrest

/-! ### Fenced blocks -/

/-- Lines that leave the reader as it was only move the sections behind them. -/
theorem readLines_insert [Runtime] {source : Text} {pre block : List Text}
    (h : ∀ p, readFrom source 0 .start pre = .ok p →
      readFrom source pre.length p block = .ok p) (post : List Text) :
    readLines source (pre ++ block ++ post) =
      (readLines source (pre ++ post)).map (List.map (moved pre.length block.length)) := by
  unfold readLines
  rw [List.append_assoc, readFrom_append, readFrom_append, Nat.zero_add]
  cases hp : readFrom source 0 .start pre with
  | error f => rfl
  | ok p =>
    have hbefore : ∀ r ∈ p.references, r.IsBefore (0 + pre.length) :=
      isBefore_readFrom hp (by simp [Progress.references, Progress.start])
    rw [Nat.zero_add] at hbefore
    have hpost := readFrom_moved source (Nat.le_refl pre.length) block.length p post
    rw [Progress.moved_of_isBefore hbefore] at hpost
    show (readFrom source pre.length p (block ++ post)).map _ =
      ((readFrom source pre.length p post).map _).map _
    rw [readFrom_append, h p hp]
    show (readFrom source (pre.length + block.length) p post).map _ = _
    rw [hpost]
    cases readFrom source pre.length p post with
    | error f => rfl
    | ok q => exact congrArg Except.ok (q.references_moved _ _)

theorem lt_or_le_of_moved {start count i : Nat} {r : Reference}
    (h : (r.moved start count).start = i ∨ (r.moved start count).finish = some i) :
    i < start ∨ start + count ≤ i := by
  rcases h with rfl | h
  · exact moveIndex_lt_or_le _ _ _
  · obtain ⟨j, -, rfl⟩ := Option.map_eq_some_iff.1 h
    exact moveIndex_lt_or_le _ _ _

/-- **A fenced block is invisible.**  A fence of a depth that is not open, lines among which no
    fence has that depth or the depth of an open one, and a fence of that depth again: with such a
    block a note has the sections that it has without, those behind the block at their new line
    numbers, none with an end in the block; and it can be read if and only if it can without.
    Behind the block the open fences, the sections and the one still to be closed are what they
    were in front of it. -/
theorem readLines_fencedBlock [Runtime] {source : Text} {pre body post : List Text}
    {opener closer : Text}
    {depth : Nat} (hopen : Section.fenceDepth? opener = some depth)
    (hclose : Section.fenceDepth? closer = some depth)
    (hdepth : depth ∉ pre.foldl fencesAfter [])
    (hbody : ∀ line ∈ body, ∀ d ∈ Section.fenceDepth? line,
      d ≠ depth ∧ d ∉ pre.foldl fencesAfter []) :
    readLines source (pre ++ (opener :: body ++ [closer]) ++ post) =
        (readLines source (pre ++ post)).map (List.map (moved pre.length (body.length + 2))) ∧
      (∀ rs, readLines source (pre ++ (opener :: body ++ [closer]) ++ post) = .ok rs →
        ∀ r ∈ rs, ∀ i, r.start = i ∨ r.finish = some i →
          i < pre.length ∨ pre.length + (body.length + 2) ≤ i) ∧
      ∀ p, readFrom source 0 .start pre = .ok p →
        p.fences = pre.foldl fencesAfter [] ∧
          readFrom source 0 .start (pre ++ (opener :: body ++ [closer])) = .ok p := by
  have hlength : (opener :: body ++ [closer]).length = body.length + 2 := by simp
  have hblock : ∀ p, readFrom source 0 .start pre = .ok p →
      p.fences = pre.foldl fencesAfter [] ∧
        readFrom source pre.length p (opener :: body ++ [closer]) = .ok p := by
    intro p hp
    have hfences : p.fences = pre.foldl fencesAfter [] := fences_readFrom hp
    rw [← hfences] at hdepth hbody
    exact ⟨hfences, readFrom_fencedBlock hopen hclose hdepth hbody⟩
  have hread := readLines_insert (fun p hp => (hblock p hp).2) post
  rw [hlength] at hread
  refine ⟨hread, fun rs hrs r hr i hi => ?_, fun p hp => ⟨(hblock p hp).1, ?_⟩⟩
  · rw [hread] at hrs
    obtain ⟨rs', -, rfl⟩ := Outcome.map_eq_ok.1 hrs
    obtain ⟨r', -, rfl⟩ := List.mem_map.1 hr
    exact lt_or_le_of_moved hi
  · rw [readFrom_append, hp, Nat.zero_add]
    exact (hblock p hp).2

attribute [local instance] Runtime.usual

/-- A block in an open section: inside stand an opening line, a fence that stays open, and a
    terminator.  The section is closed by the terminator behind the block. -/
theorem readLines_fencedBlock_across :
    (readLines (Text.of "n.md") ([Text.of "%% template: 'a' %%"] ++
        (Text.of "````md" :: [Text.of "%% template: 'b' %%", Text.of "```", Text.of "%%%%"] ++
          [Text.of "````"]) ++ [Text.of "old", Text.of "%%%%"])).toOption.map
      (List.map (fun r => (r.script, r.start, r.finish))) = some [(Text.of "a", 0, some 7)] := by
  have hopen : Section.fenceDepth? (Text.of "````md") = some 1 := by decide
  have hclose : Section.fenceDepth? (Text.of "````") = some 1 := by decide
  have hdepth : 1 ∉ [Text.of "%% template: 'a' %%"].foldl fencesAfter [] := by decide
  have hbody : ∀ line ∈ [Text.of "%% template: 'b' %%", Text.of "```", Text.of "%%%%"],
      ∀ d ∈ Section.fenceDepth? line,
        d ≠ 1 ∧ d ∉ [Text.of "%% template: 'a' %%"].foldl fencesAfter [] := by decide
  have hwithout : (readLines (Text.of "n.md") ([Text.of "%% template: 'a' %%"] ++
      [Text.of "old", Text.of "%%%%"])).toOption.map
        (List.map (fun r => (r.script, r.start, r.finish))) = some [(Text.of "a", 0, some 2)] := by
    decide +kernel
  have hblock := (@readLines_fencedBlock _ (Text.of "n.md") _ _ [Text.of "old", Text.of "%%%%"]
    _ _ _ hopen hclose hdepth hbody).1
  rw [hblock]
  cases hread : readLines (Text.of "n.md") ([Text.of "%% template: 'a' %%"] ++
      [Text.of "old", Text.of "%%%%"]) with
  | error f =>
    rw [hread] at hwithout
    cases hwithout
  | ok rs =>
    rw [hread] at hwithout
    have hrs : rs.map (fun r => (r.script, r.start, r.finish)) = [(Text.of "a", 0, some 2)] :=
      Option.some.inj hwithout
    obtain ⟨r, rfl, hr⟩ := List.map_eq_singleton_iff.1 hrs
    obtain ⟨hscript, hstart, hfinish⟩ : r.script = Text.of "a" ∧ r.start = 0 ∧
        r.finish = some 2 := by simpa using hr
    simp [Except.map, Except.toOption, moved, hscript, hstart, hfinish, moveIndex]

end TemplatedNotes.Reference
