/-
  TemplatedNotes/Proofs/Section/Insertion.lean
  ============================================
  **A section that is put between the lines of a note.**

  An opening line and a block after it are put where no fence is open and where no section is
  still to be closed by a terminator.  The opening line takes the block's terminator and ends the
  search of the sections before it, which found none either; so they stay what they were
  (`sections_append_opening`, `sections_append`), and the sections behind are read as before, at
  later lines (`sections_moved`).

    * `readLines_opening` — the sections of the lines with the new one;
    * `opening?_openingFor` — the opening line that the writer makes for a script names it, and
      nothing else, whatever characters its path has.
-/
import TemplatedNotes.Proofs.Expansion.Reread
import TemplatedNotes.Proofs.Literal.Quoted
import TemplatedNotes.Proofs.Section.Block
import TemplatedNotes.Proofs.Section.Fence

namespace TemplatedNotes

namespace Reference

/-! ### Sections before and behind -/

/-- An opening mark ends the search for a terminator. -/
theorem closing_append_opening (ms : List Mark) (script : Text) (arguments : Value)
    (ns : List Mark) : closing (ms ++ .opening script arguments :: ns) = closing ms := by
  induction ms with
  | nil => rfl
  | cons m rest ih =>
    cases m with
    | plain => rw [List.cons_append, closing, closing, ih]
    | opening script' arguments' => rfl
    | terminator => rfl

theorem sections_append_opening (source : Text) (index : Nat) (ms : List Mark) (script : Text)
    (arguments : Value) (ns : List Mark) :
    sections source index (ms ++ .opening script arguments :: ns) =
      sections source index ms ++
        sections source (index + ms.length) (.opening script arguments :: ns) := by
  induction ms generalizing index with
  | nil => rfl
  | cons m rest ih =>
    have hindex : index + (m :: rest).length = index + 1 + rest.length := by
      rw [List.length_cons]
      omega
    rw [List.cons_append, hindex]
    by_cases ho : ∃ script' arguments', m = .opening script' arguments'
    · obtain ⟨script', arguments', rfl⟩ := ho
      rw [sections, sections, closing_append_opening, ih]
      rfl
    · rw [sections_cons _ ho, sections_cons _ ho, ih]

/-- What closes a section among more marks closes it without them, or is one of them. -/
theorem closing_append (ms ns : List Mark) :
    closing (ms ++ ns) = closing ms ∨ ∃ j, closing (ms ++ ns) = some (ms.length + j) := by
  induction ms with
  | nil =>
    cases hc : closing ns with
    | none => exact Or.inl hc
    | some j => exact Or.inr ⟨j, by simpa using hc⟩
  | cons m rest ih =>
    cases m with
    | plain =>
      rw [List.cons_append, closing, closing]
      rcases ih with h | ⟨j, h⟩
      · exact Or.inl (by rw [h])
      · refine Or.inr ⟨j, ?_⟩
        rw [h, List.length_cons, Nat.add_right_comm]
        rfl
    | opening script arguments => exact Or.inl rfl
    | terminator => exact Or.inl rfl

/-- Sections that end before an index are those of the marks before it. -/
theorem sections_append {source : Text} {index : Nat} {ms : List Mark} (ns : List Mark)
    (h : ∀ r ∈ sections source index (ms ++ ns), ∀ j, r.finish = some j →
      r.start < index + ms.length → j < index + ms.length) :
    sections source index (ms ++ ns) =
      sections source index ms ++ sections source (index + ms.length) ns := by
  induction ms generalizing index with
  | nil => rfl
  | cons m rest ih =>
    have hindex : index + (m :: rest).length = index + 1 + rest.length := by
      rw [List.length_cons]
      omega
    rw [List.cons_append] at h ⊢
    rw [hindex] at h ⊢
    by_cases ho : ∃ script arguments, m = .opening script arguments
    · obtain ⟨script, arguments, rfl⟩ := ho
      rw [sections] at h ⊢
      obtain ⟨hfirst, hrest⟩ := List.forall_mem_cons.1 h
      rw [sections, ih hrest]
      rcases closing_append rest ns with hc | ⟨j, hc⟩
      · rw [hc]
        rfl
      · -- its terminator would stand behind the index
        have hlt := hfirst (index + 1 + (rest.length + j)) (by rw [hc]; rfl)
          (show index < index + 1 + rest.length by omega)
        omega
    · rw [sections_cons _ ho] at h
      rw [sections_cons _ ho, sections_cons _ ho, ih h]

/-- Marks that come later make the same sections, moved. -/
theorem sections_moved (source : Text) {start index : Nat} (h : start ≤ index) (count : Nat)
    (ms : List Mark) :
    sections source (index + count) ms = (sections source index ms).map (moved start count) := by
  induction ms generalizing index with
  | nil => rfl
  | cons m rest ih =>
    have hrest := ih (Nat.le_succ_of_le h)
    rw [Nat.succ_eq_add_one, Nat.add_right_comm] at hrest
    by_cases ho : ∃ script arguments, m = .opening script arguments
    · obtain ⟨script, arguments, rfl⟩ := ho
      have hfinish : (closing rest).map (index + count + 1 + ·) =
          ((closing rest).map (index + 1 + ·)).map (moveIndex start count) := by
        rw [Option.map_map]
        refine congrArg (Option.map · (closing rest)) (funext fun j => ?_)
        show index + count + 1 + j = moveIndex start count (index + 1 + j)
        rw [moveIndex_of_le (by omega)]
        omega
      rw [sections, sections, hrest, List.map_cons, hfinish, moved, moveIndex_of_le h]
    · rw [sections_cons _ ho, sections_cons _ ho, hrest]

theorem sections_plain (source : Text) (index : Nat) {ms : List Mark}
    (h : ∀ m ∈ ms, m = .plain) (ns : List Mark) :
    sections source index (ms ++ ns) = sections source (index + ms.length) ns := by
  induction ms generalizing index with
  | nil => rfl
  | cons m rest ih =>
    obtain ⟨rfl, hrest⟩ := List.forall_mem_cons.1 h
    rw [List.cons_append, sections_cons _ (by simp), ih (index + 1) hrest, List.length_cons,
      Nat.add_assoc, Nat.add_comm 1]

theorem isBefore_of_mem_sections {source : Text} {index : Nat} {ms : List Mark} {r : Reference}
    (h : r ∈ sections source index ms) : r.IsBefore (index + ms.length) := by
  obtain ⟨i, script, arguments, hi, rfl⟩ := mem_sections.1 h
  obtain ⟨hlt, -⟩ := List.getElem?_eq_some_iff.1 hi
  refine ⟨Nat.add_lt_add_left hlt index, fun j hj => ?_⟩
  obtain ⟨d, hd, rfl⟩ := Option.map_eq_some_iff.1 hj
  have hmark := (closing_eq_some_iff.1 hd).1
  rw [List.getElem?_drop] at hmark
  obtain ⟨hend, -⟩ := List.getElem?_eq_some_iff.1 hmark
  omega

/-! ### Reading the lines -/

theorem marksFrom_plain [Runtime] {lines : List Text} (h : ∀ line ∈ lines, IsPlain line) :
    marksFrom [] lines = .ok (lines.map (fun _ => .plain)) ∧ lines.foldl fencesAfter [] = [] := by
  induction lines with
  | nil => exact ⟨rfl, rfl⟩
  | cons line rest ih =>
    obtain ⟨hline, hrest⟩ := List.forall_mem_cons.1 h
    obtain ⟨hmarks, hfences⟩ := ih hrest
    have hafter := fencesAfter_of_fenceDepth?_eq_none hline.no_fence []
    constructor
    · refine marksFrom_cons.2 ⟨.plain, _, ?_, by rw [hafter, hmarks], rfl⟩
      rw [markBehind_nil hline.no_fence, hline.mark_eq]
    · rw [List.foldl_cons, hafter, hfences]

section Opening

variable {source opener script : Text} {arguments : Value} {pre mid post new : List Text}

theorem marksFrom_opening [Runtime] {ms₁ ms₂ : List Mark}
    (hopener : opening? opener = .ok (some (script, arguments)))
    (hfence : Section.fenceDepth? opener = none) (hnew : IsBlock new)
    (hpre : marksFrom [] pre = .ok ms₁) (hfences : pre.foldl fencesAfter [] = [])
    (hpost : marksFrom [] post = .ok ms₂) (ns : List Mark) :
    marksFrom [] (pre ++ opener :: new ++ post) = .ok ns ↔
      (∀ line ∈ new, IsReadable line) ∧
        ns = ms₁ ++ .opening script arguments :: (blockMarks new ++ ms₂) := by
  have hmark : markBehind [] opener = .ok (.opening script arguments) := by
    rw [markBehind_nil hfence, mark_eq_opening_iff.2 hopener]
  simp only [List.append_assoc, List.cons_append, marksFrom_append, marksFrom_cons, hpre, hfences,
    hmark, fencesAfter_of_fenceDepth?_eq_none hfence, hnew.marksFrom_eq_ok_iff,
    hnew.foldl_fencesAfter, hpost]
  constructor
  · rintro ⟨_, _, ⟨⟩, ⟨_, _, ⟨⟩, ⟨_, _, ⟨hreads, rfl⟩, ⟨⟩, rfl⟩, rfl⟩, rfl⟩
    exact ⟨hreads, rfl⟩
  · rintro ⟨hreads, rfl⟩
    exact ⟨_, _, rfl, ⟨_, _, rfl, ⟨_, _, ⟨hreads, rfl⟩, rfl, rfl⟩, rfl⟩, rfl⟩

/-- The sections of marks in which an opening mark and those of a block replace some others, fewer
    than they are. -/
theorem sections_opening [Runtime] (hnew : IsBlock new) (ms₁ ms₂ : List Mark) {count : Nat}
    (hcount : count ≤ new.length + 1) :
    sections source 0 (ms₁ ++ .opening script arguments :: (blockMarks new ++ ms₂)) =
      sections source 0 ms₁ ++
        ⟨source, script, ms₁.length, some (ms₁.length + new.length), arguments⟩ ::
          (sections source (ms₁.length + count) ms₂).map
            (moved ms₁.length (new.length + 1 - count)) := by
  have hpos : 0 < new.length := by
    obtain ⟨body, rfl, -⟩ := hnew
    simp
  have hmoved := sections_moved source (Nat.le_add_right ms₁.length count)
    (new.length + 1 - count) ms₂
  rw [show ms₁.length + count + (new.length + 1 - count) = ms₁.length + 1 + new.length by omega]
    at hmoved
  rw [sections_append_opening, Nat.zero_add, sections, closing_blockMarks, sections_blockMarks,
    hnew.length_blockMarks, hmoved, Option.map_some,
    show ms₁.length + 1 + (new.length - 1) = ms₁.length + new.length by omega]

/-- **A new section among the lines of a note.**  In the place of plain lines where no fence is
    open and no section is waiting for its terminator, an opening line and a block make one more
    section.  The sections before it stay and those behind it move; and the lines can be read if
    and only if those of the block can. -/
theorem readLines_opening [Runtime] {rs : List Reference}
    (hopener : opening? opener = .ok (some (script, arguments)))
    (hfence : Section.fenceDepth? opener = none) (hnew : IsBlock new)
    (hmid : ∀ line ∈ mid, IsPlain line) (hcount : mid.length ≤ new.length + 1)
    (hread : readLines source (pre ++ mid ++ post) = .ok rs)
    (hfences : pre.foldl fencesAfter [] = [])
    (hwaiting : ∀ r ∈ rs, ∀ j, r.finish = some j → r.start < pre.length → j < pre.length) :
    ∃ before after, rs = before ++ after ∧ (∀ r ∈ before, r.IsBefore pre.length) ∧
      (∀ r ∈ after, pre.length ≤ r.start) ∧
      ∀ rs', readLines source (pre ++ opener :: new ++ post) = .ok rs' ↔
        (∀ line ∈ new, IsReadable line) ∧
          rs' = before ++ ⟨source, script, pre.length, some (pre.length + new.length), arguments⟩ ::
            after.map (moved pre.length (new.length + 1 - mid.length)) := by
  obtain ⟨ms, hms, rfl⟩ := readLines_eq_ok.1 hread
  rw [List.append_assoc] at hms
  obtain ⟨ms₁, ms', hpre, hms', rfl⟩ := marksFrom_append.1 hms
  have hlen : pre.length = ms₁.length := (length_marksFrom hpre).symm
  rw [hfences] at hms'
  obtain ⟨hplain, hmidfences⟩ := marksFrom_plain hmid
  obtain ⟨msₘ, ms₂, hmarks, hpost, rfl⟩ := marksFrom_append.1 hms'
  obtain rfl := Except.ok.inj (hplain.symm.trans hmarks)
  rw [hmidfences] at hpost
  have hold : sections source 0 (ms₁ ++ (mid.map (fun _ => Mark.plain) ++ ms₂)) =
      sections source 0 ms₁ ++ sections source (pre.length + mid.length) ms₂ := by
    have hmap : ∀ m ∈ mid.map (fun _ => Mark.plain), m = .plain := by simp
    rw [sections_append _ (by rwa [Nat.zero_add, ← hlen]), Nat.zero_add, ← hlen,
      sections_plain source pre.length hmap, List.length_map]
  refine ⟨_, _, hold, fun r hr => ?_, fun r hr => ?_, fun rs' => ?_⟩
  · have h := isBefore_of_mem_sections hr
    rwa [Nat.zero_add, ← hlen] at h
  · exact Nat.le_trans (Nat.le_add_right _ _) (le_start_of_mem_sections hr)
  · rw [readLines_eq_ok, hlen, ← sections_opening hnew ms₁ ms₂ hcount]
    simp only [marksFrom_opening hopener hfence hnew hpre hfences hpost]
    constructor
    · rintro ⟨ns, ⟨hreads, rfl⟩, rfl⟩
      exact ⟨hreads, rfl⟩
    · rintro ⟨hreads, rfl⟩
      exact ⟨_, ⟨hreads, rfl⟩, rfl⟩

end Opening

end Reference

/-! ### The opening line of a new section -/

namespace Section

theorem openingFor_eq (script : Text) :
    openingFor script = .scalar '%' :: .scalar '%' :: .scalar ' ' ::
      (Arguments.templateKey ++ .scalar ':' :: .scalar ' ' :: Literal.quoted script) ++
        [.scalar ' ', .scalar '%', .scalar '%'] := by
  have hopen : Text.of "%% template: '" = .scalar '%' :: .scalar '%' :: .scalar ' ' ::
      (Arguments.templateKey ++ [.scalar ':', .scalar ' ', Literal.quote]) := rfl
  have hclose : Text.of "' %%" = Literal.quote :: [.scalar ' ', .scalar '%', .scalar '%'] := rfl
  rw [openingFor, hopen, hclose]
  simp [Literal.quoted, Literal.escaped]

theorem fenceDepth?_openingFor (script : Text) : fenceDepth? (openingFor script) = none := by
  rw [openingFor_eq]
  rfl

theorem lineFeed_not_mem_openingFor {script : Text} (h : Line.lineFeed ∉ script) :
    Line.lineFeed ∉ openingFor script := by
  intro hm
  have hescaped : Line.lineFeed ∈ Literal.escaped script := by
    simpa [openingFor, Text.of, Line.lineFeed, Literal.escaped] using hm
  rcases Literal.mem_of_mem_escaped hescaped with hm | hm
  · exact h hm
  · exact absurd hm (by decide)

theorem not_endsInReturn_openingFor (script : Text) : ¬ Line.EndsInReturn (openingFor script) := by
  intro h
  have hlast : (openingFor script).getLast? = some (.scalar '%') := by
    rw [openingFor_eq, List.getLast?_append]
    rfl
  rw [Line.EndsInReturn, hlast] at h
  exact absurd h (by decide)

theorem payload?_openingFor (script : Text) :
    payload? (openingFor script) =
      some (Arguments.templateKey ++ .scalar ':' :: .scalar ' ' :: Literal.quoted script) := by
  have hlast : ∀ c, (Arguments.templateKey ++ .scalar ':' :: .scalar ' ' ::
      Literal.quoted script).getLast? = some c → c.isBlank = false := by
    intro c hc
    have hquote : c = Literal.quote := by
      simpa [Literal.quoted, List.getLast?_append, List.getLast?_cons, eq_comm] using hc
    rw [hquote]
    decide
  rw [openingFor_eq]
  exact payload?_delimited (by decide) (by decide) hlast

/-- The arguments of a section that names a script and gives no other. -/
def argumentsFor (script : Text) : Value :=
  .mapping .arguments [(.text Arguments.templateKey, .text script)]

/-- **The opening line for a script** opens a section for it, whatever characters are in its path. -/
theorem opening?_openingFor [Runtime] {script : Text} (hne : script ≠ [])
    (hfeed : Line.lineFeed ∉ script) :
    Reference.opening? (openingFor script) = .ok (some (script, argumentsFor script)) := by
  have hkey : Literal.IsIdentifier Arguments.templateKey := ⟨by decide, by decide⟩
  refine Reference.opening?_eq_some_iff.2
    ⟨_, payload?_openingFor script, Literal.evaluate_quoted hkey hfeed, ?_⟩
  exact Reference.template?_eq_some_iff.2 ⟨rfl, hne⟩

end Section

end TemplatedNotes
