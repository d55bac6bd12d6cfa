/-
  TemplatedNotes/Proofs/Expansion/Reread.lean
  ===========================================
  **Reading an expanded note again.**

  What is generated for a section is nothing or a block: lines that mean nothing for sections, and a
  terminator.  A block leaves no fence open and its marks are known (`blockMarks`), so the marks
  of the new lines are the old marks with those of the blocks spliced in, by the same `splice`
  that made the lines (`marksFrom_splice`).

    * `map_request_sections_splice` — the new note has the same sections;
    * `sections_splice` — behind blocks each of them has a terminator;
    * `splice_splice` — splicing the same blocks into the new lines gives the new lines;
    * `marksFrom_split_unsplit_splice`, `splice_split_unsplit_splice` — the same for the lines that
      the text of the new note is cut into.
-/
import TemplatedNotes.Proofs.Expansion.Walk

namespace TemplatedNotes.Reference

/-! ### Blocks -/

variable [Runtime]

/-- A line that is no fence and neither opens nor ends a section. -/
structure IsInert (line : Text) : Prop where
  no_fence : Section.fenceDepth? line = none
  no_terminator : Section.isTerminator line = false
  no_opening : ∀ script arguments, opening? line ≠ .ok (some (script, arguments))

/-- Whether a line can be read at all: a literal in it can be evaluated. -/
def IsReadable (line : Text) : Prop := ∃ o, opening? line = .ok o

instance (line : Text) : Decidable (IsReadable line) :=
  match h : opening? line with
  | .ok o => isTrue ⟨o, h⟩
  | .error f => isFalse (fun ⟨o, ho⟩ => by
      rw [h] at ho
      cases ho)

theorem isInert_iff {line : Text} :
    IsInert line ↔ Section.fenceDepth? line = none ∧ Section.isTerminator line = false ∧
      (opening? line).toOption.join.isNone = true := by
  have hopening : (∀ script arguments, opening? line ≠ .ok (some (script, arguments))) ↔
      (opening? line).toOption.join.isNone = true := by
    rcases opening? line with f | _ | ⟨script, arguments⟩ <;> simp [Except.toOption]
  rw [← hopening]
  exact ⟨fun h => ⟨h.no_fence, h.no_terminator, h.no_opening⟩, fun ⟨h₁, h₂, h₃⟩ => ⟨h₁, h₂, h₃⟩⟩

instance (line : Text) : Decidable (IsInert line) := decidable_of_iff' _ isInert_iff

theorem isInert_nil : IsInert [] := isInert_iff.2 ⟨by decide, by decide, rfl⟩

/-- The lines generated for a section: inert lines and a terminator. -/
def IsBlock (new : List Text) : Prop :=
  ∃ body, new = body ++ [Section.terminator] ∧ ∀ line ∈ body, IsInert line ∧ Line.lineFeed ∉ line

/-- The marks of a block. -/
def blockMarks (new : List Text) : List Mark :=
  List.replicate (new.length - 1) .plain ++ [.terminator]

omit [Runtime] in
theorem blockMarks_append (body : List Text) :
    blockMarks (body ++ [Section.terminator]) =
      List.replicate body.length .plain ++ [.terminator] := by
  simp [blockMarks]

theorem IsBlock.length_blockMarks {new : List Text} (h : IsBlock new) :
    (blockMarks new).length = new.length := by
  obtain ⟨body, rfl, -⟩ := h
  simp [blockMarks]

omit [Runtime] in
theorem fencesAfter_of_fenceDepth?_eq_none {line : Text} (h : Section.fenceDepth? line = none)
    (fences : List Nat) : fencesAfter fences line = fences := by
  rw [fencesAfter, h]

theorem IsBlock.foldl_fencesAfter {new : List Text} (h : IsBlock new) (fences : List Nat) :
    new.foldl fencesAfter fences = fences := by
  obtain ⟨body, rfl, hbody⟩ := h
  rw [List.foldl_append, List.foldl_cons, List.foldl_nil,
    fencesAfter_of_fenceDepth?_eq_none Section.fenceDepth?_terminator]
  induction body with
  | nil => rfl
  | cons line rest ih =>
    rw [List.foldl_cons,
      fencesAfter_of_fenceDepth?_eq_none (hbody line List.mem_cons_self).1.no_fence]
    exact ih (fun l hl => hbody l (List.mem_cons_of_mem line hl))

theorem markBehind_nil {line : Text} (h : Section.fenceDepth? line = none) :
    markBehind [] line = mark line := by
  simp [markBehind, isVisible, h]

theorem opening?_terminator : opening? Section.terminator = .ok none := by
  rw [opening?, Section.payload?_of_isTerminator Section.isTerminator_terminator]

theorem IsInert.mark_eq_ok_iff {line : Text} (h : IsInert line) {m : Mark} :
    mark line = .ok m ↔ IsReadable line ∧ m = .plain := by
  unfold mark IsReadable
  cases ho : opening? line with
  | error f =>
    constructor
    · intro hm
      cases hm
    · rintro ⟨⟨o, h⟩, -⟩
      cases h
  | ok o =>
    cases o with
    | some sa => exact absurd ho (h.no_opening sa.1 sa.2)
    | none =>
      rw [h.no_terminator]
      constructor
      · intro hm
        cases hm
        exact ⟨⟨none, rfl⟩, rfl⟩
      · rintro ⟨-, rfl⟩
        rfl

/-- **The marks of a block**: it is read if all its lines are readable. -/
theorem IsBlock.marksFrom_eq_ok_iff {new : List Text} (h : IsBlock new) {ms : List Mark} :
    marksFrom [] new = .ok ms ↔ (∀ line ∈ new, IsReadable line) ∧ ms = blockMarks new := by
  obtain ⟨body, rfl, hbody⟩ := h
  rw [blockMarks_append]
  induction body generalizing ms with
  | nil =>
    have hmark : mark Section.terminator = .ok .terminator :=
      mark_eq_terminator_iff.2 Section.isTerminator_terminator
    rw [List.nil_append, marksFrom_cons, markBehind_nil Section.fenceDepth?_terminator, hmark]
    constructor
    · rintro ⟨m, ms', hm, hms, rfl⟩
      cases hm
      cases hms
      refine ⟨fun line hl => ?_, rfl⟩
      obtain rfl := List.mem_singleton.1 hl
      exact ⟨none, opening?_terminator⟩
    · rintro ⟨-, rfl⟩
      exact ⟨.terminator, [], rfl, rfl, rfl⟩
  | cons line rest ih =>
    have hline := (hbody line List.mem_cons_self).1
    rw [List.cons_append, marksFrom_cons, markBehind_nil hline.no_fence,
      fencesAfter_of_fenceDepth?_eq_none hline.no_fence]
    simp only [hline.mark_eq_ok_iff, ih (fun l hl => hbody l (List.mem_cons_of_mem line hl))]
    constructor
    · rintro ⟨m, ms', ⟨hread, rfl⟩, ⟨hrest, rfl⟩, rfl⟩
      refine ⟨fun l hl => ?_, rfl⟩
      rcases List.mem_cons.1 hl with rfl | hl
      · exact hread
      · exact hrest l hl
    · rintro ⟨hread, rfl⟩
      exact ⟨.plain, _, ⟨hread line List.mem_cons_self, rfl⟩,
        ⟨fun l hl => hread l (List.mem_cons_of_mem line hl), rfl⟩, rfl⟩

/-- What can be generated for a section: no line at all, or a block. -/
def IsBody (new : List Text) : Prop := new = [] ∨ IsBlock new

/-- The marks of what was generated for a section. -/
def bodyMarks (new : List Text) : List Mark := if new.isEmpty then [] else blockMarks new

theorem IsBlock.bodyMarks_eq {new : List Text} (h : IsBlock new) :
    bodyMarks new = blockMarks new := by
  obtain ⟨body, rfl, -⟩ := h
  exact if_neg (by simp)

theorem IsBody.foldl_fencesAfter {new : List Text} (h : IsBody new) (fences : List Nat) :
    new.foldl fencesAfter fences = fences := by
  rcases h with rfl | h
  · rfl
  · exact h.foldl_fencesAfter fences

theorem IsBody.marksFrom_eq_ok_iff {new : List Text} (h : IsBody new) {ms : List Mark} :
    marksFrom [] new = .ok ms ↔ (∀ line ∈ new, IsReadable line) ∧ ms = bodyMarks new := by
  rcases h with rfl | h
  · simp [marksFrom, bodyMarks, eq_comm]
  · rw [h.bodyMarks_eq]
    exact h.marksFrom_eq_ok_iff

theorem IsBody.lineFeed_not_mem {new : List Text} (h : IsBody new) {line : Text}
    (hl : line ∈ new) : Line.lineFeed ∉ line := by
  rcases h with rfl | ⟨body, rfl, hbody⟩
  · cases hl
  · rcases List.mem_append.1 hl with hl | hl
    · exact (hbody line hl).2
    · obtain rfl := List.mem_singleton.1 hl
      decide

omit [Runtime] in
theorem closing_blockMarks (new : List Text) (ms : List Mark) :
    closing (blockMarks new ++ ms) = some (new.length - 1) := by
  unfold blockMarks
  induction new.length - 1 with
  | zero => rfl
  | succ n ih => rw [List.replicate_succ, List.cons_append, List.cons_append, closing, ih]; rfl

omit [Runtime] in
theorem sections_blockMarks (source : Text) (index : Nat) (new : List Text) (ms : List Mark) :
    sections source index (blockMarks new ++ ms) =
      sections source (index + (blockMarks new).length) ms := by
  unfold blockMarks
  induction new.length - 1 generalizing index with
  | zero => rfl
  | succ n ih =>
    have hindex : index + (List.replicate (n + 1) Mark.plain ++ [Mark.terminator]).length =
        index + 1 + (List.replicate n Mark.plain ++ [Mark.terminator]).length := by
      simp
      omega
    rw [hindex, ← ih]
    rfl

omit [Runtime] in
theorem sections_bodyMarks (source : Text) (index : Nat) (new : List Text) (ms : List Mark) :
    sections source index (bodyMarks new ++ ms) =
      sections source (index + (bodyMarks new).length) ms := by
  unfold bodyMarks
  by_cases hnew : new.isEmpty = true
  · rw [if_pos hnew]
    rfl
  · rw [if_neg hnew]
    exact sections_blockMarks source index new ms

/-- What a section asks for, wherever it stands. -/
def request (r : Reference) : Text × Text × Value := (r.source, r.script, r.arguments)

/-! ### The body of a section -/

/-- The lines of a section's body leave no fence open. -/
theorem foldl_fencesAfter_bodyLength {lines : List Text} {ms : List Mark}
    (h : marksFrom [] lines = .ok ms) :
    (lines.take (bodyLength ms)).foldl fencesAfter [] = [] := by
  cases hc : closing ms with
  | none => simp [bodyLength, hc]
  | some j =>
    have hlength : bodyLength ms = j + 1 := by simp [bodyLength, hc]
    obtain ⟨line, hl, hm⟩ := (getElem?_marksFrom h).1 (closing_eq_some_iff.1 hc).1
    obtain ⟨⟨hfence, hopen⟩, -⟩ := (markBehind_eq_ok_iff (by simp)).1 hm
    rw [hlength, List.take_add_one, hl, List.foldl_append, hopen]
    exact fencesAfter_of_fenceDepth?_eq_none hfence []

/-! ### The carriage returns before line ends -/

theorem markBehind_of_dropsBlank {f : Text → Text} (hf : Section.DropsBlank f)
    (fences : List Nat) (line : Text) : markBehind fences (f line) = markBehind fences line := by
  have hopening : opening? (f line) = opening? line := by
    unfold opening?
    rw [hf.payload?_eq]
  unfold markBehind isVisible mark
  rw [hf.fenceDepth?_eq, hf.isTerminator_eq, hopening]

theorem marksFrom_map_of_dropsBlank {f : Text → Text} (hf : Section.DropsBlank f)
    (fences : List Nat) (lines : List Text) :
    marksFrom fences (lines.map f) = marksFrom fences lines := by
  induction lines generalizing fences with
  | nil => rfl
  | cons line rest ih =>
    have hfences : fencesAfter fences (f line) = fencesAfter fences line := by
      rw [fencesAfter, hf.fenceDepth?_eq, fencesAfter]
    rw [List.map_cons, marksFrom, markBehind_of_dropsBlank hf, hfences, ih, marksFrom]

end TemplatedNotes.Reference

namespace TemplatedNotes.Expansion

open Reference

variable {skip : Nat} {lines : List Text} {ms : List Mark}
  {generated : List (List Text)}

/-! ### Spliced lines -/

theorem mem_splice (hfits : Fits skip lines ms generated) {line : Text}
    (h : line ∈ splice skip lines ms generated) : line ∈ lines ∨ ∃ new ∈ generated, line ∈ new := by
  induction hfits with
  | done skip => cases skip <;> cases h
  | skipped first m _ ih => exact (ih h).imp_left (List.mem_cons_of_mem first)
  | opens first script arguments new _ ih =>
    rw [splice] at h
    rcases List.mem_append.1 h with h | h
    · rcases List.mem_cons.1 h with rfl | h
      · exact Or.inl List.mem_cons_self
      · exact Or.inr ⟨new, List.mem_cons_self, h⟩
    · rcases ih h with h | ⟨new', hnew, h⟩
      · exact Or.inl (List.mem_cons_of_mem first h)
      · exact Or.inr ⟨new', List.mem_cons_of_mem new hnew, h⟩
  | stays first other _ ih =>
    rw [splice_cons other] at h
    rcases List.mem_cons.1 h with rfl | h
    · exact Or.inl List.mem_cons_self
    · exact (ih h).imp_left (List.mem_cons_of_mem first)

variable [Runtime]

theorem getLast?_splice (hfits : Fits skip lines ms generated)
    (hblocks : ∀ new ∈ generated, IsBlock new) {line : Text}
    (h : (splice skip lines ms generated).getLast? = some line) :
    line ∈ lines ∨ line = Section.terminator := by
  induction hfits with
  | done skip => cases skip <;> cases h
  | skipped first m _ ih => exact (ih hblocks h).imp_left (List.mem_cons_of_mem first)
  | @opens lines ms generated first script arguments new _ ih =>
    obtain ⟨⟨body, rfl, -⟩, hmore⟩ := List.forall_mem_cons.1 hblocks
    rw [splice, List.getLast?_append] at h
    cases hrest : (splice (bodyLength ms) lines ms generated).getLast? with
    | some l =>
      rw [hrest] at h
      cases h
      exact (ih hmore hrest).imp_left (List.mem_cons_of_mem first)
    | none =>
      rw [hrest, ← List.cons_append, List.getLast?_concat] at h
      cases h
      exact Or.inr rfl
  | @stays lines ms generated first m other _ ih =>
    rw [splice_cons other, List.getLast?_cons] at h
    cases hrest : (splice 0 lines ms generated).getLast? with
    | some l =>
      rw [hrest] at h
      cases h
      exact (ih hblocks hrest).imp_left (List.mem_cons_of_mem first)
    | none =>
      rw [hrest] at h
      cases h
      exact Or.inl List.mem_cons_self

omit [Runtime] in
theorem splice_ne_nil (hfits : Fits 0 lines ms generated) (hne : lines ≠ []) :
    splice 0 lines ms generated ≠ [] := by
  cases hfits with
  | done => exact absurd rfl hne
  | opens line script arguments new _ => simp [splice]
  | stays line other _ => simp [splice_cons other]

theorem lineFeed_not_mem_splice {text line : Text}
    (hfits : Fits skip (Line.split text) ms generated) (hbodies : ∀ new ∈ generated, IsBody new)
    (hl : line ∈ splice skip (Line.split text) ms generated) : Line.lineFeed ∉ line := by
  rcases mem_splice hfits hl with hl | ⟨new, hnew, hl⟩
  · exact Line.lineFeed_not_mem_of_mem_split text line hl
  · exact (hbodies new hnew).lineFeed_not_mem hl

/-- The lines of an expanded note: its text is cut into them again. -/
theorem split_unsplit_splice {text : Text} (hfits : Fits 0 (Line.split text) ms generated)
    (hreturn : ∀ line ∈ Line.split text, ¬ Line.EndsInReturn line)
    (hblocks : ∀ new ∈ generated, IsBlock new) :
    Line.split (Line.unsplit (splice 0 (Line.split text) ms generated)) =
      (splice 0 (Line.split text) ms generated).map Line.chomp := by
  refine Line.split_unsplit (splice_ne_nil hfits (Line.split_ne_nil text)) (fun line hl => ?_)
    (fun line hl => ?_)
  · exact lineFeed_not_mem_splice hfits (fun new hnew => Or.inr (hblocks new hnew)) hl
  · rcases getLast?_splice hfits hblocks hl with hl | rfl
    · exact hreturn line hl
    · show ¬ _ = _
      decide

/-! ### Spliced marks -/

/-- **The marks of the new lines** are the old marks with those of the generated lines spliced in,
    if all generated lines are readable; otherwise the new lines have no marks. -/
theorem marksFrom_splice {fences : List Nat} (hfits : Fits skip lines ms generated)
    (h : marksFrom fences lines = .ok ms) (hbodies : ∀ new ∈ generated, IsBody new)
    (ns : List Mark) :
    marksFrom ((lines.take skip).foldl fencesAfter fences) (splice skip lines ms generated) =
        .ok ns ↔
      (∀ new ∈ generated, ∀ line ∈ new, IsReadable line) ∧
        ns = splice skip ms ms (generated.map bodyMarks) := by
  induction hfits generalizing fences ns with
  | done skip => cases skip <;> simp [splice, marksFrom, eq_comm]
  | skipped line m _ ih =>
    obtain ⟨_, _, -, hms, heq⟩ := marksFrom_cons.1 h
    cases heq
    exact ih hms hbodies ns
  | @opens rest ms generated line script arguments new _ ih =>
    obtain ⟨_, _, hm, hms, heq⟩ := marksFrom_cons.1 h
    cases heq
    -- the opening line is visible, so no fence is open behind it, the block or the body
    obtain ⟨⟨hfence, rfl⟩, -⟩ := (markBehind_eq_ok_iff (by simp)).1 hm
    rw [fencesAfter_of_fenceDepth?_eq_none hfence] at hms
    obtain ⟨hnew, hrest⟩ := List.forall_mem_cons.1 hbodies
    have hih := ih hms hrest
    rw [foldl_fencesAfter_bodyLength hms] at hih
    rw [List.take_zero, List.foldl_nil, splice, List.cons_append, marksFrom_cons, hm,
      fencesAfter_of_fenceDepth?_eq_none hfence]
    simp only [marksFrom_append, hnew.foldl_fencesAfter, hnew.marksFrom_eq_ok_iff, hih]
    constructor
    · rintro ⟨_, _, ⟨⟩, ⟨_, _, ⟨hread, rfl⟩, ⟨hreads, rfl⟩, rfl⟩, rfl⟩
      exact ⟨List.forall_mem_cons.2 ⟨hread, hreads⟩, rfl⟩
    · rintro ⟨hreads, rfl⟩
      obtain ⟨hread, hreads⟩ := List.forall_mem_cons.1 hreads
      exact ⟨_, _, rfl, ⟨_, _, ⟨hread, rfl⟩, ⟨hreads, rfl⟩, rfl⟩, rfl⟩
  | @stays rest ms generated line m other _ ih =>
    obtain ⟨_, _, hm, hms, heq⟩ := marksFrom_cons.1 h
    cases heq
    have hih := ih hms hbodies
    rw [List.take_zero, List.foldl_nil] at hih
    rw [List.take_zero, List.foldl_nil, splice_cons other, splice_cons other, marksFrom_cons, hm]
    simp only [hih]
    constructor
    · rintro ⟨_, _, ⟨⟩, ⟨hreads, rfl⟩, rfl⟩
      exact ⟨hreads, rfl⟩
    · rintro ⟨hreads, rfl⟩
      exact ⟨m, _, rfl, ⟨hreads, rfl⟩, rfl⟩

/-! ### The sections of the new lines -/

omit [Runtime] in
/-- **The sections of the new lines** ask for what the sections of the old ones asked for. -/
theorem map_request_sections_splice (source : Text) (hfits : Fits skip lines ms generated)
    (index index' : Nat) :
    (sections source index' (splice skip ms ms (generated.map bodyMarks))).map request =
      (sections source index (ms.drop skip)).map request := by
  induction hfits generalizing index index' with
  | done skip => cases skip <;> simp [splice, sections]
  | skipped line m _ ih => exact ih index index'
  | @opens rest ms generated line script arguments new _ ih =>
    have hmap := ih (index + 1 + bodyLength ms) (index' + 1 + (bodyMarks new).length)
    rw [sections_drop_bodyLength] at hmap
    rw [List.drop_zero, List.map_cons, splice, List.cons_append, sections, sections_bodyMarks,
      List.map_cons, hmap]
    rfl
  | stays line other _ ih =>
    rw [List.drop_zero, splice_cons other, sections_cons _ other, sections_cons _ other]
    exact ih (index + 1) (index' + 1)

/-- Behind blocks all sections of the new lines have terminators. -/
theorem sections_splice (source : Text) (hfits : Fits skip lines ms generated)
    (hblocks : ∀ new ∈ generated, IsBlock new) (index : Nat) :
    ∀ r ∈ sections source index (splice skip ms ms (generated.map bodyMarks)),
      r.isTerminated = true := by
  induction hfits generalizing index with
  | done skip => cases skip <;> simp [splice, sections]
  | skipped line m _ ih => exact ih hblocks index
  | @opens rest ms generated line script arguments new _ ih =>
    obtain ⟨hnew, hmore⟩ := List.forall_mem_cons.1 hblocks
    rw [List.map_cons, splice, hnew.bodyMarks_eq, List.cons_append, sections,
      closing_blockMarks, sections_blockMarks]
    exact List.forall_mem_cons.2 ⟨rfl, ih hmore _⟩
  | stays line other _ ih =>
    rw [splice_cons other, sections_cons _ other]
    exact ih hblocks (index + 1)

/-! ### Splicing again -/

omit [Runtime] in
theorem splice_append {old : List Text} {body : List Mark} (h : body.length = old.length)
    (lines : List Text) (ms : List Mark) (generated : List (List Text)) :
    splice old.length (old ++ lines) (body ++ ms) generated = splice 0 lines ms generated := by
  induction old generalizing body with
  | nil =>
    obtain rfl := List.length_eq_zero_iff.1 h
    rfl
  | cons line rest ih =>
    cases body with
    | nil => cases h
    | cons m body => exact ih (Nat.succ.inj h)

/-- The body of a section that has just been generated is its block. -/
theorem bodyLength_blockMarks {new : List Text} (h : IsBlock new) (ms : List Mark) :
    bodyLength (blockMarks new ++ ms) = new.length := by
  obtain ⟨body, rfl, -⟩ := h
  simp [bodyLength, closing_blockMarks]

/-- **Splicing the same blocks into the new lines** gives the new lines, whatever has become of the
    lines of the blocks. -/
theorem splice_splice {f : Text → Text} (hfits : Fits skip lines ms generated)
    (hkeep : ∀ line ∈ lines, f line = line) (hblocks : ∀ new ∈ generated, IsBlock new) :
    splice 0 ((splice skip lines ms generated).map f)
        (splice skip ms ms (generated.map bodyMarks)) generated =
      splice skip lines ms generated := by
  induction hfits with
  | done skip => cases skip <;> rfl
  | skipped line m _ ih => exact ih (List.forall_mem_cons.1 hkeep).2 hblocks
  | @opens rest ms generated line script arguments new _ ih =>
    obtain ⟨hline, hrest⟩ := List.forall_mem_cons.1 hkeep
    obtain ⟨hnew, hmore⟩ := List.forall_mem_cons.1 hblocks
    have hmarks : (blockMarks new).length = (new.map f).length := by
      rw [hnew.length_blockMarks, List.length_map]
    rw [List.map_cons, splice, splice, hnew.bodyMarks_eq, List.cons_append, List.cons_append,
      List.map_cons, List.map_append, splice, hline, bodyLength_blockMarks hnew,
      ← List.length_map f,
      splice_append hmarks, ih hrest hmore]
    rfl
  | stays line other _ ih =>
    obtain ⟨hline, hrest⟩ := List.forall_mem_cons.1 hkeep
    rw [splice_cons other, splice_cons other, List.map_cons, splice_cons other, hline,
      ih hrest hblocks]

/-! ### The text of the new note -/

/-- The marks of the lines that the new text is cut into. -/
theorem marksFrom_split_unsplit_splice {text : Text}
    (hfits : Fits 0 (Line.split text) ms generated)
    (hreturn : ∀ line ∈ Line.split text, ¬ Line.EndsInReturn line)
    (hblocks : ∀ new ∈ generated, IsBlock new) (hms : marksFrom [] (Line.split text) = .ok ms)
    (ns : List Mark) :
    marksFrom [] (Line.split (Line.unsplit (splice 0 (Line.split text) ms generated))) = .ok ns ↔
      (∀ new ∈ generated, ∀ line ∈ new, IsReadable line) ∧
        ns = splice 0 ms ms (generated.map bodyMarks) := by
  have hmarks := marksFrom_splice hfits hms (fun new hnew => Or.inr (hblocks new hnew)) ns
  rwa [List.take_zero, List.foldl_nil, ← marksFrom_map_of_dropsBlank Section.dropsBlank_chomp,
    ← split_unsplit_splice hfits hreturn hblocks] at hmarks

theorem splice_split_unsplit_splice {text : Text} (hfits : Fits 0 (Line.split text) ms generated)
    (hreturn : ∀ line ∈ Line.split text, ¬ Line.EndsInReturn line)
    (hblocks : ∀ new ∈ generated, IsBlock new) :
    splice 0 (Line.split (Line.unsplit (splice 0 (Line.split text) ms generated)))
        (splice 0 ms ms (generated.map bodyMarks)) generated =
      splice 0 (Line.split text) ms generated := by
  rw [split_unsplit_splice hfits hreturn hblocks]
  exact splice_splice hfits (fun line hl => Line.chomp_of_not (hreturn line hl)) hblocks

end TemplatedNotes.Expansion
