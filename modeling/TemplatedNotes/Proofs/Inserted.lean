/-
  TemplatedNotes/Proofs/Inserted.lean
  ===================================
  **A section that is inserted into a note is read back as what was meant.**

  A new section goes in the place of a blank line or behind a line that is not blank.  Its text is
  several lines, and the new note is cut into all of them again (`split_inserted`), up to carriage
  returns at the ends of lines, which mean nothing for sections.  So where no fence is open and no
  section is waiting for its terminator the new note has the old sections and the new one
  (`read_inserted`), as long as the generated lines open and end no section.

  One kind of generated line spoils it: a line that opens no section because its literal cannot be
  evaluated, with a failure that goes through the reader (`inserted_spec`).
-/
import TemplatedNotes.Proofs.Section.Insertion
import TemplatedNotes.Proofs.Text.Pieces
import TemplatedNotes.Proofs.Vault.Saved
import TemplatedNotes.Runtime.Usual

namespace TemplatedNotes

open TemplatedNotes.Action

/-! ### Blank lines -/

theorem Section.dropsBlank_trimRight : DropsBlank Text.trimRight :=
  fun _ => (Text.trimRight_eq_iff.1 rfl).1

theorem Text.trimRight_of_isBlank {t : Text} (h : Text.isBlank t = true) : Text.trimRight t = [] :=
  Text.trimRight_eq_iff.2 ⟨⟨t, rfl, List.all_eq_true.1 h⟩, by simp⟩

section

variable [Runtime]

theorem Reference.isPlain_of_isBlank {line : Text} (h : Text.isBlank line = true) :
    Reference.IsPlain line := by
  have htrim := Text.trimRight_of_isBlank h
  constructor
  · rw [← Section.dropsBlank_trimRight.fenceDepth?_eq, htrim]
    rfl
  · have hfence : Section.fenceDepth? line = none := by
      rw [← Section.dropsBlank_trimRight.fenceDepth?_eq, htrim]
      rfl
    have hmark := Reference.markBehind_of_dropsBlank Section.dropsBlank_trimRight [] line
    rw [htrim, Reference.markBehind_nil hfence] at hmark
    exact hmark.symm

end

namespace Workspace

open Reference

/-! ### Where a section goes -/

/-- The text of a note with a text put at a line. -/
def inserted (text : Text) (line : Int) (block : Text) : Text :=
  let lines := Line.split text
  Line.unsplit (insertAt lines (nearestLine lines.length line) block)

/-- The number that the first line of an inserted text has. -/
def insertionPoint (text : Text) (line : Int) : Nat :=
  let lines := Line.split text
  let i := nearestLine lines.length line
  if Text.isBlank (lines[i]?.getD []) then i else i + 1

/-- The lines of a note around an inserted text, and the blank one that it replaces if there is
    one. -/
structure Around (text : Text) (line : Int) (pre mid post : List Text) : Prop where
  lines_eq : Line.split text = pre ++ mid ++ post
  length_eq : pre.length = insertionPoint text line
  replaced : mid = [] ∨ ∃ l, mid = [l] ∧ Text.isBlank l = true
  inserted_eq : ∀ block, inserted text line block = Line.unsplit (pre ++ block :: post)

theorem exists_around (text : Text) (line : Int) : ∃ pre mid post, Around text line pre mid post := by
  have hpos : 0 < (Line.split text).length := List.length_pos_of_ne_nil (Line.split_ne_nil text)
  have hlt := nearestLine_lt hpos line
  generalize hi : nearestLine (Line.split text).length line = i at hlt
  have hline : (Line.split text)[i]?.getD [] = (Line.split text)[i] := by
    rw [List.getElem?_eq_getElem hlt, Option.getD_some]
  by_cases hblank : Text.isBlank ((Line.split text)[i]?.getD []) = true
  · refine ⟨(Line.split text).take i, [(Line.split text)[i]], (Line.split text).drop (i + 1),
      ?_, ?_, Or.inr ⟨_, rfl, hline ▸ hblank⟩, fun block => ?_⟩
    · rw [List.append_assoc, List.singleton_append, List.getElem_cons_drop, List.take_append_drop]
    · simp only [insertionPoint, hi, hblank, if_true, List.length_take]
      omega
    · simp only [inserted, hi, insertAt, hblank, if_true, List.set_eq_take_append_cons_drop, hlt]
  · refine ⟨(Line.split text).take (i + 1), [], (Line.split text).drop (i + 1), ?_, ?_, Or.inl rfl,
      fun block => ?_⟩
    · rw [List.append_nil, List.take_append_drop]
    · simp only [insertionPoint, hi, hblank, if_false, List.length_take, Bool.false_eq_true]
      omega
    · simp only [inserted, hi, insertAt, hblank, if_false, Bool.false_eq_true]

variable {text link : Text} {line : Int} {pre mid post : List Text} {generated : Option Text}

/-- The lines that are shown between the opening line of a new section and its terminator. -/
def shown (generated : Option Text) : List Text := Line.split (generated.getD [])

/-! ### The lines of the new note -/

/-- **The lines of the new note**: those around the section, kept, with its own between them. -/
theorem Around.split_inserted (h : Around text line pre mid post) (hfeed : Line.lineFeed ∉ link)
    (generated : Option Text) :
    ∃ pre' body post', Line.split (inserted text line (Section.block link generated)) =
        pre' ++ Section.openingFor link :: body ++ Section.terminator :: post' ∧
      List.Forall₂ Line.IsKept pre pre' ∧ List.Forall₂ Line.IsKept post post' ∧
      body.map Line.bare = (shown generated).map Line.bare := by
  obtain ⟨ls, hne, hls, hgenerated⟩ := Line.exists_pieces (generated.getD [])
  have hblock : Section.block link generated =
      Line.unsplit (Section.openingFor link :: (ls ++ [Section.terminator])) := by
    have hjoin := Line.unsplit_append_cons [Section.openingFor link] hne [Section.terminator]
    rw [hgenerated] at hjoin
    exact hjoin
  have hold : ∀ l ∈ pre ++ mid ++ post, Line.lineFeed ∉ l :=
    h.lines_eq ▸ Line.lineFeed_not_mem_of_mem_split text
  have hlines : ∀ l ∈ pre ++ (Section.openingFor link :: (ls ++ [Section.terminator])) ++ post,
      Line.lineFeed ∉ l := by
    intro l hl
    simp only [List.mem_append, List.mem_cons, List.not_mem_nil, or_false] at hl
    rcases hl with (hl | rfl | hl | rfl) | hl
    · exact hold l (List.mem_append_left _ (List.mem_append_left _ hl))
    · exact Section.lineFeed_not_mem_openingFor hfeed
    · exact hls l hl
    · decide
    · exact hold l (List.mem_append_right _ hl)
  -- the lines that are cut again correspond to these, part by part
  have hkept := Line.forall₂_isKept (by simp) hlines
  rw [← Line.unsplit_append_cons pre (by simp) post, ← hblock, ← h.inserted_eq] at hkept
  obtain ⟨front, post', hnew, hfront, hpost⟩ := Line.exists_of_forall₂_append hkept
  obtain ⟨pre', middle, rfl, hpre, hmiddle⟩ := Line.exists_of_forall₂_append hfront
  obtain ⟨opener, rest, hopener, hrest, rfl⟩ := List.forall₂_cons_left_iff.1 hmiddle
  obtain ⟨body, last, rfl, hbody, hlast⟩ := Line.exists_of_forall₂_append hrest
  obtain ⟨closer, more, hcloser, hmore, rfl⟩ := List.forall₂_cons_left_iff.1 hlast
  obtain rfl := List.forall₂_nil_left_iff.1 hmore
  obtain rfl := hopener.eq (Section.not_endsInReturn_openingFor link)
  obtain rfl := hcloser.eq (by decide)
  refine ⟨pre', body, post', by simpa using hnew, hpre, hpost, ?_⟩
  rw [Line.map_bare_of_forall₂ hbody, shown, ← hgenerated, Line.map_bare_split_unsplit hne hls]

theorem Around.length_mid (h : Around text line pre mid post) : mid.length ≤ 1 := by
  rcases h.replaced with rfl | ⟨l, rfl, hl⟩ <;> simp

section

variable [Runtime]

theorem Around.isPlain_mid (h : Around text line pre mid post) : ∀ l ∈ mid, IsPlain l := by
  rcases h.replaced with rfl | ⟨l, rfl, hl⟩
  · simp
  · simpa using isPlain_of_isBlank hl

omit [Runtime] in
theorem Around.growth (h : Around text line pre mid post) (hfeed : Line.lineFeed ∉ link)
    (generated : Option Text) :
    (Line.split (inserted text line (Section.block link generated))).length -
      (Line.split text).length = (shown generated ++ [Section.terminator]).length + 1 - mid.length := by
  obtain ⟨pre', body, post', hnew, hpre, hpost, hbody⟩ := h.split_inserted hfeed generated
  have hlength := congrArg List.length hbody
  simp only [List.length_map] at hlength
  rw [hnew, h.lines_eq]
  simp only [List.length_append, List.length_cons, List.length_nil, ← hpre.length_eq,
    ← hpost.length_eq, hlength]
  omega

/-- For the reader the new note has the lines of the old one with those of the section between
    them. -/
theorem Around.readLines_inserted (h : Around text line pre mid post)
    (hfeed : Line.lineFeed ∉ link) (generated : Option Text) (source : Text) :
    Reference.read source (inserted text line (Section.block link generated)) =
      readLines source (pre ++ Section.openingFor link ::
        (shown generated ++ [Section.terminator]) ++ post) := by
  obtain ⟨pre', body, post', hnew, hpre, hpost, hbody⟩ := h.split_inserted hfeed generated
  have hmap : (Line.split (inserted text line (Section.block link generated))).map Line.bare =
      (pre ++ Section.openingFor link ::
        (shown generated ++ [Section.terminator]) ++ post).map Line.bare := by
    rw [hnew]
    simp only [List.map_append, List.map_cons, Line.map_bare_of_forall₂ hpre,
      Line.map_bare_of_forall₂ hpost, hbody, List.append_assoc, List.cons_append, List.nil_append]
  rw [Reference.read, readLines_eq, readLines_eq,
    ← marksFrom_map_of_dropsBlank Section.dropsBlank_bare, hmap,
    marksFrom_map_of_dropsBlank Section.dropsBlank_bare]

/-! ### The sections of the new note -/

def meant (source link : Text) (start : Nat) (generated : Option Text) : Reference :=
  ⟨source, link, start, some (start + (shown generated).length + 1), Section.argumentsFor link⟩

theorem isBlock_shown (h : ∀ l ∈ shown generated, IsInert l) :
    IsBlock (shown generated ++ [Section.terminator]) :=
  ⟨shown generated, rfl, fun l hl => ⟨h l hl, Line.lineFeed_not_mem_of_mem_split _ l hl⟩⟩

theorem forall_isReadable_shown :
    (∀ l ∈ shown generated ++ [Section.terminator], IsReadable l) ↔
      ∀ l ∈ shown generated, IsReadable l := by
  have hterminator : IsReadable Section.terminator := ⟨none, opening?_terminator⟩
  rw [List.forall_mem_append, List.forall_mem_singleton]
  exact and_iff_left hterminator

/-- **The sections of the new note**: the old ones, those behind the new one at their new lines.
    The note can be read if the generated lines can. -/
theorem read_inserted {source : Text} {rs : List Reference} (hlink : link ≠ [])
    (hfeed : Line.lineFeed ∉ link) (hinert : ∀ l ∈ shown generated, IsInert l)
    (hread : Reference.read source text = .ok rs)
    (hfences : fencesBefore (Line.split text) (insertionPoint text line) = [])
    (hwaiting : ∀ r ∈ rs, ∀ j, r.finish = some j → r.start < insertionPoint text line →
      j < insertionPoint text line) :
    ∃ before after, rs = before ++ after ∧
      (∀ r ∈ before, r.IsBefore (insertionPoint text line)) ∧
      (∀ r ∈ after, insertionPoint text line ≤ r.start) ∧
      ∀ rs', Reference.read source (inserted text line (Section.block link generated)) = .ok rs' ↔
        (∀ l ∈ shown generated, IsReadable l) ∧
          rs' = before ++ meant source link (insertionPoint text line) generated ::
            after.map (moved (insertionPoint text line)
              ((Line.split (inserted text line (Section.block link generated))).length -
                (Line.split text).length)) := by
  obtain ⟨pre, mid, post, h⟩ := exists_around text line
  rw [← h.length_eq] at hfences hwaiting ⊢
  rw [Reference.read, h.lines_eq] at hread
  rw [fencesBefore, h.lines_eq, List.append_assoc, List.take_left] at hfences
  have hcount : mid.length ≤ (shown generated ++ [Section.terminator]).length + 1 :=
    Nat.le_trans h.length_mid (by omega)
  obtain ⟨before, after, hsplit, hbefore, hafter, hrs⟩ := readLines_opening
    (Section.opening?_openingFor hlink hfeed) (Section.fenceDepth?_openingFor link)
    (isBlock_shown hinert) h.isPlain_mid hcount hread hfences hwaiting
  refine ⟨before, after, hsplit, hbefore, hafter, fun rs' => ?_⟩
  have hmeant : (⟨source, link, pre.length,
      some (pre.length + (shown generated ++ [Section.terminator]).length),
      Section.argumentsFor link⟩ : Reference) = meant source link pre.length generated := by
    simp [meant, Nat.add_assoc]
  rw [h.readLines_inserted hfeed, hrs, forall_isReadable_shown, hmeant, h.growth hfeed]

/-! ### The command -/

omit [Runtime] in
theorem of_gives_template {w w' : Workspace} {source : Text} {script : Template}
    (h : Gives (template source link) w script w') :
    w.vault.template source link = .ok script ∧ w' = w := by
  obtain ⟨w₀, w₁, hget, hlift⟩ := gives_bind.1 h
  obtain ⟨rfl, rfl⟩ := gives_get.1 hget
  exact gives_lift.1 hlift

theorem of_gives_invoke {w w' : Workspace} {script : Template} {source : Text} {arguments : Value}
    {i : Invocation} (h : Gives (invoke script source arguments) w i w') :
    ∃ m, Gives (w.host.invoke script source arguments) w.memory i m ∧
      w' = { w with memory := m } := by
  obtain ⟨w₀, w₁, hget, hrun⟩ := gives_bind.1 h
  obtain ⟨rfl, rfl⟩ := gives_get.1 hget
  exact of_gives_onMemory hrun

/-- **An insertion that works**: the script of the link is run with nothing but the link, the block
    with what it rendered goes into the note, and the known paths are saved. -/
theorem of_gives_insert {w w' : Workspace} {path block : Text}
    (h : Gives (insert path line link) w block w') :
    ∃ script i m text v known, w.vault.template path link = .ok script ∧
      Gives (w.host.invoke script path (Section.argumentsFor link)) w.memory i m ∧
      w.vault.read path = .ok text ∧ block = Section.block link i.rendered ∧
      Gives (Vault.modify path (inserted text line block)) w.vault ⟨⟩ v ∧
      Gives save { w with vault := v, memory := m, known := known } ⟨⟩ w' := by
  obtain ⟨script, w₁, htemplate, hrest⟩ := gives_bind.1 h
  clear h
  obtain ⟨hscript, rfl⟩ := of_gives_template htemplate
  dsimp only at hrest
  obtain ⟨i, w₂, hinvoke, hrest⟩ := gives_bind.1 hrest
  obtain ⟨m, hm, rfl⟩ := of_gives_invoke hinvoke
  obtain ⟨w₃, w₄, hget, hrest⟩ := gives_bind.1 hrest
  obtain ⟨rfl, rfl⟩ := gives_get.1 hget
  obtain ⟨text, w₅, htext, hrest⟩ := gives_bind.1 hrest
  obtain ⟨hread, rfl⟩ := gives_lift.1 htext
  obtain ⟨u, w₆, hwrite, hrest⟩ := gives_bind.1 hrest
  obtain ⟨v, hv, rfl⟩ := of_gives_onVault hwrite
  obtain ⟨u₁, w₇, hnote, hrest⟩ := gives_bind.1 hrest
  obtain rfl := gives_modifyThe.1 hnote
  obtain ⟨u₂, w₈, hlinks, hrest⟩ := gives_bind.1 hrest
  obtain rfl := gives_modifyThe.1 hlinks
  obtain ⟨u₃, w₉, hsave, hrest⟩ := gives_bind.1 hrest
  obtain ⟨rfl, rfl⟩ := gives_pure.1 hrest
  exact ⟨script, i, m, text, v, _, hscript, hm, hread, rfl, hv, hsave⟩

/-- The note after an insertion, unless it is the file of the known paths itself. -/
theorem read_of_gives_insert {w w' : Workspace} {path block : Text}
    (hstore : ∀ file ∈ w.store, w.vault.absolute path ≠ .ok file)
    (hread : w.vault.read path = .ok text) (h : Gives (insert path line link) w block w') :
    w'.vault.read path = .ok (inserted text line block) := by
  obtain ⟨script, i, m, text', v, known, -, -, hread', -, hwrite, hsave⟩ := of_gives_insert h
  obtain rfl : text' = text := Except.ok.inj (hread'.symm.trans hread)
  obtain ⟨hroot, hnew⟩ := Vault.read_of_gives_modify hwrite
  refine read_of_gives_save hsave (fun file hfile => ?_) hnew
  rw [Vault.absolute_congr hroot]
  exact hstore file hfile

/-! ### The section is what was meant -/

omit [Runtime] in
/-- When nothing was generated, an empty line is shown. -/
theorem forall_mem_shown {p : Text → Prop} (hp : p []) :
    (∀ l ∈ shown generated, p l) ↔ ∀ g ∈ generated, ∀ l ∈ Line.split g, p l := by
  cases generated with
  | none =>
    have hshown : shown none = [[]] := rfl
    simp only [hshown, List.forall_mem_singleton, Option.not_mem_none, false_implies, implies_true,
      iff_true]
    exact hp
  | some g =>
    have hshown : shown (some g) = Line.split g := rfl
    simp only [hshown, Option.mem_def, Option.some.injEq, forall_eq']

/-- **An inserted section is read back as what was meant.**  It is put where no fence is open and
    not between the opening line of a section and its terminator, and the generated lines open and
    end no section.  If they can be read, so can the new note: it has the sections of the old one
    in order, those behind the insertion so many lines later as the note has grown, and the new
    section at the insertion, with a terminator, its script and no other arguments.  If one of them
    cannot be read, the new note cannot either.  Every line of the old note but the blank one that
    is replaced is kept in any case, up to carriage returns at its end, and the note that the
    command leaves is the one described. -/
theorem inserted_spec {source : Text} {rs : List Reference} (hlink : link ≠ [])
    (hfeed : Line.lineFeed ∉ link)
    (hinert : ∀ g ∈ generated, ∀ l ∈ Line.split g, IsInert l)
    (hread : Reference.read source text = .ok rs)
    (hfences : fencesBefore (Line.split text) (insertionPoint text line) = [])
    (houtside : ∀ r ∈ rs, ∀ j, r.finish = some j → r.start < insertionPoint text line →
      j < insertionPoint text line) :
    let k := insertionPoint text line
    let new := inserted text line (Section.block link generated)
    ((∀ g ∈ generated, ∀ l ∈ Line.split g, IsReadable l) →
      ∃ before after, rs = before ++ after ∧ (∀ r ∈ before, r.IsBefore k) ∧
        (∀ r ∈ after, k ≤ r.start) ∧
        Reference.read source new = .ok (before ++ meant source link k generated ::
          after.map (moved k ((Line.split new).length - (Line.split text).length)))) ∧
    ((∃ g ∈ generated, ∃ l ∈ Line.split g, ¬ IsReadable l) →
      ∃ f, Reference.read source new = .error f ∧ f.kindName = Text.of "OverflowError") ∧
    (∃ pre mid post pre' body post', Line.split text = pre ++ mid ++ post ∧ pre.length = k ∧
      (mid = [] ∨ ∃ l, mid = [l] ∧ Text.isBlank l = true) ∧
      Line.split new = pre' ++ Section.openingFor link :: body ++ Section.terminator :: post' ∧
      List.Forall₂ Line.IsKept pre pre' ∧ List.Forall₂ Line.IsKept post post' ∧
      body.map Line.bare = (Line.split (generated.getD [])).map Line.bare) ∧
    ∀ (w w' : Workspace) path block, w.vault.read path = .ok text →
      (∀ file ∈ w.store, w.vault.absolute path ≠ .ok file) →
      Gives (insert path line link) w block w' →
      ∃ script i m, w.vault.template path link = .ok script ∧
        Gives (w.host.invoke script path (Section.argumentsFor link)) w.memory i m ∧
        block = Section.block link i.rendered ∧
        w'.vault.read path = .ok (inserted text line block) := by
  intro k new
  have hreadable : (∀ l ∈ shown generated, IsReadable l) ↔ ∀ g ∈ generated,
      ∀ l ∈ Line.split g, IsReadable l := forall_mem_shown ⟨none, rfl⟩
  obtain ⟨before, after, hsplit, hbefore, hafter, hnew⟩ := read_inserted hlink hfeed
    ((forall_mem_shown isInert_nil).2 hinert) hread hfences houtside
  refine ⟨fun hall => ?_, fun ⟨g, hg, l, hl, hno⟩ => ?_, ?_, ?_⟩
  · exact ⟨before, after, hsplit, hbefore, hafter, (hnew _).2 ⟨hreadable.2 hall, rfl⟩⟩
  · cases hresult : Reference.read source new with
    | ok rs' => exact absurd (hreadable.1 ((hnew rs').1 hresult).1 g hg l hl) hno
    | error f =>
      rw [Reference.read, readLines_eq, Outcome.map_eq_error] at hresult
      exact ⟨f, rfl, kindName_of_marksFrom_eq_error hresult⟩
  · obtain ⟨pre, mid, post, h⟩ := exists_around text line
    obtain ⟨pre', body, post', hlines, hpre, hpost, hbody⟩ := h.split_inserted hfeed generated
    exact ⟨pre, mid, post, pre', body, post', h.lines_eq, h.length_eq, h.replaced, hlines, hpre,
      hpost, hbody⟩
  · intro w w' path block htext hstore h
    obtain ⟨script, i, m, -, -, -, hscript, hinvoke, -, hblock, -⟩ := of_gives_insert h
    exact ⟨script, i, m, hscript, hinvoke, hblock, read_of_gives_insert hstore htext h⟩

end

attribute [local instance] Runtime.usual

/-- A note with a blank line between two sections, the second without a terminator. -/
def gapped : Text := Text.of "%% template: 'a.py' %%\n%%%%\n \n%% template: 'b.py' %%"

/-- The path of a script with a quote, a backslash, a carriage return and percent signs in it. -/
def crooked : Text := Text.of "it's \\n\r %%"

theorem inserted_spec_gapped :
    ∃ rs before after, Reference.read (Text.of "n.md") gapped = .ok rs ∧ rs.length = 2 ∧
      rs = before ++ after ∧ (∀ r ∈ before, r.start < 2) ∧ (∀ r ∈ after, 2 ≤ r.start) ∧
      Reference.read (Text.of "n.md")
          (inserted gapped 2 (Section.block crooked (some (Text.of "hi\r\nthere")))) =
        .ok (before ++ ⟨Text.of "n.md", crooked, 2, some 5, Section.argumentsFor crooked⟩ ::
          after.map (moved 2 3)) := by
  have hpoint : insertionPoint gapped 2 = 2 := by decide +kernel
  have hgrowth : (Line.split (inserted gapped 2
      (Section.block crooked (some (Text.of "hi\r\nthere"))))).length -
        (Line.split gapped).length = 3 := by decide +kernel
  have hfences : fencesBefore (Line.split gapped) (insertionPoint gapped 2) = [] := by
    decide +kernel
  have hgenerated : ∀ g ∈ some (Text.of "hi\r\nthere"), ∀ l ∈ Line.split g,
      IsInert l ∧ IsReadable l := by decide +kernel
  have hsections : (Reference.read (Text.of "n.md") gapped).toOption.map (fun rs =>
      decide (rs.length = 2 ∧ ∀ r ∈ rs, ∀ j ∈ r.finish, r.start < 2 → j < 2)) = some true := by
    decide +kernel
  cases hread : Reference.read (Text.of "n.md") gapped with
  | error f =>
    rw [hread] at hsections
    cases hsections
  | ok rs =>
    rw [hread] at hsections
    obtain ⟨hcount, houtside⟩ := of_decide_eq_true (Option.some.inj hsections)
    have hlink : crooked ≠ [] := by decide
    have hfeed : Line.lineFeed ∉ crooked := by decide
    obtain ⟨hnew, -⟩ := inserted_spec hlink hfeed (fun g hg l hl => (hgenerated g hg l hl).1) hread
      hfences (fun r hr j hj => hpoint.symm ▸ houtside r hr j hj)
    obtain ⟨before, after, hsplit, hbefore, hafter, hresult⟩ :=
      hnew (fun g hg l hl => (hgenerated g hg l hl).2)
    rw [hpoint, hgrowth] at hresult
    rw [hpoint] at hbefore hafter
    exact ⟨rs, before, after, rfl, hcount, hsplit, fun r hr => (hbefore r hr).1, hafter, hresult⟩

/-- The generated line neither opens nor ends a section, but its literal cannot be evaluated; so
    the new note cannot be read. -/
theorem read_inserted_overflowing :
    IsInert (Text.of "%% a: '\\u\x7b80000000\x7d' %%") ∧
      Reference.read (Text.of "n.md") (Text.of "x") = .ok [] ∧
      fencesBefore (Line.split (Text.of "x")) (insertionPoint (Text.of "x") 0) = [] ∧
      ¬ ∃ rs, Reference.read (Text.of "n.md") (inserted (Text.of "x") 0
        (Section.block (Text.of "t.py") (some (Text.of "%% a: '\\u\x7b80000000\x7d' %%")))) =
          .ok rs := by
  have hread : (Reference.read (Text.of "n.md") (inserted (Text.of "x") 0
      (Section.block (Text.of "t.py") (some (Text.of
        "%% a: '\\u\x7b80000000\x7d' %%"))))).toOption.isNone = true := by decide +kernel
  refine ⟨by decide +kernel, rfl, by decide +kernel, ?_⟩
  rintro ⟨rs, h⟩
  rw [h] at hread
  cases hread

end Workspace

end TemplatedNotes
