/-
  TemplatedNotes/Proofs/Expansion/Persistence.lean
  ================================================
  **A note that has a section keeps one.**

  What a script renders may hold anything: fences that hide what follows, opening lines, literals
  that cannot be evaluated.  But it is spliced in behind the first opening line of the note, so
  nothing stands before that line that was not there, and the line opens a section again
  (`hasOpening_splice`).  So a note that had a section before an expansion has one after it, if it
  can still be read (`opens_of_gives_expand`).
-/
import TemplatedNotes.Proofs.Expansion.Reread
import TemplatedNotes.Proofs.Expansion.Outside

namespace TemplatedNotes

open TemplatedNotes.Action

variable {text source : Text}

variable [Runtime]

namespace Reference

/-- One of the lines opens a section. -/
def HasOpening (ms : List Mark) : Prop := ∃ script arguments, Mark.opening script arguments ∈ ms

/-- A text that can be read has a section, whichever note it is the text of. -/
def Opens (text : Text) : Prop :=
  ∃ ms, marksFrom [] (Line.split text) = .ok ms ∧ HasOpening ms

omit [Runtime] in
theorem sections_ne_nil_iff {index : Nat} {ms : List Mark} :
    sections source index ms ≠ [] ↔ HasOpening ms := by
  constructor
  · intro h
    obtain ⟨r, hr⟩ := List.exists_mem_of_ne_nil _ h
    obtain ⟨i, script, arguments, hi, -⟩ := mem_sections.1 hr
    exact ⟨script, arguments, List.mem_of_getElem? hi⟩
  · rintro ⟨script, arguments, hmem⟩
    obtain ⟨i, hi⟩ := List.getElem?_of_mem hmem
    exact List.ne_nil_of_mem (mem_sections.2 ⟨i, script, arguments, hi, rfl⟩)

/-- A text opens a section if there is one when it is read. -/
theorem opens_iff_of_read {rs : List Reference} (h : read source text = .ok rs) :
    Opens text ↔ rs ≠ [] := by
  obtain ⟨ms, hms, rfl⟩ := readLines_eq_ok.1 h
  rw [sections_ne_nil_iff]
  constructor
  · rintro ⟨ms', hms', hopening⟩
    obtain rfl := Except.ok.inj (hms'.symm.trans hms)
    exact hopening
  · intro hopening
    exact ⟨ms, hms, hopening⟩

theorem Opens.exists_read (h : Opens text) (source : Text) : ∃ rs, read source text = .ok rs := by
  obtain ⟨ms, hms, -⟩ := h
  exact ⟨_, readLines_eq_ok.2 ⟨ms, hms, rfl⟩⟩

theorem not_opens_of_read {f : Failure} (h : read source text = .error f) : ¬ Opens text := by
  intro hopens
  obtain ⟨rs, hrs⟩ := hopens.exists_read source
  rw [h] at hrs
  cases hrs

end Reference

namespace Expansion

open Reference

/-- **The first opening line opens a section again**: what is spliced in comes behind it, and
    before it everything is as it was. -/
theorem hasOpening_splice {skip : Nat} {lines : List Text} {ms ns : List Mark}
    {generated : List (List Text)} {fences : List Nat} (hfits : Fits skip lines ms generated)
    (hskip : skip = 0) (hms : marksFrom fences lines = .ok ms)
    (hns : marksFrom fences (splice 0 lines ms generated) = .ok ns) (h : HasOpening ms) :
    HasOpening ns := by
  induction hfits generalizing fences ns with
  | done =>
    obtain ⟨script, arguments, hmem⟩ := h
    cases hmem
  | skipped => exact absurd hskip (Nat.succ_ne_zero _)
  | opens line script arguments new =>
    obtain ⟨m, _, hm, -, heq⟩ := marksFrom_cons.1 hms
    obtain ⟨m', ns', hm', -, rfl⟩ := marksFrom_cons.1 hns
    cases heq
    obtain rfl := Except.ok.inj (hm.symm.trans hm')
    exact ⟨script, arguments, List.mem_cons_self⟩
  | stays line other _ ih =>
    obtain ⟨_, _, -, hrest, heq⟩ := marksFrom_cons.1 hms
    cases heq
    rw [splice_cons other] at hns
    obtain ⟨m', ns', -, hmore, rfl⟩ := marksFrom_cons.1 hns
    obtain ⟨script, arguments, hmem⟩ := h
    have hlater : HasOpening _ := ⟨script, arguments, (List.mem_cons.1 hmem).resolve_left
      fun heq => other ⟨script, arguments, heq.symm⟩⟩
    obtain ⟨script', arguments', hmem'⟩ := ih rfl hrest hmore hlater
    exact ⟨script', arguments', List.mem_cons_of_mem m' hmem'⟩

end Expansion

/-! ### An expansion -/

omit [Runtime] in
theorem Generated.lineFeed_not_mem_lines (g : Generated) :
    ∀ line ∈ g.lines, Line.lineFeed ∉ line := by
  have hterminator : ∀ line ∈ [Section.terminator], Line.lineFeed ∉ line := by decide
  unfold lines
  split
  · exact hterminator
  · split
    · exact fun line hline => absurd hline List.not_mem_nil
    · exact List.forall_mem_append.2 ⟨Line.lineFeed_not_mem_of_mem_split g.text, hterminator⟩

/-- The text that lines are put together to is read as the lines are. -/
theorem Reference.marksFrom_split_unsplit {lines : List Text} (hne : lines ≠ [])
    (hfeed : ∀ line ∈ lines, Line.lineFeed ∉ line) (fences : List Nat) :
    marksFrom fences (Line.split (Line.unsplit lines)) = marksFrom fences lines := by
  rw [← marksFrom_map_of_dropsBlank Section.dropsBlank_bare, Line.map_bare_split_unsplit hne hfeed,
    marksFrom_map_of_dropsBlank Section.dropsBlank_bare]

namespace Runner

open Expansion Reference

variable {σ : Type} {runner : Runner σ} {policy : MissingPolicy} {s s' : σ} {e : Expansion}

/-- An expansion reports the note and whether it has a section; only then it changes anything. -/
theorem report_of_gives_expand (h : Gives (runner.expand policy text source) s e s') :
    e.source = source ∧ (e.hadReferences = true ↔ Opens text) ∧
      (e.changed = true → e.hadReferences = true) := by
  obtain ⟨ms, hms, hcases⟩ := gives_expand h
  rw [opens_iff_of_read (readLines_eq_ok.2 ⟨ms, hms, rfl⟩ : read source text = _)]
  rcases hcases with ⟨hnone, rfl, -⟩ | ⟨hsome, gs, -, rfl⟩
  · exact ⟨rfl, by simp [hnone, unchanged], fun hchanged => absurd hchanged Bool.false_ne_true⟩
  · exact ⟨rfl, by simp [hsome, ofGenerated], fun _ => rfl⟩

/-- It reports a change exactly if its text is another one. -/
theorem changed_iff_of_gives_expand (h : Gives (runner.expand policy text source) s e s') :
    e.changed = true ↔ e.text ≠ text := by
  obtain ⟨ms, -, ⟨-, rfl, -⟩ | ⟨-, gs, -, rfl⟩⟩ := gives_expand h
  · simp [unchanged]
  · simp [ofGenerated]

omit [Runtime] in
/-- The lines of the new note have no line feeds in them, whatever was generated. -/
theorem lineFeed_not_mem_splice_lines {ms : List Mark} {gs : List Generated}
    (hfits : Fits 0 (Line.split text) ms (gs.map Generated.lines)) :
    ∀ line ∈ splice 0 (Line.split text) ms (gs.map Generated.lines), Line.lineFeed ∉ line := by
  intro line hline
  rcases mem_splice hfits hline with hline | ⟨new, hnew, hline⟩
  · exact Line.lineFeed_not_mem_of_mem_split text line hline
  · obtain ⟨g, -, rfl⟩ := List.mem_map.1 hnew
    exact g.lineFeed_not_mem_lines line hline

/-- **Whatever the scripts render, a section stays**: an expanded note that can be read has a
    section if the note had one. -/
theorem opens_of_gives_expand (h : Gives (runner.expand policy text source) s e s')
    (hopens : Opens text) {other : Text} {rs : List Reference}
    (hread : read other e.text = .ok rs) : Opens e.text := by
  obtain ⟨ms, hms, hcases⟩ := gives_expand h
  obtain ⟨ms', hms', hopening⟩ := hopens
  obtain rfl := Except.ok.inj (hms'.symm.trans hms)
  rcases hcases with ⟨hnone, -, -⟩ | ⟨-, gs, hgs, rfl⟩
  · exact absurd hnone (sections_ne_nil_iff.2 hopening)
  · have hfits : Fits 0 (Line.split text) ms' (gs.map Generated.lines) :=
      fits_of_length source 0 (length_marksFrom hms) (generates_of_gives hgs).length_eq
    have hsplit := marksFrom_split_unsplit (splice_ne_nil hfits (Line.split_ne_nil text))
      (lineFeed_not_mem_splice_lines hfits) []
    obtain ⟨ns, hns, -⟩ := readLines_eq_ok.1 hread
    exact ⟨ns, hns, hasOpening_splice hfits rfl hms (hsplit.symm.trans hns) hopening⟩

end Runner

end TemplatedNotes
