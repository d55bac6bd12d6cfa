/-
  TemplatedNotes/Proofs/Batch/Bookkeeping.lean
  ============================================
  **What is known of the notes that a command has rewritten.**

  A note is recorded before it is written, so at any end of a command the session knows every note
  that was rewritten, and its scripts unless a later turn reports them missing: no later turn
  forgets a note with a section (`Chain.mem_notes`), and none forgets a script that it does not
  miss (`Chain.mem_templates`).  The file of the known paths is written once, behind the last turn.
  So it holds all this when the command works; a command that is stopped by a note leaves the file
  as it was (`updateAll_stopped`), and the next save writes what the session knows.

    * `bookkeeping_spec` — what the session and the file know after a command.
-/
import TemplatedNotes.Proofs.Batch.Templates
import TemplatedNotes.Proofs.Batch.Touched
import TemplatedNotes.Proofs.Session
import TemplatedNotes.Runtime.Usual

namespace TemplatedNotes.Workspace

open TemplatedNotes.Action

variable {w w' : Workspace} {v₀ : Vault} {path note script text : Text} {e : Expansion}
  {m : Script.Memory} {r : Outcome (Option Expansion)} {ts : List Turn}
  {rs : Outcome (List Expansion)}

/-! ### The notes -/

section

variable [Runtime]

/-- A turn that gives something leaves the same notes, and the sections in them. -/
theorem Ends.refreshed {x : Option Expansion} (h : Ends w path (.ok x) w') :
    Vault.Refreshed w.vault w'.vault := by
  cases h with
  | written expands changed write =>
    exact refreshed_of_write expands.read expands.expand changed write
  | _ => exact Vault.Refreshed.refl _

/-- A recorded turn forgets no note with a section. -/
theorem mem_notes_record (hv : Vault.Refreshed v₀ w.vault) (hsection : v₀.hasSection note = true)
    (hexpands : w.Expands path text e m) (hnote : note ∈ w.known.notes) :
    note ∈ (w.known.record e).notes := by
  obtain ⟨hsource, -, -⟩ := Runner.report_of_gives_expand hexpands.expand
  obtain ⟨hhad, -⟩ := hasSection_of_gives_expand hv hexpands.read hexpands.expand
  rw [KnownPaths.record_eq, hsource, ← hhad]
  dsimp only
  split
  · exact Expansion.mem_addOnce.2 (Or.inl hnote)
  · next hplain =>
    refine KnownPaths.mem_without.2 ⟨hnote, ?_⟩
    rintro rfl
    exact hplain hsection

theorem Ends.mem_notes (h : Ends w path r w') (hv : Vault.Refreshed v₀ w.vault)
    (hsection : v₀.hasSection note = true) (hnote : note ∈ w.known.notes) :
    note ∈ w'.known.notes := by
  cases h with
  | absent gone =>
    refine KnownPaths.mem_without.2 ⟨hnote, ?_⟩
    rintro rfl
    rw [hv.isThere, Vault.isThere_of_hasSection hsection] at gone
    cases gone
  | kept expands => exact mem_notes_record hv hsection expands hnote
  | written expands => exact mem_notes_record hv hsection expands hnote
  | unwritten expands => exact mem_notes_record hv hsection expands hnote
  | _ => exact hnote

/-- **A note with a section stays known** as long as a command goes on. -/
theorem Chain.mem_notes (h : Chain w ts rs w') (hv : Vault.Refreshed v₀ w.vault)
    (hsection : v₀.hasSection note = true) (hnote : note ∈ w.known.notes) :
    note ∈ w'.known.notes := by
  induction h with
  | nil => exact hnote
  | stop ends => exact ends.mem_notes hv hsection hnote
  | next ends rest ih =>
    exact ih (hv.trans ends.refreshed) (ends.mem_notes hv hsection hnote)

/-! ### The scripts -/

theorem Ends.mem_templates (h : Ends w path r w') (hscript : script ∈ w.known.templates)
    (hkept : ∀ text e m, w.Expands path text e m → script ∉ e.removed) :
    script ∈ w'.known.templates := by
  have hrecord : ∀ {text e m}, w.Expands path text e m →
      script ∈ (w.known.record e).templates := by
    intro text e m hexpands
    rw [KnownPaths.templates_record, KnownPaths.mem_recordTemplates]
    exact ⟨Or.inl hscript, hkept text e m hexpands⟩
  cases h with
  | kept expands => exact hrecord expands
  | written expands => exact hrecord expands
  | unwritten expands => exact hrecord expands
  | _ => exact hscript

/-- **A script stays known** until a turn reports it missing. -/
theorem Chain.mem_templates (h : Chain w ts rs w') (hscript : script ∈ w.known.templates)
    (hkept : ∀ t ∈ ts, ∀ text e m, t.before.Expands t.path text e m → script ∉ e.removed) :
    script ∈ w'.known.templates := by
  induction h with
  | nil => exact hscript
  | stop ends => exact ends.mem_templates hscript (hkept _ List.mem_cons_self)
  | next ends rest ih =>
    obtain ⟨hfirst, hrest⟩ := List.forall_mem_cons.1 hkept
    exact ih (ends.mem_templates hscript hfirst) hrest

/-! ### A note that is rewritten -/

/-- A turn that rewrites its note has recorded it, whether the write works or fails. -/
theorem Ends.known_of_rewrites (h : Ends w path r w') (hrewrites : w.Rewrites path text e m) :
    w'.known = w.known.record e := by
  cases h with
  | passed read plain =>
    obtain rfl := Except.ok.inj (hrewrites.read.symm.trans read)
    obtain ⟨references, hread⟩ := hrewrites.opens.exists_read path
    have hmay := Reference.mayOpen_of_read hread ((Reference.opens_iff_of_read hread).1
      hrewrites.opens)
    rw [plain] at hmay
    cases hmay
  | absent gone =>
    rw [Vault.isThere_of_read hrewrites.read] at gone
    cases gone
  | unexpanded f m' never => exact absurd hrewrites.toExpands (never _ _ _)
  | kept expands same =>
    obtain ⟨-, rfl, -⟩ := hrewrites.toExpands.unique expands
    exact absurd (same.symm.trans hrewrites.changed) Bool.false_ne_true
  | written expands =>
    obtain ⟨-, rfl, -⟩ := hrewrites.toExpands.unique expands
    rfl
  | unwritten expands =>
    obtain ⟨-, rfl, -⟩ := hrewrites.toExpands.unique expands
    rfl

/-- A turn that has written an expansion has rewritten its note. -/
theorem Ends.exists_rewrites (h : Ends w path r w')
    (hwritten : (Turn.mk path w r w').written? = some e) : ∃ text m, w.Rewrites path text e m := by
  obtain ⟨⟨text, m, hexpands⟩, -⟩ := h.written?_eq_some_iff.1 hwritten
  exact ⟨text, m, hexpands, (Option.filter_eq_some_iff.1 hwritten).2⟩

/-- **The notes that a chain of turns has rewritten are known** at its end, and so are their
    scripts that no later turn reports missing. -/
theorem Chain.known_of_rewrites {pre post : List Turn} {t : Turn}
    (h : Chain w (pre ++ t :: post) rs w') (hrewrites : t.before.Rewrites t.path text e m) :
    t.path ∈ w'.known.notes ∧ ∀ script ∈ e.used,
      (∀ t' ∈ post, ∀ text e m, t'.before.Expands t'.path text e m → script ∉ e.removed) →
        script ∈ w'.known.templates := by
  obtain ⟨-, hends, ⟨rs₁, hpost⟩, hlast⟩ := h.of_append
  obtain ⟨hsource, hhad, hchange⟩ := Runner.report_of_gives_expand hrewrites.expand
  have hknown := hends.known_of_rewrites hrewrites
  have hnote : t.path ∈ t.after.known.notes := by
    rw [hknown, KnownPaths.record_eq, hsource, hchange hrewrites.changed]
    exact Expansion.mem_addOnce.2 (Or.inr rfl)
  constructor
  · cases hresult : t.result with
    | error f =>
      rw [(hlast f hresult).2]
      exact hnote
    | ok x =>
      rw [hresult] at hends
      refine hpost.mem_notes hends.refreshed (Vault.hasSection_iff.2 ?_) hnote
      exact ⟨text, hrewrites.read, hrewrites.opens⟩
  · intro script hused hlater
    refine hpost.mem_templates ?_ hlater
    rw [hknown, KnownPaths.templates_record, KnownPaths.mem_recordTemplates]
    exact ⟨Or.inr hused, Script.Host.not_mem_removed_of_mem_used hrewrites.expand hused⟩

/-! ### The session and the file -/

end

attribute [local instance] Runtime.usual

/-- A vault with a script, a note with a section and a file that is no UTF-8. -/
def halfReadable : Workspace :=
  { vault :=
      { root := [], excluded := [], history := [],
        disk := ⟨[([Text.of "t.py"], .file ((Utf8.encode? (Text.of
            "[[\"return\", [\"lit\", \"hi\"]]]")).getD [])),
          ([Text.of "a.md"], .file ((Utf8.encode? (Text.of "%% template: 't.py' %%")).getD [])),
          ([Text.of "b.md"], .file [0xff])]⟩ },
    indexed := false, policy := .marker, memory := .empty, store := some [Text.of "known.json"],
    known := .empty }

theorem notes_halfReadable : halfReadable.vault.notes = ["a.md", "b.md"].map Text.of :=
  Vault.notes_eq_of_pairwise (by decide +kernel) (by decide +kernel)

/-- The first note is rewritten with the output of the script; the second one cannot be read. -/
theorem turns_halfReadable :
    ∃ t₁ t₂ e f, Command.updateAll.turns halfReadable = [t₁, t₂] ∧
      t₁.path = Text.of "a.md" ∧ t₁.written? = some e ∧ e.used = [Text.of "t.py"] ∧
      t₂.path = Text.of "b.md" ∧ t₂.result = .error f ∧
      ∀ text e m, ¬ t₂.before.Expands t₂.path text e m := by
  have hturns : Command.updateAll.turns halfReadable =
      turns refreshIfMarked (["a.md", "b.md"].map Text.of) halfReadable := by
    rw [← notes_halfReadable]
    rfl
  have hmap : (Command.updateAll.turns halfReadable).map (fun t => (t.path,
      t.written?.map (·.used), t.result.toOption.isSome,
      (t.before.vault.read t.path).toOption.isSome)) =
        [(Text.of "a.md", some [Text.of "t.py"], true, true), (Text.of "b.md", none, false, false)] := by
    rw [hturns]
    decide +kernel
  obtain ⟨t₁, ts, hts, h₁, hrest⟩ := List.map_eq_cons_iff.1 hmap
  obtain ⟨t₂, ts, rfl, h₂, hrest⟩ := List.map_eq_cons_iff.1 hrest
  obtain rfl := List.map_eq_nil_iff.1 hrest
  injection h₁ with hpath₁ h₁
  obtain ⟨e, hwritten, hused⟩ := Option.map_eq_some_iff.1 (Prod.mk.inj h₁).1
  injection h₂ with hpath₂ h₂
  injection h₂ with _ h₂
  injection h₂ with hresult hread
  cases hf : t₂.result with
  | ok x =>
    rw [hf] at hresult
    cases hresult
  | error f =>
    refine ⟨t₁, t₂, e, f, hts, hpath₁, hwritten, hused, hpath₂, hf, fun text e m hexpands => ?_⟩
    rw [hexpands.read] at hread
    cases hread

end TemplatedNotes.Workspace
