/-
  TemplatedNotes/Proofs/Template.lean
  ===================================
  **The script that a link means, and what a link without one does to a note.**

  A link that finds no file, or a file that is no text, has a missing script, and a section with a
  missing script is generated like any other.  A link that cannot be looked up has no script at
  all, and one such link in a note is enough for the note not to be expanded.

    * `template_eq_ok_iff`, `template_eq_error_iff` — the two ends of looking for a script;
    * `template_spec` — what they mean for the sections of a note.
-/
import TemplatedNotes.Proofs.Expansion.Idempotence
import TemplatedNotes.Proofs.Vault.Link
import TemplatedNotes.Runtime.Usual

namespace TemplatedNotes

open TemplatedNotes.Action

/-! ### Looking for a script -/

namespace Vault

variable {v : Vault} {source link : Text} {p : Path} {f : Failure} {t : Template}

/-- A file of the vault that is there but is no text counts as missing. -/
theorem isUnreadable_of_resourceAt (h : v.resourceAt p = .error f) : isUnreadable f = true := by
  have htext : v.textAt p = .error f := Outcome.map_eq_error.1 h
  rcases Outcome.bind_eq_error.1 htext with hbytes | ⟨b, -, hdecode⟩
  · unfold Disk.bytes at hbytes
    split at hbytes
    · cases hbytes
    · cases hbytes
      rfl
    · cases hbytes
      rfl
  · split at hdecode
    · cases hdecode
    · cases hdecode
      rfl

theorem template_of_resolveLink_none (h : v.resolveLink link source = .ok none) :
    v.template source link = .ok (.missing link) := by
  unfold template
  rw [h]
  rfl

theorem template_of_resolveLink_some (h : v.resolveLink link source = .ok (some p)) :
    v.template source link =
      .ok (match v.resourceAt p with
        | .ok text => ⟨link, true, text⟩
        | .error _ => .missing link) := by
  have hread : v.template source link = match v.resourceAt p with
      | .ok text => .ok ⟨link, true, text⟩
      | .error f => if isUnreadable f then .ok (.missing link) else .error f := by
    unfold template
    rw [h]
    rfl
  rw [hread]
  cases hp : v.resourceAt p with
  | ok text => rfl
  | error f =>
    dsimp only
    rw [if_pos (isUnreadable_of_resourceAt hp)]

/-- **No script is found for a link exactly when the link cannot be looked up.** -/
theorem template_eq_error_iff :
    v.template source link = .error f ↔ v.resolveLink link source = .error f := by
  cases h : v.resolveLink link source with
  | error g =>
    have ht : v.template source link = .error g := by
      unfold template
      rw [h]
      rfl
    rw [ht]
    simp
  | ok found =>
    cases found with
    | none =>
      rw [template_of_resolveLink_none h]
      simp
    | some p =>
      rw [template_of_resolveLink_some h]
      simp

/-- **The script of a link** is the text of the file that the link means, and a missing one if
    there is no such file or it is no text. -/
theorem template_eq_ok_iff :
    v.template source link = .ok t ↔
      (∃ p text, v.resolveLink link source = .ok (some p) ∧ v.resourceAt p = .ok text ∧
        t = ⟨link, true, text⟩) ∨
      ((v.resolveLink link source = .ok none ∨
        ∃ p g, v.resolveLink link source = .ok (some p) ∧ v.resourceAt p = .error g) ∧
          t = .missing link) := by
  cases h : v.resolveLink link source with
  | error g =>
    rw [template_eq_error_iff.2 h]
    simp
  | ok found =>
    cases found with
    | none =>
      rw [template_of_resolveLink_none h]
      simp [eq_comm]
    | some p =>
      rw [template_of_resolveLink_some h]
      cases hp : v.resourceAt p with
      | ok text => simp [hp, eq_comm]
      | error g => simp [hp, eq_comm]

/-- A link without obstacles has a script, there or missing. -/
theorem exists_template (h : ∃ found, v.resolveLink link source = .ok found) :
    ∃ t, v.template source link = .ok t := by
  obtain ⟨found, h⟩ := h
  cases found with
  | none => exact ⟨_, template_of_resolveLink_none h⟩
  | some p => exact ⟨_, template_of_resolveLink_some h⟩

end Vault

/-! ### Sections of links with and without a script -/

namespace Runner

variable {σ : Type} {runner : Runner σ} {policy : MissingPolicy}

/-- Sections that are generated are generated one by one. -/
theorem gives_generate_of_mem {rs : List Reference} {gs : List Generated} {s s' : σ}
    (h : Gives (runner.generateAll policy rs) s gs s') {r : Reference} (hr : r ∈ rs) :
    ∃ s₁ g s₂, Gives (runner.generate policy r) s₁ g s₂ := by
  induction rs generalizing s gs s' with
  | nil => cases hr
  | cons first rest ih =>
    obtain ⟨g, s₁, hg, h⟩ := gives_bind.1 h
    obtain ⟨gs', s₂, hgs, -⟩ := gives_bind.1 h
    rcases List.mem_cons.1 hr with rfl | hr
    · exact ⟨s, g, s₁, hg⟩
    · exact ih hgs hr

/-- What is generated comes from one of the sections. -/
theorem exists_generate_of_mem {rs : List Reference} {gs : List Generated} {s s' : σ}
    (h : Gives (runner.generateAll policy rs) s gs s') {g : Generated} (hg : g ∈ gs) :
    ∃ r ∈ rs, ∃ s₁ s₂, Gives (runner.generate policy r) s₁ g s₂ := by
  induction rs generalizing s gs with
  | nil =>
    obtain ⟨rfl, -⟩ := gives_pure.1 h
    cases hg
  | cons r rest ih =>
    obtain ⟨first, s₁, hfirst, h⟩ := gives_bind.1 h
    obtain ⟨more, s₂, hmore, h⟩ := gives_bind.1 h
    obtain ⟨rfl, rfl⟩ := gives_pure.1 h
    rcases List.mem_cons.1 hg with rfl | hg
    · exact ⟨r, List.mem_cons_self, s, s₁, hfirst⟩
    · obtain ⟨r', hr', hgenerate⟩ := ih hmore hg
      exact ⟨r', List.mem_cons_of_mem r hr', hgenerate⟩

theorem reference_of_gives_generate {r : Reference} {g : Generated} {s s' : σ}
    (h : Gives (runner.generate policy r) s g s') : g.reference = r := by
  unfold generate at h
  obtain ⟨t, s₁, -, h⟩ := gives_bind.1 h
  split at h
  · obtain ⟨rfl, -⟩ := gives_pure.1 h
    rfl
  · obtain ⟨i, s₂, -, h⟩ := gives_bind.1 h
    obtain ⟨rfl, -⟩ := gives_pure.1 h
    rfl

/-- An expansion that gives something has found a script for every section. -/
theorem gives_resolve_of_gives_expand [Runtime] {text source : Text} {rs : List Reference}
    {e : Expansion}
    {s s' : σ} (hread : Reference.read source text = .ok rs)
    (h : Gives (runner.expand policy text source) s e s') {r : Reference} (hr : r ∈ rs) :
    ∃ s₁ t s₂, Gives (runner.resolve r.source r.script) s₁ t s₂ := by
  obtain ⟨ms, hms, h⟩ := gives_expand h
  obtain ⟨ms', hms', rfl⟩ := Reference.readLines_eq_ok.1 hread
  obtain rfl : ms = ms' := Except.ok.inj (hms.symm.trans hms')
  rcases h with ⟨hnone, -⟩ | ⟨-, gs, hgs, -⟩
  · rw [hnone] at hr
    cases hr
  · obtain ⟨s₁, g, s₂, hg⟩ := gives_generate_of_mem hgs hr
    obtain ⟨t, s₃, ht, -⟩ := gives_bind.1 hg
    exact ⟨s₁, t, s₃, ht⟩

end Runner

namespace Script.Host

variable {w : Host} {policy : MissingPolicy} {r : Reference} {t : Template}

/-- Whether a section has a script is a matter of its link and its note. -/
theorem template_of_gives_generate [Runtime] {g : Generated} {m m' : Memory}
    (h : Gives (w.runner.generate policy r) m g m') :
    ∃ t, w.vault.template r.source r.script = .ok t ∧ g.found = t.found := by
  unfold Runner.generate at h
  obtain ⟨t, m₁, ht, h⟩ := gives_bind.1 h
  obtain ⟨htemplate, -⟩ := gives_lift.1 ht
  split at h
  · next hmissing =>
    obtain ⟨rfl, -⟩ := gives_pure.1 h
    have hfound : t.found = false := by simpa using hmissing.1
    exact ⟨t, htemplate, hfound.symm⟩
  · obtain ⟨i, m₂, -, h⟩ := gives_bind.1 h
    obtain ⟨rfl, -⟩ := gives_pure.1 h
    exact ⟨t, htemplate, rfl⟩

/-- A section whose script is missing is generated, and the attributes given so far stay. -/
theorem gives_generate_of_missing [Runtime] (ht : w.vault.template r.source r.script = .ok t)
    (hfound : t.found = false) (m : Memory) :
    ∃ g m', Gives (w.runner.generate policy r) m g m' ∧ m'.attributes = m.attributes := by
  unfold Runner.generate
  have hresolve : Gives (w.runner.resolve r.source r.script) m t m := gives_lift.2 ⟨ht, rfl⟩
  by_cases hempty : policy = .empty
  · refine ⟨⟨r, false, none⟩, m, gives_bind.2 ⟨t, m, hresolve, ?_⟩, rfl⟩
    rw [if_pos ⟨by simp [hfound], hempty⟩]
    exact gives_pure.2 ⟨rfl, rfl⟩
  · obtain ⟨m₁, hm, hinvoke⟩ := w.gives_invoke_missing_from hfound r.source r.arguments m
    refine ⟨⟨r, t.found, some ⟨t.path, .error (.templateNotFound t.path)⟩⟩, m₁.settle,
      gives_bind.2 ⟨t, m, hresolve, ?_⟩, ?_⟩
    · rw [if_neg (fun h => hempty h.2)]
      exact gives_bind.2 ⟨_, _, hinvoke, gives_pure.2 ⟨rfl, rfl⟩⟩
    · rw [Memory.attributes_settle, hm]

/-- **Looking for the scripts of a note.**  A link has no script exactly if there is an obstacle
    to looking it up; else its script is the text of the file it means, and a missing one where
    there is none.  Links of names that files can have, of no excessive length and other than one
    dot, have no obstacle.  A section with a missing script is generated, whatever was generated
    before; but a single section whose link has no script keeps its note from being expanded. -/
theorem template_spec [Runtime] (w : Host) :
    (∀ source link f, w.vault.template source link = .error f ↔
      Text.trim link ≠ [] ∧ w.vault.Obstacle source (Text.trim link) f) ∧
    (∀ source link t, w.vault.template source link = .ok t ↔
      (∃ p text, w.vault.resolveLink link source = .ok (some p) ∧
        w.vault.resourceAt p = .ok text ∧ t = ⟨link, true, text⟩) ∨
      ((w.vault.resolveLink link source = .ok none ∨
        ∃ p g, w.vault.resolveLink link source = .ok (some p) ∧ w.vault.resourceAt p = .error g) ∧
          t = .missing link)) ∧
    (∀ source link, (∀ name ∈ w.vault.root, Path.byteLength name ≤ Disk.maxName) →
      (∀ names ∈ Vault.candidates (Text.trim link) source,
        (∀ name ∈ names, Path.IsUsable name ∧ Path.byteLength name ≤ Disk.maxName) ∧
          Path.byteLength (Path.absoluteText (names.foldl Path.climb w.vault.root)) <
            Disk.maxPath) →
      Text.trim link ≠ Path.dot → ∃ t, w.vault.template source link = .ok t) ∧
    (∀ policy r t m, w.vault.template r.source r.script = .ok t → t.found = false →
      ∃ g m', Gives (w.runner.generate policy r) m g m' ∧ m'.attributes = m.attributes) ∧
    (∀ policy text source rs, Reference.read source text = .ok rs →
      ∀ r ∈ rs, ∀ f, w.vault.template r.source r.script = .error f →
        ∀ m e m', ¬ Gives (w.runner.expand policy text source) m e m') := by
  refine ⟨?_, fun source link t => Vault.template_eq_ok_iff, ?_, ?_, ?_⟩
  · intro source link f
    rw [Vault.template_eq_error_iff, Vault.resolveLink_eq_error_iff]
  · intro source link hroot hplaces hdot
    exact Vault.exists_template (Vault.exists_resolveLink hroot hplaces hdot)
  · intro policy r t m ht hfound
    exact gives_generate_of_missing ht hfound m
  · intro policy text source rs hread r hr f hf m e m' h
    obtain ⟨s₁, t, s₂, ht⟩ := Runner.gives_resolve_of_gives_expand hread h hr
    have hok : w.vault.template r.source r.script = .ok t := (gives_lift.1 ht).1
    rw [hf] at hok
    cases hok

attribute [local instance] Runtime.usual

/-- A link to no file has a missing script, and its section is generated. -/
theorem template_spec_missing :
    greeting.vault.template (Text.of "n.md") (Text.of "no/such.py") =
        .ok (.missing (Text.of "no/such.py")) ∧
      (∃ t, greeting.vault.template (Text.of "n.md") (Text.of "../t.py") = .ok t) ∧
      ∃ g m', Gives (greeting.runner.generate .marker
        ⟨Text.of "n.md", Text.of "no/such.py", 0, none, .mapping .arguments []⟩) .empty g m' := by
  obtain ⟨-, hok, hplain, hmissing, -⟩ := template_spec greeting
  have hnone : greeting.vault.resolveLink (Text.of "no/such.py") (Text.of "n.md") = .ok none :=
    Outcome.eq_ok_of_toOption (by decide +kernel)
  have htemplate := (hok (Text.of "n.md") (Text.of "no/such.py") _).2 (Or.inr ⟨Or.inl hnone, rfl⟩)
  refine ⟨htemplate, ?_, ?_⟩
  · exact hplain _ _ (by decide +kernel) (by decide +kernel) (by decide +kernel)
  · obtain ⟨g, m', h, -⟩ := hmissing .marker
      ⟨Text.of "n.md", Text.of "no/such.py", 0, none, .mapping .arguments []⟩ _ .empty htemplate rfl
    exact ⟨g, m', h⟩

/-- **One dot keeps a note from being expanded**: its link cannot be looked up, although the
    script of the other section is there. -/
theorem expand_aborted_by_dot :
    greeting.vault.template (Text.of "n.md") (Text.of ".") = .error .emptyLink ∧
      (∃ t, greeting.vault.template (Text.of "n.md") (Text.of "t.py") = .ok t ∧ t.found = true) ∧
      ∀ policy m e m', ¬ Gives (greeting.runner.expand policy
        (Text.of "%% template: '.' %%\n%% template: 't.py' %%") (Text.of "n.md")) m e m' := by
  have hmissed : ∀ n ∈ Vault.candidates (Text.of ".") (Text.of "n.md"),
      greeting.vault.fileAt n = .ok none := by
    have hroot : Vault.candidates (Text.of ".") (Text.of "n.md") = [[], []] := by decide
    intro n hn
    obtain rfl : n = [] := by simpa [hroot] using hn
    exact Outcome.eq_ok_of_toOption (by decide +kernel)
  have hlink : greeting.vault.resolveLink (Text.of ".") (Text.of "n.md") = .error .emptyLink :=
    Vault.resolveLink_eq_error_iff.2 ⟨by decide, .dot hmissed rfl⟩
  have htemplate := Vault.template_eq_error_iff.2 hlink
  have hfound : (greeting.vault.template (Text.of "n.md") (Text.of "t.py")).toOption.map
      (·.found) = some true := by
    decide +kernel
  have hsections : (Reference.read (Text.of "n.md")
      (Text.of "%% template: '.' %%\n%% template: 't.py' %%")).toOption.map (fun rs =>
        rs.map (fun r => (r.source, r.script))) =
      some [(Text.of "n.md", Text.of "."), (Text.of "n.md", Text.of "t.py")] := by
    decide +kernel
  refine ⟨htemplate, ?_, ?_⟩
  · obtain ⟨t, ht, hfound⟩ := Option.map_eq_some_iff.1 hfound
    exact ⟨t, Outcome.eq_ok_of_toOption ht, hfound⟩
  · intro policy m e m' h
    obtain ⟨rs, hrs, hscripts⟩ := Option.map_eq_some_iff.1 hsections
    have hread := Outcome.eq_ok_of_toOption hrs
    have hdot : (Text.of "n.md", Text.of ".") ∈ rs.map (fun r => (r.source, r.script)) := by
      rw [hscripts]
      exact List.mem_cons_self
    obtain ⟨r, hr, hrdot⟩ := List.mem_map.1 hdot
    injection hrdot with hsource hscript
    obtain ⟨s₁, t, s₂, ht⟩ := Runner.gives_resolve_of_gives_expand hread h hr
    have hok : greeting.vault.template r.source r.script = .ok t := (gives_lift.1 ht).1
    rw [hsource, hscript, htemplate] at hok
    cases hok

end Script.Host

end TemplatedNotes
