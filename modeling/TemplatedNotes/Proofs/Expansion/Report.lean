/-
  TemplatedNotes/Proofs/Expansion/Report.lean
  ===========================================
  **What an expansion reports is what came of its sections.**

  A section comes to one of three ends: its script is found and run, its script is missing and the
  run of it fails, or its script is missing and nothing is to show it (`Produces`).  The report
  counts the sections, lists the runs that failed in the order of the note, and lists the scripts
  that worked and those that are missing, each once and in the order in which the sections name
  them (`IsFirsts`).

    * `isFirsts_once` — a list without repetitions keeps the order of the first occurrences;
    * `produces_of_gives` — the three ends of a section, by what its link means;
    * `expand_report` — the whole report of a note (`Reports`).
-/
import TemplatedNotes.Proofs.Batch.Templates
import TemplatedNotes.Proofs.Expansion.Independence
import TemplatedNotes.Proofs.KnownPaths
import TemplatedNotes.Runtime.Usual

namespace TemplatedNotes

open TemplatedNotes.Action

/-! ### Paths in the order in which they come first -/

namespace Expansion

/-- The paths of a list, each once and in the order in which they come first. -/
structure IsFirsts (paths all : List Text) : Prop where
  nodup : paths.Nodup
  mem_iff : ∀ path, path ∈ paths ↔ path ∈ all
  order : paths.Pairwise (fun a b => all.idxOf a < all.idxOf b)

theorem once_concat (all : List Text) (path : Text) :
    once (all ++ [path]) = addOnce (once all) path := by
  rw [once, List.foldl_append]
  rfl

/-- **What `once` keeps of a list**: the first occurrence of each path. -/
theorem isFirsts_once (all : List Text) : IsFirsts (once all) all := by
  induction all using List.reverseRecOn with
  | nil => exact ⟨List.nodup_nil, fun _ => Iff.rfl, .nil⟩
  | append_singleton all path ih =>
    refine ⟨?_, fun p => mem_once, ?_⟩
    · rw [once_concat]
      exact KnownPaths.nodup_addOnce ih.nodup path
    · -- a path that has come already stays where it came first
      have hold : (once all).Pairwise
          (fun a b => (all ++ [path]).idxOf a < (all ++ [path]).idxOf b) := by
        refine ih.order.imp_of_mem fun ha hb hlt => ?_
        rw [List.idxOf_append_of_mem ((ih.mem_iff _).1 ha),
          List.idxOf_append_of_mem ((ih.mem_iff _).1 hb)]
        exact hlt
      rw [once_concat]
      by_cases hmem : path ∈ once all
      · rwa [KnownPaths.addOnce_of_mem hmem]
      · have hpath : path ∉ all := fun h => hmem ((ih.mem_iff path).2 h)
        rw [KnownPaths.addOnce_of_not_mem hmem]
        refine List.pairwise_append.2 ⟨hold, List.pairwise_singleton _ path, ?_⟩
        intro a ha b hb
        have ha := (ih.mem_iff a).1 ha
        rw [List.mem_singleton.1 hb, List.idxOf_append_of_mem ha,
          List.idxOf_append_of_notMem hpath]
        exact Nat.lt_add_right _ (List.idxOf_lt_length_of_mem ha)

end Expansion

/-! ### What comes of a section -/

/-- A link in a note means a file that can be read, with this text. -/
def Vault.HasScript (v : Vault) (source link text : Text) : Prop :=
  ∃ p, v.resolveLink link source = .ok (some p) ∧ v.resourceAt p = .ok text

/-- A script that is there has the text of its file, and one that is missing has no file. -/
theorem Vault.template_cases {v : Vault} {source link : Text} {t : Template}
    (h : v.template source link = .ok t) :
    (∃ text, v.HasScript source link text ∧ t = ⟨link, true, text⟩) ∨
      (∀ text, ¬ v.HasScript source link text) ∧ t = .missing link := by
  rcases template_eq_ok_iff.1 h with ⟨p, text, hlink, htext, rfl⟩ | ⟨hmissing, rfl⟩
  · exact Or.inl ⟨text, ⟨p, hlink, htext⟩, rfl⟩
  · refine Or.inr ⟨?_, rfl⟩
    rintro text ⟨p, hlink, htext⟩
    rcases hmissing with hnone | ⟨q, f, hq, hf⟩
    · rw [hlink] at hnone
      cases hnone
    · rw [hlink] at hq
      cases hq
      rw [htext] at hf
      cases hf

namespace Script.Host

variable {w : Host} {policy : MissingPolicy} {r : Reference} {rs : List Reference}
  {g : Generated} {gs : List Generated} {m m' : Memory}

/-- The failed run of a missing script. -/
def missingRun (link : Text) : Invocation := ⟨link, .error (.templateNotFound link)⟩

section

variable [Runtime]

/-- What comes of a section, and the memory that is left. -/
inductive Produces (w : Host) (policy : MissingPolicy) (r : Reference) (m : Memory) :
    Generated → Memory → Prop where
  | ran {text : Text} {i : Invocation} {m' : Memory}
      (found : w.vault.HasScript r.source r.script text)
      (run : Gives (w.invoke ⟨r.script, true, text⟩ r.source r.arguments) m i m') :
      Produces w policy r m ⟨r, true, some i⟩ m'
  | shown {m' : Memory} (missing : ∀ text, ¬ w.vault.HasScript r.source r.script text)
      (marker : policy = .marker)
      (run : Gives (w.invoke (.missing r.script) r.source r.arguments) m
        (missingRun r.script) m') :
      Produces w policy r m ⟨r, false, some (missingRun r.script)⟩ m'
  | hidden (missing : ∀ text, ¬ w.vault.HasScript r.source r.script text)
      (empty : policy = .empty) : Produces w policy r m ⟨r, false, none⟩ m

/-- What comes of sections, one after the other. -/
inductive ProducesAll (w : Host) (policy : MissingPolicy) :
    Memory → List Reference → List Generated → Memory → Prop where
  | nil (m : Memory) : ProducesAll w policy m [] [] m
  | cons {r : Reference} {rs : List Reference} {g : Generated} {gs : List Generated}
      {m m₁ m' : Memory} (first : Produces w policy r m g m₁)
      (rest : ProducesAll w policy m₁ rs gs m') : ProducesAll w policy m (r :: rs) (g :: gs) m'

/-- **A section comes to one of three ends**, by what its link means and by the policy. -/
theorem produces_of_gives (h : Gives (w.runner.generate policy r) m g m') :
    w.Produces policy r m g m' := by
  unfold Runner.generate at h
  obtain ⟨t, m₁, hresolve, h⟩ := gives_bind.1 h
  obtain ⟨ht, rfl⟩ := gives_lift.1 hresolve
  rcases Vault.template_cases ht with ⟨text, hscript, rfl⟩ | ⟨hmissing, rfl⟩
  · obtain ⟨i, m₂, hrun, h⟩ := gives_bind.1 h
    obtain ⟨rfl, rfl⟩ := gives_pure.1 h
    exact .ran hscript hrun
  · cases policy with
    | empty =>
      obtain ⟨rfl, rfl⟩ := gives_pure.1 h
      exact .hidden hmissing rfl
    | marker =>
      obtain ⟨i, m₂, hrun, h⟩ := gives_bind.1 h
      obtain ⟨rfl, rfl⟩ := gives_pure.1 h
      obtain ⟨m₃, -, hfails⟩ :=
        w.gives_invoke_missing_from (t := .missing r.script) rfl r.source r.arguments m₁
      obtain ⟨rfl, -⟩ := hrun.unique hfails
      exact .shown hmissing rfl hrun

theorem producesAll_of_gives (h : Gives (w.runner.generateAll policy rs) m gs m') :
    w.ProducesAll policy m rs gs m' := by
  induction rs generalizing m gs with
  | nil =>
    obtain ⟨rfl, rfl⟩ := gives_pure.1 h
    exact .nil m'
  | cons r rest ih =>
    obtain ⟨g, m₁, hg, h⟩ := gives_bind.1 h
    obtain ⟨gs', m₂, hgs, h⟩ := gives_bind.1 h
    obtain ⟨rfl, rfl⟩ := gives_pure.1 h
    exact .cons (produces_of_gives hg) (ih hgs)

theorem Produces.reference_eq (h : w.Produces policy r m g m') : g.reference = r := by
  cases h <;> rfl

/-- Whether a script is found is a matter of its link alone. -/
theorem Produces.found_iff (h : w.Produces policy r m g m') :
    g.found = true ↔ ∃ text, w.vault.HasScript r.source r.script text := by
  cases h with
  | ran found _ => exact ⟨fun _ => ⟨_, found⟩, fun _ => rfl⟩
  | shown missing _ _ => exact ⟨Bool.noConfusion, fun ⟨text, h⟩ => absurd h (missing text)⟩
  | hidden missing _ => exact ⟨Bool.noConfusion, fun ⟨text, h⟩ => absurd h (missing text)⟩

theorem Produces.invocation_of_missing (h : w.Produces policy r m g m') (hfound : g.found = false) :
    g.invocation = if policy = .marker then some (missingRun g.reference.script) else none := by
  cases h with
  | ran _ _ => cases hfound
  | shown _ marker _ => rw [if_pos marker]
  | hidden _ empty => rw [if_neg (by rw [empty]; decide)]

theorem ProducesAll.map_reference (h : w.ProducesAll policy m rs gs m') :
    gs.map (·.reference) = rs := by
  induction h with
  | nil m => rfl
  | cons first rest ih => rw [List.map_cons, first.reference_eq, ih]

/-- What is true of the end of every section is true of each of many. -/
theorem ProducesAll.exists_produces (h : w.ProducesAll policy m rs gs m') (hg : g ∈ gs) :
    ∃ m₁ m₂, w.Produces policy g.reference m₁ g m₂ := by
  induction h with
  | nil m => cases hg
  | cons first rest ih =>
    rcases List.mem_cons.1 hg with rfl | hg
    · exact ⟨_, _, first.reference_eq.symm ▸ first⟩
    · exact ih hg

theorem ProducesAll.found_iff {source : Text} (h : w.ProducesAll policy m rs gs m')
    (hsource : ∀ r ∈ rs, r.source = source) (hg : g ∈ gs) :
    g.found = true ↔ ∃ text, w.vault.HasScript source g.reference.script text := by
  obtain ⟨m₁, m₂, hproduces⟩ := h.exists_produces hg
  have hreference : g.reference ∈ rs := by
    rw [← h.map_reference]
    exact List.mem_map_of_mem hg
  rw [hproduces.found_iff, hsource _ hreference]

/-! ### The report -/

/-- What a note's expansion reports: how many sections there are and whether the text has changed,
    the scripts that worked, those that are missing, and the runs that failed. -/
structure Reports (v : Vault) (policy : MissingPolicy) (source text : Text)
    (rs : List Reference) (gs : List Generated) (e : Expansion) : Prop where
  hadReferences : e.hadReferences = true ↔ rs ≠ []
  references : e.references = rs.length
  changed : e.changed = true ↔ e.text ≠ text
  used : Expansion.IsFirsts e.used ((gs.filter Generated.isUsed).map (·.reference.script))
  removed : Expansion.IsFirsts e.removed ((gs.filter (!·.found)).map (·.reference.script))
  disjoint : ∀ script ∈ e.used, script ∉ e.removed
  mem_used_iff : ∀ script, script ∈ e.used ↔ ∃ g ∈ gs, g.reference.script = script ∧
    (∃ t, v.HasScript source script t) ∧
    ∃ i t, g.invocation = some i ∧ i.rendered = some t ∧ t ≠ []
  mem_used_of_failed : ∀ g ∈ gs, g.found = true → ∀ i, g.invocation = some i → i.isOk = false →
    g.reference.script ∈ e.used
  mem_removed_iff : ∀ script, script ∈ e.removed ↔ ∃ r ∈ rs, r.script = script ∧
    ∀ t, ¬ v.HasScript source script t
  errors : e.errors = (gs.filterMap (·.invocation)).filter (fun i => !i.isOk)
  missing_errors : policy = .marker → ∀ g ∈ gs, g.found = false →
    missingRun g.reference.script ∈ e.errors
  no_missing_errors : policy = .empty → ∀ i ∈ e.errors, ∃ g ∈ gs, g.found = true ∧
    g.invocation = some i

omit [Runtime] in
/-- A section with a text is one with a run that renders it. -/
theorem text_ne_nil_iff :
    g.text ≠ [] ↔ ∃ i t, g.invocation = some i ∧ i.rendered = some t ∧ t ≠ [] := by
  unfold Generated.text
  constructor
  · intro h
    cases hi : g.invocation with
    | none => simp [hi] at h
    | some i =>
      cases ht : i.rendered with
      | none => simp [hi, ht] at h
      | some t => exact ⟨i, t, rfl, ht, by simpa [hi, ht] using h⟩
  · rintro ⟨i, t, hi, ht, hne⟩
    simpa [hi, ht] using hne

omit [Runtime] in
/-- The marker of a failed run is no empty text. -/
theorem text_ne_nil_of_failed {i : Invocation} (hi : g.invocation = some i)
    (hfailed : i.isOk = false) : g.text ≠ [] := by
  cases hresult : i.result with
  | ok t =>
    rw [Invocation.isOk, hresult] at hfailed
    cases hfailed
  | error f =>
    have hrendered : i.rendered = some (Section.failureMarker f.kindName f.message) := by
      rw [Invocation.rendered, hresult]
    refine text_ne_nil_iff.2 ⟨i, _, hi, hrendered, ?_⟩
    simp [Section.failureMarker, Text.of]

omit [Runtime] in
theorem isUsed_iff :
    g.isUsed = true ↔
      g.found = true ∧ ∃ i t, g.invocation = some i ∧ i.rendered = some t ∧ t ≠ [] := by
  rw [← text_ne_nil_iff, Generated.isUsed, Bool.and_eq_true, Bool.not_eq_true',
    List.isEmpty_eq_false_iff]

variable {source text script : Text}

/-- The scripts that worked are those that a section names whose script is there and renders
    something. -/
theorem ProducesAll.mem_used_iff (h : w.ProducesAll policy m rs gs m')
    (hsource : ∀ r ∈ rs, r.source = source) :
    script ∈ (gs.filter Generated.isUsed).map (·.reference.script) ↔
      ∃ g ∈ gs, g.reference.script = script ∧ (∃ t, w.vault.HasScript source script t) ∧
        ∃ i t, g.invocation = some i ∧ i.rendered = some t ∧ t ≠ [] := by
  rw [List.mem_map]
  constructor
  · rintro ⟨g, hg, rfl⟩
    obtain ⟨hg, hused⟩ := List.mem_filter.1 hg
    obtain ⟨hfound, hrendered⟩ := isUsed_iff.1 hused
    exact ⟨g, hg, rfl, (h.found_iff hsource hg).1 hfound, hrendered⟩
  · rintro ⟨g, hg, rfl, hscript, hrendered⟩
    have hused := isUsed_iff.2 ⟨(h.found_iff hsource hg).2 hscript, hrendered⟩
    exact ⟨g, List.mem_filter.2 ⟨hg, hused⟩, rfl⟩

/-- The missing scripts are those that a section names without a file for the link. -/
theorem ProducesAll.mem_removed_iff (h : w.ProducesAll policy m rs gs m')
    (hsource : ∀ r ∈ rs, r.source = source) :
    script ∈ (gs.filter (!·.found)).map (·.reference.script) ↔
      ∃ r ∈ rs, r.script = script ∧ ∀ t, ¬ w.vault.HasScript source script t := by
  have hmissing : ∀ g ∈ gs, (!g.found) = true ↔
      ∀ t, ¬ w.vault.HasScript source g.reference.script t := by
    intro g hg
    rw [Bool.not_eq_true', ← Bool.not_eq_true, h.found_iff hsource hg, not_exists]
  rw [← h.map_reference, List.mem_map]
  constructor
  · rintro ⟨g, hg, rfl⟩
    obtain ⟨hg, hfound⟩ := List.mem_filter.1 hg
    exact ⟨g.reference, List.mem_map_of_mem hg, rfl, (hmissing g hg).1 hfound⟩
  · rintro ⟨r, hr, rfl, hno⟩
    obtain ⟨g, hg, rfl⟩ := List.mem_map.1 hr
    exact ⟨g, List.mem_filter.2 ⟨hg, (hmissing g hg).2 hno⟩, rfl⟩

omit [Runtime] in
/-- The failed runs are those of all runs that are no success, in order. -/
theorem filterMap_failed? (gs : List Generated) :
    gs.filterMap Generated.failed? = (gs.filterMap (·.invocation)).filter (fun i => !i.isOk) := by
  rw [List.filter_filterMap]
  rfl

omit [Runtime] in
theorem mem_failed_iff {i : Invocation} :
    i ∈ (gs.filterMap (·.invocation)).filter (fun i => !i.isOk) ↔
      i.isOk = false ∧ ∃ g ∈ gs, g.invocation = some i := by
  rw [List.mem_filter, List.mem_filterMap, Bool.not_eq_true', and_comm]

/-- What is computed from the ends of the sections is the report on them. -/
theorem ProducesAll.reports (h : w.ProducesAll policy m rs gs m') (hne : rs ≠ [])
    (hsource : ∀ r ∈ rs, r.source = source) (new : List Text) :
    Reports w.vault policy source text rs gs (.ofGenerated source text rs.length new gs) := by
  have hused := Expansion.isFirsts_once ((gs.filter Generated.isUsed).map (·.reference.script))
  have hremoved := Expansion.isFirsts_once ((gs.filter (!·.found)).map (·.reference.script))
  have hmemUsed := fun script => (hused.mem_iff script).trans (h.mem_used_iff hsource)
  have hmemRemoved := fun script => (hremoved.mem_iff script).trans (h.mem_removed_iff hsource)
  have herrors : (Expansion.ofGenerated source text rs.length new gs).errors =
      (gs.filterMap (·.invocation)).filter (fun i => !i.isOk) := filterMap_failed? gs
  have hmissing : ∀ g ∈ gs, g.found = false → g.invocation =
      if policy = .marker then some (missingRun g.reference.script) else none := by
    intro g hg hfalse
    obtain ⟨m₁, m₂, hproduces⟩ := h.exists_produces hg
    exact hproduces.invocation_of_missing hfalse
  exact
    { hadReferences := ⟨fun _ => hne, fun _ => rfl⟩
      references := rfl
      changed := bne_iff_ne
      used := hused
      removed := hremoved
      disjoint := by
        intro script hscript hno
        obtain ⟨g, -, -, ⟨t, ht⟩, -⟩ := (hmemUsed script).1 hscript
        obtain ⟨r, -, -, hnone⟩ := (hmemRemoved script).1 hno
        exact hnone t ht
      mem_used_iff := hmemUsed
      mem_used_of_failed := by
        intro g hg hfound i hi hfailed
        have hrendered := text_ne_nil_iff.1 (text_ne_nil_of_failed hi hfailed)
        exact (hmemUsed _).2 ⟨g, hg, rfl, (h.found_iff hsource hg).1 hfound, hrendered⟩
      mem_removed_iff := hmemRemoved
      errors := herrors
      missing_errors := by
        intro hmarker g hg hfalse
        have hrun := hmissing g hg hfalse
        rw [if_pos hmarker] at hrun
        rw [herrors]
        exact mem_failed_iff.2 ⟨rfl, g, hg, hrun⟩
      no_missing_errors := by
        intro hempty i hi
        rw [herrors] at hi
        obtain ⟨-, g, hg, hrun⟩ := mem_failed_iff.1 hi
        refine ⟨g, hg, ?_, hrun⟩
        by_contra hfalse
        rw [hmissing g hg (Bool.not_eq_true _ ▸ hfalse), if_neg (by rw [hempty]; decide)] at hrun
        cases hrun }

omit [Runtime] in
/-- A note without sections reports nothing. -/
theorem reports_unchanged (v : Vault) (policy : MissingPolicy) (source text : Text) :
    Reports v policy source text [] [] (.unchanged source text) := by
  have hnone : Expansion.IsFirsts [] [] := ⟨List.nodup_nil, fun _ => Iff.rfl, .nil⟩
  exact
    { hadReferences := by simp [Expansion.unchanged]
      references := rfl
      changed := by simp [Expansion.unchanged]
      used := hnone
      removed := hnone
      disjoint := by simp [Expansion.unchanged]
      mem_used_iff := by simp [Expansion.unchanged]
      mem_used_of_failed := by simp
      mem_removed_iff := by simp [Expansion.unchanged]
      errors := rfl
      missing_errors := by simp
      no_missing_errors := by simp [Expansion.unchanged] }

/-- **What an expansion reports.**  The sections of a note are run in their order, each from the
    memory that the one before left, unless their scripts are missing and the policy hides them.
    The report counts the sections and says whether the text has changed; it lists the scripts of
    links to readable files that rendered something, a failure's marker too, and the scripts of
    links to none, each once, in the order of the first section of that kind, and no script in both
    lists; and it lists the failed runs in order, those of missing scripts exactly if they are
    shown. -/
theorem expand_report {e : Expansion} (h : Gives (w.runner.expand policy text source) m e m') :
    ∃ rs gs, Reference.read source text = .ok rs ∧ w.ProducesAll policy m rs gs m' ∧
      Reports w.vault policy source text rs gs e := by
  obtain ⟨ms, hms, h⟩ := Runner.gives_expand h
  have hread : Reference.read source text = .ok (Reference.sections source 0 ms) :=
    Reference.readLines_eq_ok.2 ⟨ms, hms, rfl⟩
  rcases h with ⟨hnone, rfl, rfl⟩ | ⟨hne, gs, hgs, rfl⟩
  · rw [hnone] at hread
    exact ⟨[], [], hread, .nil m', reports_unchanged _ _ _ _⟩
  · have hall := producesAll_of_gives hgs
    have hsource : ∀ r ∈ Reference.sections source 0 ms, r.source = source := fun r hr =>
      ((Reference.mem_iff_isSection hread r).1 hr).source_eq
    exact ⟨_, gs, hread, hall, hall.reports hne hsource _⟩

end

attribute [local instance] Runtime.usual

/-- A vault with a script that gives its argument `x`, and one that renders nothing. -/
def givesArgument : Host :=
  ⟨⟨[], [], ⟨[scriptFile "t.py" r#"[["return",["attr",["input"],"x"]]]"#, scriptFile "q.py" "[]"]⟩,
    []⟩, false⟩

/-- A script that is named three times and renders nothing, fails and gives a text; one that always
    renders nothing; and a link to no file, twice. -/
def sixSections : Text :=
  Text.of ("%% template: 't.py', x: null %%\n%% template: 'no.py' %%\n%% template: 't.py' %%\n" ++
    "%% template: 'q.py' %%\n%% template: 't.py', x: 'hi' %%\n%% template: 'no.py' %%")

theorem expand_report_sixSections :
    ∃ e m' rs gs,
      Gives (givesArgument.runner.expand .marker sixSections (Text.of "n.md")) .empty e m' ∧
      e.used = [Text.of "t.py"] ∧ e.removed = [Text.of "no.py"] ∧
      e.errors.map (·.script) = ["no.py", "t.py", "no.py"].map Text.of ∧
      givesArgument.ProducesAll .marker .empty rs gs m' ∧
      Reports givesArgument.vault .marker (Text.of "n.md") sixSections rs gs e := by
  have hrun : ((givesArgument.runner.expand .marker sixSections (Text.of "n.md")).run.run
      .empty).1.toOption.map (fun e => (e.used, e.removed, e.errors.map (·.script))) =
      some ([Text.of "t.py"], [Text.of "no.py"], ["no.py", "t.py", "no.py"].map Text.of) := by
    decide +kernel
  obtain ⟨e, m', h, hfacts⟩ := exists_gives_of_run hrun
  obtain ⟨hused, hremoved, herrors⟩ :
      e.used = _ ∧ e.removed = _ ∧ e.errors.map (·.script) = _ := by
    simpa only [Prod.mk.injEq] using hfacts
  obtain ⟨rs, gs, -, hall, hreports⟩ := expand_report h
  exact ⟨e, m', rs, gs, h, hused, hremoved, herrors, hall, hreports⟩

end Script.Host

end TemplatedNotes
