/-
  TemplatedNotes/Proofs/Expansion/Idempotence.lean
  ================================================
  **Expanding an expanded note.**

  A note is expanded twice with nothing changed between.  A section is steady when generating it
  gives a block and leaves the state of the runner as it was; with steady sections the second
  expansion finds the sections of the first, each with a terminator now, and generates the same
  for them (`Runner.expand_expand`).

  In the sandbox a section is steady when its script, if it is there, leaves no attributes and
  renders inert lines; a missing script always is.  One thing can still go wrong: a rendered line
  may have the form of an opening line whose literal cannot even be evaluated.  Then the new note
  cannot be read, and that is the only way in which the second expansion differs from the first
  (`Script.Host.expand_expand`).
-/
import Mathlib.Data.List.Forall2
import TemplatedNotes.Proofs.Expansion.Reread
import TemplatedNotes.Proofs.Expansion.Splice
import TemplatedNotes.Proofs.Script.Missing
import TemplatedNotes.Runtime.Usual

namespace TemplatedNotes

open TemplatedNotes.Action Reference

/-! ### Steady sections -/

namespace Runner

variable {σ : Type} {runner : Runner σ} {policy : MissingPolicy} {s s' : σ}

variable [Runtime]

/-- A section whose generation gives a block and leaves the state as it was. -/
def IsSteady (runner : Runner σ) (policy : MissingPolicy) (s : σ) (r : Reference) : Prop :=
  ∀ g s', Gives (runner.generate policy r) s g s' → s' = s ∧ IsBlock g.lines

/-- A section whose generated lines can all be read. -/
def IsReread (runner : Runner σ) (policy : MissingPolicy) (s : σ) (r : Reference) : Prop :=
  ∀ g s', Gives (runner.generate policy r) s g s' → ∀ line ∈ g.lines, IsReadable line

omit [Runtime] in
/-- Sections that ask for the same are generated in the same way. -/
theorem gives_generate_of_request {r r' : Reference} {g : Generated}
    (hrequest : r'.request = r.request) (h : Gives (runner.generate policy r) s g s') :
    Gives (runner.generate policy r') s { g with reference := r' } s' := by
  obtain ⟨hsource, hscript, harguments⟩ :
      r'.source = r.source ∧ r'.script = r.script ∧ r'.arguments = r.arguments := by
    simpa [request] using hrequest
  unfold generate at h ⊢
  obtain ⟨t, s₁, ht, h⟩ := gives_bind.1 h
  rw [hsource, hscript, harguments]
  refine gives_bind.2 ⟨t, s₁, ht, ?_⟩
  by_cases hmissing : (!t.found) = true ∧ policy = .empty
  · rw [if_pos hmissing] at h ⊢
    obtain ⟨rfl, rfl⟩ := gives_pure.1 h
    exact gives_pure.2 ⟨rfl, rfl⟩
  · rw [if_neg hmissing] at h ⊢
    obtain ⟨i, s₂, hi, h⟩ := gives_bind.1 h
    obtain ⟨rfl, rfl⟩ := gives_pure.1 h
    exact gives_bind.2 ⟨i, s', hi, gives_pure.2 ⟨rfl, rfl⟩⟩

omit [Runtime] in
/-- Sections that leave the state as it was are all generated from the same state. -/
theorem forall₂_of_gives_generateAll {rs : List Reference} {gs : List Generated}
    (hkept : ∀ r ∈ rs, ∀ g s', Gives (runner.generate policy r) s g s' → s' = s)
    (h : Gives (runner.generateAll policy rs) s gs s') :
    s' = s ∧ List.Forall₂ (fun r g => Gives (runner.generate policy r) s g s) rs gs := by
  induction rs generalizing gs with
  | nil =>
    obtain ⟨rfl, rfl⟩ := gives_pure.1 h
    exact ⟨rfl, List.Forall₂.nil⟩
  | cons r rest ih =>
    obtain ⟨g, s₁, hg, h⟩ := gives_bind.1 h
    obtain ⟨gs', s₂, hgs, h⟩ := gives_bind.1 h
    obtain ⟨rfl, rfl⟩ := gives_pure.1 h
    obtain rfl := hkept r List.mem_cons_self g s₁ hg
    obtain ⟨rfl, hrest⟩ := ih (fun x hx => hkept x (List.mem_cons_of_mem r hx)) hgs
    exact ⟨rfl, List.Forall₂.cons hg hrest⟩

theorem isBlock_of_forall₂ {rs : List Reference} {gs : List Generated}
    (hsteady : ∀ r ∈ rs, runner.IsSteady policy s r)
    (h : List.Forall₂ (fun r g => Gives (runner.generate policy r) s g s) rs gs) :
    ∀ new ∈ gs.map Generated.lines, IsBlock new := by
  induction h with
  | nil => simp
  | @cons r g rs gs hg _ ih =>
    obtain ⟨hr, hrs⟩ := List.forall_mem_cons.1 hsteady
    exact List.forall_mem_cons.2 ⟨(hr g s hg).2, ih hrs⟩

theorem forall_isReread_iff {rs : List Reference} {gs : List Generated}
    (h : List.Forall₂ (fun r g => Gives (runner.generate policy r) s g s) rs gs) :
    (∀ r ∈ rs, runner.IsReread policy s r) ↔
      ∀ new ∈ gs.map Generated.lines, ∀ line ∈ new, IsReadable line := by
  induction h with
  | nil => simp
  | @cons r g rs gs hg _ ih =>
    rw [List.map_cons, List.forall_mem_cons, List.forall_mem_cons, ih]
    refine and_congr_left (fun _ => ⟨fun hr => hr g s hg, fun hlines g' s' hg' => ?_⟩)
    rw [(hg'.unique hg).1]
    exact hlines

omit [Runtime] in
theorem gives_generateAll_of_request {rs rs' : List Reference} {gs : List Generated}
    (h : List.Forall₂ (fun r g => Gives (runner.generate policy r) s g s) rs gs)
    (hrequest : rs'.map request = rs.map request) :
    ∃ gs', Gives (runner.generateAll policy rs') s gs' s ∧
      gs'.map Generated.lines = gs.map Generated.lines := by
  induction h generalizing rs' with
  | nil =>
    obtain rfl := List.map_eq_nil_iff.1 hrequest
    exact ⟨[], gives_pure.2 ⟨rfl, rfl⟩, rfl⟩
  | @cons r g rs gs hg _ ih =>
    cases rs' with
    | nil => cases hrequest
    | cons r' rest =>
      injection hrequest with hfirst hrest
      obtain ⟨gs', hgs, hlines⟩ := ih hrest
      refine ⟨{ g with reference := r' } :: gs', ?_, ?_⟩
      · exact gives_bind.2 ⟨_, s, gives_generate_of_request hfirst hg,
          gives_bind.2 ⟨gs', s, hgs, gives_pure.2 ⟨rfl, rfl⟩⟩⟩
      · rw [List.map_cons, List.map_cons, hlines]
        rfl

/-! ### Two expansions -/

/-- A note with sections that stays the same when what is generated for them is spliced in. -/
theorem gives_expand_of_splice {text source : Text} {ns : List Mark} {rs : List Reference}
    {gs : List Generated} (hns : marksFrom [] (Line.split text) = .ok ns)
    (hall : List.Forall₂ (fun r g => Gives (runner.generate policy r) s g s) rs gs)
    (hne : rs ≠ []) (hrequest : (sections source 0 ns).map request = rs.map request)
    (hsplice : Line.unsplit (Expansion.splice 0 (Line.split text) ns (gs.map Generated.lines)) =
      text) :
    ∃ e, Gives (runner.expand policy text source) s e s ∧ e.text = text ∧ e.changed = false := by
  have hsome : ¬ (sections source 0 ns).isEmpty = true := by
    intro hempty
    rw [List.isEmpty_iff.1 hempty] at hrequest
    exact hne (List.map_eq_nil_iff.1 hrequest.symm)
  obtain ⟨gs', hgs, hlines⟩ := gives_generateAll_of_request hall hrequest
  rw [← hlines] at hsplice
  refine ⟨.ofGenerated source text (sections source 0 ns).length
    (Expansion.splice 0 (Line.split text) ns (gs'.map Generated.lines)) gs', ?_, hsplice, ?_⟩
  · rw [expand_eq runner policy source hns, if_neg hsome]
    exact gives_bind.2 ⟨gs', s, hgs, gives_pure.2 ⟨rfl, rfl⟩⟩
  · show (Line.unsplit (Expansion.splice 0 _ _ _) != text) = false
    rw [hsplice]
    exact bne_self_eq_false text

/-- **Two expansions of a note** with steady sections.  If what was generated can be read, the
    second one finds the same sections, all with terminators, and changes nothing; otherwise it
    fails to read the note. -/
theorem expand_expand {text source : Text} {rs : List Reference} {e : Expansion}
    (hreturn : ∀ line ∈ Line.split text, ¬ Line.EndsInReturn line)
    (hread : readLines source (Line.split text) = .ok rs)
    (hsteady : ∀ r ∈ rs, runner.IsSteady policy s r)
    (h : Gives (runner.expand policy text source) s e s') :
    s' = s ∧
    ((∀ r ∈ rs, runner.IsReread policy s r) →
      (∃ e', Gives (runner.expand policy e.text source) s e' s ∧ e'.text = e.text ∧
        e'.changed = false) ∧
      ∃ rs', readLines source (Line.split e.text) = .ok rs' ∧
        rs'.map request = rs.map request ∧ ∀ r ∈ rs', r.isTerminated = true) ∧
    ((∃ r ∈ rs, ¬ runner.IsReread policy s r) →
      ∃ f, readLines source (Line.split e.text) = .error f ∧
        f.kindName = Text.of "OverflowError" ∧
        Fails (runner.expand policy e.text source) s f s) := by
  obtain ⟨ms, hms, h⟩ := gives_expand h
  obtain ⟨ms', hms', rfl⟩ := readLines_eq_ok.1 hread
  obtain rfl : ms' = ms := Except.ok.inj (hms'.symm.trans hms)
  rcases h with ⟨hempty, rfl, rfl⟩ | ⟨hne, gs, hgs, rfl⟩
  · -- a note without sections
    rw [hempty] at hread ⊢
    refine ⟨rfl, fun _ => ⟨⟨.unchanged source text, ?_, rfl, rfl⟩, [], hread, rfl, by simp⟩, ?_⟩
    · show Gives (runner.expand policy text source) s' _ s'
      rw [expand_eq runner policy source hms, hempty]
      exact gives_pure.2 ⟨rfl, rfl⟩
    · rintro ⟨r, hr, -⟩
      cases hr
  · have hkept : ∀ r ∈ sections source 0 ms', ∀ g s₁,
        Gives (runner.generate policy r) s g s₁ → s₁ = s := by
      intro r hr g s₁ hg
      exact (hsteady r hr g s₁ hg).1
    obtain ⟨rfl, hall⟩ := forall₂_of_gives_generateAll hkept hgs
    have hblocks := isBlock_of_forall₂ hsteady hall
    have hfits : Expansion.Fits 0 (Line.split text) ms' (gs.map Generated.lines) := by
      refine Expansion.fits_of_length source 0 (length_marksFrom hms) ?_
      rw [List.length_map, List.drop_zero, hall.length_eq]
    have hmarks := Expansion.marksFrom_split_unsplit_splice hfits hreturn hblocks hms
    have hagain := Expansion.splice_split_unsplit_splice hfits hreturn hblocks
    have hrequest := Expansion.map_request_sections_splice source hfits 0 0
    have hend := Expansion.sections_splice source hfits hblocks 0
    rw [List.drop_zero] at hrequest
    refine ⟨rfl, fun hreads => ?_, fun hunread => ?_⟩
    · have hns := (hmarks _).2 ⟨(forall_isReread_iff hall).1 hreads, rfl⟩
      exact ⟨gives_expand_of_splice hns hall hne hrequest (congrArg Line.unsplit hagain),
        _, readLines_eq_ok.2 ⟨_, hns, rfl⟩, hrequest, hend⟩
    · cases hmarks' : marksFrom [] (Line.split (Line.unsplit
          (Expansion.splice 0 (Line.split text) ms' (gs.map Generated.lines)))) with
      | ok ns =>
        obtain ⟨r, hr, hno⟩ := hunread
        exact absurd ((forall_isReread_iff hall).2 ((hmarks ns).1 hmarks').1 r hr) hno
      | error f =>
        have hfail := readLines_eq_error source hmarks'
        exact ⟨f, hfail, kindName_of_marksFrom_eq_error hmarks',
          fails_expand_iff.2 (Or.inl ⟨hfail, rfl⟩)⟩

end Runner

/-! ### Sections in the sandbox -/

namespace Script.Host

variable {w : Host} {policy : MissingPolicy} {r : Reference}

section

variable [Runtime]

/-- If the script of a section is there, its run leaves no attributes and renders a text whose lines
    are all inert. -/
def RendersInert (w : Host) (r : Reference) : Prop :=
  ∀ t i m, w.vault.template r.source r.script = .ok t → t.found = true →
    Gives (w.invoke t r.source r.arguments) Memory.empty i m →
    m.attributes = [] ∧
      ∃ out, i.rendered = some out ∧ out ≠ [] ∧ ∀ line ∈ Line.split out, IsInert line

/-- If the script of a section is there, all lines that it renders can be read. -/
def RendersReadable (w : Host) (r : Reference) : Prop :=
  ∀ t i m out, w.vault.template r.source r.script = .ok t → t.found = true →
    Gives (w.invoke t r.source r.arguments) Memory.empty i m → i.rendered = some out →
    ∀ line ∈ Line.split out, IsReadable line

/-- What the run of a section's script renders and the attributes it leaves, if the script is there
    and its run gives anything. -/
def rendering? (w : Host) (r : Reference) : Option (Option Text × Attributes) :=
  match w.vault.template r.source r.script with
  | .error _ => none
  | .ok t =>
    if t.found then
      match (w.invoke t r.source r.arguments).run.run Memory.empty with
      | (.ok i, m) => some (i.rendered, m.attributes)
      | (.error _, _) => none
    else none

theorem rendering?_eq_some_iff {p : Option Text × Attributes} :
    w.rendering? r = some p ↔
      ∃ t i m, w.vault.template r.source r.script = .ok t ∧ t.found = true ∧
        Gives (w.invoke t r.source r.arguments) Memory.empty i m ∧
        p = (i.rendered, m.attributes) := by
  constructor
  · intro h
    unfold rendering? at h
    split at h
    · cases h
    · next t ht =>
      split at h
      · next hfound =>
        split at h
        · next i m hrun =>
          cases h
          exact ⟨t, i, m, ht, hfound, hrun, rfl⟩
        · cases h
      · cases h
  · rintro ⟨t, i, m, ht, hfound, hrun, rfl⟩
    have hinvoke : (w.invoke t r.source r.arguments).run.run Memory.empty = (.ok i, m) := hrun
    simp only [rendering?, ht, hfound, if_true, hinvoke]

instance (w : Host) (r : Reference) : Decidable (w.RendersInert r) :=
  decidable_of_iff (∀ p ∈ w.rendering? r, p.2 = [] ∧
      ∃ out ∈ p.1, out ≠ [] ∧ ∀ line ∈ Line.split out, IsInert line) (by
    constructor
    · intro h t i m htemplate hfound hinvoke
      exact h _ (rendering?_eq_some_iff.2 ⟨t, i, m, htemplate, hfound, hinvoke, rfl⟩)
    · intro h p hp
      obtain ⟨t, i, m, htemplate, hfound, hinvoke, rfl⟩ := rendering?_eq_some_iff.1 hp
      exact h t i m htemplate hfound hinvoke)

instance (w : Host) (r : Reference) : Decidable (w.RendersReadable r) :=
  decidable_of_iff (∀ p ∈ w.rendering? r, ∀ out ∈ p.1, ∀ line ∈ Line.split out,
      IsReadable line) (by
    constructor
    · intro h t i m out htemplate hfound hinvoke hout
      exact h _ (rendering?_eq_some_iff.2 ⟨t, i, m, htemplate, hfound, hinvoke, rfl⟩) out hout
    · intro h p hp out hout
      obtain ⟨t, i, m, htemplate, hfound, hinvoke, rfl⟩ := rendering?_eq_some_iff.1 hp
      exact h t i m out htemplate hfound hinvoke hout)

theorem isInert_missingMarker (link : Text) : IsInert (missingMarker link) := by
  refine ⟨Section.fenceDepth?_failureMarker _ _, Section.isTerminator_failureMarker _ _, ?_⟩
  intro script arguments h
  rw [opening?_missingMarker] at h
  cases h

omit [Runtime] in
theorem split_missingMarker (link : Text) :
    Line.split (missingMarker link) = [missingMarker link] :=
  Line.split_of_not_mem
    (Section.lineFeed_not_mem_failureMarker (isKindName_templateNotFound link) _)

/-- What can be generated for a section: a terminator for a missing script that is not to show,
    the marker of one that is, or else what its script renders. -/
inductive LinesFor (w : Host) (r : Reference) : List Text → Prop where
  | silent : LinesFor w r [Section.terminator]
  | marker (link : Text) : LinesFor w r [missingMarker link, Section.terminator]
  | rendered {t : Template} {i : Invocation} {out : Text}
      (template : w.vault.template r.source r.script = .ok t) (found : t.found = true)
      (invoke : Gives (w.invoke t r.source r.arguments) Memory.empty i Memory.empty)
      (rendered : i.rendered = some out) : LinesFor w r (Line.split out ++ [Section.terminator])

theorem linesFor_of_gives_generate {g : Generated} {m : Memory} (hinert : w.RendersInert r)
    (h : Gives (w.runner.generate policy r) Memory.empty g m) :
    m = Memory.empty ∧ LinesFor w r g.lines := by
  have hlines := Runner.sectionLines_of_gives h
  generalize g.lines = new at hlines ⊢
  cases hlines with
  | missing resolve found empty =>
    obtain ⟨-, rfl⟩ := gives_lift.1 resolve
    exact ⟨rfl, .silent⟩
  | @silent t i _ _ resolve run invoke rendered =>
    obtain ⟨htemplate, rfl⟩ := gives_lift.1 resolve
    cases hfound : t.found with
    | true =>
      -- a script that is there renders something
      obtain ⟨-, out, hout, hne, -⟩ := hinert t i m htemplate hfound invoke
      rcases rendered with h | h
      · rw [h] at hout
        cases hout
      · rw [h] at hout
        cases hout
        exact absurd rfl hne
    | false =>
      obtain ⟨rfl, -⟩ := invoke.unique (gives_invoke_missing w hfound r.source r.arguments)
      rcases rendered with h | h
      · cases h
      · cases h
  | @rendered t i out _ _ resolve run invoke rendered nonempty =>
    obtain ⟨htemplate, rfl⟩ := gives_lift.1 resolve
    cases hfound : t.found with
    | true =>
      obtain ⟨hattributes, -⟩ := hinert t i m htemplate hfound invoke
      obtain rfl := eq_empty_of_gives_invoke invoke hattributes
      exact ⟨rfl, .rendered htemplate hfound invoke rendered⟩
    | false =>
      obtain ⟨rfl, rfl⟩ := invoke.unique (gives_invoke_missing w hfound r.source r.arguments)
      obtain rfl := Option.some.inj ((rendered_missing t.path t.path).symm.trans rendered)
      rw [split_missingMarker]
      exact ⟨rfl, .marker t.path⟩

/-- A section whose script, if there, renders inert lines and leaves no attributes is steady. -/
theorem isSteady_of_rendersInert (hinert : w.RendersInert r) :
    w.runner.IsSteady policy Memory.empty r := by
  intro g m h
  obtain ⟨rfl, hlines⟩ := linesFor_of_gives_generate hinert h
  refine ⟨rfl, ?_⟩
  generalize g.lines = new at hlines ⊢
  cases hlines with
  | silent => exact ⟨[], rfl, by simp⟩
  | marker link =>
    refine ⟨[missingMarker link], rfl, fun line hl => ?_⟩
    obtain rfl := List.mem_singleton.1 hl
    exact ⟨isInert_missingMarker link,
      Section.lineFeed_not_mem_failureMarker (isKindName_templateNotFound link) _⟩
  | @rendered t i out template found invoke rendered =>
    obtain ⟨-, out', hout, -, hlines⟩ := hinert t i Memory.empty template found invoke
    obtain rfl := Option.some.inj (rendered.symm.trans hout)
    exact ⟨Line.split out, rfl, fun line hl =>
      ⟨hlines line hl, Line.lineFeed_not_mem_of_mem_split out line hl⟩⟩

theorem gives_generate_of_found {t : Template} {i : Invocation} {m : Memory}
    (htemplate : w.vault.template r.source r.script = .ok t) (hfound : t.found = true)
    (hinvoke : Gives (w.invoke t r.source r.arguments) Memory.empty i m) :
    Gives (w.runner.generate policy r) Memory.empty ⟨r, true, some i⟩ m := by
  refine gives_bind.2 ⟨t, Memory.empty, gives_lift.2 ⟨htemplate, rfl⟩, ?_⟩
  rw [if_neg (by simp [hfound]), hfound]
  exact gives_bind.2 ⟨i, m, hinvoke, gives_pure.2 ⟨rfl, rfl⟩⟩

/-- The generated lines can be read when the rendered ones can; the others always can. -/
theorem isReread_iff_rendersReadable (hinert : w.RendersInert r) :
    w.runner.IsReread policy Memory.empty r ↔ w.RendersReadable r := by
  constructor
  · intro hread t i m out htemplate hfound hinvoke hout line hl
    obtain ⟨-, out', hout', hne, -⟩ := hinert t i m htemplate hfound hinvoke
    obtain rfl := Option.some.inj (hout.symm.trans hout')
    refine hread _ m (gives_generate_of_found htemplate hfound hinvoke) line ?_
    simp [Generated.lines, Generated.text, hout, hne, hl]
  · intro hread g m h
    obtain ⟨-, hlines⟩ := linesFor_of_gives_generate hinert h
    have hterminator : ∀ line ∈ [Section.terminator], IsReadable line := by
      intro line hl
      obtain rfl := List.mem_singleton.1 hl
      exact ⟨none, opening?_terminator⟩
    generalize g.lines = new at hlines ⊢
    cases hlines with
    | silent => exact hterminator
    | marker link =>
      exact List.forall_mem_cons.2 ⟨⟨none, opening?_missingMarker link⟩, hterminator⟩
    | @rendered t i out template found invoke rendered =>
      intro line hl
      rcases List.mem_append.1 hl with hl | hl
      · exact hread t i Memory.empty out template found invoke rendered line hl
      · exact hterminator line hl

/-- **Expanding an expanded note.**  The scripts of a note that are there render inert lines and
    leave no attributes; about missing scripts nothing is assumed.  Then an expansion leaves no
    trace in the memory.  If every rendered line can be read, expanding the new text gives the
    same text unchanged, and the new text has the sections of the old one, all with terminators.
    If some rendered line cannot be read, neither can the new text, and expanding it fails. -/
theorem expand_twice {text source : Text} {rs : List Reference} {e : Expansion} {m : Memory}
    (hreturn : ∀ line ∈ Line.split text, ¬ Line.EndsInReturn line)
    (hread : read source text = .ok rs) (hinert : ∀ r ∈ rs, w.RendersInert r)
    (h : Gives (w.runner.expand policy text source) Memory.empty e m) :
    m = Memory.empty ∧
    ((∀ r ∈ rs, w.RendersReadable r) →
      (∃ e', Gives (w.runner.expand policy e.text source) m e' Memory.empty ∧ e'.text = e.text ∧
        e'.changed = false) ∧
      ∃ rs', read source e.text = .ok rs' ∧
        rs'.map (fun r => (r.script, r.arguments)) = rs.map (fun r => (r.script, r.arguments)) ∧
        ∀ r ∈ rs', r.isTerminated = true) ∧
    ((∃ r ∈ rs, ¬ w.RendersReadable r) →
      ∃ f, read source e.text = .error f ∧ f.kindName = Text.of "OverflowError" ∧
        Fails (w.runner.expand policy e.text source) m f Memory.empty) := by
  obtain ⟨rfl, hreads, hunread⟩ := Runner.expand_expand hreturn hread
    (fun r hr => isSteady_of_rendersInert (hinert r hr)) h
  have hiff : ∀ r ∈ rs, w.runner.IsReread policy Memory.empty r ↔ w.RendersReadable r :=
    fun r hr => isReread_iff_rendersReadable (hinert r hr)
  refine ⟨rfl, fun hall => ?_, fun ⟨r, hr, hno⟩ => ?_⟩
  · obtain ⟨hexpand, rs', hread', hrequest, hend⟩ := hreads (fun r hr => (hiff r hr).2 (hall r hr))
    refine ⟨hexpand, rs', hread', ?_, hend⟩
    have hsecond := congrArg (List.map Prod.snd) hrequest
    rwa [List.map_map, List.map_map] at hsecond
  · exact hunread ⟨r, hr, fun h => hno ((hiff r hr).1 h)⟩

end

attribute [local instance] Runtime.usual

/-- A vault with nothing but one script, without an index. -/
def oneScript (script : String) : Host :=
  ⟨⟨[], [], ⟨[([Text.of "t.py"], .file ((Utf8.encode? (Text.of script)).getD []))]⟩, []⟩, false⟩

def greeting : Host := oneScript "[[\"return\", [\"lit\", \"hi\"]]]"

/-- A script that renders a line in the form of an opening line, with a number in it that is far
    from any code point. -/
def overflowing : Host :=
  oneScript "[[\"return\", [\"lit\", \"%% a: '\\\\u\x7b80000000\x7d' %%\"]]]"

def oneSection : Text := Text.of "%% template: 't.py' %%"

/-- A note without a terminator, expanded twice. -/
theorem expand_twice_greeting :
    ∃ e m e', Gives (greeting.runner.expand .marker oneSection (Text.of "n.md")) .empty e m ∧
      e.text = Text.of "%% template: 't.py' %%\nhi\n%%%%" ∧
      Gives (greeting.runner.expand .marker e.text (Text.of "n.md")) m e' .empty ∧
      e'.text = e.text ∧ e'.changed = false := by
  have hreturn : ∀ line ∈ Line.split oneSection, ¬ Line.EndsInReturn line := by decide +kernel
  have hsections : (read (Text.of "n.md") oneSection).toOption.map (fun rs =>
      decide (∀ r ∈ rs, greeting.RendersInert r ∧ greeting.RendersReadable r)) = some true := by
    decide +kernel
  have hrun : ((greeting.runner.expand .marker oneSection (Text.of "n.md")).run.run
      .empty).1.toOption.map (·.text) =
      some (Text.of "%% template: 't.py' %%\nhi\n%%%%") := by
    decide +kernel
  cases hread : read (Text.of "n.md") oneSection with
  | error f =>
    rw [hread] at hsections
    cases hsections
  | ok rs =>
    rw [hread] at hsections
    have hrenders := of_decide_eq_true (Option.some.inj hsections)
    rcases h : (greeting.runner.expand .marker oneSection (Text.of "n.md")).run.run .empty with
      ⟨_ | e, m⟩
    · rw [h] at hrun
      cases hrun
    · rw [h] at hrun
      obtain ⟨-, hsame, -⟩ := expand_twice hreturn hread (fun r hr => (hrenders r hr).1) h
      obtain ⟨⟨e', hagain, htext, hchanged⟩, -⟩ := hsame (fun r hr => (hrenders r hr).2)
      exact ⟨e, m, e', h, Option.some.inj hrun, hagain, htext, hchanged⟩

/-- A script renders an inert line whose literal cannot be evaluated: the note is expanded once,
    and then never again. -/
theorem expand_after_overflowing :
    ∃ rs e m, (∀ line ∈ Line.split oneSection, ¬ Line.EndsInReturn line) ∧
      read (Text.of "n.md") oneSection = .ok rs ∧ (∀ r ∈ rs, overflowing.RendersInert r) ∧
      Gives (overflowing.runner.expand .marker oneSection (Text.of "n.md")) .empty e m ∧
      ¬ ∃ e' m', Gives (overflowing.runner.expand .marker e.text (Text.of "n.md")) m e' m' := by
  have hreturn : ∀ line ∈ Line.split oneSection, ¬ Line.EndsInReturn line := by decide +kernel
  have hsections : (read (Text.of "n.md") oneSection).toOption.map (fun rs =>
      decide (∀ r ∈ rs, overflowing.RendersInert r)) = some true := by
    decide +kernel
  have hrun : (match (overflowing.runner.expand .marker oneSection (Text.of "n.md")).run.run
        .empty with
      | (.ok e, m) => ((overflowing.runner.expand .marker e.text (Text.of "n.md")).run.run
          m).1.toOption.isNone
      | (.error _, _) => false) = true := by
    decide +kernel
  cases hread : read (Text.of "n.md") oneSection with
  | error f =>
    rw [hread] at hsections
    cases hsections
  | ok rs =>
    rw [hread] at hsections
    rcases h : (overflowing.runner.expand .marker oneSection (Text.of "n.md")).run.run .empty with
      ⟨_ | e, m⟩
    · rw [h] at hrun
      cases hrun
    · rw [h] at hrun
      refine ⟨rs, e, m, hreturn, rfl, of_decide_eq_true (Option.some.inj hsections), h, ?_⟩
      rintro ⟨e', m', hagain⟩
      have hnone : ((overflowing.runner.expand .marker e.text (Text.of "n.md")).run.run
          m).1.toOption.isNone = true := hrun
      rw [show (overflowing.runner.expand .marker e.text (Text.of "n.md")).run.run m = _
        from hagain] at hnone
      cases hnone

end Script.Host

end TemplatedNotes
