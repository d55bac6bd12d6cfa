/-
  TemplatedNotes/Proofs/Expansion/Independence.lean
  =================================================
  **The sections of a note do not influence each other.**

  Sections are generated one after the other, each from the state that the one before left.  Where
  no script leaves an attribute behind, every section leaves the state that it found, so what is
  generated for it is what would be generated if its opening line were the whole note.  Whether a
  vault's scripts are of this kind can be seen from their texts (`Host.Spares.leavesNothing`).  That
  they give the index nothing is not enough: scripts share the kind of failure for missing scripts
  and the packages they load as well.

    * `ExpandsAlone` — the expansion of an opening line on its own;
    * `expand_of_kept` — a note expanded from a state that its sections keep;
    * `expand_independent` — the same for the notes of a vault;
    * `expand_sharing` — two sections that share an attribute.
-/
import TemplatedNotes.Proofs.Expansion.Idempotence
import TemplatedNotes.Proofs.Script.Shared
import TemplatedNotes.Runtime.Usual

namespace TemplatedNotes

open TemplatedNotes.Action Reference

/-! ### A note of one opening line -/

namespace Reference

/-- A section whose opening line is the whole note. -/
def alone (r : Reference) : Reference := { r with start := 0, finish := none }

theorem sections_alone (r : Reference) :
    sections r.source 0 [.opening r.script r.arguments] = [r.alone] := rfl

variable [Runtime]

/-- The opening line of a section is a note with that section alone. -/
theorem marksFrom_openingLine {source text : Text} {rs : List Reference}
    (hread : Reference.read source text = .ok rs) {r : Reference} (hr : r ∈ rs) :
    ∃ line, (Line.split text)[r.start]? = some line ∧ Line.split line = [line] ∧
      marksFrom [] [line] = .ok [.opening r.script r.arguments] := by
  obtain ⟨line, payload, ⟨hline, hdepth, -⟩, hpayload, harguments, hscript, hne⟩ :=
    ((mem_iff_isSection hread r).1 hr).opensAt
  have hopening : opening? line = .ok (some (r.script, r.arguments)) :=
    opening?_eq_some_iff.2 ⟨payload, hpayload, harguments, template?_eq_some_iff.2 ⟨hscript, hne⟩⟩
  have hmark : markBehind [] line = .ok (.opening r.script r.arguments) :=
    (markBehind_eq_ok_iff (by simp)).2 ⟨⟨hdepth, rfl⟩, mark_eq_opening_iff.2 hopening⟩
  refine ⟨line, hline, ?_, marksFrom_cons.2 ⟨_, [], hmark, rfl, rfl⟩⟩
  apply Line.split_of_not_mem
  exact Line.lineFeed_not_mem_of_mem_split text line (List.mem_of_getElem? hline)

end Reference

namespace Runner

variable {σ : Type} {runner : Runner σ} {policy : MissingPolicy} {s s' : σ}

variable [Runtime]

/-- The opening line of a section, as a note of its own, has that section alone, and is expanded
    to the line with some lines generated for it; the state stays as it was. -/
def ExpandsAlone (runner : Runner σ) (policy : MissingPolicy) (s : σ) (source text : Text)
    (r : Reference) (new : List Text) (e : Expansion) : Prop :=
  ∃ line, (Line.split text)[r.start]? = some line ∧
    Reference.read source line = .ok [r.alone] ∧
    Gives (runner.expand policy line source) s e s ∧
    Generates runner policy s [r.alone] [new] s ∧ e.text = Line.unsplit (line :: new)

/-- What came of a section whose opening line is the whole note. -/
def expansionAlone (source line : Text) (r : Reference) (g : Generated) : Expansion :=
  .ofGenerated source line 1 (line :: g.lines) [{ g with reference := r.alone }]

omit [Runtime] in
theorem errors_expansionAlone (source line : Text) (r : Reference) (g : Generated) :
    (expansionAlone source line r g).errors = g.failed?.toList := by
  have hfailed : Generated.failed? { g with reference := r.alone } = g.failed? := rfl
  unfold expansionAlone Expansion.ofGenerated
  rw [List.filterMap_cons, hfailed]
  cases g.failed? <;> rfl

omit [Runtime] in
theorem used_expansionAlone (source line : Text) (r : Reference) (g : Generated) :
    (expansionAlone source line r g).used = if g.isUsed then [r.script] else [] := by
  have hused : Generated.isUsed { g with reference := r.alone } = g.isUsed := rfl
  unfold expansionAlone Expansion.ofGenerated
  rw [List.filter_cons, hused]
  cases g.isUsed <;> rfl

omit [Runtime] in
theorem removed_expansionAlone (source line : Text) (r : Reference) (g : Generated) :
    (expansionAlone source line r g).removed = if g.found then [] else [r.script] := by
  unfold expansionAlone Expansion.ofGenerated
  rw [List.filter_cons]
  cases g.found <;> rfl

/-- **An opening line on its own** is expanded with what is generated for its section. -/
theorem expandsAlone_of_gives {source text : Text} {rs : List Reference}
    (hread : Reference.read source text = .ok rs) {r : Reference} (hr : r ∈ rs) {g : Generated}
    (hg : Gives (runner.generate policy r) s g s) :
    ∃ line, runner.ExpandsAlone policy s source text r g.lines (expansionAlone source line r g) := by
  obtain ⟨line, hline, hsplit, hmarks⟩ := marksFrom_openingLine hread hr
  have hsource : r.source = source := ((mem_iff_isSection hread r).1 hr).source_eq
  have hrequest : r.alone.request = r.request := rfl
  have hone : Gives (runner.generate policy r.alone) s { g with reference := r.alone } s :=
    gives_generate_of_request hrequest hg
  have halone : Gives (runner.generateAll policy [r.alone]) s [{ g with reference := r.alone }] s :=
    gives_bind.2 ⟨_, s, hone, gives_bind.2 ⟨[], s, gives_pure.2 ⟨rfl, rfl⟩, gives_pure.2 ⟨rfl, rfl⟩⟩⟩
  have hsections : sections source 0 [.opening r.script r.arguments] = [r.alone] := by
    rw [← hsource]
    exact sections_alone r
  have hsplice : Expansion.splice 0 [line] [.opening r.script r.arguments] [g.lines] =
      line :: g.lines := by
    simp [Expansion.splice]
  rw [← hsplit] at hmarks
  refine ⟨line, line, hline, readLines_eq_ok.2 ⟨_, hmarks, hsections.symm⟩, ?_,
    generates_of_gives halone, rfl⟩
  rw [expand_eq runner policy source hmarks, hsections]
  refine gives_bind.2 ⟨_, s, halone, gives_pure.2 ⟨?_, rfl⟩⟩
  show expansionAlone source line r g = .ofGenerated source line 1
    (Expansion.splice 0 (Line.split line) [.opening r.script r.arguments] [g.lines]) _
  rw [hsplit, hsplice]
  rfl

/-! ### A note and its sections -/

/-- Sections that are all generated from one state, with what becomes of their opening lines. -/
theorem exists_parts {source text : Text} {rs : List Reference}
    (hread : Reference.read source text = .ok rs) {some : List Reference} {gs : List Generated}
    (hsome : ∀ r ∈ some, r ∈ rs)
    (hall : List.Forall₂ (fun r g => Gives (runner.generate policy r) s g s) some gs) :
    ∃ parts : List (List Text × Expansion),
      List.Forall₂ (fun r p => runner.ExpandsAlone policy s source text r p.1 p.2) some parts ∧
      parts.map (·.1) = gs.map Generated.lines ∧
      parts.flatMap (·.2.errors) = gs.filterMap Generated.failed? ∧
      parts.flatMap (·.2.used) = (gs.filter Generated.isUsed).map (·.reference.script) ∧
      parts.flatMap (·.2.removed) = (gs.filter (!·.found)).map (·.reference.script) := by
  induction hall with
  | nil => exact ⟨[], .nil, rfl, rfl, rfl, rfl⟩
  | @cons r g more gs hg _ ih =>
    obtain ⟨hr, hmore⟩ := List.forall_mem_cons.1 hsome
    obtain ⟨parts, hparts, hlines, herrors, hused, hremoved⟩ := ih hmore
    obtain ⟨line, hline⟩ := expandsAlone_of_gives hread hr hg
    have hscript : r.script = g.reference.script := by
      rw [reference_of_gives_generate hg]
    refine ⟨(g.lines, expansionAlone source line r g) :: parts, .cons hline hparts, ?_, ?_, ?_, ?_⟩
    · rw [List.map_cons, List.map_cons, hlines]
    · rw [List.flatMap_cons, herrors, errors_expansionAlone, List.filterMap_cons]
      cases g.failed? <;> rfl
    · rw [List.flatMap_cons, hused, used_expansionAlone, List.filter_cons, hscript]
      cases g.isUsed <;> rfl
    · rw [List.flatMap_cons, hremoved, removed_expansionAlone, List.filter_cons, hscript]
      cases g.found <;> rfl

/-- **A note expanded from a state that its sections keep**: what is generated for each of them is
    what its opening line is expanded with on its own, and so are the scripts that worked, those
    that are missing and the failed runs. -/
theorem expand_of_kept {source text : Text} {rs : List Reference} {e : Expansion}
    (hread : Reference.read source text = .ok rs)
    (hkept : ∀ r ∈ rs, ∀ g s', Gives (runner.generate policy r) s g s' → s' = s)
    (h : Gives (runner.expand policy text source) s e s') :
    s' = s ∧ ∃ parts : List (List Text × Expansion),
      List.Forall₂ (fun r p => runner.ExpandsAlone policy s source text r p.1 p.2) rs parts ∧
      Generates runner policy s rs (parts.map (·.1)) s ∧
      (rs = [] → e.text = text) ∧
      (rs ≠ [] → e.text = Line.unsplit ((Line.split text).zipIdx.flatMap (fun p =>
        Expansion.lineAt rs (parts.map (·.1)) p.2 p.1))) ∧
      e.errors = parts.flatMap (·.2.errors) ∧
      e.used = Expansion.once (parts.flatMap (·.2.used)) ∧
      e.removed = Expansion.once (parts.flatMap (·.2.removed)) := by
  obtain ⟨ms, hms, h⟩ := gives_expand h
  obtain ⟨ms', hms', rfl⟩ := readLines_eq_ok.1 hread
  obtain rfl : ms = ms' := Except.ok.inj (hms.symm.trans hms')
  rcases h with ⟨hnone, rfl, rfl⟩ | ⟨hne, gs, hgs, rfl⟩
  · rw [hnone]
    exact ⟨rfl, [], .nil, .nil s', fun _ => rfl, fun hne => absurd rfl hne, rfl, rfl, rfl⟩
  · obtain ⟨rfl, hall⟩ := forall₂_of_gives_generateAll hkept hgs
    obtain ⟨parts, hparts, hlines, herrors, hused, hremoved⟩ :=
      exists_parts hread (fun r hr => hr) hall
    have hgen := generates_of_gives hgs
    refine ⟨rfl, parts, hparts, ?_, fun hnone => absurd hnone hne, fun _ => ?_, herrors.symm, ?_, ?_⟩
    · rw [hlines]
      exact hgen
    · show Line.unsplit (Expansion.splice 0 (Line.split text) ms (gs.map Generated.lines)) = _
      rw [hlines, Expansion.splice_eq_flatMap source
        (Expansion.fits_of_length source 0 (length_marksFrom hms) hgen.length_eq)]
    · rw [hused]
      rfl
    · rw [hremoved]
      rfl

end Runner

/-! ### The notes of a vault -/

namespace Script.Host

variable {w : Host} {policy : MissingPolicy}

section

variable [Runtime]

/-- Where no script leaves an attribute behind, a section leaves nothing. -/
theorem LeavesNothing.eq_empty (hw : w.LeavesNothing) {r : Reference} {g : Generated} {m : Memory}
    (h : Gives (w.runner.generate policy r) .empty g m) : m = .empty := by
  unfold Runner.generate at h
  obtain ⟨t, m₁, hlift, h⟩ := gives_bind.1 h
  obtain ⟨ht, rfl⟩ := gives_lift.1 hlift
  split at h
  · exact (gives_pure.1 h).2
  · obtain ⟨i, m₂, hinvoke, h⟩ := gives_bind.1 h
    obtain ⟨-, rfl⟩ := gives_pure.1 h
    cases hfound : t.found with
    | true =>
      have hattributes := hw _ _ t ht hfound _ _ _ m hinvoke
      exact eq_empty_of_gives_invoke hinvoke hattributes
    | false => exact (hinvoke.unique (w.gives_invoke_missing hfound r.source r.arguments)).2

end

attribute [local instance] Runtime.usual

/-- A file of a vault with a script. -/
def scriptFile (name script : String) : Path × Entry :=
  ([Text.of name], .file ((Utf8.encode? (Text.of script)).getD []))

/-- A vault with a script that assigns to its input, renders the other one and fails. -/
def meddling : Host :=
  ⟨⟨[], [], ⟨[
    scriptFile "a.py"
      r#"[["set",["input"],"x",["template",["lit","b.py"],null,[],true]],["raise","OSError"]]"#,
    scriptFile "b.py" r#"[["return",["lit","hi"]]]"#]⟩, []⟩, true⟩

def twoSections : Text := Text.of "%% template: 'a.py' %%\n%% template: 'b.py' %%"

/-- A vault with two scripts that give the kind of failure for missing scripts an attribute, and one
    that reads it. -/
def sharing : Host :=
  ⟨⟨[], [], ⟨[
    scriptFile "start.py" r#"[["set",["var","TemplateNotFoundError"],"mood",["lit","u"]]]"#,
    scriptFile "a.py" r#"[["set",["var","TemplateNotFoundError"],"mood",["lit","v"]]]"#,
    scriptFile "b.py" r#"[["return",["attr",["var","TemplateNotFoundError"],"mood"]]]"#]⟩, []⟩, true⟩

def startNote : Text := Text.of "%% template: 'start.py' %%"

/-- Expands notes of one path one after the other. -/
def expandEach (w : Host) (texts : List Text) : Run (List Expansion) :=
  texts.mapM (fun t => w.runner.expand .marker t (Text.of "n.md"))

end Script.Host

end TemplatedNotes
