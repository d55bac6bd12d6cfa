/-
  TemplatedNotes/Proofs/InsertedUpdate.lean
  =========================================
  **An inserted section is what an expansion makes of it.**

  An insertion runs the script of a new section by itself and writes what it rendered; an
  expansion generates the section from its opening line.  The two agree if the script renders a
  text, the text has no carriage return before a line feed, and a missing script is to show
  (`ShowsAlike`): an expansion puts nothing after the opening line of a script that renders
  nothing, and line feeds in the place of other ends of lines.

  So an update of the note, right after the insertion, keeps the section if its script renders the
  same once more: the note has changed since, and the sections before it have run.

    * `expand_opened` — the expansion of the new section by itself;
    * `expandsAround_of_gives` — what an expansion puts in the place of a section and the lines
      around it;
    * `read_of_gives_update` — what a note holds after its update;
    * `insert_spec` — the insertion, the expansion and the update.
-/
import TemplatedNotes.Proofs.Expansion.Splice
import TemplatedNotes.Proofs.Inserted
import TemplatedNotes.Runtime.Usual

namespace TemplatedNotes

open TemplatedNotes.Action

/-! ### The section by itself -/

/-- The opening line of a new section and a terminator, as a note. -/
def Section.opened (link : Text) : Text := Line.unsplit [openingFor link, terminator]

section Alone

variable {σ : Type} {runner : Runner σ} {policy : MissingPolicy} {source link : Text} {s s' : σ}

theorem Section.split_opened (hfeed : Line.lineFeed ∉ link) :
    Line.split (opened link) = [openingFor link, terminator] := by
  have hline : ∀ l ∈ [openingFor link], Line.lineFeed ∉ l := by
    simpa using lineFeed_not_mem_openingFor hfeed
  have hsplit := Line.split_unsplit_concat hline (show Line.lineFeed ∉ terminator by decide)
  rwa [List.map_singleton, Line.chomp_of_not (not_endsInReturn_openingFor link)] at hsplit

variable [Runtime]

theorem Reference.marksFrom_opened (hlink : link ≠ []) (hfeed : Line.lineFeed ∉ link) :
    marksFrom [] (Line.split (Section.opened link)) =
      .ok [.opening link (Section.argumentsFor link), .terminator] := by
  have hblock : IsBlock [Section.terminator] := ⟨[], rfl, by simp⟩
  have hreads : ∀ line ∈ [Section.terminator], IsReadable line := by
    simpa using show IsReadable Section.terminator from ⟨none, opening?_terminator⟩
  have hempty : marksFrom [] [] = .ok [] := rfl
  rw [Section.split_opened hfeed]
  exact (marksFrom_opening (Section.opening?_openingFor hlink hfeed)
    (Section.fenceDepth?_openingFor link) hblock hempty rfl hempty _).2 ⟨hreads, rfl⟩

/-- The new section by itself is expanded to its opening line and what is generated for it. -/
theorem Runner.gives_expand_opened (hlink : link ≠ []) (hfeed : Line.lineFeed ∉ link)
    {g : Generated}
    (h : Gives (runner.generate policy ⟨source, link, 0, some 1, Section.argumentsFor link⟩) s g
      s') :
    ∃ e, Gives (runner.expand policy (Section.opened link) source) s e s' ∧
      e.text = Line.unsplit (Section.openingFor link :: g.lines) := by
  have hall : Gives (runner.generateAll policy
      [⟨source, link, 0, some 1, Section.argumentsFor link⟩]) s [g] s' :=
    gives_bind.2 ⟨g, s', h, gives_bind.2 ⟨[], s', gives_pure.2 ⟨rfl, rfl⟩, gives_pure.2 ⟨rfl, rfl⟩⟩⟩
  have hsplice : Expansion.splice 0 (Line.split (Section.opened link))
      [.opening link (Section.argumentsFor link), .terminator] [g.lines] =
        Section.openingFor link :: g.lines := by
    rw [Section.split_opened hfeed, Expansion.splice]
    exact congrArg _ (List.append_nil g.lines)
  rw [expand_eq runner policy source (Reference.marksFrom_opened hlink hfeed)]
  exact ⟨_, gives_bind.2 ⟨[g], s', hall, gives_pure.2 ⟨rfl, rfl⟩⟩, congrArg Line.unsplit hsplice⟩

end Alone

/-- The text of a section with its ends of lines made line feeds. -/
theorem Section.unsplit_openingFor_split (link out : Text) :
    Line.unsplit (openingFor link :: (Line.split out ++ [terminator])) =
      block link (some (Line.unsplit (Line.split out))) :=
  (Line.unsplit_append_cons [openingFor link] (Line.split_ne_nil out) [terminator]).symm

theorem Section.block_eq (link : Text) (generated : Option Text) :
    block link generated =
      openingFor link ++ Line.lineFeed :: (generated.getD [] ++ Line.lineFeed :: terminator) := by
  rw [block, Line.unsplit_cons _ (by simp), Line.unsplit_cons _ (by simp)]
  rfl

theorem Section.block_inj {link : Text} {generated generated' : Option Text} :
    block link generated = block link generated' ↔ generated.getD [] = generated'.getD [] := by
  rw [block_eq, block_eq]
  simp

theorem Section.length_openingFor_lt (link : Text) (generated : Option Text) :
    (openingFor link).length < (block link generated).length ∧
      (opened link).length < (block link generated).length := by
  have hsingle : Line.unsplit [terminator] = terminator := rfl
  rw [block_eq, opened, Line.unsplit_cons _ (by simp), hsingle]
  simp only [List.length_append, List.length_cons]
  omega

/-- What a script rendered shows in an expansion as an insertion writes it: it is a text with
    nothing but line feeds at the ends of its lines, and a missing script is to show. -/
structure ShowsAlike (policy : MissingPolicy) (script : Template) (rendered : Option Text) :
    Prop where
  shown : ¬ (script.found = false ∧ policy = .empty)
  isText : ∃ out, rendered = some out ∧ out ≠ [] ∧ ¬ [Line.carriageReturn, Line.lineFeed] <:+: out

namespace Runner

variable {σ : Type} {runner : Runner σ} {r : Reference} {t : Template} {i : Invocation}
  {s s₁ s' : σ}

theorem gives_generate_of_invoke (policy : MissingPolicy)
    (hresolve : Gives (runner.resolve r.source r.script) s t s₁)
    (hinvoke : Gives (runner.invoke t r.source r.arguments) s₁ i s') :
    (t.found = false ∧ policy = .empty →
      Gives (runner.generate policy r) s ⟨r, false, none⟩ s₁) ∧
    (¬ (t.found = false ∧ policy = .empty) →
      Gives (runner.generate policy r) s ⟨r, t.found, some i⟩ s') := by
  constructor
  · intro hmissing
    refine gives_bind.2 ⟨t, s₁, hresolve, ?_⟩
    rw [if_pos (by simpa using hmissing)]
    exact gives_pure.2 ⟨rfl, rfl⟩
  · intro hshown
    refine gives_bind.2 ⟨t, s₁, hresolve, ?_⟩
    rw [if_neg (by simpa using hshown)]
    exact gives_bind.2 ⟨i, s', hinvoke, gives_pure.2 ⟨rfl, rfl⟩⟩

theorem lines_of_rendered {found : Bool} {out : Text} (hout : i.rendered = some out)
    (hne : out ≠ []) :
    (Generated.mk r found (some i)).lines = Line.split out ++ [Section.terminator] := by
  simp [Generated.lines, Generated.text, hout, hne]

theorem lines_of_silent {found : Bool} (h : i.rendered.getD [] = []) :
    (Generated.mk r found (some i)).lines = [] := by
  simp [Generated.lines, Generated.text, h]

/-- What is generated for the opening line of a new section is what an insertion writes, if there is
    a text to write with nothing but line feeds at the ends of its lines. -/
theorem unsplit_lines_eq_block_iff {link : Text} {found : Bool} :
    Line.unsplit (Section.openingFor link :: (Generated.mk r found (some i)).lines) =
        Section.block link i.rendered ↔
      ∃ out, i.rendered = some out ∧ out ≠ [] ∧
        ¬ [Line.carriageReturn, Line.lineFeed] <:+: out := by
  by_cases hsilent : i.rendered.getD [] = []
  · rw [lines_of_silent hsilent]
    constructor
    · intro hblock
      have hopening : Section.openingFor link = Section.block link i.rendered := hblock
      have hlength := (Section.length_openingFor_lt link i.rendered).1
      rw [← hopening] at hlength
      exact absurd hlength (Nat.lt_irrefl _)
    · rintro ⟨out, hout, hne, -⟩
      rw [hout] at hsilent
      exact absurd hsilent hne
  · cases hout : i.rendered with
    | none =>
      rw [hout] at hsilent
      exact absurd rfl hsilent
    | some out =>
      rw [hout] at hsilent
      have hne : out ≠ [] := hsilent
      rw [lines_of_rendered hout hne, Section.unsplit_openingFor_split, Section.block_inj,
        Option.getD_some, Option.getD_some, Line.unsplit_split_iff]
      constructor
      · intro hfeed
        exact ⟨out, rfl, hne, hfeed⟩
      · rintro ⟨_, ⟨⟩, -, hfeed⟩
        exact hfeed

end Runner

namespace Workspace

open Reference

variable {w w' : Workspace} {path link text : Text} {script : Template} {i : Invocation}
  {m : Script.Memory}

variable [Runtime]

/-- **The expansion of a new section by itself**, where an insertion runs the same script: it is
    the block that the insertion writes if the script shows alike, and only then. -/
theorem expand_opened (hlink : link ≠ []) (hfeed : Line.lineFeed ∉ link)
    (hscript : w.vault.template path link = .ok script)
    (hinvoke : Gives (w.host.invoke script path (Section.argumentsFor link)) w.memory i m) :
    ∃ e m', Gives (w.host.runner.expand w.policy (Section.opened link) path) w.memory e m' ∧
      (script.found = false ∧ w.policy = .empty → e.text = Section.opened link) ∧
      (¬ (script.found = false ∧ w.policy = .empty) →
        (i.rendered.getD [] = [] → e.text = Section.openingFor link) ∧
        ∀ out, i.rendered = some out → out ≠ [] →
          e.text = Section.block link (some (Line.unsplit (Line.split out)))) ∧
      (e.text = Section.block link i.rendered ↔ ShowsAlike w.policy script i.rendered) := by
  have hresolve : Gives (w.host.runner.resolve path link) w.memory script w.memory :=
    gives_lift.2 ⟨hscript, rfl⟩
  obtain ⟨hhidden, hshown⟩ := Runner.gives_generate_of_invoke w.policy
    (r := ⟨path, link, 0, some 1, Section.argumentsFor link⟩) hresolve hinvoke
  by_cases hmissing : script.found = false ∧ w.policy = .empty
  · obtain ⟨e, he, htext⟩ := Runner.gives_expand_opened hlink hfeed (hhidden hmissing)
    have hopened : e.text = Section.opened link := htext
    refine ⟨e, _, he, fun _ => hopened, fun h => absurd hmissing h, fun hblock => ?_,
      fun halike => absurd hmissing halike.shown⟩
    have hlength := (Section.length_openingFor_lt link i.rendered).2
    rw [← hopened, hblock] at hlength
    exact absurd hlength (Nat.lt_irrefl _)
  · obtain ⟨e, he, htext⟩ := Runner.gives_expand_opened hlink hfeed (hshown hmissing)
    refine ⟨e, m, he, fun h => absurd h hmissing,
      fun _ => ⟨fun hsilent => ?_, fun out hout hne => ?_⟩, ?_⟩
    · rw [htext, Runner.lines_of_silent hsilent]
      rfl
    · rw [htext, Runner.lines_of_rendered hout hne, Section.unsplit_openingFor_split]
    · rw [htext, Runner.unsplit_lines_eq_block_iff]
      exact ⟨fun h => ⟨hmissing, h⟩, fun h => h.isText⟩

end Workspace

/-! ### What an expansion puts around a section -/

/-- What stands in the place of some lines, numbered from an index on. -/
def Expansion.placed (rs : List Reference) (generated : List (List Text)) (index : Nat)
    (lines : List Text) : List Text :=
  (lines.zipIdx index).flatMap (fun p => lineAt rs generated p.2 p.1)

namespace Expansion

open Reference

variable {rs before after : List Reference} {r : Reference} {generated behind : List (List Text)}
  {new pre block post : List Text}

theorem placed_append (rs : List Reference) (generated : List (List Text)) (index : Nat)
    (xs ys : List Text) :
    placed rs generated index (xs ++ ys) =
      placed rs generated index xs ++ placed rs generated (index + xs.length) ys := by
  rw [placed, List.zipIdx_append, List.flatMap_append]
  rfl

theorem placed_of_covered {index j : Nat} {lines : List Text} (hr : r ∈ rs)
    (hstart : r.start < index) (hfinish : r.finish = some j)
    (hend : index + lines.length ≤ j + 1) : placed rs generated index lines = [] := by
  refine List.flatMap_eq_nil_iff.2 (fun p hp => ?_)
  have hle : index ≤ p.2 := List.le_snd_of_mem_zipIdx hp
  have hlt : p.2 < index + lines.length := List.snd_lt_add_of_mem_zipIdx hp
  have hcovers : r.covers p.2 = true := by
    simp only [covers, hfinish, Option.any_some, Bool.and_eq_true, decide_eq_true_eq]
    omega
  rw [lineAt, if_pos (List.any_eq_true.2 ⟨r, hr, hcovers⟩)]

theorem lineAt_of_split (hbefore : ∀ r' ∈ before, r'.start ≠ r.start)
    (hafter : ∀ r' ∈ after, r'.start ≠ r.start)
    (hcovers : ∀ r' ∈ before ++ r :: after, r'.covers r.start = false)
    (hlength : generated.length = before.length) (line : Text) :
    lineAt (before ++ r :: after) (generated ++ new :: behind) r.start line = line :: new := by
  have hnone : ¬ (before ++ r :: after).any (·.covers r.start) = true := by
    rw [List.any_eq_true]
    rintro ⟨r', hr', h⟩
    rw [hcovers r' hr'] at h
    cases h
  have hfront : (before.zip generated).filter (fun p => p.1.start == r.start) = [] :=
    List.filter_eq_nil_iff.2 (fun p hp => by simpa using hbefore _ (List.of_mem_zip hp).1)
  have hback : (after.zip behind).filter (fun p => p.1.start == r.start) = [] :=
    List.filter_eq_nil_iff.2 (fun p hp => by simpa using hafter _ (List.of_mem_zip hp).1)
  rw [lineAt, if_neg hnone, List.zip_append hlength.symm, List.zip_cons_cons, List.filter_append,
    hfront, List.filter_cons_of_pos (by simp), hback]
  simp

variable [Runtime]

/-- **A section and the lines around it, expanded**: its opening line stays with what was generated
    for it, and the lines around it are expanded with their own sections. -/
theorem placed_section {source opener : Text}
    (hread : readLines source (pre ++ opener :: block ++ post) = .ok (before ++ r :: after))
    (hstart : r.start = pre.length) (hfinish : r.finish = some (pre.length + block.length))
    (hlength : generated.length = before.length) :
    placed (before ++ r :: after) (generated ++ new :: behind) 0 (pre ++ opener :: block ++ post) =
      placed (before ++ r :: after) (generated ++ new :: behind) 0 pre ++ opener :: new ++
        placed (before ++ r :: after) (generated ++ new :: behind) (pre ++ opener :: block).length
          post := by
  have hr : r ∈ before ++ r :: after := by simp
  -- no other section opens at the same line
  have horder := List.pairwise_append.1 (pairwise_start hread)
  have hopener : lineAt (before ++ r :: after) (generated ++ new :: behind) r.start opener =
      opener :: new :=
    lineAt_of_split (fun r' hr' => Nat.ne_of_lt (horder.2.2 r' hr' r List.mem_cons_self))
      (fun r' hr' => (Nat.ne_of_lt (List.rel_of_pairwise_cons horder.2.1 hr')).symm)
      (fun r' hr' => Runner.covers_start hread hr' hr) hlength opener
  rw [hstart] at hopener
  have hblock : placed (before ++ r :: after) (generated ++ new :: behind) (pre.length + 1) block =
      [] :=
    placed_of_covered hr (by omega) hfinish (by omega)
  have hsection : placed (before ++ r :: after) (generated ++ new :: behind) pre.length
      (opener :: block) = opener :: new := by
    rw [placed, List.zipIdx_cons, List.flatMap_cons, hopener, ← placed, hblock, List.append_nil]
  rw [placed_append, placed_append, Nat.zero_add, Nat.zero_add, hsection]

end Expansion

theorem Runner.Generates.eq_of_nil {σ : Type} {runner : Runner σ} {policy : MissingPolicy}
    {generated : List (List Text)} {s s' : σ} (h : Generates runner policy s [] generated s') :
    s' = s := by
  cases h
  rfl

theorem Runner.exists_of_generates_append {σ : Type} {runner : Runner σ} {policy : MissingPolicy}
    {xs ys : List Reference} {generated : List (List Text)} {s s' : σ}
    (h : Generates runner policy s (xs ++ ys) generated s') :
    ∃ first behind s₁, generated = first ++ behind ∧ Generates runner policy s xs first s₁ ∧
      Generates runner policy s₁ ys behind s' := by
  induction xs generalizing s generated with
  | nil => exact ⟨[], generated, s, rfl, .nil s, h⟩
  | cons r rest ih =>
    cases h with
    | cons hfirst hrest =>
      obtain ⟨first, behind, s₁, rfl, hxs, hys⟩ := ih hrest
      exact ⟨_ :: first, behind, s₁, rfl, .cons hfirst hxs, hys⟩

section

variable [Runtime]

/-- A note is expanded around one of its sections: those before it are generated, then the section
    itself, then those behind it, and the lines in front of and behind the section are expanded with
    their own sections. -/
def Runner.ExpandsAround {σ : Type} (runner : Runner σ) (policy : MissingPolicy) (s : σ)
    (source text : Text) (before : List Reference) (r : Reference) (after : List Reference)
    (front new back : List Text) : Prop :=
  Reference.read source text = .ok (before ++ r :: after) ∧
  ∃ pre opener body post generated behind s₁ s₂ s₃,
    Line.split text = pre ++ opener :: body ++ post ∧ r.start = pre.length ∧
    r.finish = some (pre.length + body.length) ∧
    Generates runner policy s before generated s₁ ∧ SectionLines runner policy r s₁ new s₂ ∧
    Generates runner policy s₂ after behind s₃ ∧
    front = Expansion.placed (before ++ r :: after) (generated ++ new :: behind) 0 pre ∧
    back = Expansion.placed (before ++ r :: after) (generated ++ new :: behind)
      (pre ++ opener :: body).length post

/-- **The text of an expansion around a section**: the opening line of the section with what was
    generated for it, between what stands for the lines around. -/
theorem Runner.expandsAround_of_gives {σ : Type} {runner : Runner σ} {policy : MissingPolicy}
    {text source opener : Text} {pre body post : List Text} {before after : List Reference}
    {r : Reference} {e : Expansion} {s s' : σ}
    (hlines : Line.split text = pre ++ opener :: body ++ post)
    (hread : Reference.read source text = .ok (before ++ r :: after))
    (hstart : r.start = pre.length) (hfinish : r.finish = some (pre.length + body.length))
    (h : Gives (runner.expand policy text source) s e s') :
    ∃ front new back, runner.ExpandsAround policy s source text before r after front new back ∧
      e.text = Line.unsplit (front ++ Line.unsplit (opener :: new) :: back) := by
  obtain ⟨rs, hrs, -, -, -, hsome⟩ := expand_spec h
  obtain rfl : rs = before ++ r :: after := Except.ok.inj (hrs.symm.trans hread)
  obtain ⟨all, hall, htext⟩ := hsome (by simp)
  obtain ⟨generated, rest, s₁, rfl, hfirst, hrest⟩ := exists_of_generates_append hall
  cases hrest with
  | @cons _ _ new behind _ s₂ _ hsection hbehind =>
    refine ⟨_, new, _, ⟨hread, pre, opener, body, post, generated, behind, s₁, s₂, s', hlines,
      hstart, hfinish, hfirst, hsection, hbehind, rfl, rfl⟩, ?_⟩
    rw [hlines] at hrs
    rw [Line.unsplit_append_cons _ (by simp), htext, hlines]
    exact congrArg Line.unsplit (Expansion.placed_section hrs hstart hfinish hfirst.length_eq)

/-! ### The update of a note -/

theorem Runner.text_of_gives_expand {σ : Type} {runner : Runner σ} {policy : MissingPolicy}
    {text source : Text} {e : Expansion} {s s' : σ}
    (h : Gives (runner.expand policy text source) s e s') (hchanged : e.changed = false) :
    e.text = text := by
  obtain ⟨ms, -, ⟨-, rfl, -⟩ | ⟨-, gs, -, rfl⟩⟩ := gives_expand h
  · rfl
  · simpa [Expansion.ofGenerated] using hchanged

end

namespace Workspace

open Reference

variable {w w' : Workspace} {path text link : Text}

section

variable [Runtime]

/-- **What a note holds after its update**: the text of its expansion. -/
theorem read_of_gives_update {x : Option Expansion}
    (hstore : ∀ file ∈ w.store, w.vault.absolute path ≠ .ok file)
    (hread : w.vault.read path = .ok text) (h : Gives (update path) w x w') :
    ∃ e m, x = some e ∧ Gives (w.host.runner.expand w.policy text path) w.memory e m ∧
      w'.vault.read path = .ok e.text := by
  obtain ⟨x', w₁, hrefresh, hrest⟩ := gives_bind.1 h
  obtain ⟨u, w₂, hsave, hrest⟩ := gives_bind.1 hrest
  obtain ⟨rfl, rfl⟩ := gives_pure.1 hrest
  obtain ⟨e, m, v, rfl, hexpand, hwritten, rfl⟩ := gives_refresh hread hrefresh
  have hnew : v.root = w.vault.root ∧ v.read path = .ok e.text := by
    rcases hwritten with ⟨hchanged, rfl⟩ | ⟨-, hwrite⟩
    · rw [Runner.text_of_gives_expand hexpand hchanged]
      exact ⟨rfl, hread⟩
    · exact Vault.read_of_gives_modify hwrite
  refine ⟨e, m, rfl, hexpand, read_of_gives_save hsave (fun file hfile => ?_) hnew.2⟩
  rw [Vault.absolute_congr hnew.1]
  exact hstore file hfile

omit [Runtime] in
theorem place_of_gives_save {u : Unit} (h : Gives save w u w') :
    w'.store = w.store ∧ w'.vault.root = w.vault.root := by
  rcases gives_save_iff.1 h with ⟨-, rfl⟩ | ⟨file, d, -, -, rfl⟩
  · exact ⟨rfl, rfl⟩
  · exact ⟨rfl, rfl⟩

/-- A note is the file of the known paths after an insertion only if it was before. -/
theorem store_of_gives_insert {line : Int} {block : Text}
    (hstore : ∀ file ∈ w.store, w.vault.absolute path ≠ .ok file)
    (h : Gives (insert path line link) w block w') :
    ∀ file ∈ w'.store, w'.vault.absolute path ≠ .ok file := by
  obtain ⟨script, i, m, text, v, known, -, -, -, -, hwrite, hsave⟩ := of_gives_insert h
  obtain ⟨hsame, hroot⟩ := place_of_gives_save hsave
  obtain ⟨hroot', -⟩ := Vault.read_of_gives_modify hwrite
  rw [hsame]
  intro file hfile
  rw [Vault.absolute_congr (hroot.trans hroot')]
  exact hstore file hfile

/-! ### The update after an insertion -/

/-- When the sections before it have been generated, the script of a section renders a text, and
    that shows in an expansion as an insertion wrote it. -/
def RendersAgain (w : Workspace) (path link : Text) (before : List Reference)
    (rendered : Option Text) : Prop :=
  ∀ generated m t, Runner.Generates w.host.runner w.policy w.memory before generated m →
    w.vault.template path link = .ok t →
    ShowsAlike w.policy t rendered ∧
      ∀ i m', Gives (w.host.invoke t path (Section.argumentsFor link)) m i m' →
        i.rendered = rendered

/-- What is generated for such a section is what the insertion wrote. -/
theorem RendersAgain.unsplit_eq_block {before : List Reference} {rendered : Option Text}
    {generated : List (List Text)} {new : List Text} {m m' : Script.Memory} {start : Nat}
    (h : RendersAgain w path link before rendered)
    (hbefore : Runner.Generates w.host.runner w.policy w.memory before generated m)
    (hsection : Runner.SectionLines w.host.runner w.policy (meant path link start rendered) m new
      m') :
    Line.unsplit (Section.openingFor link :: new) = Section.block link rendered := by
  have hagain : ∀ t m₁, Gives (w.host.runner.resolve path link) m t m₁ → m₁ = m ∧
      ShowsAlike w.policy t rendered ∧
      ∀ i m', Gives (w.host.invoke t path (Section.argumentsFor link)) m i m' →
        i.rendered = rendered := by
    intro t m₁ hresolve
    obtain ⟨htemplate, rfl⟩ := gives_lift.1 hresolve
    exact ⟨rfl, h _ _ t hbefore htemplate⟩
  cases hsection with
  | missing resolve found empty =>
    -- a script that has gone missing since does not show
    obtain ⟨-, halike, -⟩ := hagain _ _ resolve
    exact absurd ⟨found, empty⟩ halike.shown
  | silent resolve run invoke hsilent =>
    obtain ⟨rfl, halike, hsame⟩ := hagain _ _ resolve
    obtain ⟨out, hout, hne, -⟩ := halike.isText
    rw [hsame _ _ invoke, hout] at hsilent
    simp [hne] at hsilent
  | rendered resolve run invoke hrendered nonempty =>
    obtain ⟨rfl, halike, hsame⟩ := hagain _ _ resolve
    obtain ⟨out, hout, -, hfeed⟩ := halike.isText
    rw [hsame _ _ invoke, hout] at hrendered
    cases hrendered
    rw [Section.unsplit_openingFor_split, Line.unsplit_split_iff.2 hfeed, hout]

omit [Runtime] in
theorem exists_split_inserted (text : Text) (line : Int) (hfeed : Line.lineFeed ∉ link)
    (rendered : Option Text) :
    ∃ pre body post, Line.split (inserted text line (Section.block link rendered)) =
        pre ++ Section.openingFor link :: body ++ post ∧
      pre.length = insertionPoint text line ∧ body.length = (shown rendered).length + 1 := by
  obtain ⟨pre₀, mid, post₀, h⟩ := exists_around text line
  obtain ⟨pre, body, post, hlines, hpre, -, hbody⟩ := h.split_inserted hfeed rendered
  have hcount := congrArg List.length hbody
  rw [List.length_map, List.length_map] at hcount
  refine ⟨pre, body ++ [Section.terminator], post, ?_, hpre.length_eq.symm.trans h.length_eq, ?_⟩
  · rw [hlines]
    simp
  · rw [List.length_append, hcount]
    rfl

/-- **Insertion, expansion and update.**  By itself, a new section is expanded to the block that an
    insertion writes, if what its script rendered shows alike, and only then.  An update of the note
    right after the insertion generates the section behind those before it, keeps its opening line
    with what is generated for it, and expands the lines around it with their own sections; so the
    section stays as it was inserted if its script renders the same once more. -/
theorem insert_spec {script : Template} {i : Invocation} {m : Script.Memory}
    (hlink : link ≠ []) (hfeed : Line.lineFeed ∉ link)
    (hscript : w.vault.template path link = .ok script)
    (hinvoke : Gives (w.host.invoke script path (Section.argumentsFor link)) w.memory i m) :
    (∃ e m', Gives (w.host.runner.expand w.policy (Section.opened link) path) w.memory e m' ∧
      (script.found = false ∧ w.policy = .empty → e.text = Section.opened link) ∧
      (¬ (script.found = false ∧ w.policy = .empty) →
        (i.rendered.getD [] = [] → e.text = Section.openingFor link) ∧
        ∀ out, i.rendered = some out → out ≠ [] →
          e.text = Section.block link (some (Line.unsplit (Line.split out)))) ∧
      (e.text = Section.block link i.rendered ↔ ShowsAlike w.policy script i.rendered)) ∧
    ∀ text line rs block w₁ x w₂, w.vault.read path = .ok text →
      (∀ file ∈ w.store, w.vault.absolute path ≠ .ok file) →
      Reference.read path text = .ok rs →
      fencesBefore (Line.split text) (insertionPoint text line) = [] →
      (∀ r ∈ rs, ∀ j, r.finish = some j → r.start < insertionPoint text line →
        j < insertionPoint text line) →
      (∀ out ∈ i.rendered, ∀ l ∈ Line.split out, IsInert l) →
      Gives (insert path line link) w block w₁ → Gives (update path) w₁ x w₂ →
      block = Section.block link i.rendered ∧
      w₁.vault.read path = .ok (inserted text line block) ∧
      ∃ before after front new back, rs = before ++ after ∧
        (∀ r ∈ before, r.IsBefore (insertionPoint text line)) ∧
        (∀ r ∈ after, insertionPoint text line ≤ r.start) ∧
        w₁.host.runner.ExpandsAround w₁.policy w₁.memory path (inserted text line block) before
          (meant path link (insertionPoint text line) i.rendered)
          (after.map (moved (insertionPoint text line)
            ((Line.split (inserted text line block)).length - (Line.split text).length)))
          front new back ∧
        w₂.vault.read path = .ok (Line.unsplit
          (front ++ Line.unsplit (Section.openingFor link :: new) :: back)) ∧
        (RendersAgain w₁ path link before i.rendered →
          w₂.vault.read path = .ok (Line.unsplit (front ++ block :: back))) := by
  refine ⟨expand_opened hlink hfeed hscript hinvoke, ?_⟩
  intro text line rs block w₁ x w₂ htext hstore hread hfences houtside hinert hinsert hupdate
  have hnote := read_of_gives_insert hstore htext hinsert
  obtain ⟨e, m₂, -, hexpand, hupdated⟩ :=
    read_of_gives_update (store_of_gives_insert hstore hinsert) hnote hupdate
  -- the run of the insertion is the given one
  obtain ⟨script', i', m', -, -, -, hscript', hinvoke', -, rfl, -⟩ := of_gives_insert hinsert
  obtain rfl : script = script' := Except.ok.inj (hscript.symm.trans hscript')
  obtain ⟨rfl, rfl⟩ := hinvoke.unique hinvoke'
  -- an expansion that gives something has read the new note
  obtain ⟨rs', hread', -⟩ := Runner.expand_spec hexpand
  obtain ⟨before, after, hsplit, hbefore, hafter, hnew⟩ := read_inserted hlink hfeed
    ((forall_mem_shown isInert_nil).2 hinert) hread hfences houtside
  obtain ⟨-, rfl⟩ := (hnew rs').1 hread'
  obtain ⟨pre, body, post, hlines, hpre, hbody⟩ := exists_split_inserted text line hfeed i.rendered
  have hfinish : (meant path link (insertionPoint text line) i.rendered).finish =
      some (pre.length + body.length) := by
    simp [meant, hpre, hbody, Nat.add_assoc]
  obtain ⟨front, new, back, haround, hresult⟩ :=
    Runner.expandsAround_of_gives hlines hread' hpre.symm hfinish hexpand
  rw [hresult] at hupdated
  refine ⟨rfl, hnote, before, after, front, new, back, hsplit, hbefore, hafter, haround, hupdated,
    fun hagain => ?_⟩
  obtain ⟨-, -, -, -, -, generated, behind, m₁, m₂, m₃, -, -, -, hfirst, hsection, -⟩ := haround
  rwa [hagain.unsplit_eq_block hfirst hsection] at hupdated

/-- A vault with a script and a note of one letter. -/
def notebook (policy : MissingPolicy) (script : String) : Workspace :=
  ⟨⟨[], [], ⟨[([Text.of "t.py"], .file ((Utf8.encode? (Text.of script)).getD [])),
    ([Text.of "n.md"], .file [0x78])]⟩, []⟩, true, policy, .empty, .empty, none⟩

def inserting : Action Workspace Text := insert (Text.of "n.md") 0 (Text.of "t.py")

def updating : Action Workspace (Option Expansion) := update (Text.of "n.md")

def helloScript : Template := ⟨Text.of "t.py", true, Text.of r#"[["return",["lit","hi"]]]"#⟩

def hello : Workspace := notebook .marker r#"[["return",["lit","hi"]]]"#

-- its value is a run of the whole command, which no proof is to unfold
@[irreducible] def helloInserted : Workspace := (inserting.run.run hello).2

end

attribute [local instance] Runtime.usual

/-- A script that renders the same each time: the section stays in the update. -/
theorem insert_spec_hello :
    ∃ e m' block x w₂ front back,
      Gives (hello.host.runner.expand hello.policy (Section.opened (Text.of "t.py"))
        (Text.of "n.md")) hello.memory e m' ∧ e.text = block ∧
      Gives inserting hello block helloInserted ∧ Gives updating helloInserted x w₂ ∧
      w₂.vault.read (Text.of "n.md") = .ok (Line.unsplit (front ++ block :: back)) := by
  have hscript : hello.vault.template (Text.of "n.md") (Text.of "t.py") = .ok helloScript :=
    Outcome.eq_ok_of_toOption (by decide +kernel)
  have hrun : ((hello.host.invoke helloScript (Text.of "n.md")
      (Section.argumentsFor (Text.of "t.py"))).run.run hello.memory).1.toOption.map (·.rendered) =
        some (some (Text.of "hi")) := by
    decide +kernel
  obtain ⟨i, m, hinvoke, hrendered⟩ := exists_gives_of_run hrun
  have hlink : Text.of "t.py" ≠ [] := by decide
  have hfeed : Line.lineFeed ∉ Text.of "t.py" := by decide
  obtain ⟨⟨e, m', hexpand, -, -, hblock⟩, hafter⟩ := insert_spec hlink hfeed hscript hinvoke
  rw [hrendered] at hblock hafter
  have hinert : ∀ out ∈ some (Text.of "hi"), ∀ l ∈ Line.split out, IsInert l := by decide +kernel
  have halike : ShowsAlike hello.policy helloScript (some (Text.of "hi")) :=
    ⟨by decide, Text.of "hi", rfl, by decide, by decide⟩
  have htext : hello.vault.read (Text.of "n.md") = .ok (Text.of "x") :=
    Outcome.eq_ok_of_toOption (by decide +kernel)
  have hread : Reference.read (Text.of "n.md") (Text.of "x") = .ok [] := rfl
  have hinserted : (inserting.run.run hello).1.toOption.isSome = true := by decide +kernel
  have hupdated : (updating.run.run helloInserted).1.toOption.isSome = true := by decide +kernel
  obtain ⟨block, hsome⟩ := Option.isSome_iff_exists.1 hinserted
  obtain ⟨x, hsome'⟩ := Option.isSome_iff_exists.1 hupdated
  have hinsert : Gives inserting hello block helloInserted := by
    rw [helloInserted]
    exact gives_of_run hsome
  obtain ⟨rfl, -, before, after, front, new, back, hsplit, -, -, -, -, hkept⟩ :=
    hafter _ 0 [] block _ x _ htext (by simp [hello, notebook]) hread (by decide +kernel) (by simp)
      hinert hinsert (gives_of_run hsome')
  obtain ⟨rfl, rfl⟩ := List.append_eq_nil_iff.1 hsplit.symm
  have hagain : RendersAgain helloInserted (Text.of "n.md") (Text.of "t.py") []
      (some (Text.of "hi")) := by
    intro generated m₁ t hbefore htemplate
    obtain rfl := hbefore.eq_of_nil
    have hscript' : helloInserted.vault.template (Text.of "n.md") (Text.of "t.py") =
        .ok helloScript := Outcome.eq_ok_of_toOption (by decide +kernel)
    obtain rfl : helloScript = t := Except.ok.inj (hscript'.symm.trans htemplate)
    have hrun' : ((helloInserted.host.invoke helloScript (Text.of "n.md")
        (Section.argumentsFor (Text.of "t.py"))).run.run
          helloInserted.memory).1.toOption.map (·.rendered) = some (some (Text.of "hi")) := by
      decide +kernel
    refine ⟨⟨by decide +kernel, halike.isText⟩, fun i' m' hagain => ?_⟩
    obtain ⟨i₁, m₁, h, hsame⟩ := exists_gives_of_run hrun'
    rw [(hagain.unique h).1]
    exact hsame
  exact ⟨e, m', _, x, _, front, back, hexpand, hblock.2 halike, hinsert, gives_of_run hsome',
    hkept hagain⟩

section

variable [Runtime]

/-- A section that an expansion shows in another way than an insertion writes it, although its
    script renders inert lines only. -/
def ShowsApart (w : Workspace) (path link : Text) : Prop :=
  ∃ script i m e m', w.vault.template path link = .ok script ∧
    Gives (w.host.invoke script path (Section.argumentsFor link)) w.memory i m ∧
    (∀ out ∈ i.rendered, ∀ l ∈ Line.split out, IsInert l) ∧
    Gives (w.host.runner.expand w.policy (Section.opened link) path) w.memory e m' ∧
    e.text ≠ Section.block link i.rendered

theorem showsApart_of_not_showsAlike {rendered : Option Text} (hlink : link ≠ [])
    (hfeed : Line.lineFeed ∉ link) {script : Template}
    (hscript : (w.vault.template path link).toOption = some script)
    (hrun : ((w.host.invoke script path (Section.argumentsFor link)).run.run
      w.memory).1.toOption.map (·.rendered) = some rendered)
    (hinert : ∀ out ∈ rendered, ∀ l ∈ Line.split out, IsInert l)
    (hapart : ¬ ShowsAlike w.policy script rendered) : ShowsApart w path link := by
  obtain ⟨i, m, hinvoke, rfl⟩ := exists_gives_of_run hrun
  have hok := Outcome.eq_ok_of_toOption hscript
  obtain ⟨e, m', hexpand, -, -, halike⟩ := expand_opened hlink hfeed hok hinvoke
  exact ⟨script, i, m, e, m', hok, hinvoke, hinert, hexpand, fun h => hapart (halike.1 h)⟩

end

def silentNotebook : Workspace := notebook .marker "[]"

def hidingNotebook : Workspace := notebook .empty "[]"

def returningNotebook : Workspace := notebook .marker r#"[["return",["lit","a\r\nb"]]]"#

/-- A script that renders how long its note is. -/
def measuringNotebook : Workspace :=
  notebook .marker r#"[["return",["len",["attr",["current"],"content"]]]]"#

/-- A vault whose note is the file of the known paths, too. -/
def storedNotebook : Workspace := { hello with store := some [Text.of "n.md"] }

/-- **Where insertion and expansion part**: a script that renders nothing, a missing one that is not
    to show, and a carriage return before a line feed.  A section whose script reads its note does
    not stay in the update after its insertion, nor does one in the file of the known paths. -/
theorem insert_apart :
    ShowsApart silentNotebook (Text.of "n.md") (Text.of "t.py") ∧
    ShowsApart hidingNotebook (Text.of "n.md") (Text.of "m.py") ∧
    ShowsApart returningNotebook (Text.of "n.md") (Text.of "t.py") ∧
    (∃ w₁ x w₂,
      Gives inserting measuringNotebook (Text.of "%% template: 't.py' %%\n1\n%%%%") w₁ ∧
      Gives updating w₁ x w₂ ∧
      w₂.vault.read (Text.of "n.md") = .ok (Text.of "x\n%% template: 't.py' %%\n31\n%%%%")) ∧
    ∃ block w₁ x w₂ text, Gives inserting storedNotebook block w₁ ∧ Gives updating w₁ x w₂ ∧
      w₂.vault.read (Text.of "n.md") = .ok text ∧ ¬ block <:+: text := by
  refine ⟨?_, ?_, ?_, ?_, ?_⟩
  · have hscript : (silentNotebook.vault.template (Text.of "n.md") (Text.of "t.py")).toOption =
        some ⟨Text.of "t.py", true, Text.of "[]"⟩ := by decide +kernel
    have hrun : ((silentNotebook.host.invoke ⟨Text.of "t.py", true, Text.of "[]"⟩ (Text.of "n.md")
        (Section.argumentsFor (Text.of "t.py"))).run.run
          silentNotebook.memory).1.toOption.map (·.rendered) = some none := by decide +kernel
    refine showsApart_of_not_showsAlike (by decide) (by decide) hscript hrun (by simp) ?_
    rintro ⟨-, out, ⟨⟩, -⟩
  · have hscript : (hidingNotebook.vault.template (Text.of "n.md") (Text.of "m.py")).toOption =
        some (.missing (Text.of "m.py")) := by decide +kernel
    have hrun : ((hidingNotebook.host.invoke (.missing (Text.of "m.py")) (Text.of "n.md")
        (Section.argumentsFor (Text.of "m.py"))).run.run
          hidingNotebook.memory).1.toOption.map (·.rendered) = some (some (Text.of
            "%% TemplateNotFoundError: Template not found: m.py %%")) := by decide +kernel
    refine showsApart_of_not_showsAlike (by decide) (by decide) hscript hrun (by decide +kernel) ?_
    exact fun h => h.shown ⟨rfl, rfl⟩
  · have hscript : (returningNotebook.vault.template (Text.of "n.md") (Text.of "t.py")).toOption =
        some ⟨Text.of "t.py", true, Text.of r#"[["return",["lit","a\r\nb"]]]"#⟩ := by decide +kernel
    have hrun : ((returningNotebook.host.invoke
        ⟨Text.of "t.py", true, Text.of r#"[["return",["lit","a\r\nb"]]]"#⟩ (Text.of "n.md")
        (Section.argumentsFor (Text.of "t.py"))).run.run
          returningNotebook.memory).1.toOption.map (·.rendered) =
            some (some (Text.of "a\r\nb")) := by
      decide +kernel
    refine showsApart_of_not_showsAlike (by decide) (by decide) hscript hrun (by decide +kernel) ?_
    rintro ⟨-, out, ⟨⟩, -, hfeed⟩
    exact hfeed (by decide)
  · have hinserted : (inserting.run.run measuringNotebook).1.toOption =
        some (Text.of "%% template: 't.py' %%\n1\n%%%%") := by decide +kernel
    have hupdated : (updating.run.run
        (inserting.run.run measuringNotebook).2).1.toOption.isSome = true := by decide +kernel
    have hnote : ((updating.run.run (inserting.run.run measuringNotebook).2).2.vault.read
        (Text.of "n.md")).toOption = some (Text.of "x\n%% template: 't.py' %%\n31\n%%%%") := by
      decide +kernel
    obtain ⟨x, hsome⟩ := Option.isSome_iff_exists.1 hupdated
    exact ⟨_, x, _, gives_of_run hinserted, gives_of_run hsome, Outcome.eq_ok_of_toOption hnote⟩
  · have hinserted : (inserting.run.run storedNotebook).1.toOption =
        some (Text.of "%% template: 't.py' %%\nhi\n%%%%") := by decide +kernel
    have hupdated : (updating.run.run
        (inserting.run.run storedNotebook).2).1.toOption.isSome = true := by decide +kernel
    have hnote : ((updating.run.run (inserting.run.run storedNotebook).2).2.vault.read
        (Text.of "n.md")).toOption.map (fun text =>
          decide (Text.of "%% template: 't.py' %%\nhi\n%%%%" <:+: text)) = some false := by
      decide +kernel
    obtain ⟨x, hsome⟩ := Option.isSome_iff_exists.1 hupdated
    obtain ⟨text, htext, hnot⟩ := Option.map_eq_some_iff.1 hnote
    exact ⟨_, _, x, _, text, gives_of_run hinserted, gives_of_run hsome,
      Outcome.eq_ok_of_toOption htext, of_decide_eq_false hnot⟩

end Workspace

end TemplatedNotes
