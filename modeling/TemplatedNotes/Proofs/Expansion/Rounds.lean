/-
  TemplatedNotes/Proofs/Expansion/Rounds.lean
  ===========================================
  **A note expanded again and again.**

  Each expansion starts from the text that the one before gave, with scripts that may do something
  else each time.  A round is one of them, with the sections that it found and what was generated
  for them.  All rounds generate nothing or inert lines.

  The lines outside the sections stay while the sections keep to themselves: no section whose
  script gave nothing has another terminator behind its own.  A section without its terminator
  would take that one, and the next round would drop the lines in between
  (`expand_drops_line`).  `rounds_keep_outside` says how far the lines stay.
-/
import TemplatedNotes.Proofs.Expansion.Idempotence
import TemplatedNotes.Proofs.Expansion.Outside
import TemplatedNotes.Runtime.Usual

namespace TemplatedNotes

open TemplatedNotes.Action Reference

section

variable [Runtime]

/-- Whether what the script of a section gave is nothing, or a text of inert lines. -/
def Generated.IsTame (g : Generated) : Prop :=
  g.text = [] ∨ ∀ line ∈ Line.split g.text, IsInert line

instance (g : Generated) : Decidable g.IsTame := inferInstanceAs (Decidable (_ ∨ _))

theorem Generated.IsTame.isBody {g : Generated} (h : g.IsTame) : IsBody g.lines := by
  unfold lines
  cases g.invocation with
  | none => exact Or.inr ⟨[], rfl, by simp⟩
  | some i =>
    by_cases htext : g.text.isEmpty = true
    · exact Or.inl (if_pos htext)
    · rcases h with h | h
      · exact absurd (List.isEmpty_iff.2 h) htext
      · refine Or.inr ⟨Line.split g.text, if_neg htext, fun line hl => ⟨h line hl, ?_⟩⟩
        exact Line.lineFeed_not_mem_of_mem_split g.text line hl

end

/-! ### Rounds -/

/-- One expansion of a note: its text, its sections, and what was generated for them. -/
structure Round where
  text : Text
  references : List Reference
  generated : List Generated

namespace Round

variable [Runtime]

/-- The expansion gives the note a new text, with some runner from some state. -/
def Turns (source : Text) (x : Round) (next : Text) : Prop :=
  ∃ (σ : Type) (runner : Runner σ) (policy : MissingPolicy) (s s' : σ) (e : Expansion),
    Gives (runner.expand policy x.text source) s e s' ∧ e.text = next ∧
      read source x.text = .ok x.references ∧
      Gives (runner.generateAll policy x.references) s x.generated s'

/-- The lines outside the sections, without the carriage returns at their ends. -/
def outside (x : Round) : List Text :=
  (Reference.outside x.references (Line.split x.text)).map Line.bare

/-- No section for which nothing was generated has another terminator behind its own that could
    close it. -/
def KeepsEnds (x : Round) : Prop :=
  ∀ p ∈ x.references.zip x.generated, p.2.lines = [] →
    ∀ j, p.1.finish = some j → ∀ k, ¬ CanCloseAt (Line.split x.text) j k

end Round

section

variable [Runtime]

/-- Rounds one after the other, each from the text that the one before gave. -/
inductive Rounds (source : Text) : Text → List Round → Text → Prop where
  | done (text : Text) : Rounds source text [] text
  | more {x : Round} {next last : Text} {xs : List Round} (turns : x.Turns source next)
      (rest : Rounds source next xs last) : Rounds source x.text (x :: xs) last

end

/-! ### One round -/

theorem Expansion.splice_of_fits_nil {lines : List Text} {ms : List Mark}
    (h : Fits 0 lines ms []) : splice 0 lines ms [] = lines := by
  have hall : ∀ {skip : Nat} {lines : List Text} {ms : List Mark} {generated : List (List Text)},
      Fits skip lines ms generated → skip = 0 → generated = [] → splice 0 lines ms [] = lines := by
    intro skip lines ms generated h
    induction h with
    | done skip => exact fun _ _ => rfl
    | skipped line m _ ih => exact fun hskip _ => absurd hskip (Nat.succ_ne_zero _)
    | opens line script arguments new _ ih => exact fun _ hnil => absurd hnil (by simp)
    | stays line other rest ih =>
      intro _ hnil
      rw [splice_cons other, ih rfl hnil]
  exact hall h rfl rfl

namespace Round

variable {source next : Text} {x : Round}

variable [Runtime]

/-- A round splices what was generated into the lines of the note. -/
theorem Turns.splice (h : x.Turns source next) (htame : ∀ g ∈ x.generated, g.IsTame) :
    ∃ ms, marksFrom [] (Line.split x.text) = .ok ms ∧ x.references = sections source 0 ms ∧
      (x.generated.map Generated.lines).length = (sections source 0 ms).length ∧
      Expansion.Fits 0 (Line.split x.text) ms (x.generated.map Generated.lines) ∧
      (∀ new ∈ x.generated.map Generated.lines, IsBody new) ∧
      (Line.split next).map Line.bare =
        (Expansion.splice 0 (Line.split x.text) ms (x.generated.map Generated.lines)).map
          Line.bare := by
  obtain ⟨σ, runner, policy, s, s', e, hexpand, rfl, hread, hgs⟩ := h
  obtain ⟨ms, hms, hcases⟩ := Runner.gives_expand hexpand
  obtain ⟨ms', hms', hrs⟩ := readLines_eq_ok.1 hread
  obtain rfl : ms' = ms := Except.ok.inj (hms'.symm.trans hms)
  rw [hrs] at hgs
  have hlen := (Runner.generates_of_gives hgs).length_eq
  have hfits : Expansion.Fits 0 (Line.split x.text) ms' (x.generated.map Generated.lines) :=
    Expansion.fits_of_length source 0 (length_marksFrom hms) hlen
  have hbodies : ∀ new ∈ x.generated.map Generated.lines, IsBody new := by
    intro new hnew
    obtain ⟨g, hg, rfl⟩ := List.mem_map.1 hnew
    exact (htame g hg).isBody
  refine ⟨ms', hms, hrs, hlen, hfits, hbodies, ?_⟩
  rcases hcases with ⟨hempty, rfl, -⟩ | ⟨-, gs, hgs', rfl⟩
  · rw [hempty] at hlen
    rw [List.length_eq_zero_iff.1 hlen] at hfits ⊢
    rw [Expansion.splice_of_fits_nil hfits]
    rfl
  · obtain rfl := (hgs.unique hgs').1
    exact Line.map_bare_split_unsplit
      (Expansion.splice_ne_nil hfits (Line.split_ne_nil x.text))
      (fun line hl => Expansion.lineFeed_not_mem_splice hfits hbodies hl)

/-- A round keeps the lines outside the sections. -/
theorem Turns.outside_sublist (h : x.Turns source next) (htame : ∀ g ∈ x.generated, g.IsTame) :
    x.outside.Sublist ((Line.split next).map Line.bare) := by
  obtain ⟨ms, -, hrs, -, hfits, -, hnext⟩ := h.splice htame
  rw [hnext, outside, hrs, Expansion.outside_eq_splice source hfits]
  exact (Expansion.splice_nothing_sublist hfits).map Line.bare

theorem keepsEnds_iff {ms : List Mark} (hms : marksFrom [] (Line.split x.text) = .ok ms)
    (hrs : x.references = sections source 0 ms)
    (hfits : Expansion.Fits 0 (Line.split x.text) ms (x.generated.map Generated.lines)) :
    x.KeepsEnds ↔ Expansion.KeepsEnds 0 ms (x.generated.map Generated.lines) := by
  rw [Expansion.keepsEnds_iff source hms hfits, KeepsEnds, hrs, List.zip_map_right]
  simp only [List.forall_mem_map, Prod.map_fst, Prod.map_snd, id_eq]

/-- **What a round makes of the lines outside the sections**: they become fewer, and stay the same
    exactly when the sections keep to themselves. -/
theorem Turns.outside_next (h : x.Turns source next) (htame : ∀ g ∈ x.generated, g.IsTame)
    {rs : List Reference} (hread : read source next = .ok rs) :
    ((Reference.outside rs (Line.split next)).map Line.bare).Sublist x.outside ∧
      ((Reference.outside rs (Line.split next)).map Line.bare = x.outside ↔ x.KeepsEnds) ∧
      (NoSpareEnd x.references (Line.split x.text) → NoSpareEnd rs (Line.split next)) := by
  obtain ⟨ms, hms, hrs, hlen, hfits, hbodies, hnext⟩ := h.splice htame
  obtain ⟨ns, hns, rfl⟩ := readLines_eq_ok.1 hread
  -- carriage returns at line ends change no mark, so the new note has the marks of the new lines
  have hmarks : marksFrom [] (Expansion.splice 0 (Line.split x.text) ms
      (x.generated.map Generated.lines)) = .ok ns := by
    rw [← marksFrom_map_of_dropsBlank Section.dropsBlank_bare, ← hnext,
      marksFrom_map_of_dropsBlank Section.dropsBlank_bare]
    exact hns
  obtain ⟨-, rfl⟩ := (Expansion.marksFrom_splice hfits hms hbodies ns).1 hmarks
  have hrequest := Expansion.map_request_sections_splice source hfits 0 0
  have hcount := congrArg List.length hrequest
  rw [List.length_map, List.length_map, List.drop_zero, ← hlen] at hcount
  have hfits' : Expansion.Fits 0 (Line.split next) _ (x.generated.map Generated.lines) :=
    Expansion.fits_of_length source 0 (length_marksFrom hns) hcount.symm
  obtain ⟨hsub, heq⟩ := Expansion.splice_nothing_splice hfits hbodies
  have hnothing : ((Expansion.nothing (x.generated.map Generated.lines)).map (List.map Line.bare)) =
      Expansion.nothing (x.generated.map Generated.lines) := by
    simp [Expansion.nothing]
  rw [Expansion.outside_eq_splice source hfits', Expansion.map_splice, hnothing, hnext, ← hnothing,
    ← Expansion.map_splice, outside, hrs, Expansion.outside_eq_splice source hfits,
    keepsEnds_iff hms hrs hfits, ← heq]
  refine ⟨hsub.map Line.bare, ⟨fun hmap => ?_, fun h => congrArg _ h⟩, fun hno => ?_⟩
  · exact hsub.eq_of_length (by simpa using congrArg List.length hmap)
  · rw [Expansion.noSpareEnd_iff source hms hfits hlen] at hno
    exact (Expansion.noSpareEnd_iff source hns hfits' hcount.symm).2 (hno.splice hfits hbodies)

theorem Turns.read_eq (h : x.Turns source next) : read source x.text = .ok x.references := by
  obtain ⟨σ, runner, policy, s, s', e, -, -, hread, -⟩ := h
  exact hread

end Round

/-! ### Round after round -/

namespace Rounds

variable {source text last : Text} {xs : List Round} {rs : List Reference}

variable [Runtime]

theorem outside_sublist (h : Rounds source text xs last)
    (htame : ∀ x ∈ xs, ∀ g ∈ x.generated, g.IsTame) (hread : read source text = .ok rs)
    (hkeeps : ∀ x ∈ xs.dropLast, x.KeepsEnds) :
    ((outside rs (Line.split text)).map Line.bare).Sublist ((Line.split last).map Line.bare) := by
  induction h generalizing rs with
  | done text =>
    have hall : (outside rs (Line.split text)).Sublist (Line.split text) := by
      have hfilter := (List.filter_sublist (l := (Line.split text).zipIdx)
        (p := fun p => !rs.any (·.covers p.2))).map Prod.fst
      rwa [List.zipIdx_map_fst] at hfilter
    exact hall.map Line.bare
  | @more x next last xs turns rest ih =>
    obtain ⟨hx, hxs⟩ := List.forall_mem_cons.1 htame
    obtain rfl : rs = x.references := Except.ok.inj (hread.symm.trans turns.read_eq)
    cases rest with
    | done => exact turns.outside_sublist hx
    | @more y _ _ ys turns' rest' =>
      rw [List.dropLast_cons_cons, List.forall_mem_cons] at hkeeps
      have hsame := (turns.outside_next hx turns'.read_eq).2.1.2 hkeeps.1
      have hih := ih hxs turns'.read_eq hkeeps.2
      rwa [hsame] at hih

theorem keepsEnds (h : Rounds source text xs last)
    (htame : ∀ x ∈ xs, ∀ g ∈ x.generated, g.IsTame) (hread : read source text = .ok rs)
    (hno : NoSpareEnd rs (Line.split text)) : ∀ x ∈ xs, x.KeepsEnds := by
  induction h generalizing rs with
  | done text => simp
  | @more x next last xs turns rest ih =>
    obtain ⟨hx, hxs⟩ := List.forall_mem_cons.1 htame
    obtain rfl : rs = x.references := Except.ok.inj (hread.symm.trans turns.read_eq)
    refine List.forall_mem_cons.2 ⟨fun p hp _ => hno p.1 (List.of_mem_zip hp).1, ?_⟩
    cases rest with
    | done => simp
    | more turns' rest' =>
      exact ih hxs turns'.read_eq ((turns.outside_next hx turns'.read_eq).2.2 hno)

end Rounds

section

variable [Runtime]

/-- What stands for a missing script is inert. -/
theorem Script.Host.isTame_of_missing {w : Script.Host} {policy : MissingPolicy} {r : Reference}
    {m m' : Script.Memory} {g : Generated} (h : Gives (w.runner.generate policy r) m g m')
    (hfound : g.found = false) : g.IsTame := by
  unfold Runner.generate at h
  obtain ⟨t, m₁, htemplate, hrest⟩ := gives_bind.1 h
  by_cases hmissing : t.found = false ∧ policy = .empty
  · rw [if_pos (by simpa using hmissing)] at hrest
    obtain ⟨rfl, -⟩ := gives_pure.1 hrest
    exact Or.inl rfl
  · rw [if_neg (by simpa using hmissing)] at hrest
    obtain ⟨i, m₂, hi, hlast⟩ := gives_bind.1 hrest
    obtain ⟨rfl, -⟩ := gives_pure.1 hlast
    obtain ⟨m₃, -, hi'⟩ := w.gives_invoke_missing_from hfound r.source r.arguments m₁
    obtain rfl := (hi.unique hi').1
    refine Or.inr (fun line hl => ?_)
    have htext : Generated.text ⟨r, t.found, some ⟨t.path, .error (.templateNotFound t.path)⟩⟩ =
        missingMarker t.path := rfl
    rw [htext, split_missingMarker] at hl
    obtain rfl := List.mem_singleton.1 hl
    exact isInert_missingMarker t.path

/-- **Expanding a note again and again** keeps the lines outside its sections, in their order and up
    to carriage returns at their ends, if in every round but the last the sections keep to
    themselves.  In a note where no terminator can close a section behind the terminator of another
    one, they do so in every round.  If in one round they do not, there are fewer lines outside the
    sections of the next note.  What stands for a missing script is always tame. -/
theorem rounds_keep_outside {source text last : Text} {xs : List Round} {rs : List Reference}
    (h : Rounds source text xs last) (htame : ∀ x ∈ xs, ∀ g ∈ x.generated, g.IsTame)
    (hread : read source text = .ok rs) :
    ((∀ x ∈ xs.dropLast, x.KeepsEnds) →
      ((outside rs (Line.split text)).map Line.bare).Sublist
        ((Line.split last).map Line.bare)) ∧
    (NoSpareEnd rs (Line.split text) → ∀ x ∈ xs, x.KeepsEnds) ∧
    (∀ x ∈ xs, ∀ next rs', x.Turns source next → read source next = .ok rs' →
      ((outside rs' (Line.split next)).map Line.bare).Sublist x.outside ∧
        ((outside rs' (Line.split next)).map Line.bare = x.outside ↔ x.KeepsEnds)) ∧
    ∀ (w : Script.Host) policy r m g m', Gives (w.runner.generate policy r) m g m' →
      g.found = false → g.IsTame := by
  refine ⟨fun hkeeps => h.outside_sublist htame hread hkeeps,
    fun hno => h.keepsEnds htame hread hno, fun x hx next rs' hturns hnext => ?_,
    fun w policy r m g m' hg hfound => Script.Host.isTame_of_missing hg hfound⟩
  obtain ⟨hsub, heq, -⟩ := hturns.outside_next (htame x hx) hnext
  exact ⟨hsub, heq⟩

/-! ### Rounds that are run -/

/-- The round that a runner makes of a note from a state, with the new text. -/
def Round.make? {σ : Type} (runner : Runner σ) (policy : MissingPolicy) (source text : Text)
    (s : σ) : Option (Round × Text) := do
  let rs ← (read source text).toOption
  let gs ← ((runner.generateAll policy rs).run.run s).1.toOption
  let e ← ((runner.expand policy text source).run.run s).1.toOption
  return (⟨text, rs, gs⟩, e.text)

theorem Round.turns_of_make? {σ : Type} {runner : Runner σ} {policy : MissingPolicy}
    {source text next : Text} {s : σ} {x : Round}
    (h : make? runner policy source text s = some (x, next)) :
    x.text = text ∧ x.Turns source next := by
  obtain ⟨rs, hrs, h⟩ := Option.bind_eq_some_iff.1 h
  obtain ⟨gs, hgs, h⟩ := Option.bind_eq_some_iff.1 h
  obtain ⟨e, he, h⟩ := Option.bind_eq_some_iff.1 h
  cases h
  have hread := Outcome.eq_ok_of_toOption hrs
  have hexpand : Gives (runner.expand policy text source) s e
      ((runner.expand policy text source).run.run s).2 :=
    Prod.ext (Outcome.eq_ok_of_toOption he) rfl
  have hgenerate : Gives (runner.generateAll policy rs) s gs
      ((runner.generateAll policy rs).run.run s).2 :=
    Prod.ext (Outcome.eq_ok_of_toOption hgs) rfl
  refine ⟨rfl, σ, runner, policy, s, _, e, hexpand, rfl, hread, ?_⟩
  obtain ⟨ms, hms, hcases⟩ := Runner.gives_expand hexpand
  obtain ⟨ms', hms', rfl⟩ := readLines_eq_ok.1 hread
  obtain rfl : ms' = ms := Except.ok.inj (hms'.symm.trans hms)
  rcases hcases with ⟨hempty, -, hs⟩ | ⟨-, gs', hgs', -⟩
  · rw [hs]
    rw [hempty] at hgenerate ⊢
    rwa [(gives_pure.1 hgenerate).2] at hgenerate
  · obtain ⟨rfl, -⟩ := hgenerate.unique hgs'
    exact hgs'

theorem Rounds.of_make? {σ : Type} {runner runner' : Runner σ} {policy : MissingPolicy}
    {source text next last : Text} {s s' : σ} {x y : Round}
    (hx : Round.make? runner policy source text s = some (x, next))
    (hy : Round.make? runner' policy source next s' = some (y, last)) :
    Rounds source text [x, y] last := by
  obtain ⟨rfl, hturns⟩ := Round.turns_of_make? hx
  obtain ⟨rfl, hturns'⟩ := Round.turns_of_make? hy
  exact .more hturns (.more hturns' (.done last))

theorem not_canCloseAt_of_drop {lines : List Text} {j : Nat}
    (h : ∀ line ∈ lines.drop (j + 1), Section.isTerminator line = false) (k : Nat) :
    ¬ CanCloseAt lines j k := by
  rintro ⟨hlt, ⟨line, ⟨hline, -⟩, hend⟩, -⟩
  have hmem : line ∈ lines.drop (j + 1) := by
    refine List.mem_of_getElem? (i := k - (j + 1)) ?_
    rw [List.getElem?_drop, show j + 1 + (k - (j + 1)) = k by omega]
    exact hline
  rw [h line hmem] at hend
  cases hend

end

attribute [local instance] Runtime.usual

/-- A script that gives nothing. -/
def silence : Script.Host := Script.Host.oneScript "[]"

/-- A section and a line behind it. -/
def followedNote : Text := Text.of "%% template: 't.py' %%\nold\n%%%%\nmine"

/-- The script gives nothing in the first round and a greeting in the second one. -/
theorem rounds_keep_outside_followed :
    ∃ xs last rs, Rounds (Text.of "n.md") followedNote xs last ∧
      (∀ x ∈ xs, ∀ g ∈ x.generated, g.IsTame) ∧ read (Text.of "n.md") followedNote = .ok rs ∧
      NoSpareEnd rs (Line.split followedNote) ∧
      last = Text.of "%% template: 't.py' %%\nhi\n%%%%\nmine" ∧
      ((outside rs (Line.split followedNote)).map Line.bare).Sublist
        ((Line.split last).map Line.bare) := by
  have hrun : ((Round.make? silence.runner .marker (Text.of "n.md") followedNote .empty).bind
      (fun p => (Round.make? (Script.Host.greeting).runner .marker (Text.of "n.md") p.2 .empty).map
        (fun q : Round × Text => decide ((∀ x ∈ [p.1, q.1], ∀ g ∈ x.generated, g.IsTame) ∧
          p.1.references.map (·.finish) = [some 2] ∧
          q.2 = Text.of "%% template: 't.py' %%\nhi\n%%%%\nmine")))) = some true := by
    decide +kernel
  obtain ⟨⟨x, next⟩, hx, hrun⟩ := Option.bind_eq_some_iff.1 hrun
  obtain ⟨⟨y, last⟩, hy, hrun⟩ := Option.map_eq_some_iff.1 hrun
  obtain ⟨htame, hfinish, hlast⟩ := of_decide_eq_true hrun
  obtain ⟨htext, hturns⟩ := Round.turns_of_make? hx
  have hread := hturns.read_eq
  rw [htext] at hread
  have hrounds := Rounds.of_make? hx hy
  have hno : NoSpareEnd x.references (Line.split followedNote) := by
    intro r hr j hj
    have hmem : some j ∈ x.references.map (·.finish) := List.mem_map.2 ⟨r, hr, hj⟩
    rw [hfinish, List.mem_singleton] at hmem
    obtain rfl := Option.some.inj hmem
    exact not_canCloseAt_of_drop (by decide)
  obtain ⟨hkept, hkeeps, -⟩ := rounds_keep_outside hrounds htame hread
  refine ⟨[x, y], last, x.references, hrounds, htame, hread, hno, hlast, hkept fun z hz => ?_⟩
  exact hkeeps hno z (List.dropLast_subset _ hz)

/-- A section, a line behind it and a terminator that closes nothing. -/
def spareNote : Text := Text.of "%% template: 't.py' %%\nold\n%%%%\nmine\n%%%%"

/-- **A line outside the sections that goes**: the script gives nothing twice. -/
theorem expand_drops_line :
    ∃ xs last rs, Rounds (Text.of "n.md") spareNote xs last ∧
      (∀ x ∈ xs, ∀ g ∈ x.generated, g.IsTame) ∧ read (Text.of "n.md") spareNote = .ok rs ∧
      ¬ ((outside rs (Line.split spareNote)).map Line.bare).Sublist
        ((Line.split last).map Line.bare) := by
  have hrun : ((Round.make? silence.runner .marker (Text.of "n.md") spareNote .empty).bind
      (fun p => (Round.make? silence.runner .marker (Text.of "n.md") p.2 .empty).map
        (fun q : Round × Text => decide ((∀ x ∈ [p.1, q.1], ∀ g ∈ x.generated, g.IsTame) ∧
          ¬ p.1.outside.Sublist ((Line.split q.2).map Line.bare))))) = some true := by
    decide +kernel
  obtain ⟨⟨x, next⟩, hx, hrun⟩ := Option.bind_eq_some_iff.1 hrun
  obtain ⟨⟨y, last⟩, hy, hrun⟩ := Option.map_eq_some_iff.1 hrun
  obtain ⟨htame, hgone⟩ := of_decide_eq_true hrun
  obtain ⟨htext, hturns⟩ := Round.turns_of_make? hx
  have hread := hturns.read_eq
  rw [htext] at hread
  rw [Round.outside, htext] at hgone
  exact ⟨[x, y], last, x.references, Rounds.of_make? hx hy, htame, hread, hgone⟩

end TemplatedNotes
