/-
  TemplatedNotes/Proofs/Expansion/Splice.lean
  ===========================================
  **The text of an expanded note, line by line.**

  A line between the opening line of a section and its terminator, the terminator included, is
  left out; every other line is kept, and an opening line is followed by what was generated for
  its section (`lineAt`).

    * `SectionLines` and `Generates` — what a runner generates for one section, and for sections
      one after the other, each from the state that the one before left;
    * `splice_eq_flatMap` — splicing puts `lineAt` in the place of every line;
    * `expand_spec` — the text of an expansion, for every runner.
-/
import Mathlib.Data.List.Basic
import TemplatedNotes.Proofs.Expansion.Walk
import TemplatedNotes.Runtime.Usual

namespace TemplatedNotes

open TemplatedNotes.Action

variable {σ : Type}

/-! ### The new lines by position -/

/-- Whether a line stands behind the opening line of a section up to its terminator. -/
def Reference.covers (r : Reference) (i : Nat) : Bool :=
  decide (r.start < i) && r.finish.any (fun j => decide (i ≤ j))

namespace Expansion

open Reference

/-- What stands in the place of the line at an index, given what was generated for the sections in
    order: nothing for a line that a section covers, and otherwise the line itself, followed by
    what was generated for the section that opens there. -/
def lineAt (rs : List Reference) (generated : List (List Text)) (i : Nat) (line : Text) :
    List Text :=
  if rs.any (·.covers i) then []
  else line :: ((rs.zip generated).filter (fun p => p.1.start == i)).flatMap (·.2)

theorem covers_eq_false_of_le {r : Reference} {i : Nat} (h : i ≤ r.start) :
    r.covers i = false := by
  have hlt : ¬ r.start < i := by omega
  simp [covers, hlt]

theorem any_covers_sections {source : Text} {index i : Nat} {ms : List Mark} (h : i ≤ index) :
    (sections source index ms).any (·.covers i) = false := by
  refine List.any_eq_false.2 (fun r hr => ?_)
  have hle := le_start_of_mem_sections hr
  rw [covers_eq_false_of_le (by omega)]
  exact Bool.false_ne_true

theorem filter_zip_sections {source : Text} {index i : Nat} {ms : List Mark}
    {generated : List (List Text)} (h : i < index) :
    ((sections source index ms).zip generated).filter (fun p => p.1.start == i) = [] := by
  refine List.filter_eq_nil_iff.2 (fun p hp => ?_)
  have hle := le_start_of_mem_sections (List.of_mem_zip hp).1
  have hne : p.1.start ≠ i := by omega
  simpa using hne

theorem lineAt_of_lt {source : Text} {index i : Nat} (ms : List Mark)
    (generated : List (List Text)) (line : Text) (h : i < index) :
    lineAt (sections source index ms) generated i line = [line] := by
  rw [lineAt, any_covers_sections (Nat.le_of_lt h), filter_zip_sections h]
  rfl

theorem lineAt_cons {r : Reference} {i : Nat} (rs : List Reference) (new : List Text)
    (generated : List (List Text)) (line : Text) (h : r.start < i) :
    lineAt (r :: rs) (new :: generated) i line =
      if r.covers i then [] else lineAt rs generated i line := by
  have hne : r.start ≠ i := Nat.ne_of_lt h
  unfold lineAt
  rw [List.any_cons, List.zip_cons_cons, List.filter_cons_of_neg (by simpa using hne)]
  cases r.covers i <;> simp

theorem lineAt_start (source script : Text) (index : Nat) (arguments : Value)
    (finish : Option Nat) (ms : List Mark) (new : List Text) (generated : List (List Text))
    (line : Text) :
    lineAt (⟨source, script, index, finish, arguments⟩ :: sections source (index + 1) ms)
      (new :: generated) index line = line :: new := by
  unfold lineAt
  rw [List.any_cons, covers_eq_false_of_le (Nat.le_refl index),
    any_covers_sections (Nat.le_succ index), List.zip_cons_cons,
    List.filter_cons_of_pos (by simp), filter_zip_sections (Nat.lt_succ_self index)]
  simp

theorem covers_iff_bodyLength (source script : Text) (index i : Nat) (arguments : Value)
    (ms : List Mark) (h : index < i) :
    covers ⟨source, script, index, (closing ms).map (index + 1 + ·), arguments⟩ i = true ↔
      i < index + 1 + bodyLength ms := by
  unfold covers bodyLength
  cases closing ms with
  | none =>
    simp
    omega
  | some j =>
    simp [h]
    omega

theorem splice_eq_flatMap_from (source : Text) (index : Nat) {skip : Nat} {lines : List Text}
    {ms : List Mark} {generated : List (List Text)} (h : Fits skip lines ms generated) :
    splice skip lines ms generated =
      (lines.zipIdx index).flatMap (fun p =>
        if p.2 < index + skip then []
        else lineAt (sections source (index + skip) (ms.drop skip)) generated p.2 p.1) := by
  induction h generalizing index with
  | done skip => cases skip <;> rfl
  | @skipped skip lines ms generated line m _ ih =>
    rw [List.zipIdx_cons, List.flatMap_cons, List.drop_succ_cons,
      show index + (skip + 1) = index + 1 + skip by omega, splice, ih (index + 1),
      if_pos (by show index < _; omega)]
    rfl
  | @opens lines ms generated line script arguments new _ ih =>
    have hih := ih (index + 1)
    rw [sections_drop_bodyLength] at hih
    rw [List.zipIdx_cons, List.flatMap_cons, List.drop_zero, Nat.add_zero,
      if_neg (Nat.lt_irrefl index), splice, hih, sections, lineAt_start]
    refine congrArg _ (List.flatMap_congr fun p hp => ?_)
    have hlt : index < p.2 := List.le_snd_of_mem_zipIdx hp
    rw [if_neg (show ¬ p.2 < index by omega), lineAt_cons _ _ _ _ hlt]
    simp only [covers_iff_bodyLength source script index p.2 arguments ms hlt]
  | @stays lines ms generated line m other _ ih =>
    rw [List.zipIdx_cons, List.flatMap_cons, List.drop_zero, Nat.add_zero,
      if_neg (Nat.lt_irrefl index), splice_cons other, ih (index + 1), sections_cons _ other,
      lineAt_of_lt _ _ _ (Nat.lt_succ_self index)]
    refine congrArg _ (List.flatMap_congr fun p hp => ?_)
    have hlt : index < p.2 := List.le_snd_of_mem_zipIdx hp
    rw [if_neg (show ¬ p.2 < index by omega), if_neg (show ¬ p.2 < index + 1 + 0 by omega)]
    rfl

/-- The spliced lines of a note, line by line. -/
theorem splice_eq_flatMap (source : Text) {lines : List Text} {ms : List Mark}
    {generated : List (List Text)} (h : Fits 0 lines ms generated) :
    splice 0 lines ms generated =
      lines.zipIdx.flatMap (fun p => lineAt (sections source 0 ms) generated p.2 p.1) :=
  splice_eq_flatMap_from source 0 h

end Expansion

/-! ### What is generated -/

namespace Runner

open Reference

/-- The lines after the opening line of a section, from a state of the runner: a terminator alone
    when the script is missing and nothing is to show it, no line at all when the script renders
    nothing, and else the lines that it renders and a terminator. -/
inductive SectionLines (runner : Runner σ) (policy : MissingPolicy) (r : Reference) (s : σ) :
    List Text → σ → Prop where
  | missing {t : Template} {s' : σ} (resolve : Gives (runner.resolve r.source r.script) s t s')
      (found : t.found = false) (empty : policy = .empty) :
      SectionLines runner policy r s [Section.terminator] s'
  | silent {t : Template} {i : Invocation} {s₁ s' : σ}
      (resolve : Gives (runner.resolve r.source r.script) s t s₁)
      (run : ¬ (t.found = false ∧ policy = .empty))
      (invoke : Gives (runner.invoke t r.source r.arguments) s₁ i s')
      (rendered : i.rendered = none ∨ i.rendered = some []) :
      SectionLines runner policy r s [] s'
  | rendered {t : Template} {i : Invocation} {out : Text} {s₁ s' : σ}
      (resolve : Gives (runner.resolve r.source r.script) s t s₁)
      (run : ¬ (t.found = false ∧ policy = .empty))
      (invoke : Gives (runner.invoke t r.source r.arguments) s₁ i s')
      (rendered : i.rendered = some out) (nonempty : out ≠ []) :
      SectionLines runner policy r s (Line.split out ++ [Section.terminator]) s'

/-- What is generated for sections, one after the other and each once. -/
inductive Generates (runner : Runner σ) (policy : MissingPolicy) :
    σ → List Reference → List (List Text) → σ → Prop where
  | nil (s : σ) : Generates runner policy s [] [] s
  | cons {r : Reference} {rs : List Reference} {new : List Text} {generated : List (List Text)}
      {s s₁ s' : σ} (first : SectionLines runner policy r s new s₁)
      (rest : Generates runner policy s₁ rs generated s') :
      Generates runner policy s (r :: rs) (new :: generated) s'

/-- A section is generated in one of three ways, and its reference stays with it. -/
theorem sectionLines_of_gives {runner : Runner σ} {policy : MissingPolicy} {r : Reference}
    {s s' : σ} {g : Generated} (h : Gives (runner.generate policy r) s g s') :
    SectionLines runner policy r s g.lines s' := by
  unfold generate at h
  obtain ⟨t, s₁, hresolve, h⟩ := gives_bind.1 h
  by_cases hmissing : t.found = false ∧ policy = .empty
  · rw [if_pos (by simpa using hmissing)] at h
    obtain ⟨rfl, rfl⟩ := gives_pure.1 h
    exact .missing hresolve hmissing.1 hmissing.2
  · rw [if_neg (by simpa using hmissing)] at h
    obtain ⟨i, s₂, hinvoke, h⟩ := gives_bind.1 h
    obtain ⟨rfl, rfl⟩ := gives_pure.1 h
    cases hi : i.rendered with
    | none =>
      have hlines : (Generated.mk r t.found (some i)).lines = [] := by
        simp [Generated.lines, Generated.text, hi]
      rw [hlines]
      exact .silent hresolve hmissing hinvoke (Or.inl hi)
    | some out =>
      by_cases hout : out = []
      · have hlines : (Generated.mk r t.found (some i)).lines = [] := by
          simp [Generated.lines, Generated.text, hi, hout]
        rw [hlines]
        exact .silent hresolve hmissing hinvoke (Or.inr (by rw [hi, hout]))
      · have hlines : (Generated.mk r t.found (some i)).lines =
            Line.split out ++ [Section.terminator] := by
          simp [Generated.lines, Generated.text, hi, hout]
        rw [hlines]
        exact .rendered hresolve hmissing hinvoke hi hout

theorem generates_of_gives {runner : Runner σ} {policy : MissingPolicy} {rs : List Reference}
    {s s' : σ} {gs : List Generated} (h : Gives (runner.generateAll policy rs) s gs s') :
    Generates runner policy s rs (gs.map Generated.lines) s' := by
  induction rs generalizing s gs with
  | nil =>
    obtain ⟨rfl, rfl⟩ := gives_pure.1 h
    exact .nil s'
  | cons r rest ih =>
    obtain ⟨g, s₁, hg, h⟩ := gives_bind.1 h
    obtain ⟨gs', s₂, hgs, h⟩ := gives_bind.1 h
    obtain ⟨rfl, rfl⟩ := gives_pure.1 h
    exact .cons (sectionLines_of_gives hg) (ih hgs)

theorem Generates.length_eq {runner : Runner σ} {policy : MissingPolicy} {rs : List Reference}
    {s s' : σ} {generated : List (List Text)} (h : Generates runner policy s rs generated s') :
    generated.length = rs.length := by
  induction h with
  | nil s => rfl
  | cons first rest ih => rw [List.length_cons, List.length_cons, ih]

/-- No section covers the opening line of another one. -/
theorem covers_start [Runtime] {source : Text} {lines : List Text} {rs : List Reference}
    (h : readLines source lines = .ok rs) {r r' : Reference} (hr : r ∈ rs) (hr' : r' ∈ rs) :
    r.covers r'.start = false := by
  have hs := (mem_iff_isSection h r).1 hr
  have hs' := (mem_iff_isSection h r').1 hr'
  cases hf : r.finish with
  | none => simp [covers, hf]
  | some j =>
    by_cases hlt : r.start < r'.start
    · have hend : j < r'.start := hs.finish_lt_start hs' hlt hf
      have hle : ¬ r'.start ≤ j := by omega
      simp [covers, hf, hle]
    · simp [covers, hlt]

/-- **Expansion rewrites the sections of a note and nothing else.**  A note without sections keeps
    its text.  In any other the sections are generated in their order, each once and from the
    state that the one before left; the lines that a section covers go, and every other line stays
    with what was generated for the section that it opens. -/
theorem expand_spec [Runtime] {runner : Runner σ} {policy : MissingPolicy} {text source : Text}
    {s s' : σ}
    {e : Expansion} (h : Gives (runner.expand policy text source) s e s') :
    ∃ rs, readLines source (Line.split text) = .ok rs ∧
      rs.Pairwise (fun a b => a.start < b.start) ∧
      (∀ r ∈ rs, ∀ r' ∈ rs, r.covers r'.start = false) ∧
      (rs = [] → e.text = text ∧ s' = s) ∧
      (rs ≠ [] → ∃ generated, Generates runner policy s rs generated s' ∧
        e.text = Line.unsplit ((Line.split text).zipIdx.flatMap (fun p =>
          Expansion.lineAt rs generated p.2 p.1))) := by
  obtain ⟨ms, hms, h⟩ := gives_expand h
  have hread : readLines source (Line.split text) = .ok (sections source 0 ms) :=
    readLines_eq_ok.2 ⟨ms, hms, rfl⟩
  refine ⟨sections source 0 ms, hread, pairwise_start hread,
    fun r hr r' hr' => covers_start hread hr hr', fun hempty => ?_, fun hne => ?_⟩
  · rcases h with ⟨-, rfl, hs⟩ | ⟨hne, -⟩
    · exact ⟨rfl, hs⟩
    · exact absurd hempty hne
  · rcases h with ⟨hempty, -⟩ | ⟨-, gs, hgs, rfl⟩
    · exact absurd hempty hne
    · have hgen := generates_of_gives hgs
      refine ⟨gs.map Generated.lines, hgen, ?_⟩
      show Line.unsplit (Expansion.splice 0 (Line.split text) ms (gs.map Generated.lines)) = _
      rw [Expansion.splice_eq_flatMap source
        (Expansion.fits_of_length source 0 (length_marksFrom hms) hgen.length_eq)]

attribute [local instance] Runtime.usual

/-- A runner whose scripts give their own paths, and which counts its runs. -/
def echo : Runner Nat :=
  ⟨fun _ link => pure ⟨link, true, link⟩, fun t _ _ => do
    modify (· + 1)
    return ⟨t.path, .ok (some t.path)⟩⟩

/-- Both sections of the note are generated; the one with a terminator loses its old line, and the
    other one gets a terminator. -/
theorem expand_spec_echo :
    ∃ e, Gives (echo.expand .marker mixedNote (Text.of "n.md")) 0 e 2 ∧
      e.text = Text.of ("```\n%% template: 'x' %%\n```\n%%%%\n%% template: 'a' %%\na\n%%%%\n" ++
        "%% template: 'b' %%\nb\n%%%%") ∧
      ∃ rs, readLines (Text.of "n.md") (Line.split mixedNote) = .ok rs ∧
        (rs ≠ [] → ∃ generated, Generates echo .marker 0 rs generated 2 ∧
          e.text = Line.unsplit ((Line.split mixedNote).zipIdx.flatMap (fun p =>
            Expansion.lineAt rs generated p.2 p.1))) := by
  have hrun : ((echo.expand .marker mixedNote (Text.of "n.md")).run.run 0).1.toOption.map (·.text) =
        some (Text.of ("```\n%% template: 'x' %%\n```\n%%%%\n%% template: 'a' %%\na\n%%%%\n" ++
          "%% template: 'b' %%\nb\n%%%%")) ∧
      ((echo.expand .marker mixedNote (Text.of "n.md")).run.run 0).2 = 2 := by decide +kernel
  rcases h : (echo.expand .marker mixedNote (Text.of "n.md")).run.run 0 with ⟨f | e, s'⟩
  · rw [h] at hrun
    cases hrun.1
  · rw [h] at hrun
    obtain ⟨htext, rfl⟩ := hrun
    obtain ⟨rs, hread, -, -, -, hlines⟩ := expand_spec h
    exact ⟨e, h, Option.some.inj htext, rs, hread, hlines⟩

end Runner

end TemplatedNotes
