/-
  TemplatedNotes/Section/Reference.lean
  =====================================
  **The sections of a note.**

  A line counts when it is no fence and no fence is open.  A fence line opens a fence of its
  depth, or closes the open one of the same depth and every fence opened inside it.  A counting
  opening line whose arguments name a script opens a section; the next counting terminator closes
  the section opened last, and a section that another one follows before that stays open.

  `step` reads one line, `read` a whole note; a reference records one section.  A fence closed as
  soon as it is opened leaves the open fences as they were (`afterFence_afterFence`).
-/
import TemplatedNotes.Section.Line
import TemplatedNotes.Literal.Parser

namespace TemplatedNotes

/-- A section found in a note: the note, the script it names, its lines and its arguments. -/
structure Reference where
  source : Text
  script : Text
  start : Nat
  finish : Option Nat
  arguments : Value

namespace Reference

def isTerminated (r : Reference) : Bool := r.finish.isSome

/-- The depths of the open fences, outermost first, after a fence line. -/
def afterFence (fences : List Nat) (depth : Nat) : List Nat :=
  if depth ∈ fences then fences.takeWhile (· != depth) else fences ++ [depth]

theorem afterFence_of_mem {fences : List Nat} {depth : Nat} (h : depth ∈ fences) :
    afterFence fences depth = fences.takeWhile (· != depth) := if_pos h

theorem afterFence_of_not_mem {fences : List Nat} {depth : Nat} (h : depth ∉ fences) :
    afterFence fences depth = fences ++ [depth] := if_neg h

/-- A fence that is opened and closed at once leaves the open fences as they were. -/
theorem afterFence_afterFence {fences : List Nat} {depth : Nat} (h : depth ∉ fences) :
    afterFence (afterFence fences depth) depth = fences := by
  rw [afterFence_of_not_mem h, afterFence_of_mem (by simp)]
  induction fences with
  | nil => simp
  | cons d rest ih =>
    have hd : d ≠ depth := fun e => h (by simp [e])
    have hr : depth ∉ rest := fun m => h (by simp [m])
    simp [hd, ih hr]

/-- What is known after some lines of a note: the open fences, the sections that can no longer be
    closed, and the one that can. -/
structure Progress where
  fences : List Nat
  done : List Reference
  pending : Option Reference

/-- Nothing read yet. -/
def Progress.start : Progress := ⟨[], [], none⟩

/-- All sections found so far. -/
def Progress.references (p : Progress) : List Reference := p.done ++ p.pending.toList

variable [Runtime]

/-- The script and the arguments that an opening line names. -/
def opening? (line : Text) : Outcome (Option (Text × Value)) :=
  match Section.payload? line with
  | none => .ok none
  | some payload => do
    let arguments ← Literal.evaluate payload
    return (Arguments.template? arguments).map (fun script => (script, arguments))

def Progress.close (p : Progress) (index : Nat) : Progress :=
  match p.pending with
  | some r => ⟨p.fences, p.done ++ [{ r with finish := some index }], none⟩
  | none => p

/-- Reads one line. -/
def Progress.step (source : Text) (index : Nat) (p : Progress) (line : Text) : Outcome Progress :=
  match Section.fenceDepth? line with
  | some depth => .ok { p with fences := afterFence p.fences depth }
  | none =>
    if !p.fences.isEmpty then .ok p
    else do
      match ← opening? line with
      | some (script, arguments) =>
        return ⟨p.fences, p.references, some ⟨source, script, index, none, arguments⟩⟩
      | none => return if Section.isTerminator line then p.close index else p

/-- Reads the lines from an index on. -/
def readFrom (source : Text) (index : Nat) (p : Progress) : List Text → Outcome Progress
  | [] => .ok p
  | line :: rest => do
    let next ← p.step source index line
    readFrom source (index + 1) next rest

/-- The sections of a note's lines, in the order of their opening lines. -/
def readLines (source : Text) (lines : List Text) : Outcome (List Reference) :=
  (readFrom source 0 .start lines).map Progress.references

/-- The sections of a note. -/
def read (source text : Text) : Outcome (List Reference) := readLines source (Line.split text)

end Reference

end TemplatedNotes
