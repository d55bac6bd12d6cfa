/-
  TemplatedNotes/Expansion.lean
  =============================
  **Expanding a note: every section with the output of its script.**

  The lines of a note are kept, but for what stands between the opening line of a section and its
  terminator, the terminator included; after an opening line come the lines generated for it.  So
  expanding an expanded note replaces what was generated before.  A section without a terminator
  gets one and loses no line.

  What is generated comes from a `Runner`, which finds scripts and runs them; `generate` asks it
  for one section, `walk` goes once through the lines, and the rest of an `Expansion` is computed
  from what came of the sections on the way.
-/
import TemplatedNotes.Script.Sandbox
import TemplatedNotes.Section.Reference

namespace TemplatedNotes

/-- What a section with a missing script becomes: the line of its failure, or nothing. -/
inductive MissingPolicy where
  | marker
  | empty
deriving DecidableEq, Repr

/-- What finds the script of a link in a note, and runs a script for a note with the arguments of
    a section. -/
structure Runner (σ : Type) where
  resolve : Text → Text → Action σ Template
  invoke : Template → Text → Value → Action σ Invocation

/-- What came of one section: whether its script was found, and its run if there was one. -/
structure Generated where
  reference : Reference
  found : Bool
  invocation : Option Invocation

namespace Generated

/-- The text generated, empty when there is none. -/
def text (g : Generated) : Text := (g.invocation.bind Invocation.rendered).getD []

/-- The lines that come after the opening line of the section. -/
def lines (g : Generated) : List Text :=
  match g.invocation with
  | none => [Section.terminator]
  | some _ => if g.text.isEmpty then [] else Line.split g.text ++ [Section.terminator]

/-- Whether the script was found and generated something. -/
def isUsed (g : Generated) : Bool := g.found && !g.text.isEmpty

/-- The failed run of the script, if it failed. -/
def failed? (g : Generated) : Option Invocation := g.invocation.filter (fun i => !i.isOk)

end Generated

/-- A note expanded: its new text, whether it has sections and how many, the scripts that worked,
    those that are missing, and the failed runs. -/
structure Expansion where
  source : Text
  text : Text
  hadReferences : Bool
  references : Nat
  changed : Bool
  used : List Text
  removed : List Text
  errors : List Invocation

namespace Expansion

/-- The expansion of a note without sections. -/
def unchanged (source text : Text) : Expansion := ⟨source, text, false, 0, false, [], [], []⟩

def addOnce (paths : List Text) (path : Text) : List Text :=
  if paths.contains path then paths else paths ++ [path]

theorem mem_addOnce {paths : List Text} {path p : Text} :
    p ∈ addOnce paths path ↔ p ∈ paths ∨ p = path := by
  unfold addOnce
  split
  · next h =>
    have h' : path ∈ paths := List.contains_iff_mem.1 h
    exact ⟨Or.inl, fun hp => hp.elim id (fun e => e ▸ h')⟩
  · simp

/-- Paths without those that come again. -/
def once (paths : List Text) : List Text := paths.foldl addOnce []

/-- The expansion of a note with so many sections, from its new lines and what came of the
    sections. -/
def ofGenerated (source text : Text) (count : Nat) (new : List Text) (parts : List Generated) :
    Expansion :=
  let new := Line.unsplit new
  { source, text := new, hadReferences := true, references := count,
    changed := new != text,
    used := once ((parts.filter Generated.isUsed).map (·.reference.script)),
    removed := once ((parts.filter (!·.found)).map (·.reference.script)),
    errors := parts.filterMap Generated.failed? }

end Expansion

namespace Runner

variable [Runtime] {σ : Type}

def generate (runner : Runner σ) (policy : MissingPolicy) (r : Reference) : Action σ Generated := do
  let template ← runner.resolve r.source r.script
  if !template.found ∧ policy = .empty then return ⟨r, false, none⟩
  else
    let i ← runner.invoke template r.source r.arguments
    return ⟨r, template.found, some i⟩

/-- Walks the lines from an index on, the first `skip` of them left out, and gives the new lines
    with what came of the sections on the way.  A section is generated at its opening line, and
    the walk goes on behind its terminator. -/
def walk (runner : Runner σ) (policy : MissingPolicy) (references : List Reference)
    (index : Nat) : Nat → List Text → Action σ (List Text × List Generated)
  | _, [] => return ([], [])
  | skip + 1, _ :: rest => walk runner policy references (index + 1) skip rest
  | 0, line :: rest =>
    match references.find? (fun r => r.start == index) with
    | some r => do
      let g ← runner.generate policy r
      let (new, gs) ← walk runner policy references (index + 1) (r.finish.getD index - index) rest
      return (line :: g.lines ++ new, g :: gs)
    | none => do
      let (new, gs) ← walk runner policy references (index + 1) 0 rest
      return (line :: new, gs)

def expand (runner : Runner σ) (policy : MissingPolicy) (text source : Text) :
    Action σ Expansion := do
  let lines := Line.split text
  let references ← Action.lift (Reference.readLines source lines)
  if references.isEmpty then return .unchanged source text
  else
    let (new, parts) ← runner.walk policy references 0 0 lines
    return .ofGenerated source text references.length new parts

end Runner

variable [Runtime]

/-- The runner that finds scripts in a vault and runs them in the sandbox. -/
def Script.Host.runner (w : Script.Host) : Runner Script.Memory :=
  ⟨fun source link => Action.lift (w.vault.template source link), w.invoke⟩

end TemplatedNotes
