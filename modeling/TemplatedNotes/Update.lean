/-
  TemplatedNotes/Update.lean
  ==========================
  **Updating notes: one, all, or those known to have sections; and inserting a section.**

  A note is read, expanded, recorded among the known paths and, if its text changed, written back.
  Notes are updated one after the other and the known paths are saved at the end of each command.
  A note that is not there is forgotten.
-/
import TemplatedNotes.Workspace

namespace TemplatedNotes.Workspace

variable [Runtime]

/-- Updates one note, if it is there. -/
def refresh (path : Text) : Action Workspace (Option Expansion) := do
  let w ← get
  if ← Action.lift (w.vault.exists? path) then
    let text ← Action.lift (w.vault.read path)
    let e ← expand text path
    onKnown (·.record e)
    if e.changed then onVault (Vault.modify path e.text)
    return some e
  else
    onKnown (·.removeNote path)
    return none

/-- Updates notes one after the other; those that are not there give no expansion. -/
def refreshEach : List Text → Action Workspace (List Expansion)
  | [] => return []
  | path :: rest => do
    let e ← refresh path
    let es ← refreshEach rest
    return e.toList ++ es

/-- Updates the notes of a list that may have sections, by a quick look at their texts. -/
def refreshMarked : List Text → Action Workspace (List Expansion)
  | [] => return []
  | path :: rest => do
    let text ← Action.lift ((← get).vault.read path)
    let e ← if Section.mayOpen text then refresh path else pure none
    let es ← refreshMarked rest
    return e.toList ++ es

def update (path : Text) : Action Workspace (Option Expansion) := do
  let e ← refresh path
  save
  return e

def updateAll : Action Workspace (List Expansion) := do
  let es ← refreshMarked (← get).vault.notes
  save
  return es

def updateKnown : Action Workspace (List Expansion) := do
  let es ← refreshEach (← get).known.notes
  save
  return es

/-- The line nearest to a number, of so many lines. -/
def nearestLine (count : Nat) (line : Int) : Nat := (max 0 (min line (count - 1))).toNat

omit [Runtime] in
theorem nearestLine_lt {count : Nat} (h : 0 < count) (line : Int) :
    nearestLine count line < count := by
  unfold nearestLine
  omega

/-- The lines with a block on a blank line, or after one that is not blank. -/
def insertAt (lines : List Text) (line : Nat) (block : Text) : List Text :=
  if Text.isBlank (lines[line]?.getD []) then lines.set line block
  else lines.take (line + 1) ++ block :: lines.drop (line + 1)

/-- Inserts a section for a script at a line of a note and gives the section's text. -/
def insert (path : Text) (line : Int) (link : Text) : Action Workspace Text := do
  let script ← template path link
  let arguments := Value.mapping .arguments [(.text Arguments.templateKey, .text link)]
  let i ← invoke script path arguments
  let block := Section.block link i.rendered
  let lines := Line.split (← Action.lift ((← get).vault.read path))
  let new := insertAt lines (nearestLine lines.length line) block
  onVault (Vault.modify path (Line.unsplit new))
  onKnown (·.addNote path)
  onKnown (if script.found then (·.addTemplate link) else (·.removeTemplate link))
  save
  return block

end TemplatedNotes.Workspace
