/-
  TemplatedNotes/Workspace.lean
  =============================
  **The state of a session: the vault, the known paths and what scripts left behind.**

  `Workspace.expand` and `Workspace.invoke` run scripts, which change nothing but what they assign
  to what they share; `load` and `save` move the known paths from and to their file, if there is one.
-/
import TemplatedNotes.KnownPaths

namespace TemplatedNotes

/-- A session on a vault: whether scripts get the index, what becomes of missing scripts, what
    scripts left behind, the known paths and their file. -/
structure Workspace where
  vault : Vault
  indexed : Bool
  policy : MissingPolicy
  memory : Script.Memory
  known : KnownPaths
  store : Option Path

namespace Workspace

/-- What scripts run against. -/
def host (w : Workspace) : Script.Host := ⟨w.vault, w.indexed⟩

def onVault {α : Type} (x : Action Vault α) : Action Workspace α := ExceptT.mk do
  let w ← get
  let (r, v) := x.run.run w.vault
  set { w with vault := v }
  return r

def onMemory {α : Type} (x : Script.Run α) : Action Workspace α := ExceptT.mk do
  let w ← get
  let (r, m) := x.run.run w.memory
  set { w with memory := m }
  return r

def onKnown (f : KnownPaths → KnownPaths) : Action Workspace Unit :=
  modifyThe Workspace (fun w => { w with known := f w.known })

/-- The script that a link in a note means. -/
def template (source link : Text) : Action Workspace Template := do
  Action.lift ((← get).vault.template source link)

variable [Runtime]

/-- Runs a script for a note. -/
def invoke (script : Template) (source : Text) (arguments : Value) :
    Action Workspace Invocation := do
  onMemory ((← get).host.invoke script source arguments)

def expand (text source : Text) : Action Workspace Expansion := do
  let w ← get
  onMemory (w.host.runner.expand w.policy text source)

/-- Reads the known paths from their file. -/
def load : Action Workspace Unit :=
  modifyThe Workspace (fun w =>
    match w.store with
    | some file => { w with known := KnownPaths.load w.vault.disk file }
    | none => w)

/-- Writes the known paths into their file. -/
def save : Action Workspace Unit := do
  let w ← get
  match w.store with
  | none => return
  | some file =>
    let (r, d) := w.known.save w.vault.disk file
    set { w with vault := { w.vault with disk := d } }
    Action.lift r

end Workspace

end TemplatedNotes
