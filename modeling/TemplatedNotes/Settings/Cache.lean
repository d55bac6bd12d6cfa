/-
  TemplatedNotes/Settings/Cache.lean
  ==================================
  **The settings in use.**

  Settings are made once and kept until they are cleared or made anew.  They can be replaced for a
  while by a copy with other values, which are not checked; `leave` puts back what was kept
  before.  Every settings object has a number of its own.
-/
import TemplatedNotes.Settings.Basic

namespace TemplatedNotes.Settings

/-- A settings object. -/
structure Made where
  number : Nat
  settings : Settings
deriving DecidableEq, Repr

/-- The environment, the settings kept, and how many were made. -/
structure Cache where
  environment : Environment
  kept : Option Made
  count : Nat

namespace Cache

def start (e : Environment) : Cache := ⟨e, none, 0⟩

/-- A settings object of its own. -/
def number (s : Settings) : Action Cache Made := do
  let c ← get
  set { c with count := c.count + 1 }
  return ⟨c.count, s⟩

variable [Runtime]

/-- Makes settings from values given by name and the environment. -/
def make (values : List (Text × Value)) : Action Cache Made := do
  number (← Action.lift (Settings.make (← get).environment values))

def keep (m : Option Made) : Action Cache Unit := modifyThe Cache (fun c => { c with kept := m })

/-- The settings kept; they are made if there are none, or if they are asked for `anew`. -/
def settings (anew : Bool) : Action Cache Made := do
  match (← get).kept, anew with
  | some m, false => return m
  | _, _ =>
    let m ← make []
    keep (some m)
    return m

/-- Keeps a copy of the settings with some values, and gives it with what was kept before. -/
def enter (values : List (Text × Value)) : Action Cache (Made × Option Made) := do
  let before := (← get).kept
  let base ← match before with
    | some m => pure m.settings
    | none => do pure (← make []).settings
  let assigned := Field.all.foldl (fun s f =>
    match values.lookup f.name with
    | some v => s.assign f v
    | none => s) base
  let m ← number assigned
  keep (some m)
  return (m, before)

/-- Puts back what was kept before. -/
def leave (before : Option Made) : Action Cache Unit := keep before

end Cache

end TemplatedNotes.Settings
