/-
  TemplatedNotes/Vault/Basic.lean
  ===============================
  **The vault: one folder of notes and scripts.**

  Notes are named by their paths from the vault's folder.  `Vault.absolute?` finds the place of
  such a path and refuses one that leads out of the vault; `read` and `modify` go through it.
  `Vault.notes` lists the notes outside the excluded folders.
-/
import TemplatedNotes.Vault.Disk
import TemplatedNotes.Text.Line

namespace TemplatedNotes

/-- A successful write: the note and the length of its new text. -/
structure Edit where
  path : Text
  size : Nat
deriving DecidableEq

/-- A vault: its folder, the folder names that are left out of searches, the disk it is on and the
    writes made so far. -/
structure Vault where
  root : Path
  excluded : List Text
  disk : Disk
  history : List Edit

/-- What works on a state and may fail; a failure keeps the changes made before it. -/
abbrev Action (σ : Type) := ExceptT Failure (StateM σ)

/-- Does what may fail and changes no state. -/
def Action.lift {σ α : Type} (r : Outcome α) : Action σ α := ExceptT.mk (pure r)

namespace Vault

/-- The folders that are left out of searches unless others are named. -/
def usualExcluded : List Text := [Text.of ".obsidian", Text.of ".trash"]

/-- The path from the vault's folder of a place in the vault. -/
def inside? (v : Vault) (p : Path) : Option Path :=
  if v.root.isPrefixOf p then some (p.drop v.root.length) else none

/-- The place of a path from the vault's folder; slashes in front do not count. -/
def absolute (v : Vault) (path : Text) : Outcome Path := do
  let p ← Path.resolve v.root (Path.ofText path)
  match v.inside? p with
  | some _ => return p
  | none => throw (.path (.outside path))

/-- The path from the vault's folder of a place, given by the names walked from the root, which
    are shown when it is outside. -/
def relative (v : Vault) (names : Path) : Outcome Text := do
  let p ← Path.resolve [] names
  match v.inside? p with
  | some r => return Path.relativeText r
  | none => throw (.path (.outside (Path.absoluteText names)))

def textAt (v : Vault) (p : Path) : Outcome Text := do
  let b ← v.disk.bytes p
  match Utf8.decode b with
  | .ok t => return t
  | .error f => throw (.undecodable f)

/-- Whether a failure means that a file cannot be read as text. -/
def isUnreadable : Failure → Bool
  | .file _ _ => true
  | .undecodable _ => true
  | _ => false

/-- The text of a file with line feeds for all line ends. -/
def resourceAt (v : Vault) (p : Path) : Outcome Text := (v.textAt p).map Line.unify

/-- The text of a note. -/
def read (v : Vault) (path : Text) : Outcome Text := do
  let p ← v.absolute path
  v.textAt p

/-- Replaces the text of a note and records the write. -/
def modify (path content : Text) : Action Vault Unit := do
  let v ← get
  let p ← Action.lift (v.absolute path)
  let (r, d) := v.disk.writeText p content
  set { v with disk := d }
  Action.lift r
  modifyThe Vault (fun v => { v with history := v.history ++ [⟨path, content.length⟩] })

/-- Whether a note is there; a path out of the vault is none. -/
def exists? (v : Vault) (path : Text) : Outcome Bool :=
  match v.absolute path with
  | .ok p => v.disk.isFile p
  | .error (.path (.outside _)) => .ok false
  | .error f => .error f

/-- Whether a path from the vault's folder runs through an excluded folder. -/
def isExcluded (v : Vault) (p : Path) : Bool :=
  p.dropLast.any (fun name => v.excluded.contains name)

def isNoteName (name : Text) : Bool := (Text.of ".md").isSuffixOf name

def notes (v : Vault) : List Text :=
  let found := (v.disk.below v.root).filter (fun e =>
    e.1.getLast?.any isNoteName && !v.isExcluded e.1)
  (found.map (fun e => Path.text e.1)).mergeSort Text.le

end Vault

end TemplatedNotes
