/-
  TemplatedNotes/Script/Memory.lean
  =================================
  **What scripts work on: values that are shared and can change.**

  Two names of a script may stand for one argument object, and a change through one shows through
  the other.  So lists, mappings, pages, modules and functions live in the cells of a memory, and
  scripts pass handles around; a scalar is its own handle.  A memory only grows: a cell keeps its
  number.

  The memory also holds the attributes that scripts have given to what outlasts them: the index,
  the module of arithmetic and the kind of failure for missing scripts.  They stay for later runs;
  when there are none, nothing of a run can be reached after it, and `Memory.settle` forgets all
  cells.

  Scripts can get hold of parts of the engine, such as the vault behind the index, and of the
  interpreter; they can change anything by these.  What they do then is not followed: `Run.leave`
  ends such a run, and the memory says from then on that the engine was touched
  (`Memory.EngineKept`).
-/
import TemplatedNotes.Arguments
import TemplatedNotes.Vault.Basic
import TemplatedNotes.Script.Syntax

namespace TemplatedNotes.Script

/-- What scripts reach without making it themselves. -/
inductive Builtin where
  /-- Loads modules, for a note or module. -/
  | require (base : Text)
  /-- Renders other scripts, for a note. -/
  | render (source : Text)
  /-- The index, for a note. -/
  | index (source : Text)
  /-- The page of the note itself. -/
  | current (source : Text)
  | page
  | pages
  | mappingMethod (owner : Nat) (n : Text)
  | pageGet (owner : Nat)
  /-- Makes capitals of a text or of bytes. -/
  | upper (s : Scalar)
  /-- The module of arithmetic and its greatest common divisor. -/
  | math
  | gcd
  /-- The kind of failure for a missing script. -/
  | notFoundKind
deriving DecidableEq, Repr

/-- What is the same in every run and can be given attributes; those of the engine stand for the
    parts that scripts have got hold of. -/
inductive Lasting where
  | index
  | math
  | notFoundKind
  | engine
deriving DecidableEq, Repr

/-- A value of a script: a scalar, the number of a cell, or what was there before. -/
inductive Handle where
  | scalar (s : Scalar)
  | ref (n : Nat)
  | builtin (b : Builtin)
deriving DecidableEq, Repr

namespace Handle

instance : Inhabited Handle := ⟨.scalar .null⟩

def null : Handle := .scalar .null

def text (t : Text) : Handle := .scalar (.text t)

def bool (b : Bool) : Handle := .scalar (.bool b)

def nat (n : Nat) : Handle := .scalar (.int n)

end Handle

abbrev Bindings := List (Text × Handle)

namespace Bindings

/-- Gives a name a value, in its place if it is there. -/
def set (bs : Bindings) (n : Text) (h : Handle) : Bindings :=
  match bs with
  | [] => [(n, h)]
  | b :: rest => if b.1 = n then (n, h) :: rest else b :: set rest n h

end Bindings

/-- The names of a script, module, function or list expression while it runs. -/
structure Frame where
  /-- What the names of functions made here start with. -/
  title : Text
  /-- Whether these are the names of a module, or those around a script. -/
  isGlobal : Bool
  /-- The names that are bound here at some time. -/
  declared : List Text
  names : Bindings

/-- What a handle can stand for. -/
inductive Cell where
  | list (items : List Handle)
  | mapping (kind : MappingKind) (entries : Entries Handle)
  | page (fields : Bindings)
  /-- The module with the names of a frame. -/
  | module (frame : Nat)
  | function (title parameter : Text) (body : Expr) (scope : List Nat)
  /-- A call of another script that has not been run. -/
  | waiting (source : Text) (path arguments : Handle) (extra : Bindings)
  | unshowable (t : Text)
  | frame (f : Frame)

instance : Inhabited Cell := ⟨.list []⟩

/-- The attributes given to what outlasts a run, the latest first. -/
abbrev Attributes := List ((Lasting × Text) × Handle)

structure Memory where
  cells : Array Cell
  attributes : Attributes

namespace Memory

def empty : Memory := ⟨#[], []⟩

def cell (m : Memory) (n : Nat) : Cell := m.cells[n]?.getD default

def attribute? (m : Memory) (owner : Lasting) (n : Text) : Option Handle :=
  m.attributes.lookup (owner, n)

/-- No script has got hold of a part of the engine, and so may have changed it. -/
def EngineKept (m : Memory) : Prop := ∀ a ∈ m.attributes, a.1.1 ≠ .engine

instance (m : Memory) : Decidable m.EngineKept :=
  inferInstanceAs (Decidable (∀ a ∈ m.attributes, a.1.1 ≠ .engine))

/-- The memory between runs. -/
def settle (m : Memory) : Memory := if m.attributes.isEmpty then empty else m

end Memory

/-- What may fail and works on the memory. -/
abbrev Run := Action Memory

namespace Run

/-- Does what may fail and does not touch the memory. -/
def ofOutcome {α : Type} (r : Outcome α) : Run α := Action.lift r

def cell (n : Nat) : Run Cell := do return (← get).cell n

def alloc (c : Cell) : Run Nat := do
  let m ← get
  set { m with cells := m.cells.push c }
  return m.cells.size

def put (n : Nat) (c : Cell) : Run Unit :=
  modifyThe Memory (fun m => { m with cells := m.cells.setIfInBounds n c })

def giveAttribute (owner : Lasting) (n : Text) (h : Handle) : Run Unit :=
  modifyThe Memory (fun m => { m with attributes := ((owner, n), h) :: m.attributes })

/-- Ends the run of a script that gets hold of a part of the engine or the interpreter. -/
def leave {α : Type} (part : Text) : Run α := do
  giveAttribute .engine part .null
  throw (.unfollowed part)

def make (c : Cell) : Run Handle := do return .ref (← alloc c)

mutual

def store : Value → Run Handle
  | .scalar s => return .scalar s
  | .list items => do
    let hs ← storeItems items
    make (.list hs)
  | .mapping kind es => do
    let hs ← storeEntries es
    make (.mapping kind hs)

def storeItems : List Value → Run (List Handle)
  | [] => return []
  | v :: vs => do
    let h ← store v
    let hs ← storeItems vs
    return h :: hs

def storeEntries : List (Scalar × Value) → Run (Entries Handle)
  | [] => return []
  | (k, v) :: rest => do
    let h ← store v
    let hs ← storeEntries rest
    return (k, h) :: hs

end

end Run

end TemplatedNotes.Script
