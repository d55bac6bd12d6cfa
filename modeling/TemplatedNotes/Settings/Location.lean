/-
  TemplatedNotes/Settings/Location.lean
  =====================================
  **Places on a disk as settings name them.**

  A location starts at the root, which may be written with one slash or with exactly two, or where
  the program was started.  Names between slashes count as in `Path.ofText`; two dots are kept
  until the location is looked at.
-/
import TemplatedNotes.Vault.Path

namespace TemplatedNotes

/-- A place as settings name it: the slashes at its start and the names after them. -/
structure Location where
  root : Text
  names : Path
deriving DecidableEq, Repr

namespace Location

def ofText (t : Text) : Location :=
  let slashes := t.takeWhile (· == CodePoint.scalar '/')
  ⟨if slashes.length = 2 then slashes else slashes.take 1, Path.ofText t⟩

/-- The text of a location, a dot for the place where the program was started. -/
def text (l : Location) : Text :=
  if l.root.isEmpty && l.names.isEmpty then Path.dot else l.root ++ Path.text l.names

def isAbsolute (l : Location) : Bool := !l.root.isEmpty

/-- A location counted from another one, unless it starts at the root. -/
def under (base l : Location) : Location :=
  if l.isAbsolute then l else ⟨base.root, base.names ++ l.names⟩

/-- The path that a location leads to from the folder where the program was started. -/
def resolve (l : Location) (start : Path) : Outcome Path :=
  Path.resolve (if l.isAbsolute then [] else start) l.names

end Location

end TemplatedNotes
