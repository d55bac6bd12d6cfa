/-
  TemplatedNotes/Vault/Path.lean
  ==============================
  **Paths: names between slashes.**

  A path is a list of names, read from a text whose empty names and single dots do not count.
  `Path.resolve` walks a path from a folder: two dots lead to the folder above, whatever stands
  there, and the root is above itself.  A name with a null byte, or with a surrogate that no file
  name can hold, cannot be walked.
-/
import TemplatedNotes.Failure
import TemplatedNotes.Text.Blank

namespace TemplatedNotes

/-- The names of a path, outermost first. -/
abbrev Path := List Text

namespace Path

/-- The name of the folder itself. -/
def dot : Text := ['.']

/-- The name of the folder above. -/
def dots : Text := ['.', '.']

/-- The texts between the slashes of a text. -/
def pieces : Text → List Text
  | [] => [[]]
  | c :: rest =>
    match pieces rest with
    | [] => [[c]]
    | p :: ps => if c == .scalar '/' then [] :: p :: ps else (c :: p) :: ps

def ofText (t : Text) : Path := (pieces t).filter (fun p => !p.isEmpty && p != dot)

theorem ne_nil_of_mem_ofText {t name : Text} (h : name ∈ ofText t) : name ≠ [] := by
  intro e
  simp [ofText, e] at h

theorem ne_dot_of_mem_ofText {t name : Text} (h : name ∈ ofText t) : name ≠ dot := by
  intro e
  simp [ofText, e] at h

/-- The names with slashes between them. -/
def text (p : Path) : Text := Text.join ['/'] p

def absoluteText (p : Path) : Text := .scalar '/' :: text p

/-- The text of a path from some folder, a dot for the folder itself. -/
def relativeText (p : Path) : Text := if p.isEmpty then dot else text p

/-- Whether a text is a path from the root. -/
def isAbsolute (t : Text) : Bool := t.head? == some (.scalar '/')

/-- Whether file names can hold a code point: not a surrogate, but for those that stand for bytes
    that are no UTF-8. -/
def isEncodable : CodePoint → Bool
  | .scalar _ => true
  | .surrogate u => 0x480 ≤ u.val && u.val < 0x500

def byteLength : Text → Nat
  | [] => 0
  | .scalar c :: rest => (Utf8.encodeValue c.toNat).length + byteLength rest
  | .surrogate _ :: rest => 1 + byteLength rest

def checkName (folder : Path) (name : Text) : Outcome Unit :=
  if !name.all isEncodable then
    .error (.path (.unencodable (absoluteText (folder ++ [name]))))
  else if (CodePoint.scalar '\x00') ∈ name then .error (.path .nullByte)
  else .ok ()

/-- Where a path leads from a folder. -/
def resolve (folder : Path) : Path → Outcome Path
  | [] => .ok folder
  | name :: rest =>
    if name = dots then resolve folder.dropLast rest
    else do
      checkName folder name
      resolve (folder ++ [name]) rest

/-- The last name of a path without its last extension; a name that starts with its only dot has
    none. -/
def stem (name : Text) : Text :=
  let back := name.reverse
  let extension := back.takeWhile (· != .scalar '.')
  match back.drop extension.length with
  | _ :: rest => if rest.isEmpty || extension.isEmpty then name else rest.reverse
  | [] => name

end Path

end TemplatedNotes
