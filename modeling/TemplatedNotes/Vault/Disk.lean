/-
  TemplatedNotes/Vault/Disk.lean
  ==============================
  **Files and folders.**

  A disk lists what stands at each path from the root.  To look at a path is to walk there: every
  name before the last has to be a folder, and a name of more than 255 bytes is refused by the
  folder it is looked up in.  Opening a file to write empties it before anything is written.

  `Disk.find?` is the view of a disk: what was put at a path stands there (`find?_put`) and
  nowhere else (`find?_put_of_ne`).
-/
import TemplatedNotes.Vault.Path

namespace TemplatedNotes

/-- What stands at a path. -/
inductive Entry where
  | file (bytes : List UInt8)
  | folder
deriving DecidableEq

/-- The files and folders, by their paths from the root. -/
structure Disk where
  entries : List (Path × Entry)

namespace Disk

/-- What stands at a path; the root is a folder. -/
def find? (d : Disk) (p : Path) : Option Entry :=
  if p.isEmpty then some .folder else (d.entries.find? (fun e => e.1 == p)).map (·.2)

def maxName : Nat := 255

/-- The least number of bytes that a whole path cannot have. -/
def maxPath : Nat := 4096

/-- Walks from a folder along a path. -/
def walk (d : Disk) (done : Path) : Path → Except FileFault Entry
  | [] =>
    match d.find? done with
    | some e => .ok e
    | none => .error .notFound
  | name :: rest =>
    match d.find? done with
    | some .folder =>
      if maxName < Path.byteLength name then .error .nameTooLong else d.walk (done ++ [name]) rest
    | some (.file _) => .error .notDirectory
    | none => .error .notFound

/-- Looks at a path. -/
def look (d : Disk) (p : Path) : Except FileFault Entry :=
  if maxPath ≤ Path.byteLength (Path.absoluteText p) then .error .nameTooLong else d.walk [] p

def isFile (d : Disk) (p : Path) : Outcome Bool :=
  match d.look p with
  | .ok (.file _) => .ok true
  | .ok .folder => .ok false
  | .error .nameTooLong => .error (.file .nameTooLong (Path.absoluteText p))
  | .error _ => .ok false

def isFolder (d : Disk) (p : Path) : Outcome Bool :=
  match d.look p with
  | .ok .folder => .ok true
  | .ok (.file _) => .ok false
  | .error .nameTooLong => .error (.file .nameTooLong (Path.absoluteText p))
  | .error _ => .ok false

/-- Names the path at which a file operation failed. -/
def atPath {α : Type} (p : Path) : Except FileFault α → Outcome α
  | .ok a => .ok a
  | .error f => .error (.file f (Path.absoluteText p))

def bytes (d : Disk) (p : Path) : Outcome (List UInt8) :=
  match d.look p with
  | .ok (.file b) => .ok b
  | .ok .folder => .error (.file .isDirectory (Path.absoluteText p))
  | .error f => .error (.file f (Path.absoluteText p))

/-- Puts something at a path, in the place of what stands there. -/
def put (d : Disk) (p : Path) (e : Entry) : Disk :=
  if d.entries.any (fun x => x.1 == p) then
    ⟨d.entries.map (fun x => if x.1 == p then (p, e) else x)⟩
  else ⟨d.entries ++ [(p, e)]⟩

/-- Takes away what stands at a path and below it. -/
def remove (d : Disk) (p : Path) : Disk := ⟨d.entries.filter (fun x => !p.isPrefixOf x.1)⟩

/-- Looking up a path after the entry at another one has been replaced. -/
theorem find?_map_replace (es : List (Path × Entry)) (p q : Path) (e : Entry) :
    (es.map (fun x => if x.1 == p then (p, e) else x)).find? (fun x => x.1 == q) =
      (es.find? (fun x => x.1 == q)).map (fun x => if x.1 == p then (p, e) else x) := by
  induction es with
  | nil => rfl
  | cons x rest ih =>
    have hx : (if x.1 == p then (p, e) else x).1 = x.1 := by
      split
      · next h => exact (eq_of_beq h).symm
      · rfl
    rw [List.map_cons, List.find?_cons, List.find?_cons, hx, ih]
    split <;> rfl

/-- What was put at a path stands there. -/
theorem find?_put (d : Disk) {p : Path} (h : p ≠ []) (e : Entry) :
    (d.put p e).find? p = some e := by
  have hp : p.isEmpty = false := by simpa using h
  unfold put
  split
  · next hd =>
    obtain ⟨x, hx⟩ := Option.isSome_iff_exists.1 (List.find?_isSome.2 (List.any_eq_true.1 hd))
    have hxp : x.1 = p := by simpa using List.find?_some hx
    simp only [find?, hp, find?_map_replace, hx, Option.map_some, hxp]
    simp
  · next hd =>
    have hn : d.entries.find? (fun x => x.1 == p) = none :=
      List.find?_eq_none.2 (fun x hx hxp => hd (List.any_eq_true.2 ⟨x, hx, hxp⟩))
    simp [find?, hp, List.find?_append, hn]

/-- What was put at a path changes nothing at another one. -/
theorem find?_put_of_ne (d : Disk) {p q : Path} (h : q ≠ p) (e : Entry) :
    (d.put p e).find? q = d.find? q := by
  unfold put
  split
  · simp only [find?, find?_map_replace, Option.map_map]
    split
    · rfl
    · cases hx : d.entries.find? (fun x => x.1 == q) with
      | none => rfl
      | some x =>
        have hxq : x.1 = q := by simpa using List.find?_some hx
        simp [hxq, h]
  · have hpq : (p == q) = false := by simpa using Ne.symm h
    simp [find?, List.find?_append, hpq]

/-- Whether a file can be opened at a path to write it. -/
def openable (d : Disk) (p : Path) : Except FileFault Unit :=
  match d.look p with
  | .ok (.file _) => .ok ()
  | .ok .folder => .error .isDirectory
  | .error .notFound =>
    match d.look p.dropLast with
    | .ok .folder => .ok ()
    | .ok (.file _) => .error .notDirectory
    | .error f => .error f
  | .error f => .error f

/-- Writes a text into a file: opening it empties it, and a text with a surrogate then fails. -/
def writeText (d : Disk) (p : Path) (t : Text) : Outcome Unit × Disk :=
  match d.openable p with
  | .error f => (.error (.file f (Path.absoluteText p)), d)
  | .ok () =>
    match Utf8.encode? t with
    | some b => (.ok (), d.put p (.file b))
    | none => (.error (.unencodable t), d.put p (.file []))

/-- Makes the folders from one on along a path; a folder that is there is left as it is. -/
def makeFoldersFrom (d : Disk) (done : Path) : Path → Except FileFault Unit × Disk
  | [] => (.ok (), d)
  | name :: rest =>
    let p := done ++ [name]
    if maxName < Path.byteLength name then (.error .nameTooLong, d)
    else
      match d.find? p with
      | some .folder => d.makeFoldersFrom p rest
      | some (.file _) =>
        (.error (if rest.isEmpty then .alreadyExists else .notDirectory), d)
      | none => (d.put p .folder).makeFoldersFrom p rest

def makeFolders (d : Disk) (p : Path) : Outcome Unit × Disk :=
  let (r, d) := d.makeFoldersFrom [] p
  (atPath p r, d)

/-- The paths of what stands below a folder, counted from it. -/
def below (d : Disk) (folder : Path) : List (Path × Entry) :=
  d.entries.filterMap (fun e =>
    if folder.isPrefixOf e.1 && folder.length < e.1.length then
      some (e.1.drop folder.length, e.2)
    else none)

end Disk

end TemplatedNotes
