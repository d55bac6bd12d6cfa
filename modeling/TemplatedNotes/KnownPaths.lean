/-
  TemplatedNotes/KnownPaths.lean
  ==============================
  **The known paths: which notes have sections and which scripts work.**

  Both are lists without an order of their own: a path is added at the end when it is not there,
  and removing it removes every occurrence.  `KnownPaths.record` applies what an expansion
  reports.

  They are kept in a JSON file with two keys.  `KnownPaths.write` is the text of that file and
  `KnownPaths.ofText?` reads one; a key may also be written with underscores, a missing key is an
  empty list, and anything else malformed makes the whole file unreadable.
-/
import TemplatedNotes.Expansion
import TemplatedNotes.Json.Writer

namespace TemplatedNotes

/-- The notes known to have sections and the scripts known to work. -/
structure KnownPaths where
  notes : List Text
  templates : List Text
deriving DecidableEq

namespace KnownPaths

/-- No paths. -/
def empty : KnownPaths := ⟨[], []⟩

def without (paths : List Text) (path : Text) : List Text := paths.filter (· != path)

theorem mem_without {paths : List Text} {path p : Text} :
    p ∈ without paths path ↔ p ∈ paths ∧ p ≠ path := by
  simp [without]

def addNote (k : KnownPaths) (path : Text) : KnownPaths :=
  { k with notes := Expansion.addOnce k.notes path }

def removeNote (k : KnownPaths) (path : Text) : KnownPaths :=
  { k with notes := without k.notes path }

def addTemplate (k : KnownPaths) (path : Text) : KnownPaths :=
  { k with templates := Expansion.addOnce k.templates path }

def removeTemplate (k : KnownPaths) (path : Text) : KnownPaths :=
  { k with templates := without k.templates path }

/-- The known paths after a note with or without sections, some of whose scripts worked and some
    were missing. -/
def recordPaths (k : KnownPaths) (note : Text) (hadReferences : Bool) (used removed : List Text) :
    KnownPaths :=
  let k := if hadReferences then k.addNote note else k.removeNote note
  removed.foldl removeTemplate (used.foldl addTemplate k)

/-- The known paths after an expansion. -/
def record (k : KnownPaths) (e : Expansion) : KnownPaths :=
  k.recordPaths e.source e.hadReferences e.used e.removed

/-- The scripts whose paths contain a text, whatever the case. -/
def suggest (k : KnownPaths) (query : Text) : List Text :=
  k.templates.filter (fun path => Text.contains (Text.lower query) (Text.lower path))

/-! ### The file -/

/-- The key of the notes, and another one that is read when the first is missing. -/
def noteKeys : Text × Text :=
  (Text.of "knownTemplatedFilePaths", Text.of "known_templated_file_paths")

/-- The key of the scripts, and another one that is read when the first is missing. -/
def templateKeys : Text × Text := (Text.of "knownTemplatePaths", Text.of "known_template_paths")

/-- The text of the file. -/
def write (k : KnownPaths) : Text :=
  Json.writeMembers 0 [(noteKeys.1, Json.writeTexts 1 k.notes),
    (templateKeys.1, Json.writeTexts 1 k.templates)]

def path? : Value → Option Text
  | .scalar (.text t) => some t
  | _ => none

def paths? : Value → Option (List Text)
  | .list items => items.mapM path?
  | _ => none

/-- The paths under a key or its other spelling. -/
def field? (es : Entries Value) (keys : Text × Text) : Option (List Text) :=
  match es.get? (.text keys.1) with
  | some v => paths? v
  | none =>
    match es.get? (.text keys.2) with
    | some v => paths? v
    | none => some []

variable [Runtime]

def ofText? (t : Text) : Option KnownPaths :=
  match Json.read t with
  | .ok (.mapping _ es) => do
    let notes ← field? es noteKeys
    let templates ← field? es templateKeys
    return ⟨notes, templates⟩
  | _ => none

/-- The known paths in a file, none if it is missing, cannot be read or is malformed. -/
def load (d : Disk) (file : Path) : KnownPaths :=
  match d.bytes file with
  | .ok b =>
    match Utf8.decode b with
    | .ok t => (ofText? (Line.unify t)).getD empty
    | .error _ => empty
  | .error _ => empty

/-- Writes the known paths into a file, whose folder is made if it is missing. -/
def save (k : KnownPaths) (d : Disk) (file : Path) : Outcome Unit × Disk :=
  match d.makeFolders file.dropLast with
  | (.ok (), d) => d.writeText file k.write
  | (.error f, d) => (.error f, d)

end KnownPaths

end TemplatedNotes
