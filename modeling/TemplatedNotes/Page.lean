/-
  TemplatedNotes/Page.lean
  ========================
  **Pages: notes as scripts see them.**

  A page has the path of its note, the name without the extension, the folder (empty for the
  vault's own), the frontmatter, the tags and the body.  A note that cannot be read or is no UTF-8
  has no page.  The keys of the frontmatter have to be texts; `Page.make` refuses others.

  `Vault.page` looks a page up by path or link, with or without the extension of notes;
  `Vault.pages` lists those in a folder and the folders below it.
-/
import TemplatedNotes.Vault.Link
import TemplatedNotes.Frontmatter

namespace TemplatedNotes

/-- A note as scripts see it. -/
structure Page where
  path : Text
  name : Text
  folder : Text
  frontmatter : Entries Value
  tags : List Text
  content : Text

namespace Page

/-- A key of the frontmatter as a text; bytes are decoded. -/
def keyText? : Scalar → Option Text
  | .text t => some t
  | .bytes b => (Utf8.decode b).toOption
  | _ => none

/-- The entries of a frontmatter whose keys are all texts. -/
def textKeyed? (es : Entries Value) : Option (Entries Value) :=
  (es.mapM (fun e => (keyText? e.1).map (fun k => (Scalar.text k, e.2)))).map Entries.ofList

variable [Runtime]

/-- The page of a note with some text, at a path from the vault's folder. -/
def make (place : Path) (text : Text) : Outcome Page := do
  let (es, body) ← Frontmatter.split text
  let tags ← Frontmatter.tags es body
  match textKeyed? es with
  | some frontmatter =>
    return ⟨Path.relativeText place, Path.stem (place.getLast?.getD []), Path.text place.dropLast,
      frontmatter, tags, body⟩
  | none => throw (.validation [Text.of "frontmatter"])

/-- The value of a key of the frontmatter. -/
def get? (p : Page) (k : Scalar) : Option Value := p.frontmatter.get? k

end Page

namespace Vault

variable [Runtime]

/-- The page of the note at a place in the vault. -/
def pageAt (v : Vault) (p : Path) : Outcome (Option Page) :=
  match v.resourceAt p with
  | .ok t => (Page.make (p.drop v.root.length) t).map some
  | .error f => if isUnreadable f then .ok none else .error f

def extension : Text := ['.', 'm', 'd']

/-- The place of the note that a path or link means. -/
def locate (v : Vault) (link : Text) : Outcome (Option Path) := do
  match ← v.resolveLink link [] with
  | some p => return some p
  | none =>
    if extension.isSuffixOf link then return none else v.resolveLink (link ++ extension) []

/-- The page that a path or link means. -/
def page (v : Vault) (link : Text) : Outcome (Option Page) := do
  match ← v.locate link with
  | some p => v.pageAt p
  | none => return none

def trimSlashes (t : Text) : Text :=
  let isSlash : CodePoint → Bool := (· == .scalar '/')
  ((t.dropWhile isSlash).reverse.dropWhile isSlash).reverse

/-- What the paths of the notes in a folder start with. -/
def folderStart (folder : Text) : Text :=
  if folder.isEmpty then [] else trimSlashes folder ++ Text.of "/"

def pagesOf (v : Vault) : List Text → Outcome (List Page)
  | [] => .ok []
  | path :: rest => do
    let first ← v.pageAt (v.root ++ Path.ofText path)
    let others ← v.pagesOf rest
    return first.toList ++ others

/-- The pages of the notes in a folder, an empty text being all folders. -/
def pages (v : Vault) (folder : Text) : Outcome (List Page) :=
  v.pagesOf (v.notes.filter (fun path => (folderStart folder).isPrefixOf path))

end Vault

end TemplatedNotes
