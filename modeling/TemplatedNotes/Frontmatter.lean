/-
  TemplatedNotes/Frontmatter.lean
  ===============================
  **The frontmatter of a note, and its tags.**

  A note that starts with `---` has a YAML block up to the next line that starts so; the body is
  what follows that line.  A block that is malformed, or no mapping, counts as empty.

  A note's tags are those its frontmatter lists, a text being split at commas and white space, and
  then those written `#tag` in the body, each once.  A tag in the body starts where no word,
  slash or number sign comes before and holds word characters, slashes and hyphens, not all of
  them digits.
-/
import TemplatedNotes.Runtime
import TemplatedNotes.Text.Line
import TemplatedNotes.Text.Word

namespace TemplatedNotes.Frontmatter

/-- The mark around a block. -/
def fence : Text := ['-', '-', '-']

/-- The text of the block and the body of a note that has a block. -/
def cut? (t : Text) : Option (Text × Text) :=
  if fence.isPrefixOf t then
    match Text.splitAtFirst ('\n' :: fence) (t.drop 3) with
    | none => none
    | some (block, after) => some (block, (after.dropWhile (· != .scalar '\n')).drop 1)
  else none

variable [Runtime]

/-- The mapping of a block. -/
def entries (block : Text) : Outcome (Entries Value) :=
  match Runtime.loadYaml block with
  | .ok (.mapping _ es) => .ok es
  | .ok _ => .ok []
  | .error .malformed => .ok []
  | .error (.failure f) => .error f

/-- The frontmatter and the body of a note. -/
def split (t : Text) : Outcome (Entries Value × Text) :=
  match cut? t with
  | none => .ok ([], t)
  | some (block, body) => (entries block).map (fun es => (es, body))

/-! ### Tags -/

def isTagCharacter (c : CodePoint) : Bool := c.isWord || c == '/' || c == '-'

/-- A character that keeps a tag from being a number. -/
def isTagLetter (c : CodePoint) : Bool :=
  c.isAsciiLetter || c == '_' || c == '/' || c == '-'

/-- A character after which no tag starts. -/
def blocksTag (c : CodePoint) : Bool := c.isWord || c == '#' || c == '/'

/-- The tag at the start of a text after its number sign. -/
def tagAt? (t : Text) : Option Text :=
  let tag := t.takeWhile isTagCharacter
  if tag.any isTagLetter then some tag else none

/-- The tags of a text after `before`, where the first `skip` code points belong to a tag found
    already. -/
def inlineTagsFrom (before : Option CodePoint) : Nat → Text → List Text
  | _, [] => []
  | skip + 1, c :: rest => inlineTagsFrom (some c) skip rest
  | 0, c :: rest =>
    let found := if c == '#' && !before.any blocksTag then tagAt? rest else none
    match found with
    | some tag => tag :: inlineTagsFrom (some c) tag.length rest
    | none => inlineTagsFrom (some c) 0 rest

def inlineTags (t : Text) : List Text := inlineTagsFrom none 0 t

/-- The parts of a text between commas and white space. -/
def listed (t : Text) : List Text :=
  Text.words (t.map (fun (c : CodePoint) => if c == ',' then .scalar ' ' else c))

/-- A tag without number signs in front. -/
def bare (t : Text) : Text := t.dropWhile (· == .scalar '#')

def tagTexts (vs : List Value) : Outcome (List Text) :=
  vs.mapM (fun v => match v.display with
    | .ok t => .ok (bare t)
    | .error f => .error (.integer f))

def ownTags (es : Entries Value) : Outcome (List Text) :=
  match Entries.get? es (.text (Text.of "tags")) with
  | none => .ok []
  | some v =>
    if !v.isTrue then .ok []
    else
      match v with
      | .scalar (.text t) => .ok ((listed t).map bare)
      | .scalar (.bytes b) => tagTexts (b.map (fun x => .scalar (.int x.toNat)))
      | .list items => tagTexts items
      | .mapping _ es => tagTexts (es.map (fun e => .scalar e.1))
      | .scalar s => .error (.kind (.notIterable s.kindName))

def addTag (tags : List Text) (tag : Text) : List Text :=
  if tags.contains tag then tags else tags ++ [tag]

def tags (es : Entries Value) (body : Text) : Outcome (List Text) := do
  let own ← ownTags es
  return (inlineTags body).foldl addTag own

end TemplatedNotes.Frontmatter
