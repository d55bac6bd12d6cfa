/-
  TemplatedNotes/Vault/Link.lean
  ==============================
  **Finding the file that a link means.**

  A link is looked for from the folder of the note it stands in, then from the vault's folder, and
  then as the end of any path in the vault, where the path with the fewest names wins and among
  those the first in order.  A slash in front means the vault's folder alone, one or two dots in
  front the note's folder alone.
-/
import TemplatedNotes.Vault.Basic

namespace TemplatedNotes.Vault

/-- Whether a link says where it starts, so that it is not searched for. -/
def isAnchored (link : Text) : Bool :=
  Path.isAbsolute link || (Text.of "./").isPrefixOf link || (Text.of "../").isPrefixOf link

/-- The paths from the vault's folder that a link may mean, in the order they are tried. -/
def candidates (link source : Text) : List Path :=
  let names := Path.ofText link
  if Path.isAbsolute link then [names]
  else
    let nearby := (Path.ofText source).dropLast ++ names
    if isAnchored link then [nearby] else [nearby, names]

def firstFile (v : Vault) : List Path → Outcome (Option Path)
  | [] => .ok none
  | names :: rest => do
    let p ← Path.resolve v.root names
    if (v.inside? p).isSome then
      if ← v.disk.isFile p then return some p else firstFile v rest
    else firstFile v rest

/-- Whether one path comes before another: fewer names, or as many and earlier in order. -/
def comesBefore (p q : Path) : Bool :=
  p.length < q.length || (p.length == q.length && Text.lt (Path.text p) (Path.text q))

def least : List Path → Option Path
  | [] => none
  | p :: rest =>
    match least rest with
    | some q => some (if comesBefore q p then q else p)
    | none => some p

/-- The files of the vault whose paths end with some names, excluded folders left out. -/
def endingWith (v : Vault) (names : Path) : List Path :=
  (v.disk.below v.root).filterMap (fun e =>
    match e.2 with
    | .file _ => if !v.isExcluded e.1 && names.isSuffixOf e.1 then some e.1 else none
    | .folder => none)

/-- A character with a meaning in search patterns; a name with one is compared, not looked up. -/
def isPatternMark (c : CodePoint) : Bool := c == '*' || c == '?' || c == '['

/-- The best file of the vault whose path ends with a link. -/
def search (v : Vault) (link : Text) : Outcome (Option Path) :=
  let names := Path.ofText link
  match names.getLast? with
  | none => .error .emptyLink
  | some name =>
    if Disk.maxName < Path.byteLength name && !name.any isPatternMark then
      .error (.file .nameTooLong (Path.absoluteText (v.root ++ [name])))
    else .ok ((least (v.endingWith names)).map (v.root ++ ·))

/-- The place of the file that a link in a note means. -/
def resolveLink (v : Vault) (link source : Text) : Outcome (Option Path) := do
  let link := Text.trim link
  if link.isEmpty then return none
  else
    match ← v.firstFile (candidates link source) with
    | some p => return some p
    | none => if isAnchored link then return none else v.search link

end TemplatedNotes.Vault
