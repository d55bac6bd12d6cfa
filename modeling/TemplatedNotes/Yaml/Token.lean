/-
  TemplatedNotes/Yaml/Token.lean
  ==============================
  **The tokens of a YAML text, and the short ones among them read.**

  Indentation shows in the tokens: the starts of block collections and their ends are tokens of
  their own.  This module reads directives, anchors and tags.
-/
import TemplatedNotes.Yaml.Cursor
import TemplatedNotes.Literal.Token

namespace TemplatedNotes.Yaml

inductive Token where
  | versionDirective (major : Nat)
  | tagDirective (handle base : Text)
  | otherDirective
  | documentStart
  | documentEnd
  | blockSequenceStart
  | blockMappingStart
  | blockEnd
  | flowSequenceStart
  | flowSequenceEnd
  | flowMappingStart
  | flowMappingEnd
  | blockEntry
  | flowEntry
  | key
  | value
  | alias (name : Text)
  | anchor (name : Text)
  | tag (handle : Option Text) (suffix : Text)
  | scalar (text : Text) (plain : Bool)
deriving DecidableEq

/-- A letter, a digit, a hyphen or an underscore. -/
def isNameCharacter (c : CodePoint) : Bool :=
  c.isAsciiLetter || c.isAsciiDigit || c == '-' || c == '_'

def uriMarks : List Char :=
  ['-', ';', '/', '?', ':', '@', '&', '=', '+', '$', ',', '_', '.', '!', '~', '*', '\x27', '(',
    ')', '[', ']', '%']

def isUriCharacter (c : CodePoint) : Bool :=
  c.isAsciiLetter || c.isAsciiDigit || uriMarks.any (fun m => c == .scalar m)

namespace Cursor

/-- A name of letters, digits, hyphens and underscores. -/
def name (c : Cursor) : Reading (Text × Cursor) :=
  let n := c.count isNameCharacter
  if n = 0 then .error .malformed else .ok (c.rest.take n, c.skip n)

/-- The bytes of a run of percent escapes; at most `fuel` of them. -/
def percentBytes : Nat → Cursor → Reading (List UInt8 × Cursor)
  | 0, c => .ok ([], c)
  | fuel + 1, c =>
    if c.isAt '%' then
      match (c.look 1).bind CodePoint.hexValue?, (c.look 2).bind CodePoint.hexValue? with
      | some a, some b => do
        let (bytes, after) ← percentBytes fuel (c.skip 3)
        return ((a * 16 + b).toUInt8 :: bytes, after)
      | _, _ => .error .malformed
    else .ok ([], c)

/-- The characters of a tag, its percent escapes decoded; at most `fuel` runs of them. -/
def uriParts : Nat → Cursor → Reading (Text × Cursor)
  | 0, c => .ok ([], c)
  | fuel + 1, c =>
    let n := c.count (fun x => isUriCharacter x && x != '%')
    let after := c.skip n
    if after.isAt '%' then do
      let (bytes, after) ← percentBytes after.rest.length after
      match Utf8.decode bytes with
      | .error _ => throw .malformed
      | .ok t =>
        let (more, last) ← uriParts fuel after
        return (c.rest.take n ++ t ++ more, last)
    else .ok (c.rest.take n, after)

/-- A tag without its handle; it is not empty. -/
def uri (c : Cursor) : Reading (Text × Cursor) :=
  if c.sees 0 isUriCharacter then uriParts (c.rest.length + 1) c else .error .malformed

/-- A tag handle: an exclamation mark, or a name between two. -/
def handle (c : Cursor) : Reading (Text × Cursor) :=
  if !c.isAt '!' then .error .malformed
  else if c.look 1 == some (.scalar ' ') then .ok (['!'], c.next)
  else
    let n := c.next.count isNameCharacter
    if c.look (n + 1) == some (.scalar '!') then .ok (c.rest.take (n + 2), c.skip (n + 2))
    else .error .malformed

def versionNumber (c : Cursor) : Reading (Nat × Cursor) :=
  let n := c.count CodePoint.isAsciiDigit
  if n = 0 then .error .malformed
  else .ok (Integer.ofDigits 10 ((c.rest.take n).filterMap CodePoint.digitValue?), c.skip n)

def directive (c : Cursor) : Reading (Token × Cursor) := do
  let (name, c) ← c.next.name
  if !c.spaceEnds then throw .malformed
  if name = Text.of "YAML" then
    let (major, c) ← c.skipSpaces.versionNumber
    if !c.isAt '.' then throw .malformed
    let (_, c) ← c.next.versionNumber
    if !c.spaceEnds then throw .malformed
    return (.versionDirective major, ← c.finishLine)
  else if name = Text.of "TAG" then
    let (handle, c) ← c.skipSpaces.handle
    if !c.isAt ' ' then throw .malformed
    let (base, c) ← c.skipSpaces.uri
    if !c.spaceEnds then throw .malformed
    return (.tagDirective handle base, ← c.finishLine)
  else
    return (.otherDirective, ← c.skipLine.finishLine)

/-- The characters besides a word's end that may follow an anchor. -/
def anchorFollowers : List Char := ['?', ':', ',', ']', '\x7d', '%', '@', '\x60']

def anchorName (c : Cursor) : Reading (Text × Cursor) := do
  let (name, c) ← c.next.name
  if c.wordEnds 0 || c.isAtOneOf anchorFollowers then return (name, c) else throw .malformed

def tag (c : Cursor) : Reading (Token × Cursor) := do
  let (token, c) ←
    if c.look 1 == some (.scalar '<') then do
      let (suffix, c) ← (c.skip 2).uri
      if !c.isAt '>' then throw .malformed
      pure (Token.tag none suffix, c.next)
    else if c.wordEnds 1 then pure (Token.tag none ['!'], c.next)
    else do
      let word := c.next.rest.takeWhile (fun x => !isBreak x && x != ' ')
      let (handle, c) ← if (CodePoint.scalar '!') ∈ word then c.handle else pure (['!'], c.next)
      let (suffix, c) ← c.uri
      pure (Token.tag (some handle) suffix, c)
  if c.spaceEnds then return (token, c) else throw .malformed

end Cursor

end TemplatedNotes.Yaml
