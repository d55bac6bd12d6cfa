/-
  TemplatedNotes/Yaml/Style.lean
  ==============================
  **The styles of YAML scalars: plain, quoted and block.**

  Each style has a reader from the first character of a scalar to the place after it.  Lines of a
  plain or quoted scalar are folded: a single line end is a space, and of several the first is
  dropped.  A block scalar keeps (`|`) or folds (`>`) its lines, and its header says how deep it
  is indented and what becomes of the line ends after it.

  Loops run on fuel, for which the rest of the text is always enough.
-/
import TemplatedNotes.Yaml.Token

namespace TemplatedNotes.Yaml.Cursor

/-! ### Plain scalars -/

/-- Marks of flow collections that end a plain scalar inside one. -/
def flowMarks : List Char := [',', '?', '[', ']', '\x7b', '\x7d']

/-- Marks before which a colon ends a plain scalar inside a flow collection. -/
def flowColonFollowers : List Char := [',', '[', ']', '\x7b', '\x7d']

/-- The length of the part of a plain scalar up to a blank or a mark. -/
def plainLength (flow : Bool) : Text → Nat
  | [] => 0
  | x :: rest =>
    if isBreak x || isSpace x then 0
    else if x == ':' && (match rest with
        | [] => true
        | y :: _ => isBreak y || isSpace y ||
            (flow && flowColonFollowers.any (fun m => y == .scalar m))) then 0
    else if flow && flowMarks.any (fun m => x == .scalar m) then 0
    else plainLength flow rest + 1

/-- The line ends and spaces after the first line end inside a plain scalar; nothing when a
    document ends there. -/
def plainBreaks : Nat → Cursor → Option (Text) × Cursor
  | 0, c => (some [], c)
  | fuel + 1, c =>
    if c.isAt ' ' then plainBreaks fuel c.next
    else if c.sees 0 isBreak then
      let (b, c) := c.lineBreak
      if c.isAnySeparator then (none, c)
      else
        let (more, c) := plainBreaks fuel c
        (more.map (b ++ ·), c)
    else (some [], c)

/-- What the blanks after a part of a plain scalar stand for, nothing when the scalar ends there;
    the last component says whether a line ended. -/
def plainSpaces (c : Cursor) : Option Text × Cursor × Bool :=
  let n := c.count (· == .scalar ' ')
  let spaces := c.rest.take n
  let c := c.skip n
  if c.sees 0 isBreak then
    let (b, c) := c.lineBreak
    if c.isAnySeparator then (none, c, true)
    else
      match plainBreaks (c.rest.length + 1) c with
      | (none, c) => (none, c, true)
      | (some breaks, c) =>
        let first := if b != Text.of "\n" then b else if breaks.isEmpty then [.scalar ' '] else []
        (some (first ++ breaks), c, true)
  else if n = 0 then (none, c, false)
  else (some spaces, c, false)

/-- A plain scalar's parts after the blanks `before`: its text, the place after it, and whether it
    ended at the start of a line. -/
def plainParts (flow : Bool) (indent : Int) :
    Nat → Text → Bool → Cursor → Text × Cursor × Bool
  | 0, _, broken, c => ([], c, broken)
  | fuel + 1, before, broken, c =>
    if c.isAt '#' then ([], c, broken)
    else
      let n := plainLength flow c.rest
      if n = 0 then ([], c, broken)
      else
        let part := c.rest.take n
        let (spaces, after, broken) := plainSpaces (c.skip n)
        match spaces with
        | none => (before ++ part, after, broken)
        | some s =>
          if after.isAt '#' || (!flow && (after.column : Int) < indent) then
            (before ++ part, after, broken)
          else
            let (more, last, broken) := plainParts flow indent fuel s broken after
            (before ++ part ++ more, last, broken)

def plain (flow : Bool) (indent : Int) (c : Cursor) : Text × Cursor × Bool :=
  plainParts flow (indent + 1) (c.rest.length + 1) [] false c

/-! ### Quoted scalars -/

/-- The letters that stand for characters after a backslash. -/
def escapeLetters : List (Char × Nat) :=
  [('0', 0), ('a', 7), ('b', 8), ('t', 9), ('\t', 9), ('n', 10), ('v', 11), ('f', 12), ('r', 13),
    ('e', 27), (' ', 32), ('"', 34), ('\\', 92), ('/', 47), ('N', 0x85), ('_', 0xa0),
    ('L', 0x2028), ('P', 0x2029)]

/-- How many hexadecimal digits follow the letters of number escapes. -/
def escapeWidths : List (Char × Nat) := [('x', 2), ('u', 4), ('U', 8)]

/-- The line ends and blanks inside a quoted scalar after its first line end. -/
def quotedBreaks : Nat → Cursor → Reading (Text × Cursor)
  | 0, c => .ok ([], c)
  | fuel + 1, c =>
    if c.isAnySeparator then .error .malformed
    else
      let c := c.skipWhile isSpace
      if c.sees 0 isBreak then do
        let (b, c) := c.lineBreak
        let (more, c) ← quotedBreaks fuel c
        return (b ++ more, c)
      else .ok ([], c)

/-- What blanks inside a quoted scalar stand for. -/
def quotedSpaces (c : Cursor) : Reading (Text × Cursor) := do
  let n := c.count isSpace
  let spaces := c.rest.take n
  let c := c.skip n
  if c.atEnd then throw .malformed
  else if c.sees 0 isBreak then
    let (b, c) := c.lineBreak
    let (breaks, c) ← quotedBreaks (c.rest.length + 1) c
    let first := if b != Text.of "\n" then b else if breaks.isEmpty then [.scalar ' '] else []
    return (first ++ breaks, c)
  else return (spaces, c)

def quotedEscape (c : Cursor) : Reading (Text × Cursor) :=
  let letter (p : Char × Nat) : Bool := c.isAt p.1
  match escapeLetters.find? letter, escapeWidths.find? letter with
  | some p, _ => .ok ([CodePoint.ofNat p.2], c.next)
  | none, some p =>
    let digits := (c.next.rest.take p.2).filterMap CodePoint.hexValue?
    if digits.length ≠ p.2 then .error .malformed
    else
      let n := Integer.ofDigits 16 digits
      match CodePoint.ofNat? n with
      | some x => .ok ([x], c.skip (p.2 + 1))
      | none => .error (.failure (.codePoint n))
  | none, none =>
    if c.sees 0 isBreak then quotedBreaks (c.rest.length + 1) c.lineBreak.2
    else .error .malformed

/-- Whether a code point inside a quoted scalar needs a closer look. -/
def isQuotedSpecial (x : CodePoint) : Bool :=
  x == '\x27' || x == '"' || x == '\\' || isSpace x || isBreak x

/-- The inside of a quoted scalar and the place after its closing quote. -/
def quotedParts (double : Bool) : Nat → Cursor → Reading (Text × Cursor)
  | 0, _ => .error .malformed
  | fuel + 1, c => do
    let n := c.count (fun x => !isQuotedSpecial x)
    let part := c.rest.take n
    let c := c.skip n
    let quote := if double then '"' else '\x27'
    let (text, c, closed) ←
      if c.isAt '\x27' && !double && c.next.isAt '\x27' then
        pure (Text.of "\x27", c.skip 2, false)
      else if c.isAt quote then pure ([], c.next, true)
      else if c.isAt '"' || c.isAt '\x27' then pure (c.rest.take 1, c.next, false)
      else if c.isAt '\\' then
        if double then do
          let (t, c) ← quotedEscape c.next
          pure (t, c, false)
        else pure (Text.of "\\", c.next, false)
      else do
        let (t, c) ← quotedSpaces c
        pure (t, c, false)
    if closed then return (part ++ text, c)
    else
      let (more, last) ← quotedParts double fuel c
      return (part ++ text ++ more, last)

def quoted (double : Bool) (c : Cursor) : Reading (Text × Cursor) :=
  quotedParts double (c.rest.length + 1) c.next

/-! ### Block scalars -/

/-- What becomes of the line ends after a block scalar. -/
inductive Chomping where
  | clip
  | strip
  | keep
deriving DecidableEq

def chomping? (c : Cursor) : Option Chomping :=
  if c.isAt '+' then some .keep else if c.isAt '-' then some .strip else none

def increment? (c : Cursor) : Reading (Option Nat) :=
  match c.peek with
  | some x =>
    if x.isAsciiDigit then
      (if x.value = 48 then .error .malformed else .ok (some (x.value - 48)))
    else .ok none
  | none => .ok none

/-- The header of a block scalar: its chomping and its indentation, in either order. -/
def blockHeader (c : Cursor) : Reading (Chomping × Option Nat × Cursor) := do
  let (chomping, increment, c) ← match c.chomping? with
    | some k => do
      let i ← c.next.increment?
      pure (k, i, if i.isSome then c.skip 2 else c.next)
    | none => do
      let i ← c.increment?
      let c := if i.isSome then c.next else c
      match i, c.chomping? with
      | some _, some k => pure (k, i, c.next)
      | _, _ => pure (.clip, i, c)
  if c.spaceEnds then return (chomping, increment, ← c.finishLine) else throw .malformed

/-- The empty lines before a block scalar whose indentation is not given, with the greatest
    column in them. -/
def leadingBreaks : Nat → Nat → Cursor → Text × Nat × Cursor
  | 0, widest, c => ([], widest, c)
  | fuel + 1, widest, c =>
    if c.isAt ' ' then leadingBreaks fuel (max widest c.next.column) c.next
    else if c.sees 0 isBreak then
      let (b, c) := c.lineBreak
      let (more, widest, c) := leadingBreaks fuel widest c
      (b ++ more, widest, c)
    else ([], widest, c)

def skipIndent (c : Cursor) (indent : Nat) : Cursor :=
  c.skip (min (c.count (· == .scalar ' ')) (indent - c.column))

def blockBreaks (indent : Nat) : Nat → Cursor → Text × Cursor
  | 0, c => ([], c)
  | fuel + 1, c =>
    let c := c.skipIndent indent
    if c.sees 0 isBreak then
      let (b, c) := c.lineBreak
      let (more, c) := blockBreaks indent fuel c
      (b ++ more, c)
    else ([], c)

/-- The lines of a block scalar: its text up to its last line, the end of that line, the empty
    lines after it, and the place after them. -/
def blockLines (folded : Bool) (indent : Nat) :
    Nat → Text → Cursor → Text × Text × Text × Cursor
  | 0, breaks, c => ([], [], breaks, c)
  | fuel + 1, breaks, c =>
    if c.column = indent ∧ !c.atEnd then
      let solid := !c.sees 0 isSpace
      let line := c.rest.takeWhile (fun x => !isBreak x)
      let (b, after) := (c.skip line.length).lineBreak
      let (next, after) := blockBreaks indent (after.rest.length + 1) after
      if after.column = indent ∧ !after.atEnd then
        let joint :=
          if folded && b == Text.of "\n" && solid && !after.sees 0 isSpace then
            if next.isEmpty then [.scalar ' '] else []
          else b
        let (more, last, tail, finish) := blockLines folded indent fuel next after
        (breaks ++ line ++ joint ++ more, last, tail, finish)
      else (breaks ++ line, b, next, after)
    else ([], [], breaks, c)

def block (folded : Bool) (indent : Int) (c : Cursor) : Reading (Text × Cursor) := do
  let (chomping, increment, c) ← c.next.blockHeader
  let least := max (indent + 1) 1
  let (depth, breaks, c) := match increment with
    | none =>
      let (breaks, widest, c) := leadingBreaks (c.rest.length + 1) 0 c
      ((max least widest).toNat, breaks, c)
    | some n =>
      let depth := (least + n - 1).toNat
      let (breaks, c) := blockBreaks depth (c.rest.length + 1) c
      (depth, breaks, c)
  let (text, last, tail, c) := blockLines folded depth (c.rest.length + 1) breaks c
  return (text ++ (if chomping = .strip then [] else last) ++
    (if chomping = .keep then tail else []), c)

end TemplatedNotes.Yaml.Cursor
