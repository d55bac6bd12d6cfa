/-
  TemplatedNotes/Yaml/Cursor.lean
  ===============================
  **A place in a YAML text.**

  A cursor holds the text that remains with the index, the line and the column where it starts.
  Lines end at a line feed, a carriage return with or without one, U+0085, U+2028 and U+2029; a
  byte order mark takes no column.
-/
import TemplatedNotes.Runtime

namespace TemplatedNotes.Yaml

/-- A place in a text. -/
structure Cursor where
  rest : Text
  index : Nat
  line : Nat
  column : Nat

def isBreak (c : CodePoint) : Bool :=
  c.value == 10 || c.value == 13 || c.value == 0x85 || c.value == 0x2028 || c.value == 0x2029

def isSpace (c : CodePoint) : Bool := c == ' ' || c == '\t'

/-- Whether a code point may stand in a YAML text. -/
def isAllowed (c : CodePoint) : Bool :=
  let n := c.value
  n == 9 || n == 10 || n == 13 || (32 ≤ n && n ≤ 126) || n == 0x85 ||
    (0xa0 ≤ n && n ≤ 0xd7ff) || (0xe000 ≤ n && n ≤ 0xfffd) || 0x10000 ≤ n

namespace Cursor

def start (t : Text) : Cursor := ⟨t, 0, 0, 0⟩

/-- The code point some places ahead. -/
def look (c : Cursor) (n : Nat) : Option CodePoint := c.rest[n]?

def peek (c : Cursor) : Option CodePoint := c.rest.head?

/-- Whether the code point some places ahead satisfies a predicate. -/
def sees (c : Cursor) (n : Nat) (p : CodePoint → Bool) : Bool :=
  match c.look n with
  | some x => p x
  | none => false

def isAt (c : Cursor) (x : Char) : Bool := c.peek == some (.scalar x)

/-- Whether the next code point is one of some characters. -/
def isAtOneOf (c : Cursor) (xs : List Char) : Bool :=
  c.sees 0 (fun x => xs.any (fun y => x == .scalar y))

def atEnd (c : Cursor) : Bool := c.rest.isEmpty

/-- Whether a line ends some places ahead, the end of the text included. -/
def lineEnds (c : Cursor) (n : Nat) : Bool :=
  match c.look n with
  | some x => isBreak x
  | none => true

/-- Whether a word ends some places ahead: at a space, a tab, or the end of a line. -/
def wordEnds (c : Cursor) (n : Nat) : Bool :=
  match c.look n with
  | some x => isBreak x || isSpace x
  | none => true

/-- Whether a word ends here at a space or the end of a line, a tab not counted. -/
def spaceEnds (c : Cursor) : Bool :=
  match c.peek with
  | some x => isBreak x || x == ' '
  | none => true

def next (c : Cursor) : Cursor :=
  match c.rest with
  | [] => c
  | x :: rest =>
    if isBreak x && !(x == '\r' && rest.head? == some (.scalar '\n')) then
      ⟨rest, c.index + 1, c.line + 1, 0⟩
    else if x.value = 0xfeff then ⟨rest, c.index + 1, c.line, c.column⟩
    else ⟨rest, c.index + 1, c.line, c.column + 1⟩

def skip (c : Cursor) : Nat → Cursor
  | 0 => c
  | n + 1 => c.next.skip n

/-- How many of the next code points satisfy a predicate. -/
def count (c : Cursor) (p : CodePoint → Bool) : Nat := (c.rest.takeWhile p).length

/-- The place after the next code points that satisfy a predicate. -/
def skipWhile (c : Cursor) (p : CodePoint → Bool) : Cursor := c.skip (c.count p)

def skipSpaces (c : Cursor) : Cursor := c.skipWhile (· == .scalar ' ')

def skipLine (c : Cursor) : Cursor := c.skipWhile (fun x => !isBreak x)

/-- The end of a line, if there is one here: what it stands for and the place after it. -/
def lineBreak (c : Cursor) : Text × Cursor :=
  match c.rest with
  | x :: y :: _ =>
    if x == '\r' && y == '\n' then (['\n'], c.skip 2)
    else if x.value = 0x2028 ∨ x.value = 0x2029 then ([x], c.next)
    else if isBreak x then (['\n'], c.next)
    else ([], c)
  | [x] =>
    if x.value = 0x2028 ∨ x.value = 0x2029 then ([x], c.next)
    else if isBreak x then (['\n'], c.next)
    else ([], c)
  | [] => ([], c)

/-- Whether three marks that separate documents stand here, as a word of their own. -/
def isSeparator (c : Cursor) (mark : Char) : Bool :=
  c.rest.take 3 == List.replicate 3 (.scalar mark) && c.wordEnds 3

def isAnySeparator (c : Cursor) : Bool := c.isSeparator '-' || c.isSeparator '.'

/-- A comment to the end of the line, left out. -/
def skipComment (c : Cursor) : Cursor := if c.isAt '#' then c.skipLine else c

/-- The rest of a line that may hold a comment only, and its end. -/
def finishLine (c : Cursor) : Reading Cursor :=
  let c := c.skipSpaces.skipComment
  if c.lineEnds 0 then .ok c.lineBreak.2 else .error .malformed

end Cursor

end TemplatedNotes.Yaml
