/-
  TemplatedNotes/Literal/Token.lean
  =================================
  **The tokens of an argument literal.**

  A literal is written in numbers, quoted texts, the marks of brackets, commas, colons and signs,
  and identifiers, with white space between them.  `lexeme?` says what starts a text and how many
  code points it takes; `scan` cuts a whole text, so the tokens and the white space between them
  tile it, and the first position where nothing starts is the only failure.  There a catch-all takes
  the code point as an unexpected one; a line feed, which it does not take, would stall the cutting.
-/
import TemplatedNotes.Failure
import TemplatedNotes.Text.Word

namespace TemplatedNotes.Literal

/-- The kinds of tokens; `finish` is the end of the text. -/
inductive TokenKind where
  | number
  | quoted
  | mark
  | identifier
  | finish
deriving DecidableEq, Repr

/-- A token: its kind, its text and where it starts. -/
structure Token where
  kind : TokenKind
  text : Text
  position : Nat
deriving DecidableEq, Repr

/-- How many code points at the start of a text satisfy a predicate. -/
def countWhile (p : CodePoint → Bool) (t : Text) : Nat := (t.takeWhile p).length

/-- The length of a hexadecimal number at the start of a text, zero without one. -/
def hexLength : Text → Nat
  | .scalar '0' :: .scalar x :: rest =>
    if x = 'x' ∨ x = 'X' then
      let digits := countWhile CodePoint.isHexDigit rest
      if digits = 0 then 0 else digits + 2
    else 0
  | _ => 0

/-- The length of an exponent at the start of a text, zero without one. -/
def exponentLength : Text → Nat
  | .scalar e :: rest =>
    if e = 'e' ∨ e = 'E' then
      let sign := match rest with
        | .scalar s :: _ => if s = '+' ∨ s = '-' then 1 else 0
        | _ => 0
      let digits := countWhile CodePoint.isDigit (rest.drop sign)
      if digits = 0 then 0 else 1 + sign + digits
    else 0
  | _ => 0

/-- The length of the point and the fraction digits at the start of a text. -/
def fractionLength : Text → Nat
  | .scalar '.' :: rest => 1 + countWhile CodePoint.isDigit rest
  | _ => 0

/-- The length of a decimal number at the start of a text, zero without one. -/
def decimalLength (t : Text) : Nat :=
  let whole := countWhile CodePoint.isDigit t
  let fraction := fractionLength (t.drop whole)
  if whole = 0 ∧ fraction ≤ 1 then 0
  else whole + fraction + exponentLength (t.drop (whole + fraction))

/-- The length of a number at the start of a text, zero without one. -/
def numberLength (t : Text) : Nat :=
  let hex := hexLength t
  if hex = 0 then decimalLength t else hex

/-- The length of a quoted text up to and with its closing quote; a backslash takes the next code
    point along, and no line ends inside. -/
def quotedLength? (quote : CodePoint) : Text → Option Nat
  | [] => none
  | .scalar '\\' :: c :: rest =>
    if c = '\n' then none else (quotedLength? quote rest).map (· + 2)
  | c :: rest =>
    if c = quote then some 1
    else if c = '\n' ∨ c = '\\' then none
    else (quotedLength? quote rest).map (· + 1)

def marks : List Char := ['\x7b', '\x7d', '[', ']', ':', ',', '+', '-']

def isMark (c : CodePoint) : Bool := marks.any (fun m => c == .scalar m)

def startsIdentifier (c : CodePoint) : Bool := c.isAsciiLetter || c == '_' || c == '$'

def continuesIdentifier (c : CodePoint) : Bool := startsIdentifier c || c.isAsciiDigit

/-- What starts a text, with its length; white space has no kind. -/
def lexeme? : Text → Option (Option TokenKind × Nat)
  | [] => none
  | c :: rest =>
    let number := numberLength (c :: rest)
    if number ≠ 0 then some (some .number, number)
    else
      let quoted := if c = '"' ∨ c = '\x27' then quotedLength? c rest else none
      match quoted with
      | some n => some (some .quoted, n + 1)
      | none =>
        if isMark c then some (some .mark, 1)
        else if startsIdentifier c then
          some (some .identifier, countWhile continuesIdentifier rest + 1)
        else if c.isBlank then some (none, countWhile CodePoint.isBlank rest + 1)
        else none

/-- The fault at a code point where nothing starts: the catch-all takes any but a line feed. -/
def strayFault (c : CodePoint) (position : Nat) : LiteralFault :=
  if c = '\n' then .stalled position else .unexpectedCharacter c position

/-- The tokens of the text from a position on, where the first `skip` code points belong to a
    token cut already. -/
def scanFrom (position : Nat) : Nat → Text → Outcome (List Token)
  | _, [] => .ok [⟨.finish, [], position⟩]
  | skip + 1, _ :: rest => scanFrom (position + 1) skip rest
  | 0, c :: rest =>
    match lexeme? (c :: rest) with
    | none => .error (.literal (strayFault c position))
    | some (none, n) => scanFrom (position + 1) (n - 1) rest
    | some (some kind, n) => do
      let tokens ← scanFrom (position + 1) (n - 1) rest
      return ⟨kind, (c :: rest).take n, position⟩ :: tokens

/-- The tokens of a text, the end last. -/
def scan (t : Text) : Outcome (List Token) := scanFrom 0 0 t

end TemplatedNotes.Literal
