/-
  TemplatedNotes/Literal/Parser.lean
  ==================================
  **Reading an argument literal.**

  A literal is an object in braces: pairs of a key and a value, separated by commas, a last comma
  allowed.  Values are objects, arrays in brackets, quoted texts, numbers, six constants, and
  numbers after signs.  A reader takes tokens and gives a value and the tokens that follow it.

  `Reader.repeated` is the loop of arrays and objects; each round reads one entry and so takes at
  least one token, which bounds the rounds by the number of tokens.  `value` reads values nested
  up to a depth and fails beyond it.
-/
import TemplatedNotes.Literal.Escape
import TemplatedNotes.Arguments
import TemplatedNotes.Runtime

namespace TemplatedNotes.Literal

abbrev Reader (α : Type) := List Token → Outcome (α × List Token)

/-- The first of the remaining tokens. -/
def current : List Token → Token
  | t :: _ => t
  | [] => ⟨.finish, [], 0⟩

/-- Whether the next token is a mark. -/
def isAt (mark : Char) (tokens : List Token) : Bool :=
  let t := current tokens
  t.kind == .mark && t.text == [.scalar mark]

/-- Takes a mark. -/
def expect (mark : Char) (tokens : List Token) : Outcome (List Token) :=
  if isAt mark tokens then .ok tokens.tail
  else .error (.literal (.expected mark (current tokens).position (current tokens).text))

/-- Entries up to a closing mark, a comma between each two and perhaps after the last; at most
    `rounds` of them. -/
def Reader.repeated {α : Type} (entry : Reader α) (close : Char) : Nat → Reader (List α)
  | 0 => fun _ => .error .nesting
  | rounds + 1 => fun tokens =>
    if isAt close tokens then .ok ([], tokens.tail)
    else do
      let (x, tokens) ← entry tokens
      let tokens ← if isAt close tokens then .ok tokens else expect ',' tokens
      let (xs, tokens) ← repeated entry close rounds tokens
      return (x :: xs, tokens)

def constant? (name : Text) : Option Scalar :=
  if name = Text.of "true" then some (.bool true)
  else if name = Text.of "false" then some (.bool false)
  else if name = Text.of "null" ∨ name = Text.of "undefined" then some .null
  else if name = Text.of "Infinity" then some (.float (.infinite false))
  else if name = Text.of "NaN" then some (.float .nan)
  else none

/-- The key that a token is: an identifier, a quoted text, or the text of a number's value. -/
def key (t : Token) : Outcome Text :=
  match t.kind with
  | .identifier => .ok t.text
  | .quoted => decodeQuoted t.text
  | .number => do
    let n ← decodeNumber t.text
    match n.display with
    | .ok k => .ok k
    | .error f => .error (.integer f)
  | _ => .error (.literal (.invalidKey t.text t.position))

def pair (value : Reader Value) : Reader (Scalar × Value) := fun tokens => do
  let k ← key (current tokens)
  let tokens ← expect ':' tokens.tail
  let (v, tokens) ← value tokens
  return ((.text k, v), tokens)

/-- An object, after its opening brace. -/
def object (value : Reader Value) : Reader Value := fun tokens => do
  let (pairs, tokens) ← Reader.repeated (pair value) '\x7d' (tokens.length + 1) tokens
  return (Value.dict (Entries.ofList pairs), tokens)

/-- An array, after its opening bracket. -/
def array (value : Reader Value) : Reader Value := fun tokens => do
  let (items, tokens) ← Reader.repeated value ']' (tokens.length + 1) tokens
  return (.list items, tokens)

/-- The value of a number after a sign; only numbers take one. -/
def signed (minus : Bool) (position : Nat) : Value → Outcome Value
  | .scalar (.int n) => .ok (.scalar (.int (if minus then -n else n)))
  | .scalar (.float x) => .ok (.scalar (.float (if minus then x.neg else x)))
  | _ => .error (.literal (.signOnOther position))

/-- The value of a token that is a value by itself. -/
def atom (t : Token) : Outcome Value :=
  let unexpected := Failure.literal (.unexpected t.text t.position)
  match t.kind with
  | .quoted => (decodeQuoted t.text).map Value.text
  | .number => (decodeNumber t.text).map Value.scalar
  | .identifier =>
    match constant? t.text with
    | some s => .ok (.scalar s)
    | none => .error unexpected
  | _ => .error unexpected

/-- A value nested up to a depth. -/
def value : Nat → Reader Value
  | 0 => fun _ => .error .nesting
  | depth + 1 => fun tokens =>
    if isAt '\x7b' tokens then object (value depth) tokens.tail
    else if isAt '[' tokens then array (value depth) tokens.tail
    else if isAt '+' tokens || isAt '-' tokens then do
      let (v, after) ← value depth tokens.tail
      let v ← signed (isAt '-' tokens) (current tokens).position v
      return (v, after)
    else (atom (current tokens)).map (fun v => (v, tokens.tail))

variable [Runtime]

/-- The deepest nesting of arrays, objects and signs that is read. -/
def maxDepth : Nat := Runtime.literalDepth

theorem maxDepth_pos : 0 < maxDepth := Runtime.literalDepth_pos

/-- An object and nothing after it. -/
def document (tokens : List Token) : Outcome Value := do
  let tokens ← expect '\x7b' tokens
  let (v, tokens) ← object (value maxDepth) tokens
  if (current tokens).kind = .finish then .ok v
  else .error (.literal (.trailing (current tokens).position))

/-- A literal as an object: trimmed, and in braces if it does not start with one. -/
def braced (raw : Text) : Text :=
  let t := Text.trim raw
  if t.head? = some '\x7b' then t else Text.of "\x7b" ++ t ++ Text.of "\x7d"

/-- The arguments that a literal denotes. -/
def parse (raw : Text) : Outcome Value := do
  let tokens ← scan (braced raw)
  let v ← document tokens
  return Arguments.ofValue v

/-- Whether a failure to read a literal means that it has no arguments; a number too large even
    for the code point check goes through. -/
def isIgnored (f : Failure) : Bool := f.kindName != Text.of "OverflowError"

/-- The arguments that a literal denotes, none for a malformed one. -/
def evaluate (raw : Text) : Outcome Value :=
  match parse raw with
  | .ok v => .ok v
  | .error f => if isIgnored f then .ok Arguments.empty else .error f

end TemplatedNotes.Literal
