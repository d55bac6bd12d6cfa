/-
  TemplatedNotes/Json/Reader.lean
  ===============================
  **Reading JSON.**

  A document is one value with white space around it: an object, an array, a text, a number or a
  constant, where `NaN`, `Infinity` and `-Infinity` are constants too.  Two escapes that spell a
  surrogate pair are one code point, other surrogates stay.  A key that comes again replaces the
  value it had.

  A reader takes a text and gives a value and the text that follows it.  As in argument literals,
  the rounds of a loop are bounded by the length of the text and nesting by `maxDepth`.
-/
import TemplatedNotes.Number.Decimal
import TemplatedNotes.Text.Word
import TemplatedNotes.Runtime

namespace TemplatedNotes.Json

/-- Why a text is not read as JSON. -/
inductive Fault where
  | malformed
  | nesting
deriving DecidableEq, Repr

/-- A reader of a part of a document. -/
abbrev Reader (α : Type) := Text → Except Fault (α × Text)

def isSpace (c : CodePoint) : Bool := c == ' ' || c == '\t' || c == '\n' || c == '\r'

/-- What follows the white space at the start of a text. -/
def skipSpace (t : Text) : Text := t.dropWhile isSpace

/-! ### Texts -/

/-- The code points that letters stand for after a backslash. -/
def escapeLetters : List (Char × Char) :=
  [('"', '"'), ('\\', '\\'), ('/', '/'), ('b', '\x08'), ('f', '\x0c'), ('n', '\n'), ('r', '\r'),
    ('t', '\t')]

def hexQuad? (a b c d : CodePoint) : Option Nat := do
  let w ← a.hexValue?
  let x ← b.hexValue?
  let y ← c.hexValue?
  let z ← d.hexValue?
  return ((w * 16 + x) * 16 + y) * 16 + z

def consRead (c : CodePoint) (r : Except Fault (Text × Text)) : Except Fault (Text × Text) :=
  r.map (fun p => (c :: p.1, p.2))

/-- The code points up to a closing quote, each escape one of them. -/
def textUnits : Reader Text
  | [] => .error .malformed
  | .scalar '"' :: rest => .ok ([], rest)
  | .scalar '\\' :: .scalar 'u' :: a :: b :: c :: d :: rest =>
    match hexQuad? a b c d with
    | some n => consRead (CodePoint.ofNat n) (textUnits rest)
    | none => .error .malformed
  | .scalar '\\' :: .scalar c :: rest =>
    match escapeLetters.lookup c with
    | some e => consRead (.scalar e) (textUnits rest)
    | none => .error .malformed
  | c :: rest => if c.value < 32 ∨ c = '\\' then .error .malformed else consRead c (textUnits rest)

def pairOf? (a b : CodePoint) : Option CodePoint :=
  if 0xd800 ≤ a.value ∧ a.value < 0xdc00 ∧ 0xdc00 ≤ b.value ∧ b.value < 0xe000 then
    CodePoint.ofNat? (0x10000 + (a.value - 0xd800) * 0x400 + (b.value - 0xdc00))
  else none

/-- A text in which surrogate pairs have become their code points. -/
def joinPairs : Text → Text
  | [] => []
  | [a] => [a]
  | a :: b :: rest =>
    match pairOf? a b with
    | some c => c :: joinPairs rest
    | none => a :: joinPairs (b :: rest)

/-- A text, after its opening quote. -/
def quotedText : Reader Text := fun t => (textUnits t).map (fun p => (joinPairs p.1, p.2))

/-! ### Numbers and constants -/

def leadingDigits (t : Text) : Text := t.takeWhile CodePoint.isAsciiDigit

/-- The fraction at the start of a text: a point and digits. -/
def leadingFraction (t : Text) : Text :=
  match t with
  | .scalar '.' :: rest =>
    let digits := leadingDigits rest
    if digits.isEmpty then [] else .scalar '.' :: digits
  | _ => []

/-- The exponent at the start of a text: its letter, perhaps a sign, and digits. -/
def leadingExponent (t : Text) : Text :=
  match t with
  | .scalar e :: rest =>
    if e = 'e' ∨ e = 'E' then
      let sign := (rest.take 1).filter (fun c : CodePoint => c == '+' || c == '-')
      let digits := leadingDigits (rest.drop sign.length)
      if digits.isEmpty then [] else CodePoint.scalar e :: (sign ++ digits)
    else []
  | _ => []

/-- The whole part of a number at the start of a text: a single zero, or digits that do not start
    with one, after a sign perhaps. -/
def leadingWhole (t : Text) : Text :=
  let sign := (t.take 1).filter (fun c : CodePoint => c == '-')
  let digits := leadingDigits (t.drop sign.length)
  let body := if digits.head? == some (.scalar '0') then digits.take 1 else digits
  if body.isEmpty then [] else sign ++ body

/-- A number. -/
def number : Reader Value := fun t =>
  let whole := leadingWhole t
  let fraction := leadingFraction (t.drop whole.length)
  let exponent := leadingExponent (t.drop (whole.length + fraction.length))
  let lexeme := whole ++ fraction ++ exponent
  if whole.isEmpty then .error .malformed
  else if fraction.isEmpty && exponent.isEmpty then
    match Integer.read 10 whole with
    | .ok n => .ok (.scalar (.int n), t.drop whole.length)
    | .error _ => .error .malformed
  else
    match Decimal.read? lexeme with
    | some x => .ok (.scalar (.float x), t.drop lexeme.length)
    | none => .error .malformed

def constants : List (Text × Scalar) :=
  [(Text.of "null", .null), (Text.of "true", .bool true), (Text.of "false", .bool false),
    (Text.of "NaN", .float .nan), (Text.of "Infinity", .float (.infinite false)),
    (Text.of "-Infinity", .float (.infinite true))]

def atom : Reader Value := fun t =>
  match t with
  | .scalar '"' :: rest => (quotedText rest).map (fun p => (Value.text p.1, p.2))
  | _ =>
    match constants.find? (fun c => c.1.isPrefixOf t) with
    | some c => .ok (.scalar c.2, t.drop c.1.length)
    | none => number t

/-! ### Arrays, objects and documents -/

/-- Entries with commas between them up to a closing mark, at least one and at most `rounds`. -/
def Reader.separated {α : Type} (entry : Reader α) (close : Char) : Nat → Reader (List α)
  | 0 => fun _ => .error .malformed
  | rounds + 1 => fun t => do
    let (x, t) ← entry t
    match skipSpace t with
    | .scalar c :: rest =>
      if c = close then return ([x], rest)
      else if c = ',' then
        let (xs, t) ← separated entry close rounds (skipSpace rest)
        return (x :: xs, t)
      else throw .malformed
    | _ => throw .malformed

/-- Entries up to a closing mark, or none. -/
def Reader.enclosed {α : Type} (entry : Reader α) (close : Char) : Reader (List α) := fun t =>
  match skipSpace t with
  | .scalar c :: rest =>
    if c = close then .ok ([], rest) else separated entry close t.length (.scalar c :: rest)
  | t => separated entry close t.length t

def member (value : Reader Value) : Reader (Scalar × Value) := fun t =>
  match t with
  | .scalar '"' :: rest => do
    let (k, t) ← quotedText rest
    match skipSpace t with
    | .scalar ':' :: rest =>
      let (v, t) ← value (skipSpace rest)
      return ((.text k, v), t)
    | _ => throw .malformed
  | _ => .error .malformed

def value : Nat → Reader Value
  | 0 => fun _ => .error .nesting
  | depth + 1 => fun t =>
    match t with
    | .scalar '[' :: rest =>
      (Reader.enclosed (value depth) ']' rest).map (fun p => (Value.list p.1, p.2))
    | .scalar '\x7b' :: rest =>
      (Reader.enclosed (member (value depth)) '\x7d' rest).map
        (fun p => (Value.dict (Entries.ofList p.1), p.2))
    | t => atom t

variable [Runtime]

/-- The deepest nesting of arrays and objects that is read. -/
def maxDepth : Nat := Runtime.jsonDepth

theorem two_lt_maxDepth : 2 < maxDepth := Runtime.two_lt_jsonDepth

def read (t : Text) : Except Fault Value := do
  let (v, after) ← value maxDepth (skipSpace t)
  if (skipSpace after).isEmpty then return v else throw .malformed

end TemplatedNotes.Json
