/-
  TemplatedNotes/Value/Encoding.lean
  ==================================
  **Values written as JSON.**

  Scripts are JSON documents, and so are the values in them.  Nothing, truth values, texts, small
  whole numbers and lists are written as themselves, every other value as an object with one key
  that names its kind:

      {"int": "12345678901234567890"}     {"float": "1e+16"}          {"bytes": "6869"}
      {"dict": [["a", 1], [2, "b"]]}      {"args": [["a", 1]]}        {"codepoints": [55296]}
      {"date": "2024-01-31"}              {"datetime": "2024-01-31T10:00:00+01:00"}
-/
import TemplatedNotes.Arguments
import TemplatedNotes.Number.Decimal
import TemplatedNotes.Text.Word

namespace TemplatedNotes.Encoding

/-- The number that ASCII digits denote. -/
def digitsValue (t : Text) : Nat := Integer.ofDigits 10 (t.filterMap CodePoint.digitValue?)

/-- The numbers between other characters, after the digits `digits` of one begun, in reverse. -/
def numbersAfter (digits : Text) : Text → List Nat
  | [] => if digits.isEmpty then [] else [digitsValue digits.reverse]
  | c :: rest =>
    if c.isAsciiDigit then numbersAfter (c :: digits) rest
    else if digits.isEmpty then numbersAfter [] rest
    else digitsValue digits.reverse :: numbersAfter [] rest

/-- The numbers between other characters. -/
def numbers (t : Text) : List Nat := numbersAfter [] t

def wholeNumber (t : Text) : Int :=
  let n : Nat := digitsValue t
  if t.head? = some (.scalar '-') then -(n : Int) else n

/-- The bytes that pairs of hexadecimal digits are. -/
def bytes : Text → List UInt8
  | a :: b :: rest => (a.hexValue?.getD 0 * 16 + b.hexValue?.getD 0).toUInt8 :: bytes rest
  | _ => []

def date? (t : Text) : Option Date :=
  match numbers t with
  | y :: m :: d :: _ => some ⟨y, m, d⟩
  | _ => none

/-- The minutes that an offset `+HH:MM` is. -/
def offset? : Text → Option Int
  | [] => none
  | sign :: rest =>
    match numbers rest with
    | h :: m :: _ =>
      let n : Int := h * 60 + m
      some (if sign = '-' then -n else n)
    | _ => none

def dateTime? (t : Text) : Option DateTime := do
  let day ← date? (t.take 10)
  let after := t.drop 11
  let clock := after.takeWhile (fun c : CodePoint => c.isAsciiDigit || c == ':' || c == '.')
  let offset := offset? (after.drop clock.length)
  match numbers clock with
  | [h, m, s] => return ⟨day, h, m, s, 0, offset⟩
  | [h, m, s, f] => return ⟨day, h, m, s, f, offset⟩
  | _ => none

def scalarOf? (kind t : Text) : Option Scalar :=
  if kind = Text.of "int" then some (.int (wholeNumber t))
  else if kind = Text.of "float" then (Decimal.read? t).map .float
  else if kind = Text.of "bytes" then some (.bytes (bytes t))
  else if kind = Text.of "date" then (date? t).map .date
  else if kind = Text.of "datetime" then (dateTime? t).map .dateTime
  else none

def codePoint? : Value → Option CodePoint
  | .scalar (.int n) => CodePoint.ofNat? n.toNat
  | _ => none

def mappingKind? (kind : Text) : Option MappingKind :=
  if kind = Text.of "dict" then some .plain
  else if kind = Text.of "args" then some .arguments
  else none

def mappingOf (kind : MappingKind) (es : List (Scalar × Value)) : Value :=
  match kind with
  | .plain => .dict (Entries.ofList es)
  | .arguments => Arguments.ofEntries (Entries.ofList es)

mutual

/-- The value that a JSON value stands for. -/
def decode : Value → Option Value
  | .scalar s => some (.scalar s)
  | .list items => (decodeItems items).map .list
  | .mapping _ es => decodeTagged es

/-- The value that an object with one key stands for. -/
def decodeTagged : List (Scalar × Value) → Option Value
  | (.text kind, body) :: _ =>
    match body with
    | .scalar (.text t) => (scalarOf? kind t).map .scalar
    | .list items =>
      if kind = Text.of "codepoints" then (items.mapM codePoint?).map Value.text
      else
        match mappingKind? kind with
        | some k => (decodePairs items).map (mappingOf k)
        | none => none
    | _ => none
  | _ => none

/-- The values that JSON values stand for. -/
def decodeItems : List Value → Option (List Value)
  | [] => some []
  | v :: vs => do
    let w ← decode v
    let ws ← decodeItems vs
    return w :: ws

/-- The entries that pairs of a key and a value stand for. -/
def decodePairs : List Value → Option (List (Scalar × Value))
  | [] => some []
  | .list [k, v] :: rest => do
    let .scalar key ← decode k | none
    let value ← decode v
    let entries ← decodePairs rest
    return (key, value) :: entries
  | _ :: _ => none

end

end TemplatedNotes.Encoding
