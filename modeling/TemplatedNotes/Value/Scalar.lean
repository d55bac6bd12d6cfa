/-
  TemplatedNotes/Value/Scalar.lean
  ================================
  **Values without parts, and mappings keyed by them.**

  Scalars are what argument literals and frontmatter are made of, and the keys of every mapping.
  Keys are compared by `Scalar.same`, under which `1`, `1.0` and `true` are one key and not a
  number is no key at all.

  `Entries` is a mapping in order of insertion: `Entries.set` keeps the place and the key of an
  entry that is there and adds a new one at the end.
-/
import TemplatedNotes.Number.Binary64
import TemplatedNotes.Value.Calendar
import TemplatedNotes.Text.Quoted

namespace TemplatedNotes

/-- A value without parts. -/
inductive Scalar where
  | null
  | bool (b : Bool)
  | int (n : Int)
  | float (x : Binary64)
  | text (t : Text)
  | bytes (b : List UInt8)
  | date (d : Date)
  | dateTime (t : DateTime)
deriving DecidableEq, Repr

namespace Scalar

/-- The whole number that a truth value or a whole number is. -/
def int? : Scalar → Option Int
  | .bool b => some (if b then 1 else 0)
  | .int n => some n
  | _ => none

/-- Equality of values: numbers by their value whatever their kind, times by their instant. -/
def same (a b : Scalar) : Bool :=
  match a.int?, b.int? with
  | some m, some n => m == n
  | some m, none => match b with | .float y => y.sameInt m | _ => false
  | none, some n => match a with | .float x => x.sameInt n | _ => false
  | none, none =>
    match a, b with
    | .float x, .float y => x.same y
    | .dateTime s, .dateTime t => s.same t
    | a, b => a == b

/-- Whether a value counts as true: nothing, zero and empty ones do not. -/
def isTrue : Scalar → Bool
  | .null => false
  | .bool b => b
  | .int n => n != 0
  | .float x => !x.isZero
  | .text t => !t.isEmpty
  | .bytes b => !b.isEmpty
  | .date _ => true
  | .dateTime _ => true

def kindName : Scalar → Text
  | .null => Text.of "NoneType"
  | .bool _ => Text.of "bool"
  | .int _ => Text.of "int"
  | .float _ => Text.of "float"
  | .text _ => Text.of "str"
  | .bytes _ => Text.of "bytes"
  | .date _ => Text.of "datetime.date"
  | .dateTime _ => Text.of "datetime.datetime"

/-- The text of a value inside a list, and of every value but a text or a time outside one. -/
def quoted : Scalar → Except Integer.Fault Text
  | .null => .ok (Text.of "None")
  | .bool b => .ok (Text.of (if b then "True" else "False"))
  | .int n => Integer.write n
  | .float x => .ok x.text
  | .text t => .ok (Quoted.encode t)
  | .bytes b => .ok (Quoted.encodeBytes b)
  | .date d => .ok d.quotedText
  | .dateTime t => .ok t.quotedText

def display : Scalar → Except Integer.Fault Text
  | .text t => .ok t
  | .date d => .ok d.isoText
  | .dateTime t => .ok (t.textWith ' ')
  | s => s.quoted

end Scalar

/-- A mapping from scalars in order of insertion. -/
abbrev Entries (α : Type) := List (Scalar × α)

namespace Entries

variable {α : Type}

/-- The value of a key. -/
def get? (es : Entries α) (k : Scalar) : Option α :=
  (es.find? (fun e => e.1.same k)).map (·.2)

/-- Whether a key is there. -/
def has (es : Entries α) (k : Scalar) : Bool := (es.get? k).isSome

/-- Gives a key a value: in its place when it is there, at the end when it is not. -/
def set (es : Entries α) (k : Scalar) (v : α) : Entries α :=
  match es with
  | [] => [(k, v)]
  | e :: rest => if e.1.same k then (e.1, v) :: rest else e :: set rest k v

/-- A mapping without a key. -/
def erase (es : Entries α) (k : Scalar) : Entries α := es.filter (fun e => !e.1.same k)

/-- The mapping that a sequence of assignments leaves. -/
def ofList (es : List (Scalar × α)) : Entries α := es.foldl (fun acc e => acc.set e.1 e.2) []

/-- A mapping after the assignments of another one. -/
def update (es fs : Entries α) : Entries α := fs.foldl (fun acc e => acc.set e.1 e.2) es

end Entries

end TemplatedNotes
