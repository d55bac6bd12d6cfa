/-
  TemplatedNotes/Value/Basic.lean
  ===============================
  **Values: scalars, lists and mappings.**

  A value is what an argument literal, a frontmatter block or a registry file denotes.  A mapping
  is either plain or an argument object, whose keys are reachable as attributes too; the two are
  equal when their entries are, in any order.

  * `Value.same` is equality of values, `Value.quoted` and `Value.display` are their texts;
  * `Value.plain` forgets which mappings are argument objects.
-/
import TemplatedNotes.Value.Scalar

namespace TemplatedNotes

/-- Whether a mapping gives access to its keys as attributes. -/
inductive MappingKind where
  | plain
  | arguments
deriving DecidableEq, Repr

inductive Value where
  | scalar (s : Scalar)
  | list (items : List Value)
  | mapping (kind : MappingKind) (entries : List (Scalar × Value))

namespace Value

instance : Inhabited Value := ⟨.scalar .null⟩

def null : Value := .scalar .null

def text (t : Text) : Value := .scalar (.text t)

/-- A plain mapping. -/
def dict (es : Entries Value) : Value := .mapping .plain es

def isTrue : Value → Bool
  | .scalar s => s.isTrue
  | .list items => !items.isEmpty
  | .mapping _ es => !es.isEmpty

def kindName : Value → Text
  | .scalar s => s.kindName
  | .list _ => Text.of "list"
  | .mapping .plain _ => Text.of "dict"
  | .mapping .arguments _ => Text.of "TemplateArguments"

mutual

/-- Equality of values: lists item by item, mappings entry by entry in any order. -/
def same : Value → Value → Bool
  | .scalar a, .scalar b => a.same b
  | .list xs, .list ys => sameItems xs ys
  | .mapping _ es, .mapping _ fs => es.length == fs.length && sameEntries es fs
  | _, _ => false

/-- Equality of lists of values. -/
def sameItems : List Value → List Value → Bool
  | [], [] => true
  | x :: xs, y :: ys => same x y && sameItems xs ys
  | _, _ => false

/-- Whether each entry of one mapping has its equal in another. -/
def sameEntries : List (Scalar × Value) → List (Scalar × Value) → Bool
  | [], _ => true
  | (k, v) :: rest, fs =>
    (match Entries.get? fs k with | some w => same v w | none => false) && sameEntries rest fs

end

mutual

/-- The text of a value inside a list. -/
def quoted : Value → Except Integer.Fault Text
  | .scalar s => s.quoted
  | .list items => do
    let parts ← quotedItems items
    return Text.of "[" ++ Text.join (Text.of ", ") parts ++ Text.of "]"
  | .mapping _ es => do
    let parts ← quotedEntries es
    return Text.of "\x7b" ++ Text.join (Text.of ", ") parts ++ Text.of "\x7d"

def quotedItems : List Value → Except Integer.Fault (List Text)
  | [] => .ok []
  | x :: xs => do
    let t ← quoted x
    let ts ← quotedItems xs
    return t :: ts

def quotedEntries : List (Scalar × Value) → Except Integer.Fault (List Text)
  | [] => .ok []
  | (k, v) :: rest => do
    let a ← k.quoted
    let b ← quoted v
    let ts ← quotedEntries rest
    return (a ++ Text.of ": " ++ b) :: ts

end

def display : Value → Except Integer.Fault Text
  | .scalar s => s.display
  | v => v.quoted

mutual

def plain : Value → Value
  | .scalar s => .scalar s
  | .list items => .list (plainItems items)
  | .mapping _ es => .mapping .plain (plainEntries es)

def plainItems : List Value → List Value
  | [] => []
  | x :: xs => plain x :: plainItems xs

/-- The entries of a mapping with every mapping in them plain. -/
def plainEntries : List (Scalar × Value) → List (Scalar × Value)
  | [] => []
  | (k, v) :: rest => (k, plain v) :: plainEntries rest

end

end Value

end TemplatedNotes
