/-
  TemplatedNotes/Yaml/Value.lean
  ==============================
  **The value of a YAML document.**

  Scalars become values by their kind; a merge key (`<<`) brings the pairs of other mappings in
  front of a mapping's own.  Keys are scalars, and a repeated key keeps its first place and its
  last value.  A set is the list of its keys, and an ordered mapping a list of pairs.  A node that
  contains itself has no value.

  A document is malformed when a kind is unknown, does not fit its node, or a key is a collection;
  a date out of range or a number too long fails in its own way.  Of several faults the one nearest
  the root counts, and on one level the first (`Node.check`).
-/
import TemplatedNotes.Yaml.Node
import TemplatedNotes.Yaml.Base64
import TemplatedNotes.Number.Decimal

namespace TemplatedNotes.Yaml

/-! ### Scalars -/

namespace Tag

def dropMarks (t : Text) : Text := t.filter (· != .scalar '_')

def wholeNumber (base : Nat) (t : Text) : Reading Int :=
  match Integer.read base t with
  | .ok n => .ok n
  | .error f => .error (.failure (.integer f))

def fractionNumber (t : Text) : Reading Binary64 :=
  match Decimal.read? t with
  | some x => .ok x
  | none => .error (.failure (.fraction t))

/-- A whole number: binary, octal or hexadecimal by its start, in base sixty with colons. -/
def intValue (t : Text) : Reading Int := do
  let body := dropMarks t
  let digits := unsigned body
  let negate (n : Int) : Int := if body.head? == some '-' then -n else n
  match body, digits with
  | [], _ => throw (.failure .textIndex)
  | _, [] => throw (.failure .textIndex)
  | _, [.scalar '0'] => return 0
  | _, .scalar '0' :: .scalar 'b' :: rest => return negate (← wholeNumber 2 rest)
  | _, .scalar '0' :: .scalar 'x' :: rest => return negate (← wholeNumber 16 rest)
  | _, .scalar '0' :: _ => return negate (← wholeNumber 8 digits)
  | _, _ =>
    if (CodePoint.scalar ':') ∈ digits then
      let parts ← (colonParts digits).mapM (wholeNumber 10)
      return negate (parts.foldl (fun n d => n * 60 + d) 0)
    else return negate (← wholeNumber 10 digits)

/-- The sum of the parts of a fraction in base sixty, the last part first. -/
def sumParts (base : Int) (total : Binary64) : List Binary64 → Reading Binary64
  | [] => .ok total
  | d :: rest =>
    match Binary64.ofInt? base with
    | some b => sumParts (base * 60) (total.add (d.mul b)) rest
    | none => .error (.failure .hugeInteger)

/-- A fraction, in base sixty with colons. -/
def floatValue (t : Text) : Reading Binary64 := do
  let body := Text.lower (dropMarks t)
  let digits := unsigned body
  let negate (x : Binary64) : Binary64 := if body.head? == some '-' then x.neg else x
  if body.isEmpty then throw (.failure .textIndex)
  else if digits = Text.of ".inf" then return negate (.infinite false)
  else if digits = Text.of ".nan" then return .nan
  else if (CodePoint.scalar ':') ∈ digits then
    let parts ← (colonParts digits).mapM fractionNumber
    return negate (← sumParts 1 (.zero false) parts.reverse)
  else return negate (← fractionNumber digits)

/-- The number that the digits of a timestamp's part denote. -/
def partValue (t : Text) : Nat := Integer.ofDigits 10 (t.filterMap CodePoint.digitValue?)

def zoneOffset (zone : Text) : Int :=
  match zone with
  | .scalar 'Z' :: _ => 0
  | s :: rest =>
    let (hours, minutes) := match takeDigits 1 2 rest with
      | some (h, after) => (partValue h, partValue (after.drop 1))
      | none => (0, 0)
    let n : Int := hours * 60 + minutes
    if s == '-' then -n else n
  | [] => 0

def timestampValue (t : Text) : Reading Scalar :=
  let checked {α : Type} (f : α → Scalar) (r : Except CalendarFault α) : Reading Scalar :=
    match r with
    | .ok a => .ok (f a)
    | .error e => .error (.failure (.calendar e))
  match stamp? t with
  | none => .error (.failure (.noAttribute (Text.of "NoneType") (Text.of "groupdict")))
  | some s =>
    let date : Date := ⟨partValue s.year, partValue s.month, partValue s.day⟩
    match s.clock with
    | none => checked .date date.check
    | some (h, m, sec) =>
      let digits := s.fraction.take 6
      let micro := partValue (digits ++ List.replicate (6 - digits.length) (.scalar '0'))
      let time : DateTime :=
        ⟨date, partValue h, partValue m, partValue sec, micro, s.zone.map zoneOffset⟩
      checked .dateTime time.check

def boolValue (t : Text) : Reading Bool :=
  let word := Text.lower t
  match truthWords.find? (fun w => Text.of w.1 == word) with
  | some w => .ok w.2
  | none => .error (.failure (.noKey (.text word)))

def binaryValue (t : Text) : Reading (List UInt8) :=
  if t.any (fun c => 128 ≤ c.value) then .error .malformed
  else match Base64.decode? t with
    | some b => .ok b
    | none => .error .malformed

def scalarValue (t : Text) : Tag → Reading Scalar
  | .null => .ok .null
  | .bool => (boolValue t).map .bool
  | .int => (intValue t).map .int
  | .float => (floatValue t).map .float
  | .binary => (binaryValue t).map .bytes
  | .timestamp => timestampValue t
  | .str => .ok (.text t)
  | _ => .error .malformed

def isCollection : Tag → Bool
  | .seq | .map | .set | .omap | .pairs => true
  | _ => false

end Tag

namespace Node

/-! ### Merge keys -/

/-- Whether a node is a scalar or sequence of a kind, or a mapping of it. -/
def hasTag (tag : Tag) : Node → Bool
  | .scalar t _ => t == tag
  | .sequence t _ => t == tag
  | .mapping t _ => t == tag
  | .invalid => false

/-- A key of the kind `=` is a text. -/
def asKey : Node → Node
  | .scalar .value t => .scalar .str t
  | n => n

def pairs? : Node → Option (List (Node × Node))
  | .mapping _ pairs => some pairs
  | _ => none

/-- The pairs that a merge key's value brings: those of a mapping, or of a list of mappings with
    the last one first. -/
def mergedPairs : Node → Option (List (Node × Node))
  | .mapping _ pairs => some pairs
  | .sequence _ items =>
    (items.reverse.mapM pairs?).map List.flatten
  | _ => none

def mergePairs (pairs : List (Node × Node)) : Option (List (Node × Node)) :=
  let isMerge (p : Node × Node) : Bool := p.1.hasTag .merge
  let own := (pairs.filter (fun p => !isMerge p)).map (fun p => (p.1.asKey, p.2))
  ((pairs.filter isMerge).mapM (fun p => mergedPairs p.2)).map (fun m => m.flatten ++ own)

mutual

/-- A tree without merge keys. -/
def merged : Node → Node
  | .scalar tag t => .scalar tag t
  | .sequence tag items => .sequence tag (mergedItems items)
  | .mapping tag pairs =>
    match mergePairs (mergedChildren pairs) with
    | some all => .mapping tag all
    | none => .invalid
  | .invalid => .invalid

def mergedItems : List Node → List Node
  | [] => []
  | n :: ns => merged n :: mergedItems ns

/-- The pairs of a mapping, merge keys inside them resolved. -/
def mergedChildren : List (Node × Node) → List (Node × Node)
  | [] => []
  | (k, v) :: rest => (merged k, merged v) :: mergedChildren rest

end

/-! ### Faults, nearest the root first -/

/-- Looks at one node: a scalar has to have its value, a collection a known kind. -/
def visit : Node → Reading (List Node)
  | .scalar tag t =>
    if tag.isCollection then .ok [.scalar tag t] else (tag.scalarValue t).map (fun _ => [])
  | .sequence tag items => if tag.isCollection then .ok [.sequence tag items] else .error .malformed
  | .mapping tag pairs => if tag.isCollection then .ok [.mapping tag pairs] else .error .malformed
  | .invalid => .ok [.invalid]

/-- Looks at the pairs of a mapping; a key has to be a scalar. -/
def visitPairs : List (Node × Node) → Reading (List Node)
  | [] => .ok []
  | (k, v) :: rest => do
    match k with
    | .scalar tag t =>
      if tag.isCollection then throw .malformed
      else
        let _ ← tag.scalarValue t
    | _ => throw .malformed
    let below ← visit v
    let more ← visitPairs rest
    return below ++ more

/-- Looks at an item of an ordered mapping: a mapping of one key, which can be a collection. -/
def visitPair : Node → Reading (List Node)
  | .mapping _ [(k, v)] => do return (← visit k) ++ (← visit v)
  | _ => .error .malformed

/-- Looks at the parts of a collection and gives the collections among them. -/
def parts : Node → Reading (List Node)
  | .sequence .seq items => (items.mapM visit).map List.flatten
  | .mapping .map pairs => visitPairs pairs
  | .mapping .set pairs => visitPairs pairs
  | .sequence .omap items => (items.mapM visitPair).map List.flatten
  | .sequence .pairs items => (items.mapM visitPair).map List.flatten
  | _ => .error .malformed

/-- Looks at collections level by level, `depth` levels at most. -/
def checkLevels : Nat → List Node → Reading Unit
  | 0, _ => .ok ()
  | depth + 1, level => do
    let below ← level.mapM parts
    if below.flatten.isEmpty then return () else checkLevels depth below.flatten

/-- Finds the first fault of a tree that is nested up to a depth. -/
def check (depth : Nat) (n : Node) : Reading Unit := do
  let top ← visit n
  checkLevels (depth + 1) top

/-! ### Values -/

def keyValue : Node → Scalar
  | .scalar tag t =>
    match tag.scalarValue t with
    | .ok s => s
    | .error _ => .null
  | _ => .null

mutual

def value : Node → Value
  | .scalar tag t =>
    match tag.scalarValue t with
    | .ok s => .scalar s
    | .error _ => .null
  | .sequence .omap items => .list (pairValues items)
  | .sequence .pairs items => .list (pairValues items)
  | .sequence _ items => .list (values items)
  | .mapping .set pairs => .list ((Entries.ofList (entries pairs)).map (fun e => .scalar e.1))
  | .mapping _ pairs => .dict (Entries.ofList (entries pairs))
  | .invalid => .null

def values : List Node → List Value
  | [] => []
  | n :: ns => value n :: values ns

def pairValues : List Node → List Value
  | .mapping _ [(k, v)] :: ns => .list [value k, value v] :: pairValues ns
  | _ :: ns => pairValues ns
  | [] => []

def entries : List (Node × Node) → List (Scalar × Value)
  | [] => []
  | (k, v) :: rest => (k.keyValue, value v) :: entries rest

end

end Node

/-- The value of the only document of a text, nested up to a depth; nothing without a document. -/
def load (depth : Nat) (t : Text) : Reading Value := do
  match ← Node.read? depth t with
  | none => return .null
  | some n =>
    let n := n.merged
    n.check depth
    return n.value

end TemplatedNotes.Yaml
