/-
  TemplatedNotes/Arguments.lean
  =============================
  **Argument objects: mappings whose keys are attributes.**

  The arguments of a section behave like the object literal they were read from: a key is reached
  as an item and, unless it starts with two underscores, as an attribute, in objects inside
  objects and lists too.  A key wins over a method of mappings with the same name.

  * `Arguments.wrap` makes every plain mapping in a value an argument object, stopping at those
    that are one already;
  * `Arguments.member`, `Arguments.item`, `setMember`, `setItem` and the two erasures are the
    accesses to one value, `Arguments.find` and `Arguments.alter` follow a path of them.
-/
import TemplatedNotes.Failure

namespace TemplatedNotes.Arguments

mutual

/-- A value in which every plain mapping outside argument objects has become one. -/
def wrap : Value → Value
  | .scalar s => .scalar s
  | .list items => .list (wrapItems items)
  | .mapping .plain es => .mapping .arguments (wrapEntries es)
  | .mapping .arguments es => .mapping .arguments es

def wrapItems : List Value → List Value
  | [] => []
  | v :: vs => wrap v :: wrapItems vs

def wrapEntries : List (Scalar × Value) → List (Scalar × Value)
  | [] => []
  | (k, v) :: rest => (k, wrap v) :: wrapEntries rest

end

/-- The argument object of a mapping's entries. -/
def ofEntries (es : Entries Value) : Value := .mapping .arguments (wrapEntries es)

/-- No arguments. -/
def empty : Value := .mapping .arguments []

/-- The argument object of a mapping, of either kind; any other value has no entries. -/
def ofValue : Value → Value
  | .mapping _ es => ofEntries es
  | _ => empty

def entriesOf : Value → Entries Value
  | .mapping _ es => es
  | _ => []

def templateKey : Text := Text.of "template"

/-- The script that arguments name, if they name one: a text that is not empty. -/
def template? (v : Value) : Option Text :=
  match Entries.get? (entriesOf v) (.text templateKey) with
  | some (.scalar (.text t)) => if t.isEmpty then none else some t
  | _ => none

def methodNames : List Text :=
  ["items", "keys", "get", "values", "pop", "update", "copy", "setdefault", "clear", "popitem",
    "fromkeys"].map Text.of

/-- Whether a name is left to the language: it starts with two underscores. -/
def isReserved (name : Text) : Bool := name.take 2 == Text.of "__"

/-- What an access finds: a value, or a method of a mapping. -/
inductive Found where
  | value (v : Value)
  | method (name : Text)

def Found.kindName : Found → Text
  | .value v => v.kindName
  | .method _ => Text.of "builtin_function_or_method"

/-- Reads an attribute. -/
def member (f : Found) (name : Text) : Outcome Found :=
  match f with
  | .value (.mapping .arguments es) =>
    match (if isReserved name then none else Entries.get? es (.text name)) with
    | some v => .ok (.value v)
    | none => if methodNames.contains name then .ok (.method name) else .error (.noArgument name)
  | .value (.mapping .plain _) =>
    if methodNames.contains name then .ok (.method name)
    else .error (.noAttribute f.kindName name)
  | _ => .error (.noAttribute f.kindName name)

/-- The place of an index in a sequence; negative indices count from the end. -/
def place? (length : Nat) (i : Int) : Option Nat :=
  let j := if i < 0 then i + length else i
  if 0 ≤ j ∧ j < length then some j.toNat else none

/-- One more than the greatest index that is tried. -/
def maxIndex : Nat := 0x8000000000000000

/-- The place of an index in a sequence, or a failure without one. -/
def place (length : Nat) (i : Int) (outside : Failure) : Outcome Nat :=
  if i < -(maxIndex : Int) ∨ (maxIndex : Int) ≤ i then .error .hugeIndex
  else
    match place? length i with
    | some n => .ok n
    | none => .error outside

/-- A key as the key of a mapping; only scalars are. -/
def hashable (k : Value) : Outcome Scalar :=
  match k with
  | .scalar s => .ok s
  | v => .error (.kind (.unhashable v.kindName))

def listPlace (length : Nat) (k : Value) : Outcome Nat :=
  match k with
  | .scalar s =>
    match s.int? with
    | some i => place length i .listIndex
    | none => .error (.kind (.badIndex (Text.of "list") k.kindName))
  | _ => .error (.kind (.badIndex (Text.of "list") k.kindName))

/-- The character that a key is the place of in a text. -/
def characterAt (t : Text) (k : Value) : Outcome Text :=
  let bad := Failure.kind (.badIndex (Text.of "string") k.kindName)
  match k with
  | .scalar s =>
    match s.int? with
    | some i => (place t.length i .textIndex).map (fun n => (t.drop n).take 1)
    | none => .error bad
  | _ => .error bad

/-- The byte that a key is the place of. -/
def byteAt (b : List UInt8) (k : Value) : Outcome Nat :=
  let bad := Failure.kind (.badIndex (Text.of "byte") k.kindName)
  match k with
  | .scalar s =>
    match s.int? with
    | some i => (place b.length i .bytesIndex).map (fun n => (b[n]?.getD 0).toNat)
    | none => .error bad
  | _ => .error bad

def item (f : Found) (k : Value) : Outcome Found :=
  match f with
  | .value (.mapping _ es) => do
    let key ← hashable k
    match Entries.get? es key with
    | some v => return .value v
    | none => throw (.noKey key)
  | .value (.list items) => do
    let n ← listPlace items.length k
    return .value (items[n]?.getD .null)
  | .value (.scalar (.text t)) => (characterAt t k).map (fun c => .value (.text c))
  | .value (.scalar (.bytes b)) => (byteAt b k).map (fun n => .value (.scalar (.int n)))
  | _ => .error (.kind (.notSubscriptable f.kindName))

def hasAttribute (f : Found) (name : Text) : Bool :=
  match member f name with
  | .ok _ => true
  | .error _ => false

/-- Whether a mapping has a key, a list an equal item, a text a part. -/
def contains (f : Found) (k : Value) : Outcome Bool :=
  match f with
  | .value (.mapping _ es) => (hashable k).map (fun key => Entries.has es key)
  | .value (.list items) => .ok (items.any (fun v => v.same k))
  | .value (.scalar (.text t)) =>
    match k with
    | .scalar (.text p) => .ok (Text.contains p t)
    | _ => .error (.kind (.notContained (Text.of "string") k.kindName))
  | _ => .error (.kind (.notSearchable f.kindName))

/-- A failed attempt to change an attribute of a value that has none of its own. -/
def fixedAttribute (f : Found) (name : Text) : Failure :=
  match f with
  | .value (.mapping .plain _) =>
    if methodNames.contains name then .fixedAttribute f.kindName name
    else .noAttribute f.kindName name
  | _ => .noAttribute f.kindName name

/-- Gives an attribute a value, which is wrapped first. -/
def setMember (name : Text) (new : Value) : Found → Outcome Value
  | .value (.mapping .arguments es) =>
    .ok (.mapping .arguments (Entries.set es (.text name) (wrap new)))
  | f => .error (fixedAttribute f name)

/-- Removes an attribute. -/
def eraseMember (name : Text) : Found → Outcome Value
  | .value (.mapping .arguments es) =>
    if Entries.has es (.text name) then .ok (.mapping .arguments (Entries.erase es (.text name)))
    else .error (.noArgument name)
  | f => .error (fixedAttribute f name)

/-- An index failure on a change of a list. -/
def onAssignment : Failure → Failure
  | .listIndex => .listAssignment
  | f => f

/-- Gives an item a value, which is stored as it is. -/
def setItem (k new : Value) : Found → Outcome Value
  | .value (.mapping kind es) =>
    (hashable k).map (fun key => .mapping kind (Entries.set es key new))
  | .value (.list items) =>
    match listPlace items.length k with
    | .ok n => .ok (.list (items.set n new))
    | .error f => .error (onAssignment f)
  | f => .error (.kind (.noItemAssignment f.kindName))

/-- Whether a value is a sequence whose items cannot change. -/
def isFixedSequence : Found → Bool
  | .value (.scalar (.text _)) => true
  | .value (.scalar (.bytes _)) => true
  | _ => false

def isIndex : Value → Bool
  | .scalar s => s.int?.isSome
  | _ => false

def eraseItem (k : Value) : Found → Outcome Value
  | .value (.mapping kind es) => do
    let key ← hashable k
    if Entries.has es key then return .mapping kind (Entries.erase es key)
    else throw (.noKey key)
  | .value (.list items) =>
    match listPlace items.length k with
    | .ok n => .ok (.list (items.eraseIdx n))
    | .error f => .error (onAssignment f)
  | f => .error (.kind (.noItemDeletion f.kindName (isFixedSequence f && isIndex k)))

/-! ### Paths -/

/-- One step on the way to a part of a value. -/
inductive Step where
  | member (name : Text)
  | item (key : Value)

/-- What a step leads to. -/
def Step.find (f : Found) : Step → Outcome Found
  | .member name => Arguments.member f name
  | .item k => Arguments.item f k

/-- What a path leads to. -/
def find (f : Found) : List Step → Outcome Found
  | [] => .ok f
  | s :: rest => do
    let g ← s.find f
    find g rest

/-- A value in which the part that a step leads to has been replaced. -/
def Step.replace (v : Value) (part : Value) : Step → Value
  | .member name =>
    match v with
    | .mapping kind es => .mapping kind (Entries.set es (.text name) part)
    | v => v
  | .item k =>
    match v, k with
    | .mapping kind es, .scalar key => .mapping kind (Entries.set es key part)
    | .list items, k =>
      match listPlace items.length k with
      | .ok n => .list (items.set n part)
      | .error _ => v
    | v, _ => v

/-- Applies a change to what a path leads to and puts the result in its place. -/
def alter (change : Found → Outcome Value) (v : Value) : List Step → Outcome Value
  | [] => change (.value v)
  | s :: rest => do
    match ← s.find (.value v) with
    | .value part =>
      let new ← alter change part rest
      return s.replace v new
    | .method name =>
      let f ← find (.method name) rest
      let _ ← change f
      return v

end TemplatedNotes.Arguments
