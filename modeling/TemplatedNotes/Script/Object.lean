/-
  TemplatedNotes/Script/Object.lean
  =================================
  **What scripts can ask of a value.**

  The functions here look at a memory and do not change it: the kind and the truth of a value, its
  text, equality, its items and its length.  Values may contain themselves; the text of a value
  inside itself is shortened, and `Memory.maxDepth` bounds how deep two values are compared.
-/
import TemplatedNotes.Runtime
import TemplatedNotes.Script.Memory

namespace TemplatedNotes.Script

def Builtin.kindName : Builtin → Text
  | .require _ => Text.of "ModuleLoader"
  | .render _ => Text.of "function"
  | .index _ => Text.of "CurrentDocumentProxy"
  | .current _ => Text.of "function"
  | .page => Text.of "method"
  | .pages => Text.of "method"
  | .mappingMethod _ _ => Text.of "builtin_function_or_method"
  | .pageGet _ => Text.of "method"
  | .upper _ => Text.of "builtin_function_or_method"
  | .math => Text.of "module"
  | .gcd => Text.of "builtin_function_or_method"
  | .notFoundKind => Text.of "type"

def Cell.kindName : Cell → Text
  | .list _ => Text.of "list"
  | .mapping .plain _ => Text.of "dict"
  | .mapping .arguments _ => Text.of "TemplateArguments"
  | .page _ => Text.of "PageInfo"
  | .module _ => Text.of "module"
  | .function _ _ _ _ => Text.of "function"
  | .waiting _ _ _ _ => Text.of "coroutine"
  | .unshowable _ => Text.of "Broken"
  | .frame _ => Text.of "frame"

/-- What a whole number can be made from. -/
def ofFault {α : Type} : Except Integer.Fault α → Outcome α
  | .ok a => .ok a
  | .error f => .error (.integer f)

namespace Memory

def kindName (m : Memory) : Handle → Text
  | .scalar s => s.kindName
  | .builtin b => b.kindName
  | .ref n => (m.cell n).kindName

def isTrue (m : Memory) : Handle → Bool
  | .scalar s => s.isTrue
  | .builtin _ => true
  | .ref n =>
    match m.cell n with
    | .list items => !items.isEmpty
    | .mapping _ es => !es.isEmpty
    | _ => true

def namesOf (m : Memory) (n : Nat) : Bindings :=
  match m.cell n with
  | .frame f => f.names
  | _ => []

/-! ### Texts -/

def inAngles (t : Text) : Text := Text.of "<" ++ t ++ Text.of ">"

def moduleText (names : Bindings) (n : String) : Text :=
  match names.lookup (Text.of n) with
  | some (.scalar (.text t)) => Quoted.encode t
  | _ => Text.of "None"

/-- The text of a value inside a list, where the cells in `above` are being shown around it; at
    most `depth` cells are shown one inside the other. -/
def quoted (m : Memory) : Nat → List Nat → Handle → Outcome Text
  | _, _, .scalar s => ofFault s.quoted
  | _, _, .builtin b => .ok (inAngles b.kindName)
  | 0, _, .ref _ => .error .nesting
  | depth + 1, above, .ref n =>
    match m.cell n with
    | .list items =>
      if n ∈ above then .ok (Text.of "[...]")
      else do
        let ts ← items.mapM (m.quoted depth (n :: above))
        return Text.of "[" ++ Text.join (Text.of ", ") ts ++ Text.of "]"
    | .mapping _ es =>
      if n ∈ above then .ok (Text.of "\x7b...\x7d")
      else do
        let ts ← es.mapM (fun e => do
          let k ← ofFault e.1.quoted
          let v ← m.quoted depth (n :: above) e.2
          return k ++ Text.of ": " ++ v)
        return Text.of "\x7b" ++ Text.join (Text.of ", ") ts ++ Text.of "\x7d"
    | .page fields => do
      let ts ← fields.mapM (fun e => do
        let v ← m.quoted depth (n :: above) e.2
        return e.1 ++ Text.of "=" ++ v)
      return Text.of "PageInfo(" ++ Text.join (Text.of ", ") ts ++ Text.of ")"
    | .module frame =>
      let names := m.namesOf frame
      .ok (inAngles (Text.of "module " ++ moduleText names "__name__" ++ Text.of " from " ++
        moduleText names "__file__"))
    | c => .ok (inAngles c.kindName)

def quotedText (m : Memory) (h : Handle) : Outcome Text := m.quoted (m.cells.size + 1) [] h

def display (m : Memory) (h : Handle) : Outcome Text :=
  match h with
  | .scalar s => ofFault s.display
  | .builtin _ => m.quotedText h
  | .ref n =>
    match m.cell n with
    | .unshowable t => .error (.unshowable t)
    | .page fields => do
      let ts ← fields.mapM (fun e => do
        let v ← m.quotedText e.2
        return e.1 ++ Text.of "=" ++ v)
      return Text.join (Text.of " ") ts
    | _ => m.quotedText h

/-- The text that a script's result is in a note: nothing for nothing, bytes decoded. -/
def output (m : Memory) (h : Handle) : Outcome (Option Text) :=
  match h with
  | .scalar .null => .ok none
  | .scalar (.bytes b) =>
    match Utf8.decode b with
    | .ok t => .ok (some t)
    | .error f => .error (.undecodable f)
  | h => (m.display h).map some

/-! ### Equality -/

def sameItems (same : Handle → Handle → Outcome Bool) : List Handle → List Handle → Outcome Bool
  | [], [] => .ok true
  | x :: xs, y :: ys => do if ← same x y then sameItems same xs ys else return false
  | _, _ => .ok false

/-- Whether each entry of one mapping has its equal in another. -/
def sameEntries (same : Handle → Handle → Outcome Bool) (fs : Entries Handle) :
    Entries Handle → Outcome Bool
  | [] => .ok true
  | (k, v) :: rest =>
    match fs.get? k with
    | some w => do if ← same v w then sameEntries same fs rest else return false
    | none => .ok false

/-- Equality of values, compared to a depth; what has no parts is equal to itself alone. -/
def sameTo (m : Memory) : Nat → Handle → Handle → Outcome Bool
  | _, .scalar a, .scalar b => .ok (a.same b)
  | 0, .ref _, .ref _ => .error .nesting
  | depth + 1, .ref i, .ref j =>
    if i = j then .ok true
    else
      match m.cell i, m.cell j with
      | .list xs, .list ys => sameItems (m.sameTo depth) xs ys
      | .mapping _ es, .mapping _ fs =>
        if es.length = fs.length then sameEntries (m.sameTo depth) fs es else .ok false
      | .page es, .page fs => sameItems (m.sameTo depth) (es.map (·.2)) (fs.map (·.2))
      | _, _ => .ok false
  | _, .builtin a, .builtin b => .ok (a = b)
  | _, _, _ => .ok false

variable [Runtime]

def maxDepth : Nat := Runtime.valueDepth

def same (m : Memory) (a b : Handle) : Outcome Bool := m.sameTo maxDepth a b

/-! ### Parts -/

def items (m : Memory) (h : Handle) : Outcome (List Handle) :=
  let refused := Failure.kind (.notIterable (m.kindName h))
  match h with
  | .scalar (.text t) => .ok (t.map (fun c => .text [c]))
  | .scalar (.bytes b) => .ok (b.map (fun x => .nat x.toNat))
  | .ref n =>
    match m.cell n with
    | .list items => .ok items
    | .mapping _ es => .ok (es.map (fun e => .scalar e.1))
    | _ => .error refused
  | _ => .error refused

def length (m : Memory) (h : Handle) : Outcome Nat :=
  match m.items h with
  | .ok items => .ok items.length
  | .error _ => .error (.kind (.noLength (m.kindName h)))

def keyOf (m : Memory) (h : Handle) : Outcome Scalar :=
  match h with
  | .scalar s => .ok s
  | h => .error (.kind (.unhashable (m.kindName h)))

def placeOf (m : Memory) (length : Nat) (h : Handle) : Outcome Nat :=
  match h with
  | .scalar s => Arguments.listPlace length (.scalar s)
  | h => .error (.kind (.badIndex (Text.of "list") (m.kindName h)))

def scalarItem (s : Scalar) (key : Handle) (keyKind : Text) : Outcome Handle :=
  match s, key with
  | .text t, .scalar k => (Arguments.characterAt t (.scalar k)).map Handle.text
  | .bytes b, .scalar k => (Arguments.byteAt b (.scalar k)).map Handle.nat
  | .text _, _ => .error (.kind (.badIndex (Text.of "string") keyKind))
  | .bytes _, _ => .error (.kind (.badIndex (Text.of "byte") keyKind))
  | s, _ => .error (.kind (.notSubscriptable s.kindName))

/-- An item of what a cell holds; the items of a page are those of its frontmatter. -/
def cellItem (m : Memory) (c : Cell) (key : Handle) : Outcome Handle :=
  match c with
  | .list items => do
    let n ← m.placeOf items.length key
    return items[n]?.getD .null
  | .mapping _ es => do
    let k ← m.keyOf key
    match es.get? k with
    | some h => return h
    | none => throw (.noKey k)
  | c => .error (.kind (.notSubscriptable c.kindName))

def frontmatterOf (fields : Bindings) : Handle := (fields.lookup (Text.of "frontmatter")).getD .null

def item (m : Memory) (h key : Handle) : Outcome Handle :=
  match h with
  | .scalar s => scalarItem s key (m.kindName key)
  | .builtin b => .error (.kind (.notSubscriptable b.kindName))
  | .ref n =>
    match m.cell n with
    | .page fields =>
      match frontmatterOf fields with
      | .scalar s => scalarItem s key (m.kindName key)
      | .builtin b => .error (.kind (.notSubscriptable b.kindName))
      | .ref f => m.cellItem (m.cell f) key
    | c => m.cellItem c key

/-- The value of a key of a mapping, or another value. -/
def getOr (m : Memory) (mapping : Handle) (key default : Handle) : Outcome Handle :=
  match mapping with
  | .ref n =>
    match m.cell n with
    | .mapping _ es => (m.keyOf key).map (fun k => (es.get? k).getD default)
    | c => .error (.noAttribute c.kindName (Text.of "get"))
  | h => .error (.noAttribute (m.kindName h) (Text.of "get"))

def addNumbers (a b : Scalar) : Outcome (Option Scalar) :=
  let wide (n : Int) : Outcome Binary64 :=
    match Binary64.ofInt? n with
    | some x => .ok x
    | none => .error .hugeInteger
  match a, b, a.int?, b.int? with
  | _, _, some m, some n => .ok (some (.int (m + n)))
  | .float x, .float y, _, _ => .ok (some (.float (x.add y)))
  | .float x, _, _, some n => (wide n).map (fun y => some (.float (x.add y)))
  | _, .float y, some m, _ => (wide m).map (fun x => some (.float (x.add y)))
  | _, _, _, _ => .ok none

/-- The failure of a value of a kind that is added to bytes. -/
def notBytes (kind : Text) : Failure :=
  .kind (.wrongArguments (Text.of "can't concat " ++ kind ++ Text.of " to bytes"))

/-- The sum of two scalars: of numbers, and of texts or bytes one after the other. -/
def addScalars (a b : Scalar) : Outcome Scalar :=
  match a, b with
  | .text s, .text t => .ok (.text (s ++ t))
  | .text _, b => .error (.kind (.badConcat (Text.of "str") b.kindName))
  | .bytes s, .bytes t => .ok (.bytes (s ++ t))
  | .bytes _, b => .error (notBytes b.kindName)
  | a, b => do
    match ← addNumbers a b with
    | some s => return s
    | none => throw (.kind (.badOperands a.kindName b.kindName))

def list? (m : Memory) : Handle → Option (List Handle)
  | .ref n => match m.cell n with | .list items => some items | _ => none
  | _ => none

end Memory

namespace Run

/-- Looks at the memory. -/
def look {α : Type} (f : Memory → Outcome α) : Run α := do
  let m ← get
  Action.lift (f m)

/-- The sum of two values, a new list for two lists. -/
def add (a b : Handle) : Run Handle := do
  let m ← get
  match a, b with
  | .scalar s, .scalar t => return .scalar (← ofOutcome (Memory.addScalars s t))
  | a, b =>
    match m.list? a, m.list? b, a with
    | some xs, some ys, _ => make (.list (xs ++ ys))
    | some _, none, _ => throw (.kind (.badConcat (Text.of "list") (m.kindName b)))
    | none, _, .scalar (.text _) => throw (.kind (.badConcat (Text.of "str") (m.kindName b)))
    | none, _, .scalar (.bytes _) => throw (Memory.notBytes (m.kindName b))
    | none, _, _ => throw (.kind (.badOperands (m.kindName a) (m.kindName b)))

/-- The value in which every plain mapping outside argument objects has become one; lists are
    copied, argument objects are kept. -/
def wrapTo : Nat → Handle → Run Handle
  | _, .scalar s => return .scalar s
  | _, .builtin b => return .builtin b
  | 0, .ref _ => throw .nesting
  | depth + 1, .ref n => do
    match ← cell n with
    | .list items =>
      let hs ← items.mapM (wrapTo depth)
      make (.list hs)
    | .mapping .plain es =>
      let hs ← es.mapM (fun e => do return (e.1, ← wrapTo depth e.2))
      make (.mapping .arguments hs)
    | _ => return .ref n

def wrap (h : Handle) : Run Handle := do wrapTo ((← get).cells.size + 1) h

def argumentObject (es : Entries Handle) : Run Nat := do
  let hs ← es.mapM (fun e => do return (e.1, ← wrap e.2))
  alloc (.mapping .arguments hs)

end Run

end TemplatedNotes.Script
