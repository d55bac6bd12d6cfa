/-
  TemplatedNotes/Yaml/Node.lean
  =============================
  **The tree of a YAML document.**

  A node is a scalar, a sequence or a mapping, each with its kind; aliases stand for the nodes
  that their anchors name.  `Node.read?` builds the tree of the only document of a text, or none
  for a text without one.

  A reader takes the tokens that remain with the anchors and tag handles known so far.  Nesting is
  bounded, and every loop takes at least one token a round.
-/
import TemplatedNotes.Yaml.Layout
import TemplatedNotes.Yaml.Tag

namespace TemplatedNotes.Yaml

/-- A node; `invalid` is a mapping whose merged parts are no mappings. -/
inductive Node where
  | scalar (tag : Tag) (text : Text)
  | sequence (tag : Tag) (items : List Node)
  | mapping (tag : Tag) (pairs : List (Node × Node))
  | invalid

/-- The tokens that remain, the fault after the last one if there is one, the nodes by their
    anchors (none while a node is being read), and the tag handles. -/
structure Supply where
  tokens : List Token
  fault : Option Fault
  anchors : List (Text × Option Node)
  handles : List (Text × Text)

abbrev NodeReader (α : Type) := Supply → Reading (α × Supply)

namespace Supply

/-- The next token, none at the end. -/
def peek (s : Supply) : Reading (Option Token) :=
  match s.tokens, s.fault with
  | t :: _, _ => .ok (some t)
  | [], some f => .error f
  | [], none => .ok none

def next (s : Supply) : Supply := { s with tokens := s.tokens.tail }

def isAt (s : Supply) (ts : List Token) : Reading Bool := do
  match ← s.peek with
  | some t => return ts.contains t
  | none => return false

/-- Reserves an anchor for the node that follows. -/
def reserve (s : Supply) : Option Text → Reading Supply
  | none => .ok s
  | some a =>
    if s.anchors.any (·.1 == a) then .error .malformed
    else .ok { s with anchors := (a, none) :: s.anchors }

def bind (s : Supply) (n : Node) : Option Text → Supply
  | none => s
  | some a =>
    { s with anchors := s.anchors.map (fun p => if p.1 == a then (a, some n) else p) }

def aliased (s : Supply) (name : Text) : Reading Node :=
  match s.anchors.find? (·.1 == name) with
  | some (_, some n) => .ok n
  | _ => .error .malformed

/-- The full form of a tag; an exclamation mark alone leaves the kind open. -/
def fullTag (s : Supply) (handle : Option Text) (suffix : Text) : Reading Text :=
  match handle with
  | none => .ok suffix
  | some h =>
    match s.handles.find? (·.1 == h) with
    | some (_, base) => .ok (base ++ suffix)
    | none => .error .malformed

end Supply

/-- The nothing that stands where a node was left out. -/
def Node.absent : Node := .scalar .null []

namespace NodeReader

/-- An anchor and a tag before a node, in either order. -/
def properties : NodeReader (Option Text × Option Text) := fun s => do
  let (anchor, s) ← match ← s.peek with
    | some (.anchor a) => pure (some a, s.next)
    | _ => pure (none, s)
  let (tag, s) ← match ← s.peek with
    | some (.tag h x) => do
      let t ← s.fullTag h x
      pure (some t, s.next)
    | _ => pure (none, s)
  if anchor.isNone && tag.isSome then
    match ← s.peek with
    | some (.anchor a) => return ((some a, tag), s.next)
    | _ => return ((none, tag), s)
  else return ((anchor, tag), s)

/-- The node, or nothing when one of some tokens stands here. -/
def orAbsent (reader : NodeReader Node) (stops : List Token) : NodeReader Node := fun s => do
  if ← s.isAt stops then return (.absent, s) else reader s

/-- The value after a key, nothing without one. -/
def valueOf (reader : NodeReader Node) (stops : List Token) : NodeReader Node := fun s => do
  if ← s.isAt [.value] then orAbsent reader stops s.next else return (.absent, s)

def blockItems (item : NodeReader Node) : Nat → NodeReader (List Node)
  | 0, _ => .error .malformed
  | fuel + 1, s => do
    match ← s.peek with
    | some .blockEntry =>
      let (x, s) ← orAbsent item [.blockEntry, .blockEnd] s.next
      let (xs, s) ← blockItems item fuel s
      return (x :: xs, s)
    | some .blockEnd => return ([], s.next)
    | _ => throw .malformed

/-- The entries of a block sequence that is not indented under its key. -/
def flushItems (item : NodeReader Node) : Nat → NodeReader (List Node)
  | 0, _ => .error .malformed
  | fuel + 1, s => do
    match ← s.peek with
    | some .blockEntry =>
      let (x, s) ← orAbsent item [.blockEntry, .key, .value, .blockEnd] s.next
      let (xs, s) ← flushItems item fuel s
      return (x :: xs, s)
    | _ => return ([], s)

def blockPairs (item : NodeReader Node) : Nat → NodeReader (List (Node × Node))
  | 0, _ => .error .malformed
  | fuel + 1, s => do
    match ← s.peek with
    | some .key =>
      let stops := [.key, .value, .blockEnd]
      let (k, s) ← orAbsent item stops s.next
      let (v, s) ← valueOf item stops s
      let (rest, s) ← blockPairs item fuel s
      return ((k, v) :: rest, s)
    | some .blockEnd => return ([], s.next)
    | _ => throw .malformed

/-- The supply after the comma between two entries of a flow collection. -/
def separator (first : Bool) (s : Supply) : Reading Supply := do
  if first then return s
  else if ← s.isAt [.flowEntry] then return s.next
  else throw .malformed

/-- The entries of a flow sequence; a pair among them is a mapping of its own. -/
def flowItems (item : NodeReader Node) : Nat → Bool → NodeReader (List Node)
  | 0, _, _ => .error .malformed
  | fuel + 1, first, s => do
    if ← s.isAt [.flowSequenceEnd] then return ([], s.next)
    else
      let s ← separator first s
      match ← s.peek with
      | some .flowSequenceEnd => return ([], s.next)
      | some .key =>
        let (k, s) ← orAbsent item [.value, .flowEntry, .flowSequenceEnd] s.next
        let (v, s) ← valueOf item [.flowEntry, .flowSequenceEnd] s
        let (rest, s) ← flowItems item fuel false s
        return (.mapping .map [(k, v)] :: rest, s)
      | _ =>
        let (x, s) ← item s
        let (rest, s) ← flowItems item fuel false s
        return (x :: rest, s)

/-- The pairs of a flow mapping; an entry without a key mark has no value. -/
def flowPairs (item : NodeReader Node) : Nat → Bool → NodeReader (List (Node × Node))
  | 0, _, _ => .error .malformed
  | fuel + 1, first, s => do
    if ← s.isAt [.flowMappingEnd] then return ([], s.next)
    else
      let s ← separator first s
      match ← s.peek with
      | some .flowMappingEnd => return ([], s.next)
      | some .key =>
        let (k, s) ← orAbsent item [.value, .flowEntry, .flowMappingEnd] s.next
        let (v, s) ← valueOf item [.flowEntry, .flowMappingEnd] s
        let (rest, s) ← flowPairs item fuel false s
        return ((k, v) :: rest, s)
      | _ =>
        let (x, s) ← item s
        let (rest, s) ← flowPairs item fuel false s
        return ((x, .absent) :: rest, s)

/-- Where a node stands: in a flow collection, in a block, or after a key of a block mapping,
    where a sequence need not be indented. -/
inductive Place where
  | flow
  | block
  | underKey
deriving DecidableEq

/-- The kind of a collection: its tag's, or the usual one. -/
def collectionTag (usual : Tag) : Option Text → Tag
  | none => usual
  | some t => if t = Text.of "!" then usual else .ofUri t

/-- The kind of a scalar: its tag's; without one a plain scalar's by its looks and a text else. -/
def scalarTag (text : Text) (plain : Bool) : Option Text → Tag
  | none => if plain then .ofPlain text else .str
  | some t => if t = Text.of "!" then .ofPlain text else .ofUri t

def node : Nat → Place → NodeReader Node
  | 0, _, _ => .error (.failure .nesting)
  | depth + 1, place, s => do
    match ← s.peek with
    | some (.alias name) => return (← s.aliased name, s.next)
    | _ =>
      let ((anchor, tag), s) ← properties s
      let s ← s.reserve anchor
      let fuel := s.tokens.length + 1
      let (n, s) ← match ← s.peek with
        | some (.scalar text plain) => pure (.scalar (scalarTag text plain tag) text, s.next)
        | some .flowSequenceStart => do
          let (items, s) ← flowItems (node depth .flow) fuel true s.next
          pure (.sequence (collectionTag .seq tag) items, s)
        | some .flowMappingStart => do
          let (pairs, s) ← flowPairs (node depth .flow) fuel true s.next
          pure (.mapping (collectionTag .map tag) pairs, s)
        | t => do
          if t == some .blockEntry && place == .underKey then
            let (items, s) ← flushItems (node depth .block) fuel s
            pure (.sequence (collectionTag .seq tag) items, s)
          else if t == some .blockSequenceStart && place != .flow then
            let (items, s) ← blockItems (node depth .block) fuel s.next
            pure (.sequence (collectionTag .seq tag) items, s)
          else if t == some .blockMappingStart && place != .flow then
            let (pairs, s) ← blockPairs (node depth .underKey) fuel s.next
            pure (.mapping (collectionTag .map tag) pairs, s)
          else if anchor.isSome || tag.isSome then
            pure (.scalar (scalarTag [] true tag) [], s)
          else throw .malformed
      return (n, s.bind n anchor)

end NodeReader

namespace Supply

/-- The handles that need no directive. -/
def usualHandles : List (Text × Text) := [(Text.of "!", Text.of "!"), (Text.of "!!", Tag.base)]

/-- Reads the directives before a document; `versioned` says that a version was given. -/
def directives (versioned : Bool) : Nat → Supply → Reading Supply
  | 0, _ => .error .malformed
  | fuel + 1, s => do
    match ← s.peek with
    | some (.versionDirective major) =>
      if versioned || major != 1 then throw .malformed
      else directives true fuel s.next
    | some (.tagDirective h base) =>
      if s.handles.any (·.1 == h) then throw .malformed
      else directives versioned fuel { s.next with handles := (h, base) :: s.handles }
    | some .otherDirective => directives versioned fuel s.next
    | _ => return s

def skipEnds (s : Supply) : Supply :=
  { s with tokens := s.tokens.dropWhile (· == .documentEnd) }

end Supply

def Token.isDirective : Token → Bool
  | .versionDirective _ => true
  | .tagDirective _ _ => true
  | .otherDirective => true
  | _ => false

namespace Node

/-- The tree of the only document of a text, nested up to a depth; none without a document. -/
def read? (depth : Nat) (t : Text) : Reading (Option Node) := do
  let (ts, fault) := tokens t
  let s : Supply := ⟨ts, fault, [], []⟩
  let root := NodeReader.node depth .block
  let finish (n : Node) (s : Supply) : Reading (Option Node) := do
    match ← s.skipEnds.peek with
    | some _ => throw .malformed
    | none => return some n
  match ← s.peek with
  | none => return none
  | some first =>
    if first.isDirective || first == .documentStart then
      let s ← s.directives false (ts.length + 1)
      if !(← s.isAt [.documentStart]) then throw .malformed
      let s := { s.next with handles := s.handles ++ Supply.usualHandles }
      match ← s.peek with
      | none => finish .absent s
      | some t =>
        if t.isDirective || t == .documentStart || t == .documentEnd then finish .absent s
        else
          let (n, s) ← root s
          finish n s
    else
      let (n, s) ← root { s with handles := Supply.usualHandles }
      finish n s

end Node

end TemplatedNotes.Yaml
