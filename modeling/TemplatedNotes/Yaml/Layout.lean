/-
  TemplatedNotes/Yaml/Layout.lean
  ===============================
  **From a YAML text to its tokens.**

  Block structure is read off the columns.  A deeper column opens a block collection, a lesser one
  closes every block deeper than it.  A key on one line is only recognised at its colon, so each
  token that may begin one is remembered per nesting of flow collections (`SimpleKey`), and the
  colon puts the key token, and perhaps the start of a block mapping, in front of it.

  `Layout.step` reads one token, `tokens` all of them up to the first fault.
-/
import TemplatedNotes.Yaml.Style

namespace TemplatedNotes.Yaml

/-- A token that may begin a key: its number among the tokens, its place, and whether a key has to
    begin there. -/
structure SimpleKey where
  number : Nat
  required : Bool
  index : Nat
  line : Nat
  column : Nat

/-- What is known between two tokens: the place in the text, the tokens so far (last first), the
    nesting of flow collections, the columns of the open blocks, whether a key may begin here, and
    where keys may have begun, by nesting. -/
structure Layout where
  cursor : Cursor
  tokens : List Token
  flow : Nat
  indent : Int
  indents : List Int
  keyAllowed : Bool
  keys : List (Nat × SimpleKey)

namespace Layout

def start (t : Text) : Layout := ⟨.start t, [], 0, -1, [], true, []⟩

def inFlow (l : Layout) : Bool := l.flow != 0

def push (l : Layout) (t : Token) : Layout := { l with tokens := t :: l.tokens }

def insert (l : Layout) (number : Nat) (t : Token) : Layout :=
  { l with tokens := l.tokens.insertIdx (l.tokens.length - number) t }

/-- Blanks, comments and line ends up to the next token; at most `fuel` lines of them. -/
def skipBlanks : Nat → Layout → Layout
  | 0, l => l
  | fuel + 1, l =>
    let c := l.cursor.skipSpaces.skipComment
    if c.sees 0 isBreak then
      skipBlanks fuel { l with cursor := c.lineBreak.2, keyAllowed := l.keyAllowed || !l.inFlow }
    else { l with cursor := c }

/-- Forgets the places from which a key would be too long or span lines. -/
def dropStaleKeys (l : Layout) : Reading Layout :=
  let stale (k : Nat × SimpleKey) : Bool :=
    k.2.line != l.cursor.line || 1024 < l.cursor.index - k.2.index
  if l.keys.any (fun k => stale k && k.2.required) then .error .malformed
  else .ok { l with keys := l.keys.filter (fun k => !stale k) }

/-- Forgets where a key may have begun at this nesting. -/
def dropKey (l : Layout) : Reading Layout :=
  if l.keys.any (fun k => k.1 == l.flow && k.2.required) then .error .malformed
  else .ok { l with keys := l.keys.filter (fun k => k.1 != l.flow) }

/-- Remembers that a key may begin here. -/
def saveKey (l : Layout) : Reading Layout :=
  if !l.keyAllowed then .ok l
  else do
    let required := !l.inFlow && l.indent == (l.cursor.column : Int)
    let l ← l.dropKey
    let c := l.cursor
    let key : SimpleKey := ⟨l.tokens.length, required, c.index, c.line, c.column⟩
    return { l with keys := (l.flow, key) :: l.keys }

/-- Closes the blocks deeper than a column, of the `indents` columns around the current one. -/
def unwindTo (column : Int) : List Int → Layout → Layout
  | [], l => l
  | outer :: rest, l =>
    if column < l.indent then
      unwindTo column rest { l.push .blockEnd with indent := outer, indents := rest }
    else l

/-- Closes the blocks deeper than a column, outside flow collections. -/
def unwind (l : Layout) (column : Int) : Layout :=
  if l.inFlow then l else unwindTo column l.indents l

/-- Opens a block at a column if it is deeper than the current one. -/
def openBlock (l : Layout) (column : Nat) : Option Layout :=
  if l.indent < (column : Int) then
    some { l with indent := column, indents := l.indent :: l.indents }
  else none

def take (l : Layout) (n : Nat) (t : Token) : Layout :=
  { l.push t with cursor := l.cursor.skip n }

/-- Ends all blocks for something that starts a line outside them. -/
def outside (l : Layout) : Reading Layout := do
  let l ← (l.unwind (-1)).dropKey
  return { l with keyAllowed := false }

def directive (l : Layout) : Reading Layout := do
  let l ← l.outside
  let (token, c) ← l.cursor.directive
  return { l.push token with cursor := c }

def openFlow (l : Layout) (t : Token) : Reading Layout := do
  let l ← l.saveKey
  return { l.take 1 t with flow := l.flow + 1, keyAllowed := true }

def closeFlow (l : Layout) (t : Token) : Reading Layout := do
  let l ← l.dropKey
  return { l.take 1 t with flow := l.flow - 1, keyAllowed := false }

def flowEntry (l : Layout) : Reading Layout := do
  let l ← { l with keyAllowed := true }.dropKey
  return l.take 1 .flowEntry

/-- Opens a block at the cursor where a key may begin; inside flow collections nothing happens. -/
def openHere (l : Layout) (t : Token) : Reading Layout :=
  if l.inFlow then .ok l
  else if !l.keyAllowed then .error .malformed
  else .ok (((l.openBlock l.cursor.column).map (·.push t)).getD l)

def blockEntry (l : Layout) : Reading Layout := do
  let l ← l.openHere .blockSequenceStart
  let l ← { l with keyAllowed := true }.dropKey
  return l.take 1 .blockEntry

def explicitKey (l : Layout) : Reading Layout := do
  let l ← l.openHere .blockMappingStart
  let l ← { l with keyAllowed := !l.inFlow }.dropKey
  return l.take 1 .key

/-- The colon of a value: a key begins where one may have begun, or the key was explicit. -/
def value (l : Layout) : Reading Layout :=
  match l.keys.find? (fun k => k.1 == l.flow) with
  | some (_, k) =>
    let l := { l with keys := l.keys.filter (fun k => k.1 != l.flow), keyAllowed := false }
    let l := l.insert k.number .key
    let l := if l.inFlow then l
      else ((l.openBlock k.column).map (·.insert k.number .blockMappingStart)).getD l
    .ok (l.take 1 .value)
  | none => do
    let l ← l.openHere .blockMappingStart
    let l ← { l with keyAllowed := !l.inFlow }.dropKey
    return l.take 1 .value

/-- A token that may begin a key and after which none may begin. -/
def keyed (l : Layout) (read : Cursor → Reading (Token × Cursor)) : Reading Layout := do
  let l ← l.saveKey
  let (token, c) ← read l.cursor
  return { l.push token with cursor := c, keyAllowed := false }

def blockScalar (l : Layout) (folded : Bool) : Reading Layout := do
  let l ← { l with keyAllowed := true }.dropKey
  let (text, c) ← l.cursor.block folded l.indent
  return { l.push (.scalar text false) with cursor := c }

/-- A plain scalar; a key may begin after it if it ends at the start of a line. -/
def plainScalar (l : Layout) : Reading Layout := do
  let l ← l.saveKey
  let (text, c, broken) := l.cursor.plain l.inFlow l.indent
  return { l.push (.scalar text true) with cursor := c, keyAllowed := broken }

def indicators : List Char :=
  ['-', '?', ':', ',', '[', ']', '\x7b', '\x7d', '#', '&', '*', '!', '|', '>', '\x27', '"', '%',
    '@', '\x60']

def startsPlain (l : Layout) : Bool :=
  let c := l.cursor
  (!c.wordEnds 0 && !c.isAtOneOf indicators) ||
    (!c.wordEnds 1 && (c.isAt '-' || (!l.inFlow && (c.isAt '?' || c.isAt ':'))))

/-- Reads the next token, nothing at the end of the text. -/
def step (l : Layout) : Reading (Option Layout) := do
  let l := skipBlanks (l.cursor.rest.length + 1) l
  let l ← l.dropStaleKeys
  let l := l.unwind l.cursor.column
  let c := l.cursor
  let isMark := l.inFlow || c.wordEnds 1
  if c.atEnd then
    let _ ← (l.unwind (-1)).dropKey
    return none
  else if c.isAt '%' && c.column == 0 then some <$> l.directive
  else if c.column == 0 && c.isSeparator '-' then
    return some ((← l.outside).take 3 .documentStart)
  else if c.column == 0 && c.isSeparator '.' then
    return some ((← l.outside).take 3 .documentEnd)
  else if c.isAt '[' then some <$> l.openFlow .flowSequenceStart
  else if c.isAt '\x7b' then some <$> l.openFlow .flowMappingStart
  else if c.isAt ']' then some <$> l.closeFlow .flowSequenceEnd
  else if c.isAt '\x7d' then some <$> l.closeFlow .flowMappingEnd
  else if c.isAt ',' then some <$> l.flowEntry
  else if c.isAt '-' && c.wordEnds 1 then some <$> l.blockEntry
  else if c.isAt '?' && isMark then some <$> l.explicitKey
  else if c.isAt ':' && isMark then some <$> l.value
  else if c.isAt '*' then
    some <$> l.keyed (fun c => (c.anchorName).map (fun r => (.alias r.1, r.2)))
  else if c.isAt '&' then
    some <$> l.keyed (fun c => (c.anchorName).map (fun r => (.anchor r.1, r.2)))
  else if c.isAt '!' then some <$> l.keyed Cursor.tag
  else if c.isAt '|' && !l.inFlow then some <$> l.blockScalar false
  else if c.isAt '>' && !l.inFlow then some <$> l.blockScalar true
  else if c.isAt '\x27' then
    some <$> l.keyed (fun c => (c.quoted false).map (fun r => (.scalar r.1 false, r.2)))
  else if c.isAt '"' then
    some <$> l.keyed (fun c => (c.quoted true).map (fun r => (.scalar r.1 false, r.2)))
  else if l.startsPlain then some <$> l.plainScalar
  else throw .malformed

/-- Reads tokens up to the end of the text or the first fault; at most `fuel` of them. -/
def run : Nat → Layout → List Token × Option Fault
  | 0, l => (l.tokens.reverse, some .malformed)
  | fuel + 1, l =>
    match l.step with
    | .error f => (l.tokens.reverse, some f)
    | .ok none =>
      let l := skipBlanks (l.cursor.rest.length + 1) l
      ((l.unwind (-1)).tokens.reverse, none)
    | .ok (some l) => run fuel l

end Layout

/-- The tokens of a text, and the fault that ends them if there is one. -/
def tokens (t : Text) : List Token × Option Fault :=
  if !t.all isAllowed then ([], some .malformed)
  else
    let l := Layout.start t
    let l := if l.cursor.peek.any (fun c => c.value = 0xfeff) then
      { l with cursor := l.cursor.next } else l
    l.run (t.length + 1)

end TemplatedNotes.Yaml
