/-
  TemplatedNotes/Yaml/Tag.lean
  ============================
  **The kinds of YAML scalars and what a plain scalar is by its looks.**

  A node has the kind that its tag names; a plain scalar without a tag is a truth value, a number,
  a date, nothing or a text by its form (`Tag.ofPlain`).  `yes`, `on`, `0777` and `1:30` are
  not texts.
-/
import TemplatedNotes.Text.Word
import TemplatedNotes.Number.Integer

namespace TemplatedNotes.Yaml

/-- The kind of a node. -/
inductive Tag where
  | null
  | bool
  | int
  | float
  | binary
  | timestamp
  | omap
  | pairs
  | set
  | str
  | seq
  | map
  | merge
  | value
  | other
deriving DecidableEq, Repr

namespace Tag

/-- The names of the kinds after their common base. -/
def names : List (String × Tag) :=
  [("null", .null), ("bool", .bool), ("int", .int), ("float", .float), ("binary", .binary),
    ("timestamp", .timestamp), ("omap", .omap), ("pairs", .pairs), ("set", .set), ("str", .str),
    ("seq", .seq), ("map", .map), ("merge", .merge), ("value", .value)]

def base : Text := Text.of "tag:yaml.org,2002:"

def ofUri (uri : Text) : Tag :=
  match names.find? (fun p => base ++ Text.of p.1 == uri) with
  | some p => p.2
  | none => .other

def truthWords : List (String × Bool) :=
  [("yes", true), ("no", false), ("true", true), ("false", false), ("on", true), ("off", false)]

/-- A word in lower case, with a capital first letter, or in capitals. -/
def isSpelling (word : String) (t : Text) : Bool :=
  let upper (c : Char) : Char := c.toUpper
  let capital := match word.toList with
    | c :: rest => upper c :: rest
    | [] => []
  t == Text.of word || t == capital.map .scalar || t == (word.toList.map upper).map .scalar

/-- A digit in a base up to sixteen, or an underscore. -/
def isDigitOrMark (below : Nat) (c : CodePoint) : Bool :=
  c == '_' || (match c.hexValue? with | some d => d < below | none => false)

def isDecimal (c : CodePoint) : Bool := c.isAsciiDigit

def unsigned : Text → Text
  | .scalar '-' :: rest => rest
  | .scalar '+' :: rest => rest
  | t => t

/-- A digit followed by digits and underscores. -/
def isDigits (t : Text) : Bool :=
  match t with
  | c :: rest => isDecimal c && rest.all (isDigitOrMark 10)
  | [] => false

/-- Digits and underscores that start with one to nine. -/
def isPositive (t : Text) : Bool := isDigits t && t.head? != some '0'

def colonParts : Text → List Text
  | [] => [[]]
  | c :: rest =>
    match colonParts rest with
    | [] => [[c]]
    | p :: ps => if c == ':' then [] :: p :: ps else (c :: p) :: ps

def isSixtieth (t : Text) : Bool :=
  match t with
  | [a] => isDecimal a
  | [a, b] => isDecimal a && isDecimal b && a.value ≤ 53
  | _ => false

def looksInt (t : Text) : Bool :=
  match unsigned t with
  | .scalar '0' :: .scalar 'b' :: rest => !rest.isEmpty && rest.all (isDigitOrMark 2)
  | .scalar '0' :: .scalar 'x' :: rest => !rest.isEmpty && rest.all (isDigitOrMark 16)
  | .scalar '0' :: rest => rest.all (isDigitOrMark 8)
  | body =>
    match colonParts body with
    | first :: rest => isPositive first && rest.all isSixtieth
    | [] => false

/-- Whether a text is an exponent with a sign, or empty. -/
def isExponent (t : Text) : Bool :=
  match t with
  | [] => true
  | e :: s :: c :: rest =>
    (e == 'e' || e == 'E') && (s == '-' || s == '+') && isDecimal c && rest.all isDecimal
  | _ => false

/-- Whether a text is digits and underscores before an exponent. -/
def isFraction (t : Text) : Bool := isExponent (t.dropWhile (isDigitOrMark 10))

def looksFloat (t : Text) : Bool :=
  let body := unsigned t
  let whole := body.takeWhile (· != .scalar '.')
  match body.drop whole.length with
  | .scalar '.' :: rest =>
    match whole with
    | [] =>
      (t == body && rest.head?.any isDecimal && isFraction rest) ||
        isSpelling "inf" rest ||
        (t == body && (rest == Text.of "nan" || rest == Text.of "NaN" || rest == Text.of "NAN"))
    | _ =>
      (isDigits whole && isFraction rest) ||
        (match colonParts whole with
         | first :: parts => isDigits first && !parts.isEmpty && parts.all isSixtieth &&
             rest.all (isDigitOrMark 10)
         | [] => false)
  | _ => false

/-- The number of digits at the start of a text, as far as `most`. -/
def digitsUpTo (most : Nat) (t : Text) : Nat := min most (t.takeWhile isDecimal).length

/-- The parts of a timestamp, as written. -/
structure Stamp where
  year : Text
  month : Text
  day : Text
  clock : Option (Text × Text × Text)
  fraction : Text
  zone : Option Text

/-- Takes digits, at least `least` and at most `most`. -/
def takeDigits (least most : Nat) (t : Text) : Option (Text × Text) :=
  let n := digitsUpTo most t
  if n < least then none else some (t.take n, t.drop n)

def takeMark (mark : Char) : Text → Option Text
  | c :: rest => if c == .scalar mark then some rest else none
  | [] => none

/-- Whether a text is a time zone: `Z`, or a signed offset of hours with perhaps minutes. -/
def isZone (t : Text) : Bool :=
  match t with
  | .scalar 'Z' :: rest => rest.isEmpty
  | s :: rest =>
    (s == '-' || s == '+') &&
      (match takeDigits 1 2 rest with
       | some (_, []) => true
       | some (_, c :: minutes) => c == ':' && minutes.length == 2 && minutes.all isDecimal
       | none => false)
  | [] => false

def isStampBlank (c : CodePoint) : Bool := c == ' ' || c == '\t'

/-- Reads the time of day and the zone of a timestamp, after its date. -/
def stampTime (year month day t : Text) : Option Stamp := do
  let rest ← match t with
    | .scalar 'T' :: rest => some rest
    | .scalar 't' :: rest => some rest
    | c :: rest => if isStampBlank c then some (rest.dropWhile isStampBlank) else none
    | [] => none
  let (hour, rest) ← takeDigits 1 2 rest
  let rest ← takeMark ':' rest
  let (minute, rest) ← takeDigits 2 2 rest
  let rest ← takeMark ':' rest
  let (second, rest) ← takeDigits 2 2 rest
  let (fraction, rest) := match takeMark '.' rest with
    | some after => (after.takeWhile isDecimal, after.dropWhile isDecimal)
    | none => ([], rest)
  let clock := some (hour, minute, second)
  if rest.isEmpty then return ⟨year, month, day, clock, fraction, none⟩
  else
    let zone := rest.dropWhile isStampBlank
    if isZone zone then return ⟨year, month, day, clock, fraction, some zone⟩ else none

/-- Reads a timestamp: a date, perhaps with a time of day, a fraction of a second and a zone. -/
def stamp? (t : Text) : Option Stamp := do
  let (year, rest) ← takeDigits 4 4 t
  let rest ← takeMark '-' rest
  let (month, rest) ← takeDigits 1 2 rest
  let rest ← takeMark '-' rest
  let (day, rest) ← takeDigits 1 2 rest
  if rest.isEmpty then return ⟨year, month, day, none, [], none⟩
  else stampTime year month day rest

/-- Whether a text looks like a timestamp: a date alone has two digits for month and day. -/
def looksTimestamp (t : Text) : Bool :=
  match stamp? t with
  | some s => s.clock.isSome || (s.month.length == 2 && s.day.length == 2)
  | none => false

def ofPlain (t : Text) : Tag :=
  if truthWords.any (fun w => isSpelling w.1 t) then .bool
  else if looksFloat t then .float
  else if looksInt t then .int
  else if t == Text.of "<<" then .merge
  else if t.isEmpty || t == Text.of "~" || isSpelling "null" t then .null
  else if looksTimestamp t then .timestamp
  else if t == Text.of "=" then .value
  else .str

end Tag

end TemplatedNotes.Yaml
