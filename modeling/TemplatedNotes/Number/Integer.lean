/-
  TemplatedNotes/Number/Integer.lean
  ==================================
  **Reading and writing whole numbers.**

  A number may have blanks around it (the information separators U+001C to U+001F do not count),
  a sign, and single underscores between digits; decimal digits are those of any script.  In the
  bases two, eight and sixteen it may start with `0b`, `0o` and `0x`.  Decimal numbers of more than
  4300 digits are neither read nor written.
-/
import TemplatedNotes.Text.Blank
import TemplatedNotes.Text.Digit

namespace TemplatedNotes.Integer

/-- Why a text is not read as a whole number, or a number not written. -/
inductive Fault where
  /-- The text is no number in this base. -/
  | malformed (base : Nat) (t : Text)
  /-- The text has more decimal digits than are read. -/
  | tooManyDigits (count : Nat)
  /-- The number has more decimal digits than are written. -/
  | tooLong
deriving DecidableEq, Repr

def maxDigits : Nat := 4300

def isPadding (c : CodePoint) : Bool := c.isBlank && !(28 ≤ c.value && c.value ≤ 31)

def trimPadding (t : Text) : Text :=
  ((t.dropWhile isPadding).reverse.dropWhile isPadding).reverse

def digitIn (base : Nat) (c : CodePoint) : Option Nat :=
  match c.digitValue? with
  | some d => if d < base then some d else none
  | none => c.hexValue?.filter (· < base)

/-- The digits at the start of a text and what follows them, underscores skipped. -/
def spanDigits (base : Nat) : Text → List Nat × Text
  | [] => ([], [])
  | c :: rest =>
    if c = '_' then spanDigits base rest
    else
      match digitIn base c with
      | some d => let (ds, after) := spanDigits base rest; (d :: ds, after)
      | none => ([], c :: rest)

/-- Whether the underscores among the digits at the start of a text are single and between
    digits; `last` says that an underscore (or no digit at all) comes before. -/
def underscoresFit (base : Nat) (last : Bool) : Text → Bool
  | [] => !last
  | c :: rest =>
    if c = '_' then !last && underscoresFit base true rest
    else if (digitIn base c).isSome then underscoresFit base false rest
    else !last

def ofDigits (base : Nat) (ds : List Nat) : Nat := ds.foldl (fun n d => n * base + d) 0

/-- A sign and what follows it; no sign is plus. -/
def splitSign : Text → Bool × Text
  | .scalar '-' :: rest => (true, rest)
  | .scalar '+' :: rest => (false, rest)
  | t => (false, t)

def markLetters (base : Nat) : List Char :=
  if base = 16 then ['x', 'X'] else if base = 8 then ['o', 'O'] else if base = 2 then ['b', 'B']
  else []

/-- What follows the base's mark and an underscore after it. -/
def dropMark (base : Nat) : Text → Text
  | .scalar '0' :: .scalar x :: rest =>
    if (markLetters base).contains x then
      match rest with
      | .scalar '_' :: after => after
      | _ => rest
    else .scalar '0' :: .scalar x :: rest
  | t => t

/-- The whole number that a text denotes in base two, eight, ten or sixteen. -/
def read (base : Nat) (t : Text) : Except Fault Int :=
  let (negative, body) := splitSign (t.dropWhile isPadding)
  let body := dropMark base body
  let (digits, after) := spanDigits base body
  if !underscoresFit base true body then .error (.malformed base t)
  else if base = 10 ∧ digits.length > maxDigits then .error (.tooManyDigits digits.length)
  else if !after.all isPadding then .error (.malformed base t)
  else
    let n : Nat := ofDigits base digits
    .ok (if negative then -(n : Int) else n)

def natText (n : Nat) : Text := (Nat.toDigits 10 n).map .scalar

/-- The decimal digits of a whole number, a minus sign before a negative one. -/
def signedText (n : Int) : Text :=
  if n < 0 then '-' :: natText n.natAbs else natText n.natAbs

/-- The decimal text of a whole number that is not too long. -/
def write (n : Int) : Except Fault Text :=
  if n.natAbs < Nat.pow 10 maxDigits then .ok (signedText n) else .error .tooLong

end TemplatedNotes.Integer
