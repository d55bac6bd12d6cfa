/-
  TemplatedNotes/Text/Quoted.lean
  ===============================
  **Texts and bytes between quotes, for messages and for lists of texts.**

  A quoted text stands between single quotes, or between double quotes when it holds single quotes
  but no double ones.  The quote and the backslash get a backslash, tab, line feed and carriage
  return their letters, and other unprintable code points are written by their numbers in
  hexadecimal, with two, four or eight digits.
-/
import TemplatedNotes.Text.Printable

namespace TemplatedNotes.Quoted

/-- The lower-case hexadecimal digits of a number, at least `width` of them. -/
def hexDigits (width n : Nat) : Text :=
  let digits := Nat.toDigits 16 n
  (List.replicate (width - digits.length) '0' ++ digits).map .scalar

def quoteFor (t : Text) : CodePoint := 
  if CodePoint.scalar '\x27' ∈ t ∧ CodePoint.scalar '"' ∉ t then '"' else '\x27'

def encodeCodePoint (quote c : CodePoint) : Text :=
  if c = quote ∨ c = '\\' then ['\\', c]
  else if c = '\t' then ['\\', 't']
  else if c = '\n' then ['\\', 'n']
  else if c = '\r' then ['\\', 'r']
  else if c.isPrintable then [c]
  else if c.value < 0x100 then '\\' :: 'x' :: hexDigits 2 c.value
  else if c.value < 0x10000 then '\\' :: 'u' :: hexDigits 4 c.value
  else '\\' :: 'U' :: hexDigits 8 c.value

/-- A text between quotes. -/
def encode (t : Text) : Text :=
  let quote := quoteFor t
  quote :: t.flatMap (encodeCodePoint quote) ++ [quote]

/-- One byte between quotes: ASCII's printable characters as they are, the others by number. -/
def encodeByte (quote : CodePoint) (b : UInt8) : Text :=
  if 0x7f ≤ b.toNat then '\\' :: 'x' :: hexDigits 2 b.toNat
  else encodeCodePoint quote (CodePoint.ofNat b.toNat)

/-- Bytes between quotes, marked with a `b`. -/
def encodeBytes (bytes : List UInt8) : Text :=
  let quote := quoteFor (bytes.map (fun b => CodePoint.ofNat b.toNat))
  .scalar 'b' :: quote :: bytes.flatMap (encodeByte quote) ++ [quote]

end TemplatedNotes.Quoted
