/-
  TemplatedNotes/Text/Blank.lean
  ==============================
  **White space, and what is trimmed or split at it.**

  Blank are Unicode's white-space characters (tab to carriage return, space, U+0085, U+00A0, …)
  and the four information separators U+001C to U+001F; the zero-width space is not blank.

  * `Text.trim` drops the blank ends of a text;
  * `Text.words` are its maximal runs of other characters, and `Text.squeeze` joins them by single
    spaces.
-/
import TemplatedNotes.Text.CodePoint

namespace TemplatedNotes

/-- White space. -/
def CodePoint.isBlank (c : CodePoint) : Bool :=
  let n := c.value
  (9 ≤ n && n ≤ 13) || (28 ≤ n && n ≤ 32) || n == 0x85 || n == 0xa0 || n == 0x1680 ||
    (0x2000 ≤ n && n ≤ 0x200a) || n == 0x2028 || n == 0x2029 || n == 0x202f || n == 0x205f ||
    n == 0x3000

namespace Text

/-- A text without its blank start. -/
def trimLeft (t : Text) : Text := t.dropWhile CodePoint.isBlank

/-- A text without its blank end. -/
def trimRight (t : Text) : Text := (t.reverse.dropWhile CodePoint.isBlank).reverse

/-- A text without its blank ends. -/
def trim (t : Text) : Text := trimRight (trimLeft t)

/-- Whether a text holds white space only. -/
def isBlank (t : Text) : Bool := t.all CodePoint.isBlank

/-- The words of a text after the letters `word` of one that has begun, in reverse. -/
def wordsAfter (word : Text) : Text → List Text
  | [] => if word.isEmpty then [] else [word.reverse]
  | c :: rest =>
    if c.isBlank then
      if word.isEmpty then wordsAfter [] rest else word.reverse :: wordsAfter [] rest
    else wordsAfter (c :: word) rest

/-- The maximal runs of characters that are not blank. -/
def words (t : Text) : List Text := wordsAfter [] t

/-- Texts put together with a separator between them. -/
def join (separator : Text) : List Text → Text
  | [] => []
  | [t] => t
  | t :: rest => t ++ separator ++ join separator rest

/-- The words of a text with single spaces between them. -/
def squeeze (t : Text) : Text := join [' '] (words t)

/-- Texts are ordered by their first different code point, a shorter one first. -/
def lt : Text → Text → Bool
  | _, [] => false
  | [], _ :: _ => true
  | a :: as, b :: bs => a.lt b || (a == b && lt as bs)

/-- The order of texts, equal ones included. -/
def le (a b : Text) : Bool := !lt b a

/-- What follows the first occurrence of a pattern, with what comes before it. -/
def splitAtFirst (pattern : Text) : Text → Option (Text × Text)
  | [] => if pattern.isEmpty then some ([], []) else none
  | c :: rest =>
    if pattern.isPrefixOf (c :: rest) then some ([], (c :: rest).drop pattern.length)
    else (splitAtFirst pattern rest).map (fun p => (c :: p.1, p.2))

def contains (pattern t : Text) : Bool := (splitAtFirst pattern t).isSome

/-- A text in which every code point in `cs` is preceded by a backslash. -/
def escapeWith (cs : Text) (t : Text) : Text :=
  t.flatMap (fun c => if c ∈ cs then ['\\', c] else [c])

end Text

end TemplatedNotes
