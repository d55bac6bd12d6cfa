/-
  TemplatedNotes/Section/Line.lean
  ================================
  **The three kinds of lines that make up the sections of a note.**

      %%{ template: 'greet.py', name: 'Nate' }%%      an opening line with its argument literal
      My name is Nate.
      %%%%                                            a terminator

  A fence is three or more backticks and no backtick after them; its depth is the number of
  backticks beyond three.  An opening line is `%%`, white space, a payload, white space, `%%` and
  white space to its end, where the payload neither starts with a percent sign nor starts or ends
  blank.  A terminator is `%%%%` and white space.
-/
import TemplatedNotes.Text.Line

namespace TemplatedNotes.Section

/-- The pair of percent signs around an argument literal. -/
def delimiter : Text := ['%', '%']

/-- The line that ends a section. -/
def terminator : Text := ['%', '%', '%', '%']

/-- The character that fences are made of. -/
def backtick : CodePoint := '\x60'

def lineFeed : CodePoint := '\n'

def fenceDepth? (line : Text) : Option Nat :=
  let ticks := line.takeWhile (· == backtick)
  let rest := line.dropWhile (· == backtick)
  if 3 ≤ ticks.length ∧ backtick ∉ rest then some (ticks.length - 3) else none

/-- What stands before a delimiter and white space at the end of a text, without the white space
    before the delimiter. -/
def beforeDelimiter? (t : Text) : Option Text :=
  match (Text.trimRight t).reverse with
  | .scalar '%' :: .scalar '%' :: rest => some (Text.trimRight rest.reverse)
  | _ => none

def payload? (line : Text) : Option Text :=
  match line with
  | .scalar '%' :: .scalar '%' :: rest =>
    match beforeDelimiter? (Text.trimLeft rest) with
    | some (c :: p) => if c = '%' then none else some (c :: p)
    | _ => none
  | _ => none

def isTerminator (line : Text) : Bool :=
  terminator.isPrefixOf line && Text.isBlank (line.drop 4)

/-- Whether a text up to its first line feed is an opening line's end after its first payload
    character, or the next text after blank lines is a delimiter alone on its line. -/
def closesAfter (t : Text) : Bool :=
  let line := t.takeWhile (· != lineFeed)
  let next := Text.trimLeft (t.dropWhile (· != lineFeed))
  (beforeDelimiter? line).isSome ||
    (delimiter.isPrefixOf next && Text.isBlank ((next.drop 2).takeWhile (· != lineFeed)))

/-- Whether an opening may start with a text, its parts spread over lines. -/
def opensAt (t : Text) : Bool :=
  delimiter.isPrefixOf t &&
    (match Text.trimLeft (t.drop 2) with
     | [] => false
     | c :: rest => c != '%' && closesAfter rest)

/-- Whether an opening may start at a line start of a text; `fresh` says whether the text itself
    starts a line. -/
def opensInside (fresh : Bool) : Text → Bool
  | [] => false
  | c :: rest => (fresh && opensAt (c :: rest)) || opensInside (c == lineFeed) rest

/-- A quick look at a whole note: false only if no line of it opens a section. -/
def mayOpen (t : Text) : Bool := opensInside true t

end TemplatedNotes.Section
