/-
  TemplatedNotes/Console/Wrap.lean
  ================================
  **Printing on a console of a fixed width.**

  Control characters that would move the cursor are dropped and tabs become spaces.  A line that
  is too wide is broken before the first word that does not fit, and a word that fits on no line
  is broken where the line is full.  White space at the end of a line is kept as far as it fits.
-/
import TemplatedNotes.Console.Width
import TemplatedNotes.Text.Blank

namespace TemplatedNotes.Console

def width : Nat := 80

def tabSize : Nat := 8

def isDropped (c : CodePoint) : Bool := [7, 8, 11, 12, 13].contains c.value

/-- A text at a column with spaces for its tabs. -/
def expandTabs (column : Nat) : Text → Text
  | [] => []
  | c :: rest =>
    if c = '\t' then
      let spaces := tabSize - column % tabSize
      List.replicate spaces (.scalar ' ') ++ expandTabs (column + spaces) rest
    else c :: expandTabs (column + columnsOf c) rest

/-- The words of a text, each with the white space after it; the first also with that before it. -/
def wordsFrom : Nat → Text → List Text
  | 0, _ => []
  | rounds + 1, t =>
    let before := t.takeWhile CodePoint.isBlank
    let body := (t.drop before.length).takeWhile (!CodePoint.isBlank ·)
    let after := (t.drop (before.length + body.length)).takeWhile CodePoint.isBlank
    if body.isEmpty then []
    else
      let word := before ++ body ++ after
      word :: wordsFrom rounds (t.drop word.length)

/-- The pieces of a word that fill lines; `used` columns of the first are taken by `piece`, the
    characters in it in reverse. -/
def chop (used : Nat) (piece : Text) : Text → List Text
  | [] => [piece.reverse]
  | c :: rest =>
    let n := columnsOf c
    if width < used + n then piece.reverse :: chop n [c] rest else chop (used + n) (c :: piece) rest

/-- The lines of some words: `line` is the line begun, which takes `used` columns. -/
def fill (line : Text) (used : Nat) : List Text → List Text
  | [] => [line]
  | word :: rest =>
    let needed := columns (Text.trimRight word)
    if used + needed ≤ width then fill (line ++ word) (used + columns word) rest
    else if width < needed then
      let pieces := chop 0 [] word
      let last := pieces.getLast?.getD []
      (if line.isEmpty then [] else [line]) ++ pieces.dropLast ++ fill last (columns last) rest
    else if line.isEmpty then fill word used rest
    else line :: fill word (columns word) rest

/-- The first columns of a text; half of a wide character is a space. -/
def crop (room : Nat) : Text → Text
  | [] => []
  | c :: rest =>
    let n := columnsOf c
    if n ≤ room then c :: crop (room - n) rest
    else List.replicate room (.scalar ' ')

/-- A line that is no wider than the console. -/
def fit (line : Text) : Text :=
  let blanks := line.length - (Text.trimRight line).length
  crop width (line.take (line.length - min blanks (line.length - width)))

def wrapLine (line : Text) : List Text :=
  let t := expandTabs 0 line
  match wordsFrom t.length t with
  | [] => [fit t]
  | words => (fill [] 0 words).map fit

def splitFeeds : Text → List Text
  | [] => [[]]
  | c :: rest =>
    match splitFeeds rest with
    | [] => [[c]]
    | l :: ls => if c = '\n' then [] :: l :: ls else (c :: l) :: ls

def print (t : Text) : Text :=
  let lines := splitFeeds (t.filter (!isDropped ·))
  lines.flatMap (fun l => (wrapLine l).flatMap (· ++ [CodePoint.scalar '\n']))

end TemplatedNotes.Console
