/-
  TemplatedNotes/Json/Writer.lean
  ===============================
  **Writing JSON.**

  A text stands between double quotes; the quote and the backslash get a backslash, the control
  characters that have a letter get it, and the others are written by number.  Every other code
  point stands for itself.  A list or an object has one entry a line, two spaces deeper than
  itself, and an empty one is a pair of marks.
-/
import TemplatedNotes.Text.Quoted
import TemplatedNotes.Text.Blank

namespace TemplatedNotes.Json

def controlLetters : List (Char × Char) :=
  [('\n', 'n'), ('\r', 'r'), ('\t', 't'), ('\x08', 'b'), ('\x0c', 'f')]

def writeCodePoint (c : CodePoint) : Text :=
  if c = '"' ∨ c = '\\' then ['\\', c]
  else
    match controlLetters.find? (fun p => c == .scalar p.1) with
    | some p => ['\\', .scalar p.2]
    | none => if c.value < 32 then '\\' :: 'u' :: Quoted.hexDigits 4 c.value else [c]

def writeText (t : Text) : Text := .scalar '"' :: t.flatMap writeCodePoint ++ [.scalar '"']

def margin (depth : Nat) : Text := List.replicate (2 * depth) (.scalar ' ')

/-- Entries between two marks, at a depth. -/
def writeBlock (first last : Char) (depth : Nat) (entries : List Text) : Text :=
  if entries.isEmpty then [.scalar first, .scalar last]
  else
    let lines := entries.map (fun e => margin (depth + 1) ++ e)
    .scalar first :: .scalar '\n' :: Text.join [.scalar ',', .scalar '\n'] lines ++
      .scalar '\n' :: margin depth ++ [.scalar last]

def writeTexts (depth : Nat) (ts : List Text) : Text :=
  writeBlock '[' ']' depth (ts.map writeText)

def writeMembers (depth : Nat) (ms : List (Text × Text)) : Text :=
  writeBlock '\x7b' '\x7d' depth (ms.map (fun m => writeText m.1 ++ Text.of ": " ++ m.2))

end TemplatedNotes.Json
