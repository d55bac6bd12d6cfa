/-
  TemplatedNotes/Section/Block.lean
  =================================
  **Writing sections: the marker of a failure and a new section.**

  A failure shows in a note as one line, `%% Kind: message %%`, with every run of white space in
  the message made a single space.  A new section is an opening line that names its script
  between single quotes, what the script generated, and a terminator.
-/
import TemplatedNotes.Section.Line

namespace TemplatedNotes.Section

/-- The line that stands for a failed script's output. -/
def failureMarker (kindName message : Text) : Text :=
  let shown := Text.squeeze message
  let body := if shown.isEmpty then kindName else kindName ++ Text.of ": " ++ shown
  Text.of "%% " ++ body ++ Text.of " %%"

/-- The opening line of a new section for a script. -/
def openingFor (script : Text) : Text :=
  Text.of "%% template: '" ++ Text.escapeWith ['\\', '\x27'] script ++ Text.of "' %%"

/-- A new section for a script with what it generated. -/
def block (script : Text) (generated : Option Text) : Text :=
  Line.unsplit [openingFor script, generated.getD [], terminator]

end TemplatedNotes.Section

namespace TemplatedNotes.Text

/-- A text on one line, cut after so many characters (from its end for a negative number) and
    marked where it was longer. -/
def preview (t : Text) (length : Int) : Text :=
  let flat := squeeze t
  if length < flat.length then
    let kept := if length < 0 then flat.length - length.natAbs else length.toNat
    flat.take kept ++ Text.of "..."
  else flat

end TemplatedNotes.Text
