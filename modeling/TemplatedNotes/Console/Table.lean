/-
  TemplatedNotes/Console/Table.lean
  =================================
  **Tables on a console: columns as wide as their widest cell.**
-/
import TemplatedNotes.Console.Width
import TemplatedNotes.Text.Blank

namespace TemplatedNotes.Console

/-- A cell filled up with spaces to a number of columns. -/
def pad (n : Nat) (cell : Text) : Text :=
  cell ++ List.replicate (n - columns cell) (CodePoint.scalar ' ')

def columnWidths (rows : List (List Text)) : List Nat :=
  rows.foldl (fun widths row =>
    (List.range (max widths.length row.length)).map (fun i =>
      max (widths[i]?.getD 0) (columns (row[i]?.getD [])))) []

def rowLine (widths : List Nat) (row : List Text) : Text :=
  Text.trimRight (Text.join (Text.of "  ") (List.zipWith pad widths row)) ++ Text.of "\n"

def table (title : Text) (names : List Text) (rows : List (List Text)) : Text :=
  let all := names :: rows
  title ++ Text.of "\n" ++ all.flatMap (rowLine (columnWidths all))

end TemplatedNotes.Console
