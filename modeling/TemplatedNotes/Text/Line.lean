/-
  TemplatedNotes/Text/Line.lean
  =============================
  **The lines of a text.**

  A note's lines end at a line feed or at a carriage return followed by one; a carriage return
  elsewhere is an ordinary character.  `Line.split` cuts, `Line.unsplit` puts together with line
  feeds, and a text always has at least one line (`Line.split_ne_nil`).
-/
import TemplatedNotes.Text.Blank

namespace TemplatedNotes.Line

def consFirst (c : CodePoint) : List Text → List Text
  | [] => [[c]]
  | l :: ls => (c :: l) :: ls

/-- The lines of a text. -/
def split : Text → List Text
  | [] => [[]]
  | .scalar '\n' :: rest => [] :: split rest
  | .scalar '\r' :: .scalar '\n' :: rest => [] :: split rest
  | c :: rest => consFirst c (split rest)

/-- Lines with a line feed between each two. -/
def unsplit (ls : List Text) : Text := Text.join ['\n'] ls

theorem consFirst_ne_nil (c : CodePoint) (ls : List Text) : consFirst c ls ≠ [] := by
  cases ls <;> simp [consFirst]

theorem split_ne_nil (t : Text) : split t ≠ [] := by
  unfold split
  split
  · simp
  · simp
  · simp
  · exact consFirst_ne_nil _ _

/-- A text in which both other line ends, a carriage return with and without a line feed, have
    become line feeds. -/
def unify : Text → Text
  | [] => []
  | .scalar '\r' :: .scalar '\n' :: rest => .scalar '\n' :: unify rest
  | .scalar '\r' :: rest => .scalar '\n' :: unify rest
  | c :: rest => c :: unify rest

end TemplatedNotes.Line
