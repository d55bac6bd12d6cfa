/-
  TemplatedNotes/Text/Interval.lean
  =================================
  **Sets of numbers written as a sorted list of closed intervals.**

  A table lists the two ends of each interval in turn, `[s₁, e₁, s₂, e₂, …]` with
  `s₁ ≤ e₁ < s₂ ≤ e₂ < …`; `Interval.covers` decides membership and stops at the first interval
  that starts past the number.
-/

namespace TemplatedNotes.Interval

/-- Whether a number lies in one of the intervals of a table. -/
def covers : List Nat → Nat → Bool
  | s :: e :: rest, n => if n < s then false else if n ≤ e then true else covers rest n
  | _, _ => false

end TemplatedNotes.Interval
