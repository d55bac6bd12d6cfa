/-
  TemplatedNotes/Text/CodePoint.lean
  ==================================
  **Text as a sequence of code points.**

  Notes, script paths and argument literals are sequences of Unicode code points.  An argument
  literal may spell a lone surrogate (`\ud800`), and such a code point has to travel through the
  scripts until a file is written, so a code point is either a Unicode scalar value or one of the
  2048 surrogates.  Two adjacent surrogates stay two code points.

  * `CodePoint.value` numbers the code points, `CodePoint.ofNat?` is its partial inverse
    (`ofNat?_value`), so a number denotes at most one code point;
  * `Text.of` reads a string of scalar values, which is how this library writes its constants.
-/

namespace TemplatedNotes

/-- A Unicode code point: a scalar value, or a surrogate counted from U+D800. -/
inductive CodePoint where
  | scalar (c : Char)
  | surrogate (unit : Fin 2048)
deriving DecidableEq, Repr

namespace CodePoint

instance : Coe Char CodePoint := ⟨.scalar⟩

instance : Inhabited CodePoint := ⟨.scalar ' '⟩

def value : CodePoint → Nat
  | .scalar c => c.toNat
  | .surrogate u => 0xD800 + u.val

/-- The code point of a number, if there is one. -/
def ofNat? (n : Nat) : Option CodePoint :=
  if h : n.isValidChar then
    some (.scalar (Char.ofNatAux n h))
  else if h : 0xD800 ≤ n ∧ n < 0xE000 then
    some (.surrogate ⟨n - 0xD800, by omega⟩)
  else
    none

/-- The code point of a number below the end of the code space, and a space beyond it. -/
def ofNat (n : Nat) : CodePoint := (ofNat? n).getD ' '

/-- Code points are ordered by their numbers. -/
def lt (a b : CodePoint) : Bool := a.value < b.value

theorem ofNat?_value (c : CodePoint) : ofNat? c.value = some c := by
  cases c with
  | scalar c =>
    have h : c.toNat.isValidChar := c.valid
    rw [ofNat?, value, dif_pos h]
    rfl
  | surrogate u =>
    obtain ⟨u, hu⟩ := u
    have h : ¬ (0xD800 + u).isValidChar := by
      rw [Nat.isValidChar]
      omega
    rw [ofNat?, value, dif_neg h, dif_pos (by constructor <;> simp only <;> omega)]
    simp

theorem value_injective {a b : CodePoint} (h : a.value = b.value) : a = b := by
  have ha := ofNat?_value a
  rw [h, ofNat?_value b] at ha
  exact (Option.some.inj ha).symm

end CodePoint

/-- A text is a list of code points; lengths and positions count code points. -/
abbrev Text := List CodePoint

namespace Text

/-- The text of a string of scalar values. -/
def of (s : String) : Text := s.toList.map .scalar

instance : Coe String Text := ⟨Text.of⟩

end Text

end TemplatedNotes
