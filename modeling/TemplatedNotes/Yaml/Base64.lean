/-
  TemplatedNotes/Yaml/Base64.lean
  ===============================
  **Bytes written in base 64.**

  Characters outside the alphabet are skipped.  Two equals signs after two digits of a group, or
  one after three, end the data; otherwise a group that is not full is an error.
-/
import TemplatedNotes.Text.CodePoint

namespace TemplatedNotes.Base64

def digit? (n : Nat) : Option Nat :=
  if 65 ≤ n ∧ n ≤ 90 then some (n - 65)
  else if 97 ≤ n ∧ n ≤ 122 then some (n - 71)
  else if 48 ≤ n ∧ n ≤ 57 then some (n + 4)
  else if n = 43 then some 62
  else if n = 47 then some 63
  else none

/-- The byte that the second and later digits of a group complete. -/
def completed (digits : List Nat) : List UInt8 :=
  match digits with
  | [b, a] => [(a * 4 + b / 16).toUInt8]
  | [c, b, _] => [(b % 16 * 16 + c / 4).toUInt8]
  | [d, c, _, _] => [(c % 4 * 64 + d).toUInt8]
  | _ => []

/-- Decodes after the digits of the current group (last first) and so many equals signs. -/
def decodeFrom (group : List Nat) (signs : Nat) : Text → Option (List UInt8)
  | [] => if group.isEmpty then some [] else none
  | c :: rest =>
    if c = '=' then
      if 2 ≤ group.length ∧ 4 ≤ group.length + signs + 1 then some []
      else decodeFrom group (if 2 ≤ group.length then signs + 1 else signs) rest
    else
      match digit? c.value with
      | none => decodeFrom group signs rest
      | some d =>
        let next := d :: group
        (decodeFrom (if next.length = 4 then [] else next) 0 rest).map (completed next ++ ·)

/-- The bytes of a text, none if it is no base 64. -/
def decode? (t : Text) : Option (List UInt8) := decodeFrom [] 0 t

end TemplatedNotes.Base64
