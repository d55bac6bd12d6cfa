/-
  TemplatedNotes/Number/Decimal.lean
  ==================================
  **Reading decimal fractions.**

  A fraction has an optional sign, digits with a point among or around them, and an optional
  exponent; or it is `inf`, `infinity` or `nan` in any case.  Blanks around it and single
  underscores between digits do not count.  The number read is the nearest one.
-/
import TemplatedNotes.Number.Binary64
import TemplatedNotes.Text.Case

namespace TemplatedNotes.Decimal

/-- The parts of a decimal fraction: sign, digits before and after the point, exponent. -/
structure Parts where
  negative : Bool
  whole : List Nat
  fraction : List Nat
  exponent : Int

def Parts.number (p : Parts) : Binary64 :=
  Binary64.ofDecimal p.negative (Integer.ofDigits 10 (p.whole ++ p.fraction))
    (p.exponent - p.fraction.length)

def spanDigits : Text → List Nat × Text
  | [] => ([], [])
  | c :: rest =>
    match c.digitValue? with
    | some d => let (ds, after) := spanDigits rest; (d :: ds, after)
    | none => ([], c :: rest)

/-- The exponent that a text is, if it is one; an empty text is the exponent zero. -/
def exponent? : Text → Option Int
  | [] => some 0
  | .scalar e :: rest =>
    if e = 'e' ∨ e = 'E' then
      let (negative, body) := Integer.splitSign rest
      let (digits, after) := spanDigits body
      if digits.isEmpty ∨ !after.isEmpty then none
      else
        let n : Nat := Integer.ofDigits 10 digits
        some (if negative then -(n : Int) else n)
    else none
  | _ => none

/-- The parts of an unsigned fraction. -/
def parts? (negative : Bool) (t : Text) : Option Parts :=
  let (whole, after) := spanDigits t
  match after with
  | .scalar '.' :: rest =>
    let (fraction, after) := spanDigits rest
    if whole.isEmpty ∧ fraction.isEmpty then none
    else (exponent? after).map (fun e => ⟨negative, whole, fraction, e⟩)
  | _ => if whole.isEmpty then none else (exponent? after).map (fun e => ⟨negative, whole, [], e⟩)

/-- A text without its underscores, if each stands between two digits; `last` says whether a digit
    comes before the text. -/
def dropUnderscores (last : Bool) : Text → Option Text
  | [] => some []
  | c :: rest =>
    if c = '_' then
      match rest with
      | d :: _ => if last ∧ d.isDigit then dropUnderscores false rest else none
      | [] => none
    else (dropUnderscores c.isDigit rest).map (c :: ·)

def read? (t : Text) : Option Binary64 :=
  match dropUnderscores false (Integer.trimPadding t) with
  | none => none
  | some body =>
    let (negative, rest) := Integer.splitSign body
    let word := if rest.all (fun c => c.value < 128) then Text.lower rest else rest
    if word = Text.of "inf" ∨ word = Text.of "infinity" then some (.infinite negative)
    else if word = Text.of "nan" then some .nan
    else (parts? negative rest).map Parts.number

end TemplatedNotes.Decimal
