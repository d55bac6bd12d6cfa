/-
  TemplatedNotes/Literal/Escape.lean
  ==================================
  **Quoted texts and numbers of an argument literal, decoded.**

  Between quotes a backslash gives the next characters another meaning: a letter for a control
  character, `xHH`, `uHHHH` and `u{H…}` for the code point of a number, nothing for a line feed,
  and any other character for itself.  Each escape stands for one code point, also when two of
  them spell a surrogate pair.
-/
import TemplatedNotes.Literal.Token
import TemplatedNotes.Number.Decimal

namespace TemplatedNotes.Literal

/-- The letters that stand for control characters after a backslash. -/
def controlLetters : List (Char × Nat) :=
  [('n', 10), ('t', 9), ('r', 13), ('b', 8), ('f', 12), ('v', 11), ('0', 0)]

/-- The number that hexadecimal digits denote. -/
def hexValue (digits : Text) : Nat :=
  digits.foldl (fun n c => n * 16 + c.hexValue?.getD 0) 0

def codePointText (n : Nat) : Outcome Text :=
  match CodePoint.ofNat? n with
  | some c => .ok [c]
  | none => .error (.codePoint n)

/-- The digits of a number escape after the letters `u` or `x`, with the length of the escape:
    digits in braces, or exactly `width` of them. -/
def numberEscape? (braces : Bool) (width : Nat) (t : Text) : Option (Text × Nat) :=
  let inBraces := match t with
    | .scalar '\x7b' :: rest =>
      let digits := rest.takeWhile CodePoint.isHexDigit
      if braces ∧ !digits.isEmpty ∧ (rest.drop digits.length).head? = some '\x7d' then
        some (digits, digits.length + 3)
      else none
    | _ => none
  match inBraces with
  | some r => some r
  | none =>
    let digits := t.take width
    if digits.length = width ∧ digits.all CodePoint.isHexDigit then some (digits, width + 1)
    else none

/-- What the escape after a backslash stands for, and how many code points it takes. -/
def escape : Text → Outcome (Text × Nat)
  | [] => .ok (Text.of "\\", 0)
  | c :: rest =>
    let number :=
      if c = 'u' then numberEscape? true 4 rest
      else if c = 'x' then numberEscape? false 2 rest
      else none
    match number with
    | some (digits, n) => (codePointText (hexValue digits)).map (fun t => (t, n))
    | none =>
      if c = '\n' then .ok ([], 1)
      else
        match controlLetters.find? (fun p => c == .scalar p.1) with
        | some p => .ok ([CodePoint.ofNat p.2], 1)
        | none => .ok ([c], 1)

/-- The text that stands between quotes, where the first `skip` code points belong to an escape
    decoded already. -/
def unescapeFrom : Nat → Text → Outcome Text
  | _, [] => .ok []
  | skip + 1, _ :: rest => unescapeFrom skip rest
  | 0, c :: rest =>
    if c = '\\' then do
      let (t, n) ← escape rest
      let after ← unescapeFrom n rest
      return t ++ after
    else (unescapeFrom 0 rest).map (c :: ·)

/-- The text of a quoted literal: what its first and last code points enclose, decoded. -/
def decodeQuoted (literal : Text) : Outcome Text := unescapeFrom 0 (literal.drop 1).dropLast

/-- The value of a number literal: a whole number in base sixteen after `0x`, a fraction when it
    has a point or the letter of an exponent, and otherwise a whole number in base ten. -/
def decodeNumber (literal : Text) : Outcome Scalar :=
  if literal.take 2 = Text.of "0x" ∨ literal.take 2 = Text.of "0X" then
    match Integer.read 16 literal with
    | .ok n => .ok (.int n)
    | .error f => .error (.integer f)
  else if literal.any (fun c => c == '.' || c == 'e' || c == 'E') then
    match Decimal.read? literal with
    | some x => .ok (.float x)
    | none => .error (.fraction literal)
  else
    match Integer.read 10 literal with
    | .ok n => .ok (.int n)
    | .error f => .error (.integer f)

end TemplatedNotes.Literal
