/-
  TemplatedNotes/Console/Markup.lean
  ==================================
  **Tags in console messages.**

  A tag stands between brackets and starts with a small letter, a number sign, an at sign or a
  slash; it is not printed.  A tag with a slash closes the last open tag of its name, or the last
  one opened when it names none, and has to find one.  A backslash before a tag makes it ordinary
  text.
-/
import TemplatedNotes.Failure

namespace TemplatedNotes.Console

def startsTag (c : CodePoint) : Bool :=
  (97 ≤ c.value && c.value ≤ 122) || c == '#' || c == '/' || c == '@'

/-- What is between the brackets of a tag at the start of a text. -/
def tagAt? (t : Text) : Option Text :=
  match t with
  | .scalar '[' :: c :: rest =>
    let body := rest.takeWhile (fun c : CodePoint => c != ']' && c != '[')
    if startsTag c && (rest.drop body.length).head? == some (.scalar ']') then some (c :: body)
    else none
  | _ => none

def shortNames : List (Text × Text) :=
  [("b", "bold"), ("d", "dim"), ("i", "italic"), ("o", "overline"), ("r", "reverse"),
    ("s", "strike"), ("u", "underline"), ("uu", "underline2")].map
    (fun p => (Text.of p.1, Text.of p.2))

def tagName (tag : Text) : Text := tag.takeWhile (· != CodePoint.scalar '=')

/-- The name that tags are matched by. -/
def plainName (n : Text) : Text :=
  let n := Text.trim n
  let low := n.map (fun c =>
    if 65 ≤ c.value && c.value ≤ 90 then CodePoint.ofNat (c.value + 32) else c)
  (shortNames.lookup low).getD low

/-- The open tags, last one first, without the last of a name. -/
def close? (n : Text) : List Text → Option (List Text)
  | [] => none
  | tag :: rest => if tag = n then some rest else (close? n rest).map (tag :: ·)

/-- The open tags after a tag at a position. -/
def afterTag (opened : List Text) (tag : Text) (position : Nat) : Outcome (List Text) :=
  match tagName tag with
  | .scalar '/' :: n =>
    if (Text.trim n).isEmpty then
      match opened with
      | [] => .error (.unopenedTag [] position)
      | _ :: rest => .ok rest
    else
      match close? (plainName n) opened with
      | some rest => .ok rest
      | none => .error (.unopenedTag (Text.of "[" ++ tag ++ Text.of "]") position)
  | n => .ok (plainName n :: opened)

/-- The text without its tags from a position on, after `slashes` backslashes; the first `skip`
    code points belong to a tag that has been read. -/
def renderFrom (opened : List Text) (position slashes : Nat) : Nat → Text → Outcome Text
  | _, [] => .ok (List.replicate slashes (.scalar '\\'))
  | skip + 1, _ :: rest => renderFrom opened (position + 1) slashes skip rest
  | 0, c :: rest =>
    if c = '\\' then renderFrom opened (position + 1) (slashes + 1) 0 rest
    else
      match tagAt? (c :: rest) with
      | some tag =>
        let kept := List.replicate (slashes / 2) (CodePoint.scalar '\\')
        if slashes % 2 = 1 then
          (renderFrom opened (position + 1) 0 (tag.length + 1) rest).map
            (fun t => kept ++ Text.of "[" ++ tag ++ Text.of "]" ++ t)
        else do
          let opened ← afterTag opened tag position
          let t ← renderFrom opened (position + 1) 0 (tag.length + 1) rest
          return kept ++ t
      | none =>
        let kept := if c = '[' then slashes - 1 else slashes
        (renderFrom opened (position + 1) 0 0 rest).map
          (fun t => List.replicate kept (.scalar '\\') ++ c :: t)

def renderTags (t : Text) : Outcome Text := renderFrom [] 0 0 0 t

end TemplatedNotes.Console
