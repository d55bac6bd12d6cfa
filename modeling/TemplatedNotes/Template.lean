/-
  TemplatedNotes/Template.lean
  ============================
  **The scripts that sections name.**

  A section names its script by a link.  The script is read anew each time; a link that finds no
  file, or a file that cannot be read as text, gives a missing script, whose text fails with the
  link whenever it is run.
-/
import TemplatedNotes.Vault.Link
import TemplatedNotes.Script.Encoding

namespace TemplatedNotes

/-- A script as a section names it. -/
structure Template where
  path : Text
  found : Bool
  text : Text
deriving DecidableEq

namespace Template

def missingText (path : Text) : Text :=
  Text.of "raise TemplateNotFoundError(" ++ Quoted.encode path ++ Text.of ")\n"

/-- The script of a link that leads nowhere. -/
def missing (path : Text) : Template := ⟨path, false, missingText path⟩

/-- The part of a path after its last slash. -/
def fileName (path : Text) : Text :=
  (path.reverse.takeWhile (· != CodePoint.scalar '/')).reverse

variable [Runtime]

/-- The statements of a script. -/
def program (t : Template) : Outcome Script.Program :=
  if t.found then
    match Script.compile? t.text with
    | some p => .ok p
    | none => .error (.uncompilable (fileName t.path))
  else .error (.templateNotFound t.path)

end Template

/-- The script that a link in a note means. -/
def Vault.template (v : Vault) (source link : Text) : Outcome Template := do
  match ← v.resolveLink link source with
  | none => return .missing link
  | some p =>
    match v.resourceAt p with
    | .ok t => return ⟨link, true, t⟩
    | .error f => if isUnreadable f then return .missing link else throw f

end TemplatedNotes
