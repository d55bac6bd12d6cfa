/-
  TemplatedNotes/Script/Syntax.lean
  =================================
  **Scripts: small programs that generate text.**

  A script is a list of statements.  Values are what argument objects hold, and besides them
  pages, modules, functions and calls that wait to be run.  A function has one parameter and an
  expression for its body; a script's own names are those it binds somewhere, also where it has
  not bound them yet.
-/
import TemplatedNotes.Value.Basic

namespace TemplatedNotes.Script

def inputName : Text := Text.of "input"

def requireName : Text := Text.of "require"

def indexName : Text := Text.of "dv"

def renderName : Text := Text.of "template"

/-- The name of the kind of failure for missing scripts. -/
def notFoundName : Text := Text.of "TemplateNotFoundError"

inductive Expr where
  | literal (v : Value)
  | name (n : Text)
  | member (e : Expr) (n : Text)
  | item (e key : Expr)
  /-- The text of a value. -/
  | display (e : Expr)
  | length (e : Expr)
  /-- The texts of some values, one after the other. -/
  | concat (parts : List Expr)
  /-- The texts of a value's items with a separator between them. -/
  | join (separator : Text) (e : Expr)
  /-- The list of what an expression is for each item of a value. -/
  | each (element : Text) (e body : Expr)
  | same (a b : Expr)
  | add (a b : Expr)
  | function (parameter : Text) (body : Expr)
  | call (f : Expr) (arguments : List Expr)
  /-- The output of another script, or a call that waits when it is not `awaited`. -/
  | render (path : Expr) (arguments : Option Expr) (extra : List (Text × Expr)) (awaited : Bool)
  /-- Whether the index has an attribute. -/
  | indexHas (n : Text)
  /-- A value whose text cannot be made. -/
  | unshowable (t : Text)

/-- A statement. -/
inductive Stmt where
  | bind (n : Text) (e : Expr)
  | finish (e : Expr)
  | branch (e : Expr) (yes no : List Stmt)
  | fail (kindName : Text) (values : List Value)
  | assign (e : Expr) (n : Text) (value : Expr)
  /-- Stands for a script that is malformed as a whole. -/
  | malformed

/-- A script. -/
abbrev Program := List Stmt

mutual

def Stmt.binds : Stmt → List Text
  | .bind n _ => [n]
  | .branch _ yes no => bindsOf yes ++ bindsOf no
  | _ => []

def bindsOf : List Stmt → List Text
  | [] => []
  | s :: rest => s.binds ++ bindsOf rest

end

mutual

def Stmt.isMalformed : Stmt → Bool
  | .malformed => true
  | .branch _ yes no => anyMalformed yes || anyMalformed no
  | _ => false

def anyMalformed : List Stmt → Bool
  | [] => false
  | s :: rest => s.isMalformed || anyMalformed rest

end

end TemplatedNotes.Script
