/-
  TemplatedNotes/Script/Encoding.lean
  ===================================
  **Scripts written as JSON.**

  A script is a JSON list of statements, and a statement or an expression is a list that starts
  with its name:

      [["let", "name", ["attr", ["input"], "name"]],
       ["return", ["cat", ["lit", "Hello "], ["var", "name"]]]]

  An empty document is a script without statements.  Everything else that is no such list, and a
  script with the statement `syntax_error`, is malformed.
-/
import TemplatedNotes.Json.Reader
import TemplatedNotes.Value.Encoding
import TemplatedNotes.Script.Syntax

namespace TemplatedNotes.Script

def indexCall (n : String) (arguments : List Expr) : Expr :=
  .call (.member (.name indexName) (Text.of n)) arguments

/-- The expression without operands that a name stands for. -/
def constant? (op : Text) : Option Expr :=
  if op = Text.of "input" then some (.name inputName)
  else if op = Text.of "dv" then some (.name indexName)
  else if op = Text.of "current" then some (indexCall "current" [])
  else none

/-- The expression with one text for its operand that a name stands for. -/
def named? (op t : Text) : Option Expr :=
  if op = Text.of "var" then some (.name t)
  else if op = Text.of "dv_has" then some (.indexHas t)
  else if op = Text.of "broken" then some (.unshowable t)
  else none

/-- The expression with one operand that a name stands for. -/
def unary? (op : Text) (e : Expr) : Option Expr :=
  if op = Text.of "str" then some (.display e)
  else if op = Text.of "len" then some (.length e)
  else if op = Text.of "upper" then some (.call (.member e (Text.of "upper")) [])
  else if op = Text.of "require" then some (.call (.name requireName) [e])
  else if op = Text.of "page" then some (indexCall "page" [e])
  else if op = Text.of "pages" then some (indexCall "pages" [e])
  else none

/-- The expression with two operands that a name stands for. -/
def binary? (op : Text) (a b : Expr) : Option Expr :=
  if op = Text.of "item" then some (.item a b)
  else if op = Text.of "eq" then some (.same a b)
  else if op = Text.of "add" then some (.add a b)
  else none

mutual

def expr? : Value → Option Expr
  | .list (.scalar (.text op) :: parts) => operation? op parts
  | _ => none

/-- The expression of a name and its parts. -/
def operation? (op : Text) : List Value → Option Expr
  | [] => if op = Text.of "cat" then some (.concat []) else constant? op
  | [.scalar (.text t)] =>
    if op = Text.of "lit" then some (.literal (.text t)) else named? op t
  | [a] =>
    if op = Text.of "lit" then (Encoding.decode a).map .literal
    else if op = Text.of "cat" then (expr? a).map (fun e => .concat [e])
    else if op = Text.of "call" then (expr? a).map (fun e => .call e [])
    else
      match a with
      | .scalar .null => if op = Text.of "pages" then some (indexCall "pages" []) else none
      | a => (expr? a).bind (unary? op)
  | [a, .scalar (.text n)] => if op = Text.of "attr" then (expr? a).map (.member · n) else none
  | [.scalar (.text n), a] =>
    if op = Text.of "join" then (expr? a).map (.join n)
    else if op = Text.of "fn" then (expr? a).map (.function n)
    else none
  | [.scalar (.text n), a, b] =>
    if op = Text.of "map" then do
      let e ← expr? a
      let body ← expr? b
      return .each n e body
    else none
  | [a, b] => do
    let x ← expr? a
    let y ← expr? b
    if op = Text.of "cat" then return .concat [x, y]
    else if op = Text.of "call" then return .call x [y]
    else binary? op x y
  | [path, arguments, .list extra, .scalar (.bool awaited)] =>
    if op = renderName then do
      let p ← expr? path
      let es ← extra? extra
      match arguments with
      | .scalar .null => return .render p none es awaited
      | arguments =>
        let a ← expr? arguments
        return .render p (some a) es awaited
    else none
  | first :: rest => do
    let x ← expr? first
    let xs ← exprs? rest
    if op = Text.of "cat" then return .concat (x :: xs)
    else if op = Text.of "call" then return .call x xs
    else if op = Text.of "page_get" then return .call (.member x (Text.of "get")) xs
    else none

def exprs? : List Value → Option (List Expr)
  | [] => some []
  | v :: vs => do
    let e ← expr? v
    let es ← exprs? vs
    return e :: es

/-- The named expressions that pairs are. -/
def extra? : List Value → Option (List (Text × Expr))
  | [] => some []
  | .list [.scalar (.text k), v] :: rest => do
    let e ← expr? v
    let es ← extra? rest
    return (k, e) :: es
  | _ :: _ => none

end

mutual

/-- The statement that a JSON value is. -/
def stmt? : Value → Option Stmt
  | .list (.scalar (.text op) :: parts) => statement? op parts
  | _ => none

def statement? (op : Text) : List Value → Option Stmt
  | [] => if op = Text.of "syntax_error" then some .malformed else none
  | .scalar (.text t) :: rest =>
    if op = Text.of "raise" then (Encoding.decodeItems rest).map (.fail t)
    else
      match rest with
      | [v] => do
        let e ← expr? v
        if op = Text.of "let" then return .bind t e
        else if op = Text.of "dv_set" then return .assign (.name indexName) t e
        else none
      | _ => none
  | [v] => if op = Text.of "return" then (expr? v).map .finish else none
  | [v, .scalar (.text n), w] =>
    if op = Text.of "set" then do
      let e ← expr? v
      let value ← expr? w
      return .assign e n value
    else none
  | [v, .list yes, .list no] =>
    if op = Text.of "if" then do
      let e ← expr? v
      let a ← stmts? yes
      let b ← stmts? no
      return .branch e a b
    else none
  | _ => none

/-- The statements that JSON values are. -/
def stmts? : List Value → Option (List Stmt)
  | [] => some []
  | v :: vs => do
    let s ← stmt? v
    let ss ← stmts? vs
    return s :: ss

end

variable [Runtime]

/-- The script that a text is, if the text is not malformed. -/
def compile? (source : Text) : Option Program :=
  if Text.isBlank source then some []
  else
    match Json.read source with
    | .ok (.list items) =>
      match stmts? items with
      | some p => if anyMalformed p then none else some p
      | none => none
    | _ => none

end TemplatedNotes.Script
