/-
  TemplatedNotes/Script/Eval.lean
  ===============================
  **Running statements and expressions.**

  Evaluation follows the script and goes from left to right; an assignment evaluates its value
  first.  What leaves the script, namely the body of a function, a module and another script, is
  run by a `Machine`, so that evaluation itself is recursion on the script.
-/
import TemplatedNotes.Script.Access
import TemplatedNotes.Text.Case

namespace TemplatedNotes.Script

/-- What runs the code that is not part of a script: `apply` calls a function, `load` loads a
    module for a note or module, `render` gives the output of another script for a note. -/
structure Machine where
  apply : Handle → List Handle → Run Handle
  load : Text → Handle → Run Handle
  render : Text → Handle → Handle → Bindings → Run Text

namespace Run

variable [Runtime]

/-- The failure of a function called with the wrong number of arguments. -/
def wrongCount (title parameter : Text) (given : Nat) : Failure :=
  .kind (.wrongArguments (title ++
    (if given = 0 then
      Text.of "() missing 1 required positional argument: " ++ KindFault.mark parameter
    else
      Text.of "() takes 1 positional argument but " ++ Integer.natText given ++
        Text.of " were given")))

/-- The failure of a built-in called with arguments that it does not take. -/
def badCall (b : Builtin) : Failure :=
  .kind (.wrongArguments (b.kindName ++ Text.of " takes other arguments"))

def capitalByte (b : UInt8) : UInt8 := if 97 ≤ b ∧ b ≤ 122 then b - 32 else b

def callBuiltin (w : Host) (m : Machine) (b : Builtin) (hs : List Handle) : Run Handle :=
  match b, hs with
  | .require base, [name] => m.load base name
  | .current source, [] => do
    match ← indexMember (Text.of "page") with
    | .builtin .page => indexPage w (.text source)
    | f => m.apply f [.text source]
  | .page, [link] => indexPage w link
  | .pages, [] => indexPages w .null
  | .pages, [folder] => indexPages w folder
  | .pageGet owner, [key] => getFrom owner key .null
  | .pageGet owner, [key, default] => getFrom owner key default
  | .mappingMethod owner n, [key] =>
    if n = Text.of "get" then look (fun mem => mem.getOr (.ref owner) key .null)
    else throw (badCall b)
  | .mappingMethod owner n, [key, default] =>
    if n = Text.of "get" then look (fun mem => mem.getOr (.ref owner) key default)
    else throw (badCall b)
  | .upper (.text t), [] => return .text (Text.upper t)
  | .upper (.bytes b), [] => return .scalar (.bytes (b.map capitalByte))
  | .gcd, [.scalar a, .scalar b] =>
    match a.int?, b.int? with
    | some x, some y => return .nat (Int.gcd x y)
    | _, _ => throw (badCall .gcd)
  | .notFoundKind, [_] => throw (badCall b)
  | b, _ => throw (match b with
    | .index _ | .math => .kind (.notCallable b.kindName)
    | b => badCall b)
where
  /-- The value of a key of a page's frontmatter, or another value. -/
  getFrom (owner : Nat) (key default : Handle) : Run Handle := do
    match ← cell owner with
    | .page fields => look (fun mem => mem.getOr (Memory.frontmatterOf fields) key default)
    | c => throw (.noAttribute c.kindName (Text.of "get"))

def callValue (w : Host) (m : Machine) (f : Handle) (hs : List Handle) : Run Handle :=
  match f with
  | .builtin b => callBuiltin w m b hs
  | f => m.apply f hs

/-- The failure of a name that is given twice in a call of a script. -/
def givenTwice (n : Text) : Failure :=
  .kind (.wrongArguments
    (Text.of "ScriptSandbox._template_callback.<locals>.invoke_template() got multiple values " ++
      Text.of "for argument " ++ KindFault.mark n))

/-- The call of another script with its arguments: an extra one named `args` stands for them, and
    none can be given twice. -/
def waitingCall (source : Text) (path : Handle) (arguments : Option Handle) (extra : Bindings) :
    Run Cell :=
  let name := Text.of "args"
  if extra.any (fun e => e.1 == Text.of "path") then throw (givenTwice (Text.of "path"))
  else
    match arguments, extra.lookup name with
    | some _, some _ => throw (givenTwice name)
    | some a, none => return .waiting source path a extra
    | none, some a => return .waiting source path a (extra.filter (fun e => e.1 != name))
    | none, none => return .waiting source path .null extra

/-- The result of a call that waits, any other value as it is. -/
def awaitValue (m : Machine) (h : Handle) : Run Handle :=
  match h with
  | .ref n => do
    match ← cell n with
    | .waiting source path arguments extra =>
      return .text (← m.render source path arguments extra)
    | _ => return h
  | h => return h

mutual

def eval (w : Host) (m : Machine) (scope : List Nat) : Expr → Run Handle
  | .literal v => store v
  | .name n => findName n true scope
  | .member e n => do
    let h ← eval w m scope e
    member h n
  | .item e k => do
    let h ← eval w m scope e
    let key ← eval w m scope k
    look (fun mem => mem.item h key)
  | .display e => do
    let h ← eval w m scope e
    return .text (← look (fun mem => mem.display h))
  | .length e => do
    let h ← eval w m scope e
    return .nat (← look (fun mem => mem.length h))
  | .concat parts => do return .text (← evalTexts w m scope parts)
  | .join separator e => do
    let h ← eval w m scope e
    let items ← look (fun mem => mem.items h)
    let ts ← items.mapM (fun x => look (fun mem => mem.display x))
    return .text (Text.join separator ts)
  | .each n e body => do
    let h ← eval w m scope e
    let items ← look (fun mem => mem.items h)
    let title ← titleOf scope
    let inner ← enter (title ++ Text.of "<listcomp>.") n .null scope
    let hs ← items.mapM (fun x => do
      bindName inner n x
      eval w m inner body)
    make (.list hs)
  | .same a b => do
    let x ← eval w m scope a
    let y ← eval w m scope b
    return .bool (← look (fun mem => mem.same x y))
  | .add a b => do
    let x ← eval w m scope a
    let y ← eval w m scope b
    add x y
  | .function parameter body => do
    let title ← titleOf scope
    make (.function (title ++ Text.of "<lambda>") parameter body scope)
  | .call f arguments => do
    let g ← eval w m scope f
    let hs ← evalAll w m scope arguments
    callValue w m g hs
  | .render path arguments extra awaited => do
    let f ← findName renderName true scope
    let p ← eval w m scope path
    let a ← evalOption w m scope arguments
    let es ← evalExtra w m scope extra
    match f with
    | .builtin (.render source) => do
      let call ← make (← waitingCall source p a es)
      if awaited then awaitValue m call else return call
    | f => do throw (.kind (.notCallable ((← get).kindName f)))
  | .indexHas n => do
    let index ← findName indexName true scope
    return .bool (← indexHas index n)
  | .unshowable t => make (.unshowable t)

def evalAll (w : Host) (m : Machine) (scope : List Nat) : List Expr → Run (List Handle)
  | [] => return []
  | e :: rest => do
    let h ← eval w m scope e
    let hs ← evalAll w m scope rest
    return h :: hs

/-- The texts of the values of expressions, one after the other. -/
def evalTexts (w : Host) (m : Machine) (scope : List Nat) : List Expr → Run Text
  | [] => return []
  | e :: rest => do
    let h ← eval w m scope e
    let t ← look (fun mem => mem.display h)
    let ts ← evalTexts w m scope rest
    return t ++ ts

def evalOption (w : Host) (m : Machine) (scope : List Nat) : Option Expr → Run (Option Handle)
  | none => return none
  | some e => do return some (← eval w m scope e)

def evalExtra (w : Host) (m : Machine) (scope : List Nat) : List (Text × Expr) → Run Bindings
  | [] => return []
  | (k, e) :: rest => do
    let h ← eval w m scope e
    let hs ← evalExtra w m scope rest
    return (k, h) :: hs

end

def raised (kindName : Text) (values : List Value) : Failure :=
  let own := Text.of "custom:"
  if own.isPrefixOf kindName then .raised (kindName.drop own.length) values
  else if kindName = Text.of "TemplateNotFoundError" then
    match values with
    | [v] => .templateNotFound (Failure.shownValue v)
    | [] => .kind (.wrongArguments (kindName ++
        Text.of ".__init__() missing 1 required positional argument: 'script_path'"))
    | vs => .kind (.wrongArguments (kindName ++
        Text.of ".__init__() takes 2 positional arguments but " ++
        Integer.natText (vs.length + 1) ++ Text.of " were given"))
  else .raised kindName values

mutual

/-- Runs a statement; a value is the script's result and ends it. -/
def exec (w : Host) (m : Machine) (scope : List Nat) : Stmt → Run (Option Handle)
  | .bind n e => do
    let h ← eval w m scope e
    bindName scope n h
    return none
  | .finish e => do return some (← eval w m scope e)
  | .branch e yes no => do
    let h ← eval w m scope e
    if (← get).isTrue h then execAll w m scope yes else execAll w m scope no
  | .fail kindName values => throw (raised kindName values)
  | .assign e n value => do
    let v ← eval w m scope value
    let h ← eval w m scope e
    assign h n v
    return none
  | .malformed => return none

/-- Runs statements until one of them ends the script. -/
def execAll (w : Host) (m : Machine) (scope : List Nat) : List Stmt → Run (Option Handle)
  | [] => return none
  | s :: rest => do
    match ← exec w m scope s with
    | some h => return some h
    | none => execAll w m scope rest

end

end Run

end TemplatedNotes.Script
