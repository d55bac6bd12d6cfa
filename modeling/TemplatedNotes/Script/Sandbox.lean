/-
  TemplatedNotes/Script/Sandbox.lean
  ==================================
  **Running a script for a section.**

  A script gets four names: `input` for its arguments, `dv` for the index (nothing when there is
  none), `require` to load modules and `template` to render other scripts.  A failure ends the
  run and is its result, `Invocation.rendered` shows it as one line; only what stops a whole
  command goes through.

  A module is a script that is run for the names it binds: it knows `require` alone, relative to
  itself, and is the value it binds to `exports`, or else the module of its names.

  Functions, modules and scripts run one inside the other up to `maxCalls`.
-/
import TemplatedNotes.Script.Eval
import TemplatedNotes.Section.Block
import TemplatedNotes.Template

namespace TemplatedNotes

/-- The outcome of running one script: its output, if it has any, or its failure. -/
structure Invocation where
  script : Text
  result : Outcome (Option Text)

namespace Invocation

/-- Whether the script did not fail. -/
def isOk (i : Invocation) : Bool :=
  match i.result with
  | .ok _ => true
  | .error _ => false

/-- The text that stands for an invocation in a note. -/
def rendered (i : Invocation) : Option Text :=
  match i.result with
  | .ok t => t
  | .error f => some (Section.failureMarker f.kindName f.message)

end Invocation

namespace Script

/-- Whether a name is that of a module in the vault: it has a script's extension or a slash. -/
def isVaultModule (n : Text) : Bool :=
  (Text.of ".py").isSuffixOf n || n.any (fun c => c == CodePoint.scalar '/')

namespace Run

variable [Runtime]

def applyFunction (w : Host) (m : Machine) (f : Handle) (hs : List Handle) : Run Handle :=
  match f with
  | .scalar s => throw (.kind (.notCallable s.kindName))
  | .builtin b => callBuiltin w m b hs
  | .ref n => do
    match ← cell n with
    | .function title parameter body scope =>
      match hs with
      | [h] =>
        let inner ← enter (title ++ Text.of ".<locals>.") parameter h scope
        eval w m inner body
      | hs => throw (wrongCount title parameter hs.length)
    | c => throw (.kind (.notCallable c.kindName))

/-! ### Modules -/

def moduleNames (name file : Text) : Bindings :=
  [(Text.of "__name__", .text name), (notFoundName, .builtin .notFoundKind),
    (Text.of "__file__", .text file), (requireName, .builtin (.require file))]

def loadFile (w : Host) (m : Machine) (p : Path) : Run Handle := do
  let source ← ofOutcome (w.vault.resourceAt p)
  let file ← ofOutcome (w.vault.relative p)
  let fileName := p.getLast?.getD []
  match compile? source with
  | none => throw (.uncompilable fileName)
  | some program =>
    let frame ← alloc (.frame ⟨[], true, [], moduleNames (Path.stem fileName) file⟩)
    let _ ← execAll w m [frame] program
    match (← frameAt frame).names.lookup (Text.of "exports") with
    | some h => return h
    | none => make (.module frame)

/-- Loads a module that is in no vault; that of arithmetic is the one that is followed. -/
def loadPackage (n : Text) : Run Handle :=
  let first := n.takeWhile (· != CodePoint.scalar '.')
  if n = Text.of "math" then return .builtin .math
  else if n.isEmpty then
    throw (.raised (Text.of "ValueError") [.text (Text.of "Empty module name")])
  else if n.head? = some (.scalar '.') then
    throw (.kind (.wrongArguments
      (Text.of "the 'package' argument is required to perform a relative import for " ++
        Quoted.encode n)))
  else if Runtime.hasPackage first then leave first
  else throw (.packageNotFound n first)

def loadModule (w : Host) (m : Machine) (base : Text) (name : Handle) : Run Handle := do
  let n ← asText name "endswith"
  if isVaultModule n then
    match ← ofOutcome (w.vault.resolveLink n base) with
    | some p => loadFile w m p
    | none => throw (.moduleNotFound n base)
  else loadPackage n

/-! ### Scripts -/

def globalNames (script : Text) : Bindings :=
  [(Text.of "__name__", .text (Text.of "template:" ++ script)),
    (notFoundName, .builtin .notFoundKind)]

def scriptNames (w : Host) (source : Text) (input : Nat) : Bindings :=
  [(requireName, .builtin (.require source)),
    (indexName, if w.indexed then .builtin (.index source) else .null),
    (inputName, .ref input), (renderName, .builtin (.render source))]

/-- The output of a script for a note with some arguments. -/
def runScript (w : Host) (m : Machine) (script : Template) (source : Text) (es : Entries Handle) :
    Run (Option Text) := do
  let program ← ofOutcome script.program
  let input ← argumentObject es
  let globals ← alloc (.frame ⟨[], true, [], globalNames script.path⟩)
  let title := Text.of "__dynamic_template__.<locals>."
  let locals ← alloc (.frame ⟨title, false, bindsOf program, scriptNames w source input⟩)
  let result ← execAll w m [locals, globals] program
  let value ← awaitValue m (result.getD .null)
  look (fun mem => mem.output value)

/-- A run whose failure is its result, unless it stops the whole command. -/
def contain (script : Text) (x : Run (Option Text)) : Run Invocation := ExceptT.mk do
  match ← x.run with
  | .ok t => return .ok ⟨script, .ok t⟩
  | .error f => return if f.isContained then .ok ⟨script, .error f⟩ else .error f

/-- Runs a script for a note with some arguments. -/
def invoke (w : Host) (m : Machine) (script : Template) (source : Text) (es : Entries Handle) :
    Run Invocation :=
  contain script.path (runScript w m script source es)

/-- The entries of the arguments of a call: none for nothing, those of a mapping. -/
def callEntries (arguments : Handle) : Run (Entries Handle) := do
  let m ← get
  let refused := Failure.kind (.notMapping (m.kindName arguments))
  if !m.isTrue arguments then return []
  else
    match arguments with
    | .ref n => match m.cell n with
      | .mapping _ es => return es
      | _ => throw refused
    | _ => throw refused

/-- The output of another script for a note; the path it was called by is one of its arguments. -/
def renderScript (w : Host) (m : Machine) (source : Text) (path arguments : Handle)
    (extra : Bindings) : Run Text := do
  let es ← callEntries arguments
  let merged := es.update (extra.map (fun e => (Scalar.text e.1, e.2)))
  let wrapped ← merged.mapM (fun e => do return (e.1, ← wrap e.2))
  let given := Entries.set wrapped (.text Arguments.templateKey) path
  let link ← asText path "strip"
  let script ← ofOutcome (w.vault.template source link)
  let i ← invoke w m script source given
  return i.rendered.getD []

end Run

namespace Machine

variable [Runtime]

/-- How many functions, modules and scripts run one inside the other. -/
def maxCalls : Nat := Runtime.callDepth

/-- The machine that runs code with another one for what that code calls. -/
def next (w : Host) (m : Machine) : Machine :=
  ⟨Run.applyFunction w m, Run.loadModule w m, Run.renderScript w m⟩

/-- The machine for so many calls one inside the other. -/
def level (w : Host) : Nat → Machine
  | 0 => ⟨fun _ _ => throw .nesting, fun _ _ => throw .nesting, fun _ _ _ _ => throw .nesting⟩
  | n + 1 => next w (level w n)

end Machine

/-- A run after which the memory is settled. -/
def Run.settled {α : Type} (x : Run α) : Run α := ExceptT.mk do
  let r ← x.run
  modifyThe Memory Memory.settle
  return r

variable [Runtime]

/-- Runs a script for a note with the arguments of a section. -/
def Host.invoke (w : Host) (script : Template) (source : Text) (arguments : Value) :
    Run Invocation :=
  Run.settled do
    let es ← Run.storeEntries (Arguments.entriesOf arguments)
    Run.invoke w (Machine.level w Machine.maxCalls) script source es

end Script

end TemplatedNotes
