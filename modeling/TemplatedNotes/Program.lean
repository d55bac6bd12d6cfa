/-
  TemplatedNotes/Program.lean
  ===========================
  **A run of the program on a disk.**

  A run reads the command's words and the settings, starts a log file if the settings name one,
  opens the vault and does what the command says.  Failures of files and of values end it with
  exit code 1 and print nothing, mistakes in the words with 2; other failures escape.  What was
  written before a failure stays.
-/
import TemplatedNotes.CommandLine
import TemplatedNotes.Console.Markup
import TemplatedNotes.Console.Wrap
import TemplatedNotes.Runtime.Usual
import TemplatedNotes.Settings.Cache
import TemplatedNotes.Update

namespace TemplatedNotes.Program

instance runtime : Runtime := .usual

def version : Text := Text.of "0.1.0"

/-- What a run prints: some text, or a table. -/
inductive Printed where
  | text (t : Text)
  | table (rows : List (List Text))
deriving DecidableEq

/-- How a run ends: with an exit code, or with a failure that escapes. -/
inductive Ending where
  | exit (code : Nat)
  | failed (f : Failure)

/-- The outcome of a run. -/
structure Report where
  ending : Ending
  printed : Printed
  disk : Disk

def Printed.nothing : Printed := .text []

/-- The row of a note in the table. -/
def row (e : Expansion) : List Text :=
  [e.source, Integer.natText e.references, Integer.natText e.errors.length,
    Text.of (if e.changed then "yes" else "no")]

def notFound (note : Text) : Outcome Text := Console.renderTags (Text.of "Note not found: " ++ note)

/-- Does what a command says; gives the exit code and what is printed. -/
def perform (c : CommandLine.Command) : Action Workspace (Nat × Printed) := do
  match c with
  | .update note =>
    match ← Workspace.update note with
    | some e => return (0, .table [row e])
    | none => return (1, .text (Console.print (← Action.lift (notFound note))))
  | .updateAll => return (0, .table ((← Workspace.updateAll).map row))
  | .updateKnown => return (0, .table ((← Workspace.updateKnown).map row))
  | .insert note line template =>
    return (0, .text (Console.print (← Workspace.insert note line template)))
  | .known query => return (0, .text (((← get).known.suggest query).flatMap Console.print))

/-- Opens a log file at its end; it is made if it is missing, and so are the folders above it. -/
def startLog (d : Disk) (file : Path) : Outcome Unit × Disk :=
  match d.makeFolders file.dropLast with
  | (.error f, d) => (.error f, d)
  | (.ok (), d) =>
    match d.openable file with
    | .error f => (.error (.file f (Path.absoluteText file)), d)
    | .ok () => (.ok (), if (d.find? file).isSome then d else d.put file (.file []))

/-- Opens a log file where the settings say, for a program started in a folder. -/
def startLogOf (d : Disk) (start : Path) (l : Option Location) : Outcome Unit × Disk :=
  match l with
  | none => (.ok (), d)
  | some l =>
    match l.resolve start with
    | .ok file => startLog d file
    | .error f => (.error f, d)

/-- A session on the vault that the settings name, for a program started in a folder. -/
def openWorkspace (s : Settings) (d : Disk) (start : Path) : Outcome Workspace := do
  let root ← s.vault.resolve start
  if ← d.isFolder root then
    let store ← s.knownPathsLocation.resolve start
    let vault : Vault := ⟨root, s.excluded, d, []⟩
    return ⟨vault, true, s.policy, .empty, .empty, some store⟩
  else throw (.file .notFound s.vault.text)

/-- How a failure of a command ends a run. -/
def endingOf (f : Failure) : Ending := if f.isFile || f.isValue then .exit 1 else .failed f

def runIn (w : Workspace) (c : CommandLine.Command) : Report :=
  let (r, w) := (do Workspace.load; perform c : Action Workspace _).run.run w
  match r with
  | .ok (code, printed) => ⟨.exit code, printed, w.vault.disk⟩
  | .error f => ⟨endingOf f, .nothing, w.vault.disk⟩

/-- Runs a command with settings, in the vault it names or else theirs. -/
def runWith (s : Settings) (vault : Option Text) (c : CommandLine.Command) (d : Disk)
    (start : Path) : Report :=
  let s := s.inVault vault
  match startLogOf d start s.logFile with
  | (.error f, d) => ⟨.failed f, .nothing, d⟩
  | (.ok (), d) =>
    match openWorkspace s d start with
    | .ok w => runIn w c
    | .error f => ⟨endingOf f, .nothing, d⟩

/-- Runs the program with some words, in an environment and a folder. -/
def run (words : List Text) (e : Settings.Environment) (d : Disk) (start : Path) : Report :=
  match CommandLine.read words with
  | .mistake => ⟨.exit 2, .nothing, d⟩
  | .help => ⟨.exit 0, .nothing, d⟩
  | .version => ⟨.exit 0, .text (version ++ Text.of "\n"), d⟩
  | .run vault c =>
    match Settings.make e [] with
    | .error f => ⟨.failed f, .nothing, d⟩
    | .ok s => runWith s vault c d start

def isInterruption : Failure → Bool
  | .raised kind _ => kind == Text.of "KeyboardInterrupt"
  | _ => false

/-- A run whose interruption is reported. -/
def Report.interruptible (r : Report) : Report :=
  match r.ending with
  | .failed f =>
    if isInterruption f then ⟨.exit 130, .text (Text.of "\nInterrupted\n"), r.disk⟩ else r
  | .exit _ => r

end TemplatedNotes.Program
