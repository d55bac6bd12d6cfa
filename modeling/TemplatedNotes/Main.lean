/-
  TemplatedNotes/Main.lean
  ========================
  **The program: reads a vault into memory, runs a command on it and writes what changed.**

  Everything is decided by `Program.run`; what stands here moves bytes between the files and a
  `Disk`, and texts to the console.
-/
import TemplatedNotes.Console.Table
import TemplatedNotes.Program

namespace TemplatedNotes.Main

/-- The string of a text, without its surrogates. -/
def string (t : Text) : String :=
  String.ofList (t.filterMap (fun c => match c with | .scalar c => some c | .surrogate _ => none))

/-- The variables that settings are read from. -/
def environment : IO Settings.Environment := do
  let mut found := []
  for f in Settings.Field.all do
    let name := string f.name
    for spelling in [name.toUpper, name] do
      if let some value ← IO.getEnv spelling then
        found := found ++ [(Text.of spelling, Text.of value)]
  return found

/-- What stands at a directory entry and below it. -/
partial def entries (e : IO.FS.DirEntry) (place : Path) : IO (List (Path × Entry)) := do
  if ← e.path.isDir then
    let mut found := [(place, Entry.folder)]
    for inner in ← e.path.readDir do
      found := found ++ (← entries inner (place ++ [Text.of inner.fileName]))
    return found
  else if ← e.path.pathExists then
    return [(place, .file (← IO.FS.readBinFile e.path).toList)]
  else
    return []

/-- A disk on which some places are as they are outside, with the folders above them. -/
def read (start : Path) (places : List Path) : IO Disk := do
  let here ← IO.currentDir
  let mut disk : Disk := (Disk.makeFolders ⟨[]⟩ start).2
  for place in places do
    for (p, e) in ← entries ⟨here, string (Path.absoluteText place)⟩ place do
      disk := ((disk.makeFolders p.dropLast).2).put p e
  return disk

/-- The places that a run may look at: the vault, the file of the known paths and the log file. -/
def places (words : List Text) (e : Settings.Environment) (start : Path) : List Path :=
  match CommandLine.read words, Settings.make e [] with
  | .run vault _, .ok s =>
    let s := s.inVault vault
    ([s.vault, s.knownPathsLocation] ++ s.logFile.toList).filterMap
      (fun l => (l.resolve start).toOption)
  | _, _ => []

/-- Writes what differs between two disks. -/
def write (before after : Disk) : IO Unit := do
  for (p, e) in after.entries do
    if before.find? p != some e then
      let name := string (Path.absoluteText p)
      match e with
      | .folder => IO.FS.createDirAll name
      | .file bytes => IO.FS.writeBinFile name ⟨bytes.toArray⟩

def print (p : Program.Printed) : IO Unit :=
  match p with
  | .text t => IO.print (string t)
  | .table rows =>
    IO.print (string (Console.table (Text.of "Template updates")
      (["Note", "References", "Errors", "Changed"].map Text.of) rows))

/-- Ends a run: the exit code, with a word on standard error about a mistake or a failure. -/
def finish (e : Program.Ending) : IO UInt32 := do
  match e with
  | .exit code =>
    if code = 2 then IO.eprint (string CommandLine.usage)
    return code.toUInt32
  | .failed f =>
    IO.eprintln (string (f.kindName ++ Text.of ": " ++ f.message))
    return 1

def run (words : List String) : IO UInt32 := do
  let words := words.map Text.of
  let e ← environment
  let start := Path.ofText (Text.of (← IO.currentDir).toString)
  let before ← read start (places words e start)
  let r := (Program.run words e before start).interruptible
  write before r.disk
  print r.printed
  finish r.ending

end TemplatedNotes.Main

def main (words : List String) : IO UInt32 := TemplatedNotes.Main.run words
