/-
  TemplatedNotes/Settings/Basic.lean
  ==================================
  **Settings, and where they come from.**

  Each setting has a name, a value when nothing says otherwise, and a rule for the values it can
  have.  `Settings.make` takes values given by name before those of the environment, whose
  variables may be written in any case; the list of excluded folders is written as JSON there.
  It refuses values against the rules and names their settings.

  `Settings.assign` changes a setting whatever its value.
-/
import TemplatedNotes.Settings.Location
import TemplatedNotes.Json.Reader
import TemplatedNotes.Expansion

namespace TemplatedNotes

structure Settings where
  vault : Location
  knownPaths : Location
  excluded : List Text
  missingPolicy : Text
  logLevel : Text
  logFormat : Text
  logFile : Option Location
  environment : Text
deriving DecidableEq, Repr

namespace Settings

/-- The settings when nothing says otherwise. -/
def usual : Settings where
  vault := .ofText (Text.of "./vault")
  knownPaths := .ofText (Text.of ".obsidian/plugins/dynamic-templates/data.json")
  excluded := Vault.usualExcluded
  missingPolicy := Text.of "error"
  logLevel := Text.of "INFO"
  logFormat := Text.of "console"
  logFile := none
  environment := Text.of "personal"

/-- A setting. -/
inductive Field where
  | vault
  | knownPaths
  | excluded
  | missingPolicy
  | logLevel
  | logFormat
  | logFile
  | environment
deriving DecidableEq, Repr

namespace Field

def all : List Field :=
  [.environment, .excluded, .knownPaths, .logFile, .logFormat, .logLevel, .missingPolicy, .vault]

def name : Field → Text
  | .vault => Text.of "obsidian_vault_path"
  | .knownPaths => Text.of "known_paths_file"
  | .excluded => Text.of "exclude_folders"
  | .missingPolicy => Text.of "missing_template_policy"
  | .logLevel => Text.of "log_level"
  | .logFormat => Text.of "log_format"
  | .logFile => Text.of "log_file"
  | .environment => Text.of "environment"

end Field

def text? : Value → Option Text
  | .scalar (.text t) => some t
  | _ => none

def texts? : Value → Option (List Text)
  | .list items => items.mapM text?
  | _ => none

/-- Gives a setting a value of its kind, whatever the rules. -/
def assign (s : Settings) (f : Field) (v : Value) : Settings :=
  match f, text? v with
  | .vault, some t => { s with vault := .ofText t }
  | .knownPaths, some t => { s with knownPaths := .ofText t }
  | .missingPolicy, some t => { s with missingPolicy := t }
  | .logLevel, some t => { s with logLevel := t }
  | .logFormat, some t => { s with logFormat := t }
  | .environment, some t => { s with environment := t }
  | .logFile, t => { s with logFile := t.map .ofText }
  | .excluded, _ => { s with excluded := (texts? v).getD s.excluded }
  | _, none => s

/-- A value that a setting can have, in the form it is kept in. -/
def check? (f : Field) (v : Value) : Option Value :=
  match f with
  | .excluded => (texts? v).map (fun _ => v)
  | .logFile =>
    match v with
    | .scalar .null => some v
    | v => (text? v).map Value.text
  | .missingPolicy => ((text? v).filter (["error", "empty"].map Text.of).contains).map Value.text
  | .logFormat =>
    (((text? v).map Text.lower).filter (["json", "console"].map Text.of).contains).map Value.text
  | _ => (text? v).map Value.text

/-- Variables of the environment, in the order they were first set. -/
abbrev Environment := List (Text × Text)

namespace Environment

/-- Sets a variable, in its place if it is there. -/
def set (e : Environment) (n value : Text) : Environment :=
  if e.any (fun p => p.1 == n) then e.map (fun p => if p.1 = n then (n, value) else p)
  else e ++ [(n, value)]

def unset (e : Environment) (n : Text) : Environment := e.filter (fun p => p.1 != n)

/-- The text of the variable of a setting, the last of them if only their case differs. -/
def get? (e : Environment) (f : Field) : Option Text :=
  ((e.filter (fun p => Text.lower p.1 == f.name)).getLast?).map (·.2)

variable [Runtime]

def value? (e : Environment) (f : Field) : Outcome (Option Value) :=
  match e.get? f with
  | none => .ok none
  | some t =>
    if f = .excluded then
      match Json.read t with
      | .ok (.scalar .null) => .ok none
      | .ok v => .ok (some v)
      | .error .nesting => .error .nesting
      | .error .malformed => .error .settingsText
    else .ok (some (.text t))

end Environment

variable [Runtime]

/-- The value of a setting from values given by name or the environment. -/
def given? (e : Environment) (values : List (Text × Value)) (f : Field) :
    Outcome (Option Value) := do
  let own ← e.value? f
  return values.lookup f.name <|> own

/-- The settings after some values, and the names of the settings whose values are refused. -/
def assignAll : List (Field × Option Value) → Settings × List Text
  | [] => (usual, [])
  | (_, none) :: rest => assignAll rest
  | (f, some v) :: rest =>
    let (s, refused) := assignAll rest
    match check? f v with
    | some w => (s.assign f w, refused)
    | none => (s, f.name :: refused)

/-- The settings of values given by name and an environment. -/
def make (e : Environment) (values : List (Text × Value)) : Outcome Settings := do
  let all ← Field.all.mapM (fun f => (given? e values f).map (fun v => (f, v)))
  match assignAll all with
  | (s, []) => return s
  | (_, refused) => throw (.validation refused)

def isTesting (s : Settings) : Bool :=
  (["testing", "test"].map Text.of).contains (Text.lower s.environment)

def knownPathsLocation (s : Settings) : Location := s.vault.under s.knownPaths

/-- The settings with another vault, if one is named. -/
def inVault (s : Settings) (vault : Option Text) : Settings :=
  { s with vault := ((vault.filter (!·.isEmpty)).map Location.ofText).getD s.vault }

/-- What becomes of missing scripts. -/
def policy (s : Settings) : MissingPolicy :=
  if s.missingPolicy = Text.of "empty" then .empty else .marker

end Settings

end TemplatedNotes
