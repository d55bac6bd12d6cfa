/-
  TemplatedNotes/CommandLine.lean
  ===============================
  **The words of a command.**

      [--version] [--vault FOLDER] COMMAND
      COMMAND:  update NOTE | update-all | update-known | insert NOTE LINE TEMPLATE | known [QUERY]

  A word that starts with a hyphen is an option, unless it is a hyphen alone, a negative number,
  or holds a space and is no option's beginning; after two hyphens alone every word is an operand.
  A long option may be cut short while one option alone starts so, and may carry its value after
  an equals sign.

  `CommandLine.read` says what a command asks for; every mistake has the same outcome.
-/
import TemplatedNotes.Number.Integer

namespace TemplatedNotes.CommandLine

def usage : Text :=
  Text.of "usage: [-h] [--version] [--vault FOLDER] COMMAND\n" ++
  Text.of "  update NOTE                 update the sections of one note\n" ++
  Text.of "  update-all                  update the sections of all notes\n" ++
  Text.of "  update-known                update the notes known to have sections\n" ++
  Text.of "  insert NOTE LINE TEMPLATE   insert a section\n" ++
  Text.of "  known [QUERY]               list the scripts known to work\n"

/-- What is to be done in a vault. -/
inductive Command where
  | update (note : Text)
  | updateAll
  | updateKnown
  | insert (note : Text) (line : Int) (template : Text)
  | known (query : Text)
deriving DecidableEq, Repr

/-- What the words of a command ask for. -/
inductive Request where
  | run (vault : Option Text) (command : Command)
  | version
  | help
  | mistake
deriving DecidableEq, Repr

/-- The options. -/
inductive Flag where
  | help
  | version
  | vault
deriving DecidableEq, Repr

/-- What a word is by itself; an option may carry a value. -/
inductive Word where
  | operand
  | separator
  | flag (f : Flag) (value : Option Text)
  | unknown
  | ambiguous
deriving DecidableEq, Repr

/-- The mark that options start with. -/
def hyphen : CodePoint := '-'

def longFlags : List (Text × Flag) :=
  [(Text.of "--help", .help), (Text.of "--version", .version), (Text.of "--vault", .vault)]

/-- Whether a text is a negative number, with a fraction perhaps; a line feed may follow. -/
def isNegativeNumber (t : Text) : Bool :=
  match t with
  | .scalar '-' :: rest =>
    let body := if rest.getLast? == some (.scalar '\n') then rest.dropLast else rest
    let whole := body.takeWhile CodePoint.isDigit
    match body.drop whole.length with
    | [] => !whole.isEmpty
    | .scalar '.' :: fraction => !fraction.isEmpty && fraction.all CodePoint.isDigit
    | _ => false
  | _ => false

/-- A text before and after its first equals sign. -/
def splitEquals (t : Text) : Text × Option Text :=
  match Text.splitAtFirst [.scalar '='] t with
  | some (before, after) => (before, some after)
  | none => (t, none)

/-- What a word is that is no whole option. -/
def abbreviated (flags : List (Text × Flag)) (t : Text) : Word :=
  let (start, value) := splitEquals t
  let found :=
    if (Text.of "--").isPrefixOf t then flags.filter (fun f => start.isPrefixOf f.1) else []
  match found with
  | [f] => .flag f.2 value
  | _ :: _ => .ambiguous
  | [] =>
    if (Text.of "-h").isPrefixOf t then .flag .help none
    else if isNegativeNumber t || t.any (fun c => c == CodePoint.scalar ' ') then .operand
    else .unknown

/-- What a word is, where some long options are known. -/
def word (flags : List (Text × Flag)) (t : Text) : Word :=
  if t.head? != some hyphen || t = [hyphen] then .operand
  else if t = [hyphen, hyphen] then .separator
  else if t = Text.of "-h" then .flag .help none
  else
    match flags.lookup t with
    | some f => .flag f none
    | none =>
      let (start, value) := splitEquals t
      match value.bind (fun _ => flags.lookup start) with
      | some f => .flag f value
      | none => abbreviated flags t

def beforeSeparator (ts : List Text) : List Text := ts.takeWhile (· != [hyphen, hyphen])

def isAmbiguous (flags : List (Text × Flag)) (t : Text) : Bool := word flags t == .ambiguous

/-- The operands of a command's words: a separator is dropped, options are mistakes but for that
    for help. -/
def operands (ts : List Text) : Except Request (List Text) :=
  match ts with
  | [] => .ok []
  | t :: rest =>
    match word [(Text.of "--help", .help)] t with
    | .operand => (operands rest).map (t :: ·)
    | .separator => .ok rest
    | .flag .help none => .error .help
    | _ => .error .mistake

/-- The command with a name and operands; `bare` says that no word at all follows the name. -/
def command? (name : Text) (bare : Bool) (ts : List Text) : Option Command :=
  if name = Text.of "update" then
    match ts with
    | [note] => some (.update note)
    | _ => none
  else if name = Text.of "update-all" then if bare then some .updateAll else none
  else if name = Text.of "update-known" then if bare then some .updateKnown else none
  else if name = Text.of "insert" then
    match ts with
    | [note, line, template] =>
      match Integer.read 10 line with
      | .ok n => some (.insert note n template)
      | .error _ => none
    | _ => none
  else if name = Text.of "known" then
    match ts with
    | [] => some (.known [])
    | [query] => some (.known query)
    | _ => none
  else none

def commandNames : List Text :=
  ["update", "update-all", "update-known", "insert", "known"].map Text.of

/-- What a command with some words asks for. -/
def readCommand (vault : Option Text) (mistaken : Bool) (name : Text) (ts : List Text) : Request :=
  if !commandNames.contains name then .mistake
  else
    match operands ts with
    | .error r => r
    | .ok operands =>
      match command? name ts.isEmpty operands with
      | some c => if mistaken then .mistake else .run vault c
      | none => .mistake

/-- Reads the words before the command's name; `mistaken` says that an unknown option came
    before. -/
def readFrom (vault : Option Text) (mistaken : Bool) : List Text → Request
  | [] => .mistake
  | t :: rest =>
    match word longFlags t with
    | .operand => readCommand vault mistaken t rest
    | .flag .version none => .version
    | .flag .version (some _) => .mistake
    | .flag .help none => .help
    | .flag .help (some _) => .mistake
    | .flag .vault (some v) => readFrom (some v) mistaken rest
    | .flag .vault none =>
      match rest with
      | v :: rest =>
        if word longFlags v = .operand then readFrom (some v) mistaken rest else .mistake
      | [] => .mistake
    | .unknown => readFrom vault true rest
    | .separator => .mistake
    | .ambiguous => .mistake

def read (ts : List Text) : Request :=
  if (beforeSeparator ts).any (isAmbiguous longFlags) then .mistake else readFrom none false ts

end TemplatedNotes.CommandLine
