/-
  TemplatedNotes/Failure.lean
  ===========================
  **Everything that can go wrong, by cause.**

  A failing script leaves a marker with the kind and the message of its failure in the note, so
  both are output of this library: `Failure.kindName` and `Failure.message` give them for each
  cause.  `Failure.isContained` tells the failures that end one script run from those that end the
  whole command (a cancelled or interrupted run, and one that is not followed any further).
-/
import TemplatedNotes.Text.Utf8
import TemplatedNotes.Value.Basic

namespace TemplatedNotes

/-- Why an argument literal does not follow its grammar; an empty `found` is the end. -/
inductive LiteralFault where
  | unexpectedCharacter (c : CodePoint) (position : Nat)
  | stalled (position : Nat)
  | expected (mark : CodePoint) (position : Nat) (found : Text)
  | trailing (position : Nat)
  | signOnOther (position : Nat)
  | unexpected (found : Text) (position : Nat)
  | invalidKey (found : Text) (position : Nat)
deriving DecidableEq, Repr

/-- Why a path names no place in the vault. -/
inductive PathFault where
  | outside (path : Text)
  | nullByte
  /-- A surrogate that no file name holds, in this text. -/
  | unencodable (t : Text)
deriving DecidableEq, Repr

/-- Why a file operation fails. -/
inductive FileFault where
  | notFound
  | alreadyExists
  | notDirectory
  | isDirectory
  | nameTooLong
deriving DecidableEq, Repr

/-- Why an operation does not apply to the kinds of its operands. -/
inductive KindFault where
  | notIterable (kind : Text)
  | notSubscriptable (kind : Text)
  | notCallable (kind : Text)
  | notMapping (kind : Text)
  | noLength (kind : Text)
  | noItemAssignment (kind : Text)
  /-- No item can be removed; of a sequence with an index the wording differs. -/
  | noItemDeletion (kind : Text) (byIndex : Bool)
  | unhashable (kind : Text)
  | badIndex (sequence kind : Text)
  | badConcat (left right : Text)
  | badOperands (left right : Text)
  | notSearchable (kind : Text)
  | notContained (sequence kind : Text)
  | wrongArguments (what : Text)
deriving DecidableEq, Repr

inductive Failure where
  | literal (f : LiteralFault)
  | integer (f : Integer.Fault)
  | fraction (t : Text)
  /-- A number that is no code point. -/
  | codePoint (n : Nat)
  /-- A whole number past the greatest double. -/
  | hugeInteger
  | nesting
  | path (f : PathFault)
  | file (f : FileFault) (path : Text)
  | undecodable (f : Utf8.Fault)
  /-- A text with a surrogate was to be written. -/
  | unencodable (t : Text)
  /-- A link without any path component was looked up by its last one. -/
  | emptyLink
  | templateNotFound (path : Text)
  | moduleNotFound (name base : Text)
  | packageNotFound (name missing : Text)
  | calendar (f : CalendarFault)
  | validation (fields : List Text)
  | settingsText
  | noKey (key : Scalar)
  | noAttribute (kind name : Text)
  | noArgument (name : Text)
  | noModuleAttribute (module name : Text)
  | noKindAttribute (kind name : Text)
  | noField (record name : Text)
  | fixedAttribute (kind name : Text)
  /-- An attribute that is computed and cannot be assigned. -/
  | computedAttribute (kind name : Text)
  | listIndex
  | listAssignment
  | textIndex
  | bytesIndex
  /-- An index that no sequence is long enough for. -/
  | hugeIndex
  | kind (f : KindFault)
  | undefinedName (name : Text)
  | unassignedName (name : Text)
  /-- A name of the code around a function that has no value yet. -/
  | unassignedOuterName (name : Text)
  | uncompilable (file : Text)
  /-- The text of a value could not be made. -/
  | unshowable (t : Text)
  /-- A script gets hold of a part of the engine or the interpreter, by this name; what comes of it
      is not followed. -/
  | unfollowed (name : Text)
  /-- A script raised a failure of a named kind with these values. -/
  | raised (kindName : Text) (values : List Value)
  /-- A closing tag of a console message, empty if it has no name, that closes nothing. -/
  | unopenedTag (tag : Text) (position : Nat)

/-- A result or a failure. -/
abbrev Outcome (α : Type) := Except Failure α

namespace LiteralFault

def shown (found : Text) : Text :=
  Quoted.encode (if found.isEmpty then Text.of "end of input" else found)

/-- The message of a fault in an argument literal. -/
def message : LiteralFault → Text
  | .unexpectedCharacter c p =>
    Text.of "Unexpected character " ++ Quoted.encode [c] ++ Text.of " at " ++ Integer.natText p
  | .stalled p => Text.of "Tokenizer stalled at " ++ Integer.natText p
  | .expected m p found =>
    Text.of "Expected " ++ Quoted.encode [m] ++ Text.of " at " ++ Integer.natText p ++
      Text.of ", got " ++ shown found
  | .trailing p => Text.of "Unexpected trailing input at " ++ Integer.natText p
  | .signOnOther p => Text.of "Sign applied to non-number at " ++ Integer.natText p
  | .unexpected found p =>
    Text.of "Unexpected " ++ shown found ++ Text.of " at " ++ Integer.natText p
  | .invalidKey found p =>
    Text.of "Invalid key " ++ Quoted.encode found ++ Text.of " at " ++ Integer.natText p

end LiteralFault

/-- The message of a fault in reading or writing a whole number; of a long text the first two
    hundred quoted characters are shown. -/
def Integer.Fault.message : Integer.Fault → Text
  | .malformed base t =>
    Text.of "invalid literal for int() with base " ++ Integer.natText base ++ Text.of ": " ++
      (Quoted.encode t).take 200
  | .tooManyDigits n =>
    Text.of "Exceeds the limit (4300 digits) for integer string conversion: value has " ++
      Integer.natText n ++
      Text.of " digits; use sys.set_int_max_str_digits() to increase the limit"
  | .tooLong =>
    Text.of "Exceeds the limit (4300 digits) for integer string conversion; " ++
      Text.of "use sys.set_int_max_str_digits() to increase the limit"

/-- The message of a fault in a sequence of bytes. -/
def Utf8.Fault.message (f : Utf8.Fault) : Text :=
  let place := match f.bytes with
    | [b] =>
      Text.of "byte 0x" ++ Quoted.hexDigits 2 b.toNat ++ Text.of " in position " ++
        Integer.natText f.position
    | _ =>
      Text.of "bytes in position " ++ Integer.natText f.position ++ Text.of "-" ++
        Integer.natText (f.position + f.bytes.length - 1)
  let reason := match f.reason with
    | .start => "invalid start byte"
    | .continuation => "invalid continuation byte"
    | .truncated => "unexpected end of data"
  Text.of "'utf-8' codec can't decode " ++ place ++ Text.of ": " ++ Text.of reason

/-- The message about a text with surrogates; it names the first run of them. -/
def surrogateMessage (t : Text) : Text :=
  let isScalar : CodePoint → Bool := fun c => match c with | .scalar _ => true | _ => false
  let start := (t.takeWhile isScalar).length
  let run := (t.drop start).takeWhile (fun c => !isScalar c)
  let place := match run with
    | [c] => Text.of "character " ++ Quoted.encode [c] ++ Text.of " in position " ++
        Integer.natText start
    | _ => Text.of "characters in position " ++ Integer.natText start ++ Text.of "-" ++
        Integer.natText (start + run.length - 1)
  Text.of "'utf-8' codec can't encode " ++ place ++ Text.of ": surrogates not allowed"

namespace FileFault

def kindName : FileFault → String
  | .notFound => "FileNotFoundError"
  | .alreadyExists => "FileExistsError"
  | .notDirectory => "NotADirectoryError"
  | .isDirectory => "IsADirectoryError"
  | .nameTooLong => "OSError"

/-- The number and the wording of a file fault. -/
def wording : FileFault → String
  | .notFound => "[Errno 2] No such file or directory"
  | .alreadyExists => "[Errno 17] File exists"
  | .notDirectory => "[Errno 20] Not a directory"
  | .isDirectory => "[Errno 21] Is a directory"
  | .nameTooLong => "[Errno 36] File name too long"

end FileFault

namespace KindFault

/-- A kind between single quotes. -/
def mark (kind : Text) : Text := Text.of "'" ++ kind ++ Text.of "'"

/-- The message about operands of the wrong kind. -/
def message : KindFault → Text
  | .notIterable k => mark k ++ Text.of " object is not iterable"
  | .notSubscriptable k => mark k ++ Text.of " object is not subscriptable"
  | .notCallable k => mark k ++ Text.of " object is not callable"
  | .notMapping k => mark k ++ Text.of " object is not a mapping"
  | .noLength k => Text.of "object of type " ++ mark k ++ Text.of " has no len()"
  | .noItemAssignment k => mark k ++ Text.of " object does not support item assignment"
  | .noItemDeletion k byIndex =>
    mark k ++ Text.of (if byIndex then " object doesn't support item deletion"
      else " object does not support item deletion")
  | .unhashable k => Text.of "unhashable type: " ++ mark k
  | .badIndex s k =>
    s ++ Text.of " indices must be integers" ++
      (if s = Text.of "string" then Text.of ", not " ++ mark k
       else Text.of " or slices, not " ++ k)
  | .badConcat l r =>
    Text.of "can only concatenate " ++ l ++ Text.of " (not \"" ++ r ++ Text.of "\") to " ++ l
  | .badOperands l r =>
    Text.of "unsupported operand type(s) for +: " ++ mark l ++ Text.of " and " ++ mark r
  | .notSearchable k => Text.of "argument of type " ++ mark k ++ Text.of " is not iterable"
  | .notContained s k =>
    mark (Text.of "in <" ++ s ++ Text.of ">") ++ Text.of " requires " ++ s ++
      Text.of " as left operand, not " ++ k
  | .wrongArguments what => what

end KindFault

/-- The kinds of file failures that a raised one may be, by the name it is raised under. -/
def fileFailureKinds : List String :=
  ["OSError", "IOError", "EnvironmentError", "FileNotFoundError", "FileExistsError",
    "NotADirectoryError", "IsADirectoryError", "PermissionError", "TimeoutError",
    "ConnectionError", "BlockingIOError", "ChildProcessError", "InterruptedError",
    "ProcessLookupError", "BrokenPipeError", "ConnectionAbortedError", "ConnectionRefusedError",
    "ConnectionResetError"]

/-- The kinds under `ValueError`. -/
def valueFailureKinds : List String :=
  ["ValueError", "UnicodeError", "UnicodeDecodeError", "UnicodeEncodeError",
    "UnicodeTranslateError"]

/-- The kinds that end a whole command. -/
def uncontainedKinds : List String :=
  ["BaseException", "CancelledError", "GeneratorExit", "KeyboardInterrupt", "BaseExceptionGroup"]

def fileKindOfNumber (n : Int) : Option String :=
  [(1, "PermissionError"), (2, "FileNotFoundError"), (3, "ProcessLookupError"),
    (4, "InterruptedError"), (10, "ChildProcessError"), (11, "BlockingIOError"),
    (13, "PermissionError"), (17, "FileExistsError"), (20, "NotADirectoryError"),
    (21, "IsADirectoryError"), (32, "BrokenPipeError"), (103, "ConnectionAbortedError"),
    (104, "ConnectionResetError"), (110, "TimeoutError"),
    (111, "ConnectionRefusedError")].lookup n

namespace Failure

/-- The text of a value in a message; the message of a number too long to write is empty. -/
def shownValue (v : Value) : Text :=
  match v.display with
  | .ok t => t
  | .error _ => []

def quotedValue (v : Value) : Text :=
  match v.quoted with
  | .ok t => t
  | .error _ => []

/-- The message of a raised failure: nothing, its only value (a missing key quoted), or all its
    values; a file failure shows its number in brackets. -/
def raisedMessage (kindName : Text) (values : List Value) : Text :=
  let isFile := fileFailureKinds.any (fun k => Text.of k = kindName)
  match isFile, values with
  | _, [] => []
  | _, [v] => if kindName = Text.of "KeyError" then quotedValue v else shownValue v
  | true, [n, w] => Text.of "[Errno " ++ shownValue n ++ Text.of "] " ++ shownValue w
  | true, n :: w :: f :: _ =>
    Text.of "[Errno " ++ shownValue n ++ Text.of "] " ++ shownValue w ++ Text.of ": " ++
      quotedValue f
  | _, vs => Text.of "(" ++ Text.join (Text.of ", ") (vs.map quotedValue) ++ Text.of ")"

/-- The kind of a raised failure; a plain file failure takes it from its number. -/
def raisedKind (kindName : Text) (values : List Value) : Text :=
  if kindName = Text.of "IOError" ∨ kindName = Text.of "EnvironmentError" ∨
      kindName = Text.of "OSError" then
    match values with
    | .scalar s :: _ :: _ => Text.of ((s.int?.bind fileKindOfNumber).getD "OSError")
    | _ => Text.of "OSError"
  else kindName

def kindName : Failure → Text
  | .literal _ => Text.of "ArgumentSyntaxError"
  | .integer _ => Text.of "ValueError"
  | .fraction _ => Text.of "ValueError"
  | .codePoint n => Text.of (if n < 0x80000000 then "ValueError" else "OverflowError")
  | .hugeInteger => Text.of "OverflowError"
  | .nesting => Text.of "RecursionError"
  | .path (.outside _) => Text.of "VaultPathError"
  | .path .nullByte => Text.of "ValueError"
  | .path (.unencodable _) => Text.of "UnicodeEncodeError"
  | .file f _ => Text.of f.kindName
  | .undecodable _ => Text.of "UnicodeDecodeError"
  | .unencodable _ => Text.of "UnicodeEncodeError"
  | .emptyLink => Text.of "IndexError"
  | .templateNotFound _ => Text.of "TemplateNotFoundError"
  | .moduleNotFound _ _ => Text.of "ModuleLoadError"
  | .packageNotFound _ _ => Text.of "ModuleLoadError"
  | .calendar _ => Text.of "ValueError"
  | .validation _ => Text.of "ValidationError"
  | .settingsText => Text.of "SettingsError"
  | .noKey _ => Text.of "KeyError"
  | .noAttribute _ _ => Text.of "AttributeError"
  | .noArgument _ => Text.of "AttributeError"
  | .noModuleAttribute _ _ => Text.of "AttributeError"
  | .noKindAttribute _ _ => Text.of "AttributeError"
  | .noField _ _ => Text.of "ValueError"
  | .fixedAttribute _ _ => Text.of "AttributeError"
  | .computedAttribute _ _ => Text.of "AttributeError"
  | .listIndex => Text.of "IndexError"
  | .listAssignment => Text.of "IndexError"
  | .textIndex => Text.of "IndexError"
  | .bytesIndex => Text.of "IndexError"
  | .hugeIndex => Text.of "IndexError"
  | .kind _ => Text.of "TypeError"
  | .undefinedName _ => Text.of "NameError"
  | .unassignedName _ => Text.of "UnboundLocalError"
  | .unassignedOuterName _ => Text.of "NameError"
  | .uncompilable _ => Text.of "SyntaxError"
  | .unshowable _ => Text.of "RuntimeError"
  | .unfollowed _ => Text.of "NotImplementedError"
  | .raised k vs => raisedKind k vs
  | .unopenedTag _ _ => Text.of "MarkupError"

def message : Failure → Text
  | .literal f => f.message
  | .integer f => f.message
  | .fraction t => Text.of "could not convert string to float: " ++ Quoted.encode t
  | .codePoint n =>
    Text.of (if n < 0x80000000 then "chr() arg not in range(0x110000)"
      else "Python int too large to convert to C int")
  | .hugeInteger => Text.of "int too large to convert to float"
  | .nesting => Text.of "maximum recursion depth exceeded"
  | .path (.outside p) =>
    Text.of "Path '" ++ p ++ Text.of "' is outside the vault"
  | .path .nullByte => Text.of "embedded null byte"
  | .path (.unencodable t) => surrogateMessage t
  | .file f p => Text.of f.wording ++ Text.of ": " ++ Quoted.encode p
  | .undecodable f => f.message
  | .unencodable t => surrogateMessage t
  | .emptyLink => Text.of "tuple index out of range"
  | .templateNotFound p => Text.of "Template not found: " ++ p
  | .moduleNotFound n b =>
    Text.of "Module not found: " ++ n ++ Text.of " (from " ++ b ++ Text.of ")"
  | .packageNotFound n m =>
    Text.of "Cannot import module " ++ Quoted.encode n ++ Text.of ": No module named " ++
      Quoted.encode m
  | .calendar f => f.message
  | .validation _ => []
  | .settingsText => []
  | .noKey k => quotedValue (.scalar k)
  | .noAttribute k n =>
    KindFault.mark k ++ Text.of " object has no attribute " ++ KindFault.mark n
  | .noArgument n => n
  | .noModuleAttribute m n =>
    Text.of "module " ++ KindFault.mark m ++ Text.of " has no attribute " ++ KindFault.mark n
  | .noKindAttribute k n =>
    Text.of "type object " ++ KindFault.mark k ++ Text.of " has no attribute " ++ KindFault.mark n
  | .noField r n => Text.of "\"" ++ r ++ Text.of "\" object has no field \"" ++ n ++ Text.of "\""
  | .fixedAttribute k n =>
    KindFault.mark k ++ Text.of " object attribute " ++ KindFault.mark n ++
      Text.of " is read-only"
  | .computedAttribute k n =>
    Text.of "property " ++ KindFault.mark n ++ Text.of " of " ++ KindFault.mark k ++
      Text.of " object has no setter"
  | .listIndex => Text.of "list index out of range"
  | .listAssignment => Text.of "list assignment index out of range"
  | .textIndex => Text.of "string index out of range"
  | .bytesIndex => Text.of "index out of range"
  | .hugeIndex => Text.of "cannot fit 'int' into an index-sized integer"
  | .kind f => f.message
  | .undefinedName n => Text.of "name " ++ KindFault.mark n ++ Text.of " is not defined"
  | .unassignedName n =>
    Text.of "cannot access local variable " ++ KindFault.mark n ++
      Text.of " where it is not associated with a value"
  | .unassignedOuterName n =>
    Text.of "cannot access free variable " ++ KindFault.mark n ++
      Text.of " where it is not associated with a value in enclosing scope"
  | .uncompilable f => Text.of "'(' was never closed (" ++ f ++ Text.of ", line 1)"
  | .unshowable t => t
  | .unfollowed n => Text.of "use of " ++ KindFault.mark n ++ Text.of " is not followed"
  | .raised k vs => raisedMessage k vs
  | .unopenedTag tag position =>
    if tag.isEmpty then
      Text.of "closing tag '[/]' at position " ++ Integer.natText position ++
        Text.of " has nothing to close"
    else
      Text.of "closing tag " ++ KindFault.mark tag ++ Text.of " at position " ++
        Integer.natText position ++ Text.of " doesn't match any open tag"

/-- Whether a failure is one of a script's own that a guard may replace by a default value: not a
    wish to exit or to stop everything. -/
def isOrdinary : Failure → Bool
  | .raised k _ => !(Text.of "SystemExit" :: uncontainedKinds.map Text.of).contains k
  | .unfollowed _ => false
  | _ => true

/-- Whether a failure ends the script run it happens in and nothing more. -/
def isContained : Failure → Bool
  | .raised k _ => !(uncontainedKinds.map Text.of).contains k
  | .unfollowed _ => false
  | _ => true

def isFile : Failure → Bool
  | .file _ _ => true
  | .raised k _ => (fileFailureKinds.map Text.of).contains k
  | _ => false

def isValue : Failure → Bool
  | .raised k _ => (valueFailureKinds.map Text.of).contains k
  | f => [Text.of "ValueError", Text.of "UnicodeDecodeError", Text.of "UnicodeEncodeError",
      Text.of "ArgumentSyntaxError", Text.of "VaultPathError",
      Text.of "ValidationError", Text.of "SettingsError"].contains f.kindName

end Failure

/-- A result in which an ordinary failure has given way to a default value, unless it is to go
    on. -/
def Outcome.guarded {α : Type} (goesOn : Bool) (default : α) (r : Outcome α) : Outcome α :=
  match r with
  | .ok a => .ok a
  | .error f => if f.isOrdinary && !goesOn then .ok default else .error f

end TemplatedNotes
