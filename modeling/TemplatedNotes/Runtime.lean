/-
  TemplatedNotes/Runtime.lean
  ===========================
  **What the program runs on.**

  YAML is read by a library, and code that goes too deep into itself is stopped by the interpreter,
  which also has names and packages of its own.  None of this is up to the program, so all that
  depends on it is made over a `Runtime`: what the library makes of a text, the depths at which the
  interpreter stops, and what it knows.

  The bounds are positive; that of JSON lets an object through whose values are lists of texts, as
  the file of the known paths is.
-/
import TemplatedNotes.Failure

namespace TemplatedNotes

namespace Yaml

/-- What stops the reading of a YAML text: it is malformed, or a part of it has no value. -/
inductive Fault where
  | malformed
  | failure (f : Failure)

/-- A result or a fault. -/
abbrev Reading (α : Type) := Except Fault α

end Yaml

/-- What the program runs on. -/
class Runtime where
  /-- The value of a YAML document. -/
  loadYaml : Text → Yaml.Reading Value
  /-- The deepest nesting of arrays, objects and signs in an argument literal. -/
  literalDepth : Nat
  /-- The deepest nesting of arrays and objects in a JSON document. -/
  jsonDepth : Nat
  /-- How deep two values of a script are compared. -/
  valueDepth : Nat
  /-- How many functions, modules and scripts run one inside the other. -/
  callDepth : Nat
  /-- Whether the interpreter binds a name itself. -/
  bindsName : Text → Bool
  /-- Whether a package can be loaded. -/
  hasPackage : Text → Bool
  literalDepth_pos : 0 < literalDepth
  two_lt_jsonDepth : 2 < jsonDepth

end TemplatedNotes
