/-
  TemplatedNotes/Script/Access.lean
  =================================
  **Names, attributes and the index.**

  A name is looked up from the innermost names outwards.  Argument objects have their keys for
  attributes, pages their six parts, modules their names.  The index has `page`, `pages`,
  `current` and whatever scripts have assigned to it: an attribute assigned by one script is seen
  by later ones, and only `current` cannot be replaced.  The module of arithmetic and the kind of
  failure for missing scripts are the same for all scripts too, and keep what is assigned to them.

  Behind the index and behind what loads modules stands the engine: its vault above all, which
  writes notes.  Behind a page stands the kind of all pages, with what it holds for them.  The names
  of the interpreter lead there too, those between double underscores on any value and those of its
  functions and packages.  A run that gets there is not followed.
-/
import TemplatedNotes.Page
import TemplatedNotes.Script.Object

namespace TemplatedNotes.Script

/-- What scripts run against: the vault, and whether they are given the index of its notes. -/
structure Host where
  vault : Vault
  indexed : Bool

namespace Run

/-! ### What leads to the engine and the interpreter -/

/-- Whether a name is one of the interpreter's own, and none that scripts are given. -/
def isForeign [Runtime] (n : Text) : Bool :=
  !([requireName, indexName, inputName, renderName].contains n) && Runtime.bindsName n

/-- Whether a name means something to the interpreter, on any value or on a call that waits. -/
def isSpecial (n : Text) : Bool :=
  (Text.of "__").isPrefixOf n && (Text.of "__").isSuffixOf n && 4 < n.length ||
    (Text.of "cr_").isPrefixOf n

/-- An attribute that a value does not have, or has from the interpreter. -/
def lacking {α : Type} (n : Text) (f : Failure) : Run α :=
  if isSpecial n then leave n else throw f

/-- The attributes by which the index gives parts of the engine away. -/
def indexParts : List Text :=
  ["vault", "logger", "bind_logger", "_locate", "_load"].map Text.of

/-- The same of what loads modules. -/
def loaderParts : List Text :=
  ["links", "base_path", "is_vault_module", "load_vault_module"].map Text.of

/-- The attributes that a page has from the kind of all pages. -/
def pageParts : List Text :=
  ["model_computed_fields", "model_config", "model_construct", "model_copy", "model_dump",
    "model_dump_json", "model_extra", "model_fields", "model_fields_set", "model_json_schema",
    "model_parametrized_name", "model_post_init", "model_rebuild", "model_validate",
    "model_validate_json", "model_validate_strings", "_abc_impl", "_calculate_keys",
    "_copy_and_set_values", "_get_value", "_iter", "_setattr_handler", "construct", "copy", "dict",
    "from_orm", "json", "parse_file", "parse_obj", "parse_raw", "schema", "schema_json",
    "update_forward_refs", "validate"].map Text.of

/-! ### Names -/

def frameAt (n : Nat) : Run Frame := do
  match ← cell n with
  | .frame f => return f
  | _ => return ⟨[], true, [], []⟩

/-- Looks a name up; `inner` says whether the first frame is the one of the running code itself. -/
def findName [Runtime] (n : Text) (inner : Bool) : List Nat → Run Handle
  | [] => if isForeign n then leave n else throw (.undefinedName n)
  | frame :: rest => do
    let f ← frameAt frame
    match f.names.lookup n with
    | some h => return h
    | none =>
      if f.declared.contains n ∧ !f.isGlobal then
        throw (if inner then .unassignedName n else .unassignedOuterName n)
      else findName n false rest

def bindIn (frame : Nat) (n : Text) (h : Handle) : Run Unit := do
  let f ← frameAt frame
  put frame (.frame { f with names := f.names.set n h })

def bindName (scope : List Nat) (n : Text) (h : Handle) : Run Unit :=
  match scope with
  | [] => return
  | frame :: _ => bindIn frame n h

/-- What the names of functions made in a scope start with. -/
def titleOf (scope : List Nat) : Run Text :=
  match scope with
  | [] => return []
  | frame :: _ => do return (← frameAt frame).title

/-- The scope inside a function or list expression: a frame of its own with one name bound, and
    with a start for the names of functions made there. -/
def enter (title : Text) (n : Text) (h : Handle) (scope : List Nat) : Run (List Nat) := do
  let frame ← alloc (.frame ⟨title, false, [n], [(n, h)]⟩)
  return frame :: scope

/-! ### The index -/

def makePage (p : Page) : Run Handle := do
  let frontmatter ← store (.dict p.frontmatter)
  let tags ← store (.list (p.tags.map Value.text))
  make (.page [(Text.of "path", .text p.path), (Text.of "name", .text p.name),
    (Text.of "folder", .text p.folder), (Text.of "frontmatter", frontmatter),
    (Text.of "tags", tags), (Text.of "content", .text p.content)])

/-- The failure of a value that is used as a text, by the method that a text has. -/
def noTextMethod (h : Handle) (method : Text) : Run Failure := do
  let m ← get
  let kind := m.kindName h
  return if kind = Text.of "TemplateArguments" then .noArgument method else .noAttribute kind method

def asText (h : Handle) (method : String) : Run Text :=
  match h with
  | .scalar (.text t) => return t
  | h => do throw (← noTextMethod h (Text.of method))

/-- What the index finds and reads notes by. -/
def lookupParts : List Text := ["vault", "_locate", "_load"].map Text.of

/-- Goes on only where scripts have put nothing in the place of parts of the index. -/
def ownParts (parts : List Text) : Run Unit := do
  let m ← get
  match parts.find? (fun n => (m.attribute? .index n).isSome) with
  | some n => leave n
  | none => return

variable [Runtime]

/-- The page that a path or link means. -/
def indexPage (w : Host) (link : Handle) : Run Handle := do
  ownParts lookupParts
  let t ← asText link "strip"
  match ← ofOutcome (w.vault.page t) with
  | some p => makePage p
  | none => return .null

def indexPages (w : Host) (folder : Handle) : Run Handle := do
  let m ← get
  let t ← if m.isTrue folder then asText folder "strip" else pure []
  ownParts (["vault", "_load"].map Text.of)
  let ps ← ofOutcome (w.vault.pages t)
  let hs ← ps.mapM makePage
  make (.list hs)

/-- What every value has. -/
def commonNames : List Text :=
  ["__class__", "__delattr__", "__dict__", "__dir__", "__doc__", "__eq__", "__format__", "__ge__",
    "__getattribute__", "__getstate__", "__gt__", "__hash__", "__init__", "__init_subclass__",
    "__le__", "__lt__", "__module__", "__ne__", "__new__", "__reduce__", "__reduce_ex__",
    "__repr__", "__setattr__", "__sizeof__", "__str__", "__subclasshook__",
    "__weakref__"].map Text.of

/-- An attribute of the index other than the page of the note itself. -/
def indexMember (n : Text) : Run Handle := do
  match (← get).attribute? .index n with
  | some h => return h
  | none =>
    if n = Text.of "page" then return .builtin .page
    else if n = Text.of "pages" then return .builtin .pages
    else if indexParts.contains n then leave n
    else lacking n (.noAttribute (Text.of "VaultIndex") n)

def indexHas (index : Handle) (n : Text) : Run Bool := do
  match index with
  | .builtin (.index _) =>
    let m ← get
    return (["current", "page", "pages"].map Text.of).contains n || indexParts.contains n ||
      commonNames.contains n || (m.attribute? .index n).isSome
  | _ => return commonNames.contains n

def assignIndex (n : Text) (h : Handle) : Run Unit :=
  if n = Text.of "logger" then throw (.computedAttribute (Text.of "VaultIndex") n)
  else giveAttribute .index n h

/-! ### Attributes -/

def cellMember (number : Nat) (c : Cell) (n : Text) : Run Handle :=
  match c with
  | .mapping .arguments es =>
    match (if Arguments.isReserved n then none else es.get? (.text n)) with
    | some h => return h
    | none =>
      if Arguments.methodNames.contains n then return .builtin (.mappingMethod number n)
      else lacking n (.noArgument n)
  | .mapping .plain _ =>
    if Arguments.methodNames.contains n then return .builtin (.mappingMethod number n)
    else lacking n (.noAttribute c.kindName n)
  | .page fields =>
    match fields.lookup n with
    | some h => return h
    | none =>
      if n = Text.of "get" then return .builtin (.pageGet number)
      else if pageParts.contains n then leave n
      else lacking n (.noAttribute c.kindName n)
  | .module frame => do
    let f ← frameAt frame
    match f.names.lookup n with
    | some h => return h
    | none =>
      let m ← get
      let name ← ofOutcome (m.display ((f.names.lookup (Text.of "__name__")).getD .null))
      lacking n (.noModuleAttribute name n)
  | c => lacking n (.noAttribute c.kindName n)

def member (h : Handle) (n : Text) : Run Handle :=
  match h with
  | .scalar s =>
    match s with
    | .text _ | .bytes _ =>
      if n = Text.of "upper" then return .builtin (.upper s)
      else lacking n (.noAttribute s.kindName n)
    | s => lacking n (.noAttribute s.kindName n)
  | .ref number => do cellMember number (← cell number) n
  | .builtin (.index source) =>
    if n = Text.of "current" then return .builtin (.current source)
    else if n = Text.of "_source_path" then return .text source
    else if n = Text.of "_index" then leave n
    else indexMember n
  | .builtin (.require base) =>
    if loaderParts.contains n then leave n
    else lacking n (.noAttribute (Builtin.require base).kindName n)
  | .builtin .math => do
    match (← get).attribute? .math n with
    | some h => return h
    | none =>
      if n = Text.of "gcd" then return .builtin .gcd
      else lacking n (.noModuleAttribute (Text.of "math") n)
  | .builtin .notFoundKind => do
    match (← get).attribute? .notFoundKind n with
    | some h => return h
    | none => lacking n (.noKindAttribute notFoundName n)
  | .builtin b => lacking n (.noAttribute b.kindName n)

def assign (h : Handle) (n : Text) (value : Handle) : Run Unit :=
  match h with
  | .builtin (.index _) => if isSpecial n then leave n else assignIndex n value
  | .builtin (.require _) => leave n
  | .builtin .math => if isSpecial n then leave n else giveAttribute .math n value
  | .builtin .notFoundKind => if isSpecial n then leave n else giveAttribute .notFoundKind n value
  | .ref number => do
    match ← cell number with
    | .mapping .arguments es =>
      let wrapped ← wrap value
      put number (.mapping .arguments (Entries.set es (.text n) wrapped))
    | .mapping .plain _ =>
      lacking n (if Arguments.methodNames.contains n then .fixedAttribute (Text.of "dict") n
        else .noAttribute (Text.of "dict") n)
    | .page fields =>
      if (fields.lookup n).isSome then put number (.page (Bindings.set fields n value))
      else lacking n (.noField (Text.of "PageInfo") n)
    | .module frame => bindIn frame n value
    | c => lacking n (.noAttribute c.kindName n)
  | h => do lacking n (.noAttribute ((← get).kindName h) n)

end Run

end TemplatedNotes.Script
