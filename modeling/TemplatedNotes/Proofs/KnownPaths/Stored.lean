/-
  TemplatedNotes/Proofs/KnownPaths/Stored.lean
  ============================================
  **What the file of the known paths says, and that all of it or nothing is loaded.**

  A file says what the known paths are in four layers: its bytes are those of a text, the text is a
  JSON document that is nested no deeper than the interpreter reads, the document is an object, and
  the object's fields are lists of texts (`Stores`).  A field stands under its key, or else under
  the other name of the key, or is missing and empty (`IsField`); what else is in the object does
  not matter.  In each layer a file can be malformed (`IsMalformed`).

    * `ofText?_eq_some_iff`, `ofText?_eq_none_iff` — a text is read as known paths or is malformed;
    * `load_of_bytes` — loading gives what the file stores, or nothing if it is malformed;
    * `Workspace.load_spec` — from every state loading works and leaves one or the other.
-/
import Mathlib.Data.List.Nodup
import TemplatedNotes.Proofs.Json.Grammar
import TemplatedNotes.Proofs.KnownPaths
import TemplatedNotes.Runtime.Usual
import TemplatedNotes.Workspace

namespace TemplatedNotes

/-! ### Objects of JSON -/

/-- The keys of a mapping are texts, and each of them stands there once. -/
structure Entries.IsKeyed (es : Entries Value) : Prop where
  texts : ∀ e ∈ es, ∃ k, e.1 = .text k
  nodup : (es.map Prod.fst).Nodup

theorem Entries.key_eq_of_find? {es : Entries Value} {k : Text} {e : Scalar × Value}
    (h : es.find? (fun e => e.1.same (.text k)) = some e) : e.1 = .text k := by
  have hsame := List.find?_some h
  rw [Literal.same_text] at hsame
  simpa using hsame

/-- The value of a key is the one that stands with it. -/
theorem Entries.IsKeyed.get?_eq_some_iff {es : Entries Value} (h : es.IsKeyed) {k : Text}
    {v : Value} : es.get? (.text k) = some v ↔ (.text k, v) ∈ es := by
  unfold Entries.get?
  constructor
  · intro hget
    obtain ⟨e, hfind, rfl⟩ := Option.map_eq_some_iff.1 hget
    rw [← Entries.key_eq_of_find? hfind]
    exact List.mem_of_find?_eq_some hfind
  · intro hmem
    have hsome : (es.find? (fun e => e.1.same (.text k))).isSome = true := by
      refine List.find?_isSome.2 ⟨_, hmem, ?_⟩
      rw [Literal.same_text]
      exact beq_self_eq_true _
    obtain ⟨e, hfind⟩ := Option.isSome_iff_exists.1 hsome
    have heq := List.inj_on_of_nodup_map h.nodup (List.mem_of_find?_eq_some hfind) hmem
      (Entries.key_eq_of_find? hfind)
    rw [hfind, heq]
    rfl

theorem Entries.isKeyed_of_lastWins {ms es : List (Scalar × Value)} (h : Literal.LastWins ms es)
    (hms : ∀ m ∈ ms, ∃ k, m.1 = .text k) : Entries.IsKeyed es := by
  refine ⟨fun e he => ?_, ?_⟩
  · have hmem : e.1 ∈ es.map Prod.fst := List.mem_map_of_mem he
    rw [h.keys_eq, List.mem_eraseDups] at hmem
    obtain ⟨m, hm, hkey⟩ := List.mem_map.1 hmem
    rw [← hkey]
    exact hms m hm
  · rw [h.keys_eq]
    exact Literal.nodup_eraseDups _

namespace Json

/-- A mapping that a document denotes is plain, and its keys are texts that stand there once. -/
theorem IsDocument.mapping {depth : Nat} {t : Text} {kind : MappingKind}
    {es : List (Scalar × Value)} (h : IsDocument depth t (.mapping kind es)) :
    kind = .plain ∧ Entries.IsKeyed es := by
  obtain @⟨g, w, g', v, hg, hv, hg'⟩ := h
  cases depth with
  | zero => exact hv.elim
  | succ depth =>
    generalize hdict : Value.mapping kind es = v at hv
    cases hv with
    | atom ha => cases ha <;> cases hdict
    | array henclosed => cases hdict
    | object henclosed hes =>
      cases hdict
      exact ⟨rfl, Entries.isKeyed_of_lastWins hes henclosed.exists_key⟩

end Json

namespace KnownPaths

/-! ### Fields -/

/-- A list of texts. -/
def IsPaths (v : Value) (paths : List Text) : Prop := v = .list (paths.map Value.text)

/-- The value of a field stands under its key, or else under the other name of the key. -/
inductive IsUnder (es : List (Scalar × Value)) (keys : Text × Text) : Value → Prop where
  | key {v : Value} (h : (.text keys.1, v) ∈ es) : IsUnder es keys v
  | other {v : Value} (hno : ∀ w, (.text keys.1, w) ∉ es) (h : (.text keys.2, v) ∈ es) :
      IsUnder es keys v

/-- The paths of a field, none if it is missing. -/
inductive IsField (es : List (Scalar × Value)) (keys : Text × Text) : List Text → Prop where
  | stored {v : Value} {paths : List Text} (hv : IsUnder es keys v) (h : IsPaths v paths) :
      IsField es keys paths
  | missing (h : ∀ v, ¬ IsUnder es keys v) : IsField es keys []

/-- A value of a field that is no list, or has something in it that is no text. -/
inductive IsBadField : Value → Prop where
  | notList {v : Value} (h : ∀ vs, v ≠ .list vs) : IsBadField v
  | element {vs : List Value} {e : Value} (he : e ∈ vs)
      (h : ∀ t, e ≠ Value.text t) : IsBadField (.list vs)

theorem path?_eq_some_iff {v : Value} {t : Text} :
    path? v = some t ↔ v = Value.text t := by
  constructor
  · intro h
    unfold path? at h
    split at h
    · cases h
      rfl
    · cases h
  · rintro rfl
    rfl

theorem paths?_eq_some_iff {v : Value} {paths : List Text} :
    paths? v = some paths ↔ IsPaths v paths := by
  constructor
  · intro h
    unfold paths? at h
    split at h
    · next items =>
      induction items generalizing paths with
      | nil =>
        cases h
        rfl
      | cons e more ih =>
        rw [List.mapM_cons] at h
        obtain ⟨path, hpath, h⟩ := Option.bind_eq_some_iff.1 h
        obtain ⟨rest, hrest, h⟩ := Option.bind_eq_some_iff.1 h
        cases h
        obtain rfl := path?_eq_some_iff.1 hpath
        cases ih hrest
        rfl
    · cases h
  · rintro rfl
    exact paths?_texts paths

theorem exists_path?_eq_none {items : List Value} (h : items.mapM path? = none) :
    ∃ e ∈ items, path? e = none := by
  induction items with
  | nil => cases h
  | cons e more ih =>
    rw [List.mapM_cons] at h
    cases hpath : path? e with
    | none => exact ⟨e, List.mem_cons_self, hpath⟩
    | some path =>
      cases hmore : more.mapM path? with
      | none =>
        obtain ⟨e', he', hnone⟩ := ih hmore
        exact ⟨e', List.mem_cons_of_mem e he', hnone⟩
      | some rest =>
        rw [hpath, hmore] at h
        cases h

/-- A field is bad exactly if it has no paths. -/
theorem paths?_eq_none_iff {v : Value} : paths? v = none ↔ IsBadField v := by
  constructor
  · intro h
    unfold paths? at h
    split at h
    · next items =>
      obtain ⟨e, he, hnone⟩ := exists_path?_eq_none h
      refine .element he (fun t heq => ?_)
      rw [path?_eq_some_iff.2 heq] at hnone
      cases hnone
    · next hno => exact .notList hno
  · intro h
    cases hpaths : paths? v with
    | none => rfl
    | some paths =>
      obtain rfl := paths?_eq_some_iff.1 hpaths
      cases h with
      | notList hno => exact absurd rfl (hno _)
      | element he hno =>
        obtain ⟨path, hpath, rfl⟩ := List.mem_map.1 he
        exact absurd rfl (hno path)

section Field

variable {es : List (Scalar × Value)} {keys : Text × Text} {v : Value}

theorem isUnder_iff (hes : Entries.IsKeyed es) :
    IsUnder es keys v ↔
      ((Entries.get? es (.text keys.1)).or (Entries.get? es (.text keys.2))) = some v := by
  have hnone : Entries.get? es (.text keys.1) = none ↔ ∀ w, (.text keys.1, w) ∉ es := by
    rw [Option.eq_none_iff_forall_ne_some]
    exact forall_congr' fun w => not_congr hes.get?_eq_some_iff
  rw [Option.or_eq_some_iff, hes.get?_eq_some_iff, hes.get?_eq_some_iff, hnone]
  constructor
  · rintro (h | ⟨hno, h⟩)
    · exact Or.inl h
    · exact Or.inr ⟨hno, h⟩
  · rintro (h | ⟨hno, h⟩)
    · exact .key h
    · exact .other hno h

theorem field?_eq (es : Entries Value) (keys : Text × Text) :
    field? es keys =
      match (es.get? (.text keys.1)).or (es.get? (.text keys.2)) with
      | some v => paths? v
      | none => some [] := by
  unfold field?
  cases es.get? (.text keys.1) with
  | some v => rfl
  | none =>
    cases es.get? (.text keys.2) with
    | some v => rfl
    | none => rfl

/-- **The paths of a field** are those of the value that stands under its key or its other name. -/
theorem field?_eq_some_iff (hes : Entries.IsKeyed es) {paths : List Text} :
    field? es keys = some paths ↔ IsField es keys paths := by
  rw [field?_eq]
  constructor
  · intro h
    split at h
    · next v hv => exact .stored ((isUnder_iff hes).2 hv) (paths?_eq_some_iff.1 h)
    · next hnone =>
      cases h
      refine .missing (fun v hv => ?_)
      rw [(isUnder_iff hes).1 hv] at hnone
      cases hnone
  · intro h
    cases h with
    | stored hv h =>
      rw [(isUnder_iff hes).1 hv]
      exact paths?_eq_some_iff.2 h
    | missing hno =>
      split
      · next v hv => exact absurd ((isUnder_iff hes).2 hv) (hno v)
      · rfl

theorem field?_eq_none_iff (hes : Entries.IsKeyed es) :
    field? es keys = none ↔ ∃ v, IsUnder es keys v ∧ IsBadField v := by
  rw [field?_eq]
  constructor
  · intro h
    split at h
    · next v hv => exact ⟨v, (isUnder_iff hes).2 hv, paths?_eq_none_iff.1 h⟩
    · cases h
  · rintro ⟨v, hv, hbad⟩
    rw [(isUnder_iff hes).1 hv]
    exact paths?_eq_none_iff.2 hbad

end Field

/-! ### Texts and files -/

variable [Runtime]

/-- A text that is an object with good fields. -/
def Says (t : Text) (k : KnownPaths) : Prop :=
  ∃ es, Json.IsDocument Json.maxDepth t (Value.dict es) ∧ IsField es noteKeys k.notes ∧
    IsField es templateKeys k.templates

/-- What is wrong with a text: it is no JSON, or nested too deep, or no object, or one of the two
    fields is bad. -/
inductive IsNoRegistry (t : Text) : Prop where
  | notJson (h : ∀ depth v, ¬ Json.IsDocument depth t v)
  | tooDeep {depth : Nat} {v : Value} (h : Json.IsDocument depth t v)
      (hdeep : ∀ depth' v', Json.IsDocument depth' t v' → Json.maxDepth < depth')
  | notObject {v : Value} (h : Json.IsDocument Json.maxDepth t v) (hno : ∀ es, v ≠ Value.dict es)
  | field {es : List (Scalar × Value)} {keys : Text × Text} {v : Value}
      (h : Json.IsDocument Json.maxDepth t (Value.dict es))
      (hkeys : keys = noteKeys ∨ keys = templateKeys) (hv : IsUnder es keys v)
      (hbad : IsBadField v)

theorem ofText?_of_isDocument {t : Text} {es : List (Scalar × Value)}
    (h : Json.IsDocument Json.maxDepth t (Value.dict es)) :
    ofText? t = (field? es noteKeys).bind
      (fun notes => (field? es templateKeys).map (fun templates => ⟨notes, templates⟩)) := by
  simp only [ofText?, Json.read_eq_ok_iff.2 h, Value.dict]
  cases field? es noteKeys with
  | none => rfl
  | some notes =>
    cases field? es templateKeys with
    | none => rfl
    | some templates => rfl

/-- **A text is read as the known paths that it says.** -/
theorem ofText?_eq_some_iff {t : Text} {k : KnownPaths} : ofText? t = some k ↔ Says t k := by
  constructor
  · intro h
    have hread : ∃ kind es, Json.read t = .ok (.mapping kind es) := by
      unfold ofText? at h
      split at h
      · next kind es hread => exact ⟨kind, es, hread⟩
      · cases h
    obtain ⟨kind, es, hread⟩ := hread
    have hdocument := Json.read_eq_ok_iff.1 hread
    obtain ⟨rfl, hes⟩ := hdocument.mapping
    rw [ofText?_of_isDocument hdocument] at h
    obtain ⟨notes, hnotes, h⟩ := Option.bind_eq_some_iff.1 h
    obtain ⟨templates, htemplates, rfl⟩ := Option.map_eq_some_iff.1 h
    exact ⟨es, hdocument, (field?_eq_some_iff hes).1 hnotes,
      (field?_eq_some_iff hes).1 htemplates⟩
  · rintro ⟨es, hdocument, hnotes, htemplates⟩
    have hes := hdocument.mapping.2
    rw [ofText?_of_isDocument hdocument, (field?_eq_some_iff hes).2 hnotes,
      (field?_eq_some_iff hes).2 htemplates]
    rfl

/-- A text that is not read as a value is no document, or one that is nested too deep. -/
theorem isNoRegistry_of_read {t : Text} (h : ∀ v, Json.read t ≠ .ok v) : IsNoRegistry t := by
  by_cases hjson : ∃ depth v, Json.IsDocument depth t v
  · obtain ⟨depth, v, hdocument⟩ := hjson
    refine .tooDeep hdocument (fun depth' v' hdocument' => ?_)
    by_contra hle
    exact h v' (Json.read_eq_ok_iff.2 (hdocument'.mono (Nat.not_lt.1 hle)))
  · exact .notJson (fun depth v hdocument => hjson ⟨depth, v, hdocument⟩)

/-- **A text is refused exactly if something is wrong with it.** -/
theorem ofText?_eq_none_iff {t : Text} : ofText? t = none ↔ IsNoRegistry t := by
  constructor
  · intro h
    cases hread : Json.read t with
    | error f =>
      apply isNoRegistry_of_read
      rintro v hv
      rw [hread] at hv
      cases hv
    | ok v =>
      have hdocument := Json.read_eq_ok_iff.1 hread
      cases v with
      | scalar s => exact .notObject hdocument (fun es heq => nomatch heq)
      | list items => exact .notObject hdocument (fun es heq => nomatch heq)
      | mapping kind es =>
        obtain ⟨rfl, hes⟩ := hdocument.mapping
        rw [ofText?_of_isDocument hdocument] at h
        cases hnotes : field? es noteKeys with
        | none =>
          obtain ⟨v, hv, hbad⟩ := (field?_eq_none_iff hes).1 hnotes
          exact .field hdocument (Or.inl rfl) hv hbad
        | some notes =>
          rw [hnotes] at h
          obtain ⟨v, hv, hbad⟩ := (field?_eq_none_iff hes).1 (Option.map_eq_none_iff.1 h)
          exact .field hdocument (Or.inr rfl) hv hbad
  · intro h
    cases hsays : ofText? t with
    | none => rfl
    | some k =>
      obtain ⟨es, hdocument, hnotes, htemplates⟩ := ofText?_eq_some_iff.1 hsays
      have hes := hdocument.mapping.2
      cases h with
      | notJson hno => exact absurd hdocument (hno _ _)
      | tooDeep _ hdeep => exact absurd (hdeep _ _ hdocument) (Nat.lt_irrefl _)
      | notObject hother hno => exact absurd (hother.unique hdocument) (hno es)
      | field hother hkeys hv hbad =>
        cases hother.unique hdocument
        have hnone := (field?_eq_none_iff hes).2 ⟨_, hv, hbad⟩
        rcases hkeys with rfl | rfl
        · rw [(field?_eq_some_iff hes).2 hnotes] at hnone
          cases hnone
        · rw [(field?_eq_some_iff hes).2 htemplates] at hnone
          cases hnone

/-- Bytes say what the known paths are: they are those of a text that says it, whichever line ends
    it has. -/
def Stores (b : List UInt8) (k : KnownPaths) : Prop :=
  ∃ t, Utf8.encode? t = some b ∧ Says (Line.unify t) k

/-- What is wrong with the bytes of a file: they are those of no text, or of a text with which
    something is wrong. -/
inductive IsMalformed (b : List UInt8) : Prop where
  | notText (h : ∀ t, Utf8.encode? t ≠ some b)
  | text {t : Text} (ht : Utf8.encode? t = some b) (h : IsNoRegistry (Line.unify t))

variable {b : List UInt8} {k k' : KnownPaths}

theorem Says.unique {t : Text} (h : Says t k) (h' : Says t k') : k = k' := by
  have hread := ofText?_eq_some_iff.2 h
  rw [ofText?_eq_some_iff.2 h'] at hread
  exact (Option.some.inj hread).symm

theorem Says.not_isNoRegistry {t : Text} (h : Says t k) : ¬ IsNoRegistry t := by
  rw [← ofText?_eq_none_iff, ofText?_eq_some_iff.2 h]
  exact Option.some_ne_none k

theorem Stores.unique (h : Stores b k) (h' : Stores b k') : k = k' := by
  obtain ⟨t, ht, hsays⟩ := h
  obtain ⟨t', ht', hsays'⟩ := h'
  obtain rfl := Utf8.encode?_inj ht ht'
  exact hsays.unique hsays'

theorem Stores.not_isMalformed (h : Stores b k) : ¬ IsMalformed b := by
  obtain ⟨t, ht, hsays⟩ := h
  rintro (hno | ⟨ht', hno⟩)
  · exact hno t ht
  · obtain rfl := Utf8.encode?_inj ht ht'
    exact hsays.not_isNoRegistry hno

/-- **A file is loaded as what it stores**, or as nothing if something is wrong with it. -/
theorem load_of_bytes {d : Disk} {file : Path} (h : d.bytes file = .ok b) :
    Stores b (load d file) ∨ IsMalformed b ∧ load d file = empty := by
  cases hdecode : Utf8.decode b with
  | error f =>
    refine Or.inr ⟨.notText (fun t ht => ?_), ?_⟩
    · rw [Utf8.decode_of_encode? ht] at hdecode
      cases hdecode
    · simp only [load, h, hdecode]
  | ok t =>
    have ht := Utf8.decode_eq_ok_iff.1 hdecode
    have hload : load d file = (ofText? (Line.unify t)).getD empty := by
      simp only [load, h, hdecode]
    rw [hload]
    cases hread : ofText? (Line.unify t) with
    | none => exact Or.inr ⟨.text ht (ofText?_eq_none_iff.1 hread), rfl⟩
    | some k => exact Or.inl ⟨t, ht, ofText?_eq_some_iff.1 hread⟩

/-- A file that is not there, or no file, is loaded as nothing. -/
theorem load_of_bytes_error {d : Disk} {file : Path} {f : Failure}
    (h : d.bytes file = .error f) : load d file = empty := by
  simp only [load, h]

end KnownPaths

namespace Workspace

open TemplatedNotes.Action

/-- **Loading the known paths works and is all or nothing.**  Whatever is known before, it gives no
    failure, changes nothing but the known paths and leaves the same ones: none if there is no file
    that can be read, and otherwise either what the file stores, with nothing wrong in it, or none,
    with something wrong. -/
theorem load_spec [Runtime] {w : Workspace} {file : Path} (hstore : w.store = some file) :
    ∃ k, (∀ earlier, Gives load { w with known := earlier } () { w with known := k }) ∧
      (∀ f, w.vault.disk.bytes file = .error f → k = .empty) ∧
      ∀ b, w.vault.disk.bytes file = .ok b →
        (KnownPaths.Stores b k ∧ ¬ KnownPaths.IsMalformed b ∨
          k = .empty ∧ KnownPaths.IsMalformed b) ∧
        ∀ k', KnownPaths.Stores b k' → k' = k := by
  refine ⟨KnownPaths.load w.vault.disk file, fun earlier => ?_, fun f hf => ?_, fun b hb => ?_⟩
  · show (Except.ok (), _) = (Except.ok (), _)
    simp only [hstore]
  · exact KnownPaths.load_of_bytes_error hf
  · rcases KnownPaths.load_of_bytes hb with hstores | ⟨hmalformed, hempty⟩
    · exact ⟨Or.inl ⟨hstores, hstores.not_isMalformed⟩, fun k' hk' => hk'.unique hstores⟩
    · exact ⟨Or.inr ⟨hempty, hmalformed⟩, fun k' hk' => absurd hmalformed hk'.not_isMalformed⟩

/-- A session in a vault with nothing but the file of the known paths, where others are known. -/
def withFile (text : Text) : Workspace :=
  { vault :=
      { root := [], excluded := [], history := [],
        disk := ⟨[([Text.of "known.json"], .file ((Utf8.encode? text).getD []))]⟩ },
    indexed := false, policy := .marker, memory := .empty, store := some [Text.of "known.json"],
    known := ⟨[Text.of "old.md"], [Text.of "old.py"]⟩ }

theorem bytes_withFile {t : Text} {b : List UInt8} (h : Utf8.encode? t = some b) :
    (withFile t).vault.disk.bytes [Text.of "known.json"] = .ok b := by
  have hbytes : (withFile t).vault.disk.bytes [Text.of "known.json"] =
      .ok ((Utf8.encode? t).getD []) := rfl
  rw [hbytes, h, Option.getD_some]

attribute [local instance] Runtime.usual

/-- One field under its key, with a bad value under the other name of the key, the other field under
    its other name, and something else. -/
def mixedNames : Text :=
  Text.of ("\x7b\"known_template_paths\": [\"t.py\"], \"known_templated_file_paths\": 5,\r\n" ++
    "\"knownTemplatedFilePaths\": [\"a.md\"], \"version\": -1.5e1\x7d")

theorem load_spec_mixedNames : (withFile mixedNames).store = some [Text.of "known.json"] ∧
    ∃ b k, (withFile mixedNames).vault.disk.bytes [Text.of "known.json"] = .ok b ∧
      Gives load (withFile mixedNames) () { withFile mixedNames with known := k } ∧
      KnownPaths.Stores b k ∧ k = ⟨[Text.of "a.md"], [Text.of "t.py"]⟩ := by
  have hstore : (withFile mixedNames).store = some [Text.of "known.json"] := rfl
  obtain ⟨k, hgives, -, hbytes⟩ := load_spec hstore
  have hrun : (load.run.run (withFile mixedNames)).2.known =
      ⟨[Text.of "a.md"], [Text.of "t.py"]⟩ := by decide +kernel
  have hload := hgives (withFile mixedNames).known
  have hk : k = ⟨[Text.of "a.md"], [Text.of "t.py"]⟩ := by
    rw [← hrun, show load.run.run (withFile mixedNames) = _ from hload]
  obtain ⟨hstores | ⟨hempty, -⟩, -⟩ := hbytes _ rfl
  · exact ⟨hstore, _, k, rfl, hload, hstores.1, hk⟩
  · rw [hk] at hempty
    cases hempty

/-- An object with arrays in each other under a key that is nobody's, and scripts. -/
def deepText (n : Nat) : Text :=
  Text.of "\x7b\"x\":" ++ (Json.nested n ++ Text.of ",\"knownTemplatePaths\":[\"t.py\"]\x7d")

theorem isDocument_deepText (n : Nat) : ∃ v,
    Json.IsDocument (n + 3) (deepText (n + 1)) (Value.dict [(.text (Text.of "x"), v),
      (.text KnownPaths.templateKeys.1, .list [Value.text (Text.of "t.py")])]) := by
  obtain ⟨v, hv⟩ := Json.isValue_nested n
  have hscript : Json.IsValue (n + 1) (Text.of "\"t.py\"") (Value.text (Text.of "t.py")) :=
    .atom (.text (Json.isQuoted_self (t := Text.of "t.py") (by decide)))
  have hscripts : Json.IsValue (n + 2) (Text.of "[\"t.py\"]")
      (.list [Value.text (Text.of "t.py")]) :=
    .array (.row Json.isGap_nil (.last hscript Json.isGap_nil))
  have hkey : Json.IsMember (Json.IsValue (n + 2)) (Text.of "\"knownTemplatePaths\":[\"t.py\"]")
      (.text KnownPaths.templateKeys.1, .list [Value.text (Text.of "t.py")]) :=
    .intro (Json.isQuoted_self (t := KnownPaths.templateKeys.1) (by decide)) Json.isGap_nil
      Json.isGap_nil hscripts
  have hother : Json.IsMember (Json.IsValue (n + 2)) (Text.of "\"x\":" ++ Json.nested (n + 1))
      (.text (Text.of "x"), v) :=
    .intro (Json.isQuoted_self (t := Text.of "x") (by decide)) Json.isGap_nil Json.isGap_nil hv.succ
  have hrow := Json.Row.cons hother Json.isGap_nil Json.isGap_nil (.last hkey Json.isGap_nil)
  have hwins : Literal.LastWins [(.text (Text.of "x"), v), (.text KnownPaths.templateKeys.1,
      .list [Value.text (Text.of "t.py")])] _ := Literal.lastWins_ofList (by simp)
  have hdocument : Json.IsDocument (n + 3) _ _ :=
    .intro Json.isGap_nil (.object (.row Json.isGap_nil hrow) hwins) Json.isGap_nil
  refine ⟨v, ?_⟩
  have hes : Entries.ofList [(Scalar.text (Text.of "x"), v), (.text KnownPaths.templateKeys.1,
      .list [Value.text (Text.of "t.py")])] = [(.text (Text.of "x"), v),
      (.text KnownPaths.templateKeys.1, .list [Value.text (Text.of "t.py")])] := rfl
  rw [hes] at hdocument
  simpa [deepText, Text.of] using hdocument

/-- Reading it stops at the arrays. -/
theorem ofText?_deepText [Runtime] {n : Nat} (h : Json.maxDepth ≤ n) :
    KnownPaths.ofText? (deepText n) = none := by
  obtain ⟨depth, hdepth⟩ := Nat.exists_eq_add_one.2 (Nat.zero_lt_of_lt Json.two_lt_maxDepth)
  rw [hdepth] at h
  obtain ⟨m, rfl⟩ := Nat.exists_eq_add_one.2 (Nat.zero_lt_of_lt h)
  have hvalue := Json.value_nested h (Text.of ",\"knownTemplatePaths\":[\"t.py\"]\x7d")
  have hmember : Json.member (Json.value depth) ((deepText (m + 1)).drop 1) = .error .nesting := by
    have hunfold : Json.member (Json.value depth) ((deepText (m + 1)).drop 1) =
        Json.value depth (Json.nested (m + 1) ++
          Text.of ",\"knownTemplatePaths\":[\"t.py\"]\x7d") >>=
            fun p => pure ((.text (Text.of "x"), p.1), p.2) := rfl
    rw [hunfold, hvalue]
    rfl
  have henclosed : Json.Reader.enclosed (Json.member (Json.value depth)) '\x7d'
      ((deepText (m + 1)).drop 1) = .error .nesting :=
    Json.separated_error hmember _
  have hread : Json.read (deepText (m + 1)) =
      (Json.Reader.enclosed (Json.member (Json.value depth)) '\x7d'
        ((deepText (m + 1)).drop 1)).map
        (fun p => (Value.dict (Entries.ofList p.1), p.2)) >>=
        fun p => if (Json.skipSpace p.2).isEmpty then pure p.1 else throw .malformed := by
    rw [Json.read, hdepth]
    rfl
  rw [henclosed] at hread
  simp only [KnownPaths.ofText?, hread]
  rfl

theorem scalar_of_mem_nested {n : Nat} {c : CodePoint} (h : c ∈ Json.nested n) :
    c = .scalar '[' ∨ c = .scalar ']' := by
  induction n with
  | zero => cases h
  | succ n ih =>
    rw [Json.nested, List.mem_cons, List.mem_append, List.mem_singleton] at h
    rcases h with rfl | h | rfl
    · exact Or.inl rfl
    · exact ih h
    · exact Or.inr rfl

theorem not_mem_deepText {n : Nat} {c : CodePoint} (h : c ∉ deepText 0)
    (hopen : c ≠ .scalar '[') (hclose : c ≠ .scalar ']') : c ∉ deepText n := by
  intro hmem
  rcases List.mem_append.1 hmem with hmem | hmem
  · exact h (List.mem_append_left _ hmem)
  · rcases List.mem_append.1 hmem with hmem | hmem
    · exact (scalar_of_mem_nested hmem).elim hopen hclose
    · exact h (List.mem_append_right _ hmem)

theorem surrogate_not_mem_deepText (n : Nat) (u : Fin 2048) :
    CodePoint.surrogate u ∉ deepText n :=
  not_mem_deepText (by simp [deepText, Json.nested, Text.of]) (by simp) (by simp)

theorem unify_deepText (n : Nat) : Line.unify (deepText n) = deepText n :=
  Line.unify_eq_self (not_mem_deepText (by decide) (by simp) (by simp))

theorem load_deepText [Runtime] {n : Nat} (h : Json.maxDepth ≤ n) : ∃ b t depth es,
    (withFile (deepText n)).vault.disk.bytes [Text.of "known.json"] = .ok b ∧
      Utf8.encode? t = some b ∧ Json.IsDocument depth (Line.unify t) (Value.dict es) ∧
      KnownPaths.IsField es KnownPaths.noteKeys [] ∧
      KnownPaths.IsField es KnownPaths.templateKeys [Text.of "t.py"] ∧
      Gives load (withFile (deepText n)) ()
        { withFile (deepText n) with known := KnownPaths.empty } := by
  obtain ⟨b, hb⟩ := Utf8.exists_encode? (surrogate_not_mem_deepText n)
  have hload : KnownPaths.load (withFile (deepText n)).vault.disk [Text.of "known.json"] =
      KnownPaths.empty := by
    simp only [KnownPaths.load, bytes_withFile hb, Utf8.decode_of_encode? hb, unify_deepText,
      ofText?_deepText h, Option.getD_none]
  obtain ⟨m, rfl⟩ := Nat.exists_eq_add_one.2
    (Nat.zero_lt_of_lt (Json.two_lt_maxDepth.trans_le h))
  obtain ⟨v, hdocument⟩ := isDocument_deepText m
  rw [← unify_deepText] at hdocument
  refine ⟨b, _, _, _, bytes_withFile hb, hb, hdocument, .missing ?_, ?_, ?_⟩
  · rintro w (hw | ⟨-, hw⟩)
    · exact absurd hw (by simp [KnownPaths.noteKeys, KnownPaths.templateKeys, Text.of])
    · exact absurd hw (by simp [KnownPaths.noteKeys, KnownPaths.templateKeys, Text.of])
  · exact .stored (.key (List.mem_cons_of_mem _ List.mem_cons_self)) rfl
  · have hgives : load.run.run (withFile (deepText (m + 1))) = (.ok (),
        { withFile (deepText (m + 1)) with
          known := (KnownPaths.load (withFile (deepText (m + 1))).vault.disk
            [Text.of "known.json"]) }) := rfl
    rw [hload] at hgives
    exact hgives

/-- **A file with nothing wrong in it but its depth** is loaded as nothing, not as the scripts that
    it lists. -/
theorem load_deep : ∃ b t depth es,
    (withFile (deepText 3000)).vault.disk.bytes [Text.of "known.json"] = .ok b ∧
      Utf8.encode? t = some b ∧ Json.IsDocument depth (Line.unify t) (Value.dict es) ∧
      KnownPaths.IsField es KnownPaths.noteKeys [] ∧
      KnownPaths.IsField es KnownPaths.templateKeys [Text.of "t.py"] ∧
      Gives load (withFile (deepText 3000)) ()
        { withFile (deepText 3000) with known := KnownPaths.empty } :=
  load_deepText (show 985 ≤ 3000 by decide)

end Workspace

end TemplatedNotes
