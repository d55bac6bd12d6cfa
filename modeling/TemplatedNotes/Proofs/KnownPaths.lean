/-
  TemplatedNotes/Proofs/KnownPaths.lean
  =====================================
  **The known paths and their file.**

  The file is written as JSON in which no carriage return stands, so reading it with line feeds for
  all line ends changes nothing, and every path comes back as it was: quotes, backslashes, control
  characters and line separators included (`ofText?_write`).  A text with a surrogate has no bytes,
  so known paths that could be saved hold none, and what was saved is what is loaded
  (`load_of_save`).

  What an expansion reports is a sequence of single changes (`recordPaths_eq_foldl`), and each of
  them keeps the lists free of repetitions (`IsSet.change`).
-/
import TemplatedNotes.Proofs.Json.Written
import TemplatedNotes.Proofs.Vault.Saved

namespace TemplatedNotes

/-- A text without carriage returns has no other line ends than line feeds. -/
theorem Line.unify_eq_self {t : Text} (h : CodePoint.scalar '\r' ∉ t) : unify t = t := by
  induction t with
  | nil => rfl
  | cons c rest ih =>
    rw [List.mem_cons, not_or] at h
    rw [unify, ih h.2]
    · exact fun more hc => absurd hc.symm h.1
    · exact fun hc => h.1 hc.symm

namespace KnownPaths

variable {k : KnownPaths}

theorem eq_iff {k' : KnownPaths} : k = k' ↔ k.notes = k'.notes ∧ k.templates = k'.templates := by
  cases k
  cases k'
  simp

/-! ### The text of the file -/

/-- No path has a surrogate. -/
def IsClean (k : KnownPaths) : Prop :=
  (∀ path ∈ k.notes, ∀ u, CodePoint.surrogate u ∉ path) ∧
    ∀ path ∈ k.templates, ∀ u, CodePoint.surrogate u ∉ path

/-- The lists under their keys. -/
def fields (k : KnownPaths) : Entries Value :=
  Entries.ofList [(.text noteKeys.1, .list (k.notes.map Value.text)),
    (.text templateKeys.1, .list (k.templates.map Value.text))]

/-- What the file says. -/
def document (k : KnownPaths) : Value := .dict k.fields

/-- **The text of the file says what the known paths are.** -/
theorem read_write [Runtime] (h : k.IsClean) : Json.read k.write = .ok k.document := by
  have hkeys : ∀ u, CodePoint.surrogate u ∉ noteKeys.1 ∧ CodePoint.surrogate u ∉ templateKeys.1 :=
    fun u => ⟨by simp [noteKeys, Text.of], by simp [templateKeys, Text.of]⟩
  have hsolid : ∀ depth ts, Json.StartsSolid (Json.writeTexts depth ts) :=
    fun depth ts => Json.startsSolid_writeBlock rfl _ depth _
  have hstart : Json.StartsSolid k.write := by
    unfold write Json.writeMembers
    exact Json.startsSolid_writeBlock rfl _ 0 _
  obtain ⟨depth, hdepth⟩ := Nat.exists_eq_add_of_lt Json.two_lt_maxDepth
  refine Json.read_of_takes ?_ hstart
  rw [hdepth, Nat.add_comm 2 depth]
  refine Json.takes_value_writeMembers
    [(noteKeys.1, Json.writeTexts 1 k.notes, .list (k.notes.map Value.text)),
      (templateKeys.1, Json.writeTexts 1 k.templates, .list (k.templates.map Value.text))] ?_ 0
  intro m hm
  rcases List.mem_pair.1 hm with rfl | rfl
  · exact ⟨fun u => (hkeys u).1, Json.takes_value_writeTexts h.1 depth 1, hsolid 1 k.notes⟩
  · exact ⟨fun u => (hkeys u).2, Json.takes_value_writeTexts h.2 depth 1, hsolid 1 k.templates⟩

theorem paths?_texts (ts : List Text) : paths? (.list (ts.map Value.text)) = some ts := by
  unfold paths?
  induction ts with
  | nil => rfl
  | cons t more ih =>
    have hpath : path? (Value.text t) = some t := rfl
    dsimp only at ih ⊢
    rw [List.map_cons, List.mapM_cons, hpath, ih]
    rfl

/-- **The known paths come back from the text of their file.** -/
theorem ofText?_write [Runtime] (h : k.IsClean) : ofText? k.write = some k := by
  have hnotes : field? k.fields noteKeys = some k.notes := paths?_texts k.notes
  have htemplates : field? k.fields templateKeys = some k.templates := paths?_texts k.templates
  simp only [ofText?, read_write h, document, Value.dict, hnotes, htemplates]
  rfl

theorem unify_write (k : KnownPaths) : Line.unify k.write = k.write := by
  apply Line.unify_eq_self
  apply Json.carriageReturn_not_mem_writeMembers
  simpa using ⟨Json.carriageReturn_not_mem_writeTexts 1 k.notes,
    Json.carriageReturn_not_mem_writeTexts 1 k.templates⟩

/-- Only paths without surrogates have a file. -/
theorem isClean_of_encode? {b : List UInt8} (h : Utf8.encode? k.write = some b) : k.IsClean := by
  have hmember : ∀ key texts, (key, Json.writeTexts 1 texts) ∈
        [(noteKeys.1, Json.writeTexts 1 k.notes), (templateKeys.1, Json.writeTexts 1 k.templates)] →
      ∀ path ∈ texts, ∀ u, CodePoint.surrogate u ∉ path := by
    intro key texts hm path hpath u hu
    refine Utf8.surrogate_not_mem_of_encode? h u (Json.mem_writeBlock (List.mem_map_of_mem hm) ?_)
    exact List.mem_append_right _ (Json.surrogate_mem_writeTexts hpath hu 1)
  exact ⟨hmember noteKeys.1 k.notes (by simp), hmember templateKeys.1 k.templates (by simp)⟩

/-! ### The file -/

/-- How the known paths are saved: the folders are made, the file can be opened, and its bytes are
    those of its text. -/
theorem exists_of_save {d d' : Disk} {file : Path} (h : k.save d file = (.ok (), d')) :
    ∃ d₁ b, d.makeFolders file.dropLast = (.ok (), d₁) ∧ d₁.openable file = .ok () ∧
      Utf8.encode? k.write = some b ∧ d' = d₁.put file (.file b) := by
  unfold save at h
  split at h
  · next d₁ hmake =>
    unfold Disk.writeText at h
    split at h
    · cases h
    · next hopen =>
      split at h
      · next b hencode =>
        cases h
        exact ⟨d₁, b, hmake, hopen, hencode, rfl⟩
      · cases h
  · cases h

/-- **What was saved is what is loaded.** -/
theorem load_of_save [Runtime] {d d' : Disk} {file : Path} (h : k.save d file = (.ok (), d')) :
    load d' file = k := by
  obtain ⟨d₁, b, -, hopen, hencode, rfl⟩ := exists_of_save h
  simp only [load, Disk.bytes_put hopen b, Utf8.decode_of_encode? hencode, unify_write,
    ofText?_write (isClean_of_encode? hencode)]
  rfl

/-! ### Changes -/

/-- A single change to the known paths. -/
inductive Change where
  | addNote (path : Text)
  | removeNote (path : Text)
  | addTemplate (path : Text)
  | removeTemplate (path : Text)

/-- The known paths after a change. -/
def change (k : KnownPaths) : Change → KnownPaths
  | .addNote path => k.addNote path
  | .removeNote path => k.removeNote path
  | .addTemplate path => k.addTemplate path
  | .removeTemplate path => k.removeTemplate path

/-- The changes that a note with or without sections makes. -/
def changes (note : Text) (hadReferences : Bool) (used removed : List Text) : List Change :=
  (if hadReferences then .addNote note else .removeNote note) ::
    (used.map .addTemplate ++ removed.map .removeTemplate)

/-- To record an expansion is to make single changes one after the other. -/
theorem recordPaths_eq_foldl (k : KnownPaths) (note : Text) (hadReferences : Bool)
    (used removed : List Text) : k.recordPaths note hadReferences used removed =
      (changes note hadReferences used removed).foldl change k := by
  rw [changes, List.foldl_cons, List.foldl_append, List.foldl_map, List.foldl_map]
  cases hadReferences <;> rfl

/-- **What an expansion does to the lists**: its note is added or removed, the scripts that worked
    are added and then those that are missing removed. -/
theorem record_eq (k : KnownPaths) (e : Expansion) :
    k.record e =
      ⟨if e.hadReferences then Expansion.addOnce k.notes e.source else without k.notes e.source,
        e.removed.foldl without (e.used.foldl Expansion.addOnce k.templates)⟩ := by
  have hadded : ∀ (used : List Text) (k : KnownPaths), used.foldl addTemplate k =
      ⟨k.notes, used.foldl Expansion.addOnce k.templates⟩ := by
    intro used
    induction used with
    | nil => exact fun _ => rfl
    | cons path more ih => exact fun k => ih (k.addTemplate path)
  have hremoved : ∀ (removed : List Text) (k : KnownPaths), removed.foldl removeTemplate k =
      ⟨k.notes, removed.foldl without k.templates⟩ := by
    intro removed
    induction removed with
    | nil => exact fun _ => rfl
    | cons path more ih => exact fun k => ih (k.removeTemplate path)
  rw [record, recordPaths, hremoved, hadded]
  split <;> rfl

/-- To remove some paths is to keep the others. -/
theorem mem_foldl_without {paths removed : List Text} {path : Text} :
    path ∈ removed.foldl without paths ↔ path ∈ paths ∧ path ∉ removed := by
  induction removed generalizing paths with
  | nil => simp
  | cons first rest ih =>
    rw [List.foldl_cons, ih, mem_without, List.mem_cons, not_or, and_assoc]

theorem addOnce_of_mem {paths : List Text} {path : Text} (h : path ∈ paths) :
    Expansion.addOnce paths path = paths := if_pos (List.contains_iff_mem.2 h)

theorem addOnce_of_not_mem {paths : List Text} {path : Text} (h : path ∉ paths) :
    Expansion.addOnce paths path = paths ++ [path] :=
  if_neg (fun hmem => h (List.contains_iff_mem.1 hmem))

/-! ### Repetitions -/

/-- No path is listed twice. -/
structure IsSet (k : KnownPaths) : Prop where
  notes : k.notes.Nodup
  templates : k.templates.Nodup

instance (k : KnownPaths) : Decidable k.IsSet :=
  decidable_of_iff (k.notes.Nodup ∧ k.templates.Nodup)
    ⟨fun h => ⟨h.1, h.2⟩, fun h => ⟨h.notes, h.templates⟩⟩

theorem nodup_addOnce {paths : List Text} (h : paths.Nodup) (path : Text) :
    (Expansion.addOnce paths path).Nodup := by
  by_cases hmem : path ∈ paths
  · rwa [addOnce_of_mem hmem]
  · rw [addOnce_of_not_mem hmem]
    refine List.nodup_append.2 ⟨h, List.pairwise_singleton _ path, ?_⟩
    rintro p hp _ hpath rfl
    rw [List.mem_singleton.1 hpath] at hp
    exact hmem hp

theorem nodup_without {paths : List Text} (h : paths.Nodup) (path : Text) :
    (without paths path).Nodup := h.filter _

/-- **A single change** lists no path twice. -/
theorem IsSet.change (h : k.IsSet) (c : Change) : (k.change c).IsSet := by
  cases c with
  | addNote path => exact ⟨nodup_addOnce h.notes path, h.templates⟩
  | removeNote path => exact ⟨nodup_without h.notes path, h.templates⟩
  | addTemplate path => exact ⟨h.notes, nodup_addOnce h.templates path⟩
  | removeTemplate path => exact ⟨h.notes, nodup_without h.templates path⟩

end KnownPaths

end TemplatedNotes
