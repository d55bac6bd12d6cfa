/-
  TemplatedNotes/Proofs/Vault/Tree.lean
  =====================================
  **A disk whose entries hang together.**

  On a disk every path is listed once, its names are neither dots nor too long, and it hangs in a
  folder that is listed too (`IsTree`).  Then every entry is found by walking to it (`look_of_mem`),
  and a file that is written where it can be opened leaves such a disk again (`IsTree.put_file`).
  Looking at a path depends on nothing but the entries on the way to it (`look_congr`).
-/
import Mathlib.Data.List.Induction
import TemplatedNotes.Proofs.Vault.Disk
import TemplatedNotes.Proofs.Vault.Path

namespace TemplatedNotes.Disk

variable {d d' : Disk} {p q : Path} {e : Entry}

/-- A disk whose entries hang together in one tree of folders. -/
structure IsTree (d : Disk) : Prop where
  distinct : (d.entries.map (·.1)).Nodup
  ne_nil : ∀ p e, (p, e) ∈ d.entries → p ≠ []
  plain : ∀ p e, (p, e) ∈ d.entries → ∀ name ∈ p, Path.IsPlain name
  nameLength : ∀ p e, (p, e) ∈ d.entries → ∀ name ∈ p, Path.byteLength name ≤ maxName
  pathLength : ∀ p e, (p, e) ∈ d.entries → Path.byteLength (Path.absoluteText p) < maxPath
  folders : ∀ folder name e, (folder ++ [name], e) ∈ d.entries → d.find? folder = some .folder

theorem isTree_iff :
    d.IsTree ↔ (d.entries.map (·.1)).Nodup ∧ ∀ x ∈ d.entries, x.1 ≠ [] ∧
      (∀ name ∈ x.1, Path.IsPlain name) ∧ (∀ name ∈ x.1, Path.byteLength name ≤ maxName) ∧
      Path.byteLength (Path.absoluteText x.1) < maxPath ∧
      d.find? x.1.dropLast = some .folder := by
  constructor
  · intro h
    refine ⟨h.distinct, ?_⟩
    rintro ⟨p, e⟩ hx
    have hp := h.ne_nil p e hx
    refine ⟨hp, h.plain p e hx, h.nameLength p e hx, h.pathLength p e hx, ?_⟩
    apply h.folders p.dropLast (p.getLast hp) e
    rwa [List.dropLast_concat_getLast hp]
  · rintro ⟨hdistinct, h⟩
    refine ⟨hdistinct, fun p e hx => (h _ hx).1, fun p e hx => (h _ hx).2.1,
      fun p e hx => (h _ hx).2.2.1, fun p e hx => (h _ hx).2.2.2.1, ?_⟩
    intro folder name e hx
    have hfolder := (h _ hx).2.2.2.2
    rwa [List.dropLast_concat] at hfolder

instance (d : Disk) : Decidable d.IsTree := decidable_of_iff _ isTree_iff.symm

/-! ### Finding what is listed -/

theorem find?_fst_of_mem {es : List (Path × Entry)} (h : (es.map (·.1)).Nodup)
    (hm : (p, e) ∈ es) : es.find? (fun x => x.1 == p) = some (p, e) := by
  induction es with
  | nil => cases hm
  | cons x rest ih =>
    rw [List.map_cons, List.nodup_cons] at h
    rcases List.mem_cons.1 hm with rfl | hm
    · simp
    · have hne : x.1 ≠ p := by
        rintro rfl
        exact h.1 (List.mem_map.2 ⟨_, hm, rfl⟩)
      simp [hne, ih h.2 hm]

theorem IsTree.find?_of_mem (hd : d.IsTree) (h : (p, e) ∈ d.entries) : d.find? p = some e := by
  have hp : p.isEmpty = false := by simpa using hd.ne_nil p e h
  simp [find?, hp, find?_fst_of_mem hd.distinct h]

theorem mem_of_find? (hp : p ≠ []) (h : d.find? p = some e) : (p, e) ∈ d.entries := by
  have hempty : p.isEmpty = false := by simpa using hp
  simp only [find?, hempty, Bool.false_eq_true, if_false] at h
  obtain ⟨x, hx, rfl⟩ := Option.map_eq_some_iff.1 h
  have hfst : x.1 = p := by simpa using List.find?_some hx
  rw [← hfst]
  exact List.mem_of_find?_eq_some hx

theorem find?_of_walk {done rest : Path} (h : d.walk done rest = .ok e) :
    d.find? (done ++ rest) = some e := by
  induction rest generalizing done with
  | nil =>
    rw [walk_nil] at h
    rw [List.append_nil]
    split at h
    · next hfind =>
      cases h
      exact hfind
    · cases h
  | cons name rest ih =>
    rw [walk_cons] at h
    split at h
    · split at h
      · cases h
      · have hrest := ih h
        rwa [List.append_assoc] at hrest
    · cases h
    · cases h

theorem find?_of_look (h : d.look p = .ok e) : d.find? p = some e :=
  find?_of_walk (walk_of_look h (by simp)).2

/-- The bytes of a file stand in an entry. -/
theorem mem_of_bytes {b : List UInt8} (h : d.bytes p = .ok b) : (p, .file b) ∈ d.entries := by
  unfold bytes at h
  split at h
  · next c hlook =>
    obtain rfl : c = b := Except.ok.inj h
    have hfind := find?_of_look hlook
    refine mem_of_find? ?_ hfind
    rintro rfl
    cases hfind
  · cases h
  · cases h

/-- Every entry is found at the end of the way to it. -/
theorem IsTree.walk_of_mem (hd : d.IsTree) (h : (p, e) ∈ d.entries) : d.walk [] p = .ok e := by
  induction p using List.reverseRecOn generalizing e with
  | nil => exact absurd rfl (hd.ne_nil [] e h)
  | append_singleton folder name ih =>
    have hfolder := hd.folders folder name e h
    have hname := hd.nameLength _ e h name (by simp)
    have hwalk : d.walk [] folder = .ok .folder := by
      by_cases hempty : folder = []
      · subst hempty
        rw [walk_nil, hfolder]
      · exact ih (mem_of_find? hempty hfolder)
    rw [walk_concat, hwalk]
    dsimp only
    rw [if_neg (Nat.not_lt.2 hname), walk_nil, List.nil_append, hd.find?_of_mem h]

theorem IsTree.look_of_mem (hd : d.IsTree) (h : (p, e) ∈ d.entries) : d.look p = .ok e := by
  rw [look, if_neg (Nat.not_le.2 (hd.pathLength p e h))]
  exact hd.walk_of_mem h

/-! ### What a look at a path depends on -/

theorem walk_congr {done rest : Path}
    (h : ∀ q, q <+: done ++ rest → d'.find? q = d.find? q) : d'.walk done rest = d.walk done rest := by
  induction rest generalizing done with
  | nil =>
    have hdone := h done (by simp)
    rw [walk_nil, walk_nil, hdone]
  | cons name rest ih =>
    have hdone := h done (List.prefix_append _ _)
    have hrest : d'.walk (done ++ [name]) rest = d.walk (done ++ [name]) rest := by
      apply ih
      intro q hq
      apply h
      rwa [List.append_assoc] at hq
    rw [walk_cons, walk_cons, hdone, hrest]

theorem look_congr (h : ∀ q, q <+: p → d'.find? q = d.find? q) : d'.look p = d.look p := by
  unfold look
  rw [walk_congr (by simpa using h)]

theorem IsTree.find?_perm (hd : d.IsTree) (h : d'.entries.Perm d.entries) (p : Path) :
    d'.find? p = d.find? p := by
  have hdistinct : (d'.entries.map (·.1)).Nodup := (h.map _).nodup_iff.2 hd.distinct
  have hfind : d'.entries.find? (fun x => x.1 == p) = d.entries.find? (fun x => x.1 == p) := by
    cases hx : d.entries.find? (fun x => x.1 == p) with
    | none =>
      rw [List.find?_eq_none] at hx ⊢
      exact fun x hmem => hx x (h.mem_iff.1 hmem)
    | some x =>
      have hp : x.1 = p := by simpa using List.find?_some hx
      subst hp
      exact find?_fst_of_mem hdistinct (h.mem_iff.2 (List.mem_of_find?_eq_some hx))
  rw [find?, find?, hfind]

/-- The order in which a disk lists its entries does not matter. -/
theorem IsTree.look_perm (hd : d.IsTree) (h : d'.entries.Perm d.entries) : d'.look p = d.look p :=
  look_congr fun q _ => hd.find?_perm h q

/-! ### Writing a file -/

theorem mem_put {x : Path × Entry} (h : x ∈ (d.put p e).entries) : x = (p, e) ∨ x ∈ d.entries := by
  unfold put at h
  split at h
  · obtain ⟨y, hy, rfl⟩ := List.mem_map.1 h
    split
    · exact Or.inl rfl
    · exact Or.inr hy
  · rcases List.mem_append.1 h with h | h
    · exact Or.inr h
    · exact Or.inl (List.mem_singleton.1 h)

theorem nodup_put (h : (d.entries.map (·.1)).Nodup) : ((d.put p e).entries.map (·.1)).Nodup := by
  unfold put
  split
  · have hsame : ∀ x ∈ d.entries, (if x.1 == p then (p, e) else x).1 = x.1 := by
      intro x _
      split
      · next hx => exact (eq_of_beq hx).symm
      · rfl
    rw [List.map_map]
    exact (List.map_congr_left hsame).symm ▸ h
  · next hno =>
    rw [List.map_append, List.map_singleton, List.nodup_append]
    refine ⟨h, by simp, ?_⟩
    rintro a ha b hb rfl
    obtain rfl := List.mem_singleton.1 hb
    obtain ⟨x, hx, hxp⟩ := List.mem_map.1 ha
    exact hno (List.any_eq_true.2 ⟨x, hx, by simpa using hxp⟩)

/-- A file is written where it can be opened, under plain names. -/
theorem IsTree.put_file (hd : d.IsTree) (hopen : d.openable p = .ok ())
    (hplain : ∀ name ∈ p, Path.IsPlain name) (b : List UInt8) : (d.put p (.file b)).IsTree := by
  obtain ⟨folder, name, rfl, hpath, hname, hwalk, hfile⟩ := exists_of_openable hopen
  have hfolder : d.find? folder = some .folder := find?_of_walk hwalk
  have hlength : ∀ n ∈ folder ++ [name], Path.byteLength n ≤ maxName := by
    intro n hn
    rcases List.mem_append.1 hn with hn | hn
    · exact hd.nameLength folder .folder (mem_of_find? (List.ne_nil_of_mem hn) hfolder) n hn
    · rwa [List.mem_singleton.1 hn]
  refine ⟨nodup_put hd.distinct, ?_, ?_, ?_, ?_, ?_⟩
  · intro q e h
    rcases mem_put h with h | h
    · cases h
      simp
    · exact hd.ne_nil q e h
  · intro q e h
    rcases mem_put h with h | h
    · cases h
      exact hplain
    · exact hd.plain q e h
  · intro q e h
    rcases mem_put h with h | h
    · cases h
      exact hlength
    · exact hd.nameLength q e h
  · intro q e h
    rcases mem_put h with h | h
    · cases h
      exact hpath
    · exact hd.pathLength q e h
  · intro above last e h
    rcases mem_put h with h | h
    · injection h with hpath _
      obtain ⟨rfl, -⟩ := List.append_inj' hpath rfl
      rw [find?_put_of_ne _ (by simp), hfolder]
    · have habove := hd.folders above last e h
      -- what was opened as a file is no folder of anything
      have hne : above ≠ folder ++ [name] := by
        rintro rfl
        exact hfile habove
      rw [find?_put_of_ne _ hne, habove]

end TemplatedNotes.Disk
