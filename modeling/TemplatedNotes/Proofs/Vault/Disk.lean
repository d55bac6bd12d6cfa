/-
  TemplatedNotes/Proofs/Vault/Disk.lean
  =====================================
  **What a file that was opened to write holds.**

  A file can be opened where its folder is there and no folder stands in its place.  What is put
  there then is what is read there (`bytes_put`), and every other file keeps its bytes
  (`bytes_put_of_ne`).  Walking to a path passes only through shorter ones, so the walk to the
  folder of a file does not see the file.
-/
import TemplatedNotes.Vault.Disk

namespace TemplatedNotes.Disk

/-! ### Walking -/

theorem walk_nil (d : Disk) (done : Path) :
    d.walk done [] = match d.find? done with
      | some e => .ok e
      | none => .error .notFound := rfl

theorem walk_cons (d : Disk) (done : Path) (name : Text) (rest : Path) :
    d.walk done (name :: rest) = match d.find? done with
      | some .folder =>
        if maxName < Path.byteLength name then .error .nameTooLong else d.walk (done ++ [name]) rest
      | some (.file _) => .error .notDirectory
      | none => .error .notFound := rfl

theorem walk_concat (d : Disk) (done folder : Path) (name : Text) :
    d.walk done (folder ++ [name]) =
      match d.walk done folder with
      | .ok .folder =>
        if maxName < Path.byteLength name then .error .nameTooLong
        else d.walk (done ++ folder ++ [name]) []
      | .ok (.file _) => .error .notDirectory
      | .error f => .error f := by
  induction folder generalizing done with
  | nil =>
    rw [List.nil_append, List.append_nil, walk_cons, walk_nil d done]
    rcases d.find? done with _ | _ | _ <;> rfl
  | cons first rest ih =>
    rw [List.cons_append, walk_cons, walk_cons]
    rcases d.find? done with _ | b | _
    · rfl
    · rfl
    · dsimp only
      split
      · rfl
      · rw [ih, List.append_assoc done [first] rest]
        rfl

/-- A walk to a shorter path does not see what is put at a longer one. -/
theorem walk_put_of_length_lt (d : Disk) {p : Path} (e : Entry) {done rest : Path}
    (h : done.length + rest.length < p.length) : (d.put p e).walk done rest = d.walk done rest := by
  induction rest generalizing done with
  | nil =>
    have hne : done ≠ p := by
      rintro rfl
      simp at h
    rw [walk_nil, walk_nil, find?_put_of_ne d hne]
  | cons name rest ih =>
    have hne : done ≠ p := by
      rintro rfl
      rw [List.length_cons] at h
      omega
    have hrest : (done ++ [name]).length + rest.length < p.length := by
      rw [List.length_cons] at h
      rw [List.length_append, List.length_singleton]
      omega
    rw [walk_cons, walk_cons, find?_put_of_ne d hne, ih hrest]

/-- A file that is put where no folder stood changes nothing that can be walked to elsewhere. -/
theorem walk_put_file_of_ne (d : Disk) {p : Path} (hp : p ≠ []) (hfolder : d.find? p ≠ some .folder)
    (b : List UInt8) {done rest : Path} (hne : done ++ rest ≠ p) {e : Entry} :
    (d.put p (.file b)).walk done rest = .ok e ↔ d.walk done rest = .ok e := by
  induction rest generalizing done with
  | nil =>
    rw [List.append_nil] at hne
    rw [walk_nil, walk_nil, find?_put_of_ne d hne]
  | cons name rest ih =>
    rw [walk_cons, walk_cons]
    by_cases hdone : done = p
    · -- no walk goes on behind a file, nor behind a place without a folder
      subst hdone
      rw [find?_put d hp]
      rcases hfind : d.find? done with _ | _ | _
      · simp
      · simp
      · exact absurd hfind hfolder
    · have hnext : done ++ [name] ++ rest ≠ p := by simpa using hne
      rw [find?_put_of_ne d hdone]
      rcases d.find? done with _ | _ | _
      · rfl
      · rfl
      · dsimp only
        split
        · rfl
        · exact ih hnext

/-! ### Files that can be opened -/

/-- To look at a path whose length is no obstacle is to walk there. -/
theorem walk_of_look {d : Disk} {p : Path} {r : Except FileFault Entry} (h : d.look p = r)
    (hr : r ≠ .error .nameTooLong) :
    Path.byteLength (Path.absoluteText p) < maxPath ∧ d.walk [] p = r := by
  unfold look at h
  split at h
  · exact absurd h.symm hr
  · next hlength => exact ⟨Nat.not_le.1 hlength, h⟩

theorem walk_folder_of_walk {d : Disk} {folder : Path} {name : Text} {e : Entry}
    (h : d.walk [] (folder ++ [name]) = .ok e) : d.walk [] folder = .ok .folder := by
  rw [walk_concat] at h
  rcases hw : d.walk [] folder with _ | _ | _
  · rw [hw] at h
    cases h
  · rw [hw] at h
    cases h
  · rfl

/-- The last step of a walk from a folder, under a name that is not too long, says what stands
    there. -/
theorem walk_name_of_walk {d : Disk} {folder : Path} {name : Text} {r : Except FileFault Entry}
    (hfolder : d.walk [] folder = .ok .folder) (h : d.walk [] (folder ++ [name]) = r)
    (hr : r ≠ .error .nameTooLong) :
    Path.byteLength name ≤ maxName ∧ d.walk (folder ++ [name]) [] = r := by
  rw [walk_concat, hfolder] at h
  dsimp only at h
  split at h
  · exact absurd h.symm hr
  · next hname => exact ⟨Nat.not_lt.1 hname, h⟩

/-- Where a file can be opened: in a folder that is there, under a name that is not too long, and
    not in the place of a folder. -/
theorem exists_of_openable {d : Disk} {p : Path} (h : d.openable p = .ok ()) :
    ∃ folder name, p = folder ++ [name] ∧ Path.byteLength (Path.absoluteText p) < maxPath ∧
      Path.byteLength name ≤ maxName ∧ d.walk [] folder = .ok .folder ∧
      d.find? p ≠ some .folder := by
  rcases List.eq_nil_or_concat p with rfl | ⟨folder, name, rfl⟩
  · cases h
  · rw [List.concat_eq_append] at h ⊢
    unfold openable at h
    split at h
    · next b hlook =>
      -- a file is there already
      obtain ⟨hlength, hwalk⟩ := walk_of_look hlook (by simp)
      have hfolder := walk_folder_of_walk hwalk
      obtain ⟨hname, hwalk⟩ := walk_name_of_walk hfolder hwalk (by simp)
      refine ⟨folder, name, rfl, hlength, hname, hfolder, fun hfind => ?_⟩
      rw [walk_nil, hfind] at hwalk
      cases hwalk
    · cases h
    · next hlook =>
      -- nothing is there, but the folder is
      rw [List.dropLast_concat] at h
      split at h
      · next hparent =>
        obtain ⟨hlength, hwalk⟩ := walk_of_look hlook (by simp)
        obtain ⟨-, hfolder⟩ := walk_of_look hparent (by simp)
        obtain ⟨hname, hwalk⟩ := walk_name_of_walk hfolder hwalk (by simp)
        refine ⟨folder, name, rfl, hlength, hname, hfolder, fun hfind => ?_⟩
        rw [walk_nil, hfind] at hwalk
        cases hwalk
      · cases h
      · cases h
    · cases h

/-- What was put into a file is what is read from it. -/
theorem bytes_put {d : Disk} {p : Path} (h : d.openable p = .ok ()) (b : List UInt8) :
    (d.put p (.file b)).bytes p = .ok b := by
  obtain ⟨folder, name, rfl, hpath, hname, hwalk, -⟩ := exists_of_openable h
  have hlook : (d.put (folder ++ [name]) (.file b)).look (folder ++ [name]) = .ok (.file b) := by
    rw [look, if_neg (Nat.not_le.2 hpath), walk_concat,
      walk_put_of_length_lt d _ (by simp), hwalk]
    dsimp only
    rw [if_neg (Nat.not_lt.2 hname), walk_nil, List.nil_append, find?_put d (by simp)]
  rw [bytes, hlook]

/-- What was put into a file changes no other file. -/
theorem bytes_put_of_ne {d : Disk} {p q : Path} (h : d.openable p = .ok ()) (hne : q ≠ p)
    (b c : List UInt8) : (d.put p (.file b)).bytes q = .ok c ↔ d.bytes q = .ok c := by
  obtain ⟨folder, name, rfl, -, -, -, hfolder⟩ := exists_of_openable h
  have hlook : ∀ e, (d.put (folder ++ [name]) (.file b)).look q = .ok e ↔ d.look q = .ok e := by
    intro e
    unfold look
    split
    · rfl
    · exact walk_put_file_of_ne d (by simp) hfolder b (by simpa using hne)
  have hbytes : ∀ d' : Disk, d'.bytes q = .ok c ↔ d'.look q = .ok (.file c) := by
    intro d'
    unfold bytes
    rcases d'.look q with _ | _ | _ <;> simp
  rw [hbytes, hbytes, hlook]

theorem openable_of_bytes {d : Disk} {p : Path} {b : List UInt8} (h : d.bytes p = .ok b) :
    d.openable p = .ok () := by
  unfold bytes at h
  split at h
  · next hlook => rw [openable, hlook]
  · cases h
  · cases h

end TemplatedNotes.Disk
