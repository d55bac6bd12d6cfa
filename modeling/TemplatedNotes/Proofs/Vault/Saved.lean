/-
  TemplatedNotes/Proofs/Vault/Saved.lean
  ======================================
  **What a note holds after the command that wrote it.**

  A text that was written is read back as it is (`read_of_gives_modify`).  A command then saves the
  known paths: it makes the folders of their file where nothing stood, and writes that file, so
  every other file keeps its bytes (`bytes_of_save`) and the note its text (`read_of_gives_save`).
-/
import TemplatedNotes.Proofs.Text.Utf8
import TemplatedNotes.Proofs.UpdateAll

namespace TemplatedNotes

open TemplatedNotes.Action

namespace Disk

variable {d d' d'' : Disk} {p q : Path} {b : List UInt8}

/-- A folder that is made where nothing stood is on no walk that got through. -/
theorem walk_put_folder (hnone : d.find? p = none) {done rest : Path} {e : Entry}
    (h : d.walk done rest = .ok e) : (d.put p .folder).walk done rest = .ok e := by
  induction rest generalizing done with
  | nil =>
    have hne : done ≠ p := by
      rintro rfl
      rw [walk_nil, hnone] at h
      cases h
    rwa [walk_nil, find?_put_of_ne d hne, ← walk_nil]
  | cons name rest ih =>
    have hne : done ≠ p := by
      rintro rfl
      rw [walk_cons, hnone] at h
      cases h
    rw [walk_cons] at h
    rw [walk_cons, find?_put_of_ne d hne]
    split at h
    · split at h
      · cases h
      · next hname =>
        rw [if_neg hname]
        exact ih h
    · cases h
    · cases h

theorem bytes_eq_ok_iff : d.bytes p = .ok b ↔ d.look p = .ok (.file b) := by
  unfold bytes
  rcases d.look p with _ | _ | _ <;> simp

/-- What is read behind a write: at its place what was written, elsewhere what was there. -/
theorem bytes_put_iff (h : d.openable p = .ok ()) {c : List UInt8} :
    (d.put p (.file b)).bytes q = .ok c ↔ q = p ∧ c = b ∨ q ≠ p ∧ d.bytes q = .ok c := by
  by_cases hq : q = p
  · subst hq
    simp [bytes_put h b, eq_comm]
  · simp [hq, bytes_put_of_ne h hq b c]

theorem bytes_put_folder (hnone : d.find? p = none) (h : d.bytes q = .ok b) :
    (d.put p .folder).bytes q = .ok b := by
  rw [bytes_eq_ok_iff] at h ⊢
  obtain ⟨hlength, hwalk⟩ := walk_of_look h (by simp)
  rw [look, if_neg (Nat.not_le.2 hlength)]
  exact walk_put_folder hnone hwalk

theorem bytes_of_makeFoldersFrom {done rest : Path} {r : Except FileFault Unit}
    (hmake : d.makeFoldersFrom done rest = (r, d')) (h : d.bytes q = .ok b) :
    d'.bytes q = .ok b := by
  induction rest generalizing d done with
  | nil =>
    cases hmake
    exact h
  | cons name rest ih =>
    rw [makeFoldersFrom] at hmake
    split at hmake
    · cases hmake
      exact h
    · split at hmake
      · exact ih hmake h
      · cases hmake
        exact h
      · next hnone => exact ih hmake (bytes_put_folder hnone h)

/-- A place holds a file with the same bytes on both disks, or a file on neither. -/
def SameFile (d d' : Disk) (q : Path) : Prop := ∀ b, d'.bytes q = .ok b ↔ d.bytes q = .ok b

theorem SameFile.refl (d : Disk) (q : Path) : SameFile d d q := fun _ => Iff.rfl

theorem SameFile.trans (h : SameFile d d' q) (h' : SameFile d' d'' q) : SameFile d d'' q :=
  fun b => (h' b).trans (h b)

theorem sameFile_of_writeText {t : Text} {r : Outcome Unit} (hwrite : d.writeText p t = (r, d'))
    (hne : q ≠ p) : SameFile d d' q := by
  unfold writeText at hwrite
  split at hwrite
  · cases hwrite
    exact SameFile.refl d q
  · next hopen =>
    split at hwrite
    · cases hwrite
      exact bytes_put_of_ne hopen hne _
    · cases hwrite
      exact bytes_put_of_ne hopen hne _

/-- Where a file is after folders were made, it was before. -/
theorem find?_of_makeFoldersFrom {done rest : Path} {r : Except FileFault Unit}
    (hmake : d.makeFoldersFrom done rest = (r, d')) (h : d'.find? q = some (.file b)) :
    d.find? q = some (.file b) := by
  induction rest generalizing d done with
  | nil =>
    cases hmake
    exact h
  | cons name rest ih =>
    rw [makeFoldersFrom] at hmake
    split at hmake
    · cases hmake
      exact h
    · split at hmake
      · exact ih hmake
      · cases hmake
        exact h
      · have hfind := ih hmake
        by_cases hq : q = done ++ [name]
        · rw [hq, find?_put _ (by simp)] at hfind
          cases hfind
        · rwa [find?_put_of_ne _ hq] at hfind

/-- On a disk whose entries hang together, a folder that is made shows no file that was hidden. -/
theorem IsTree.sameFile_of_makeFolders (hd : d.IsTree) {r : Outcome Unit}
    (hmake : d.makeFolders p = (r, d')) (q : Path) : SameFile d d' q := by
  intro b
  cases hmake
  constructor
  · intro hb
    have hfind := find?_of_makeFoldersFrom rfl (find?_of_look (bytes_eq_ok_iff.1 hb))
    have hnil : q ≠ [] := by
      rintro rfl
      cases hfind
    exact bytes_eq_ok_iff.2 (hd.look_of_mem (mem_of_find? hnil hfind))
  · exact bytes_of_makeFoldersFrom rfl

end Disk

/-- Saving the known paths leaves every file but their own. -/
theorem KnownPaths.bytes_of_save {k : KnownPaths} {d d' : Disk} {file q : Path}
    {r : Outcome Unit} (hsave : k.save d file = (r, d')) (hne : q ≠ file) {b : List UInt8}
    (h : d.bytes q = .ok b) : d'.bytes q = .ok b := by
  have hfolders : ∀ (r : Outcome Unit) (d₁ : Disk), d.makeFolders file.dropLast = (r, d₁) →
      d₁.bytes q = .ok b := by
    intro r d₁ hmake
    cases hmake
    exact Disk.bytes_of_makeFoldersFrom rfl h
  unfold KnownPaths.save at hsave
  split at hsave
  · next d₁ hmake => exact (Disk.sameFile_of_writeText hsave hne b).2 (hfolders _ d₁ hmake)
  · next hmake =>
    cases hsave
    exact hfolders _ _ hmake

/-- **Saving the known paths touches no file but their own**, if the entries hang together. -/
theorem Disk.IsTree.sameFile_of_save {d d' : Disk} (hd : d.IsTree) {k : KnownPaths} {file q : Path}
    {r : Outcome Unit} (hsave : k.save d file = (r, d')) (hne : q ≠ file) :
    Disk.SameFile d d' q := by
  unfold KnownPaths.save at hsave
  split at hsave
  · next d₁ hmake =>
    exact (hd.sameFile_of_makeFolders hmake q).trans (Disk.sameFile_of_writeText hsave hne)
  · next hmake =>
    cases hsave
    exact hd.sameFile_of_makeFolders hmake q

/-- What a write that works does: the place of the note is found and can be opened, and it gets the
    bytes of the new text. -/
theorem Vault.exists_of_gives_modify {v v' : Vault} {path content : Text} {u : Unit}
    (h : Gives (Vault.modify path content) v u v') :
    ∃ p b, v.absolute path = .ok p ∧ v.disk.openable p = .ok () ∧ Utf8.encode? content = some b ∧
      v' = { v with disk := v.disk.put p (.file b),
                    history := v.history ++ [⟨path, content.length⟩] } := by
  rw [Gives, run_modify] at h
  split at h
  · cases h
  · next p hp =>
    split at h
    · cases h
    · next d hwrite =>
      cases h
      unfold Disk.writeText at hwrite
      split at hwrite
      · cases hwrite
      · next hopen =>
        split at hwrite
        · next b hencode =>
          cases hwrite
          exact ⟨p, b, hp, hopen, hencode, rfl⟩
        · cases hwrite

/-- **A text that was written is what is read.** -/
theorem Vault.read_of_gives_modify {v v' : Vault} {path content : Text} {u : Unit}
    (h : Gives (Vault.modify path content) v u v') :
    v'.root = v.root ∧ v'.read path = .ok content := by
  obtain ⟨p, b, hp, hopen, hencode, rfl⟩ := exists_of_gives_modify h
  exact ⟨rfl, read_eq_ok_iff.2 ⟨p, b, (absolute_congr rfl path).trans hp, Disk.bytes_put hopen b,
    Utf8.decode_of_encode? hencode⟩⟩

theorem Workspace.run_save (w : Workspace) :
    Workspace.save.run.run w = match w.store with
      | none => (.ok (), w)
      | some file => ((w.known.save w.vault.disk file).1,
          { w with vault := { w.vault with disk := (w.known.save w.vault.disk file).2 } }) := by
  have hget : Workspace.save.run.run w = ((match w.store with
      | none => return
      | some file => do
        set { w with vault := { w.vault with disk := (w.known.save w.vault.disk file).2 } }
        Action.lift (w.known.save w.vault.disk file).1 : Action Workspace Unit)).run.run w := rfl
  rw [hget]
  cases w.store <;> rfl

/-- What saving does: nothing without a file, and nothing but what the file needs with one. -/
theorem Workspace.gives_save_iff {w w' : Workspace} {u : Unit} :
    Gives Workspace.save w u w' ↔ w.store = none ∧ w' = w ∨
      ∃ file d, w.store = some file ∧ w.known.save w.vault.disk file = (.ok (), d) ∧
        w' = { w with vault := { w.vault with disk := d } } := by
  rw [Gives, run_save]
  constructor
  · intro h
    split at h
    · next hnone =>
      injection h with _ hw
      exact Or.inl ⟨hnone, hw.symm⟩
    · next file hfile =>
      injection h with hr hw
      exact Or.inr ⟨file, _, hfile, Prod.ext hr rfl, hw.symm⟩
  · rintro (⟨hnone, rfl⟩ | ⟨file, d, hfile, hsave, rfl⟩)
    · simp only [hnone]
    · simp only [hfile, hsave]

theorem Workspace.known_of_gives_save {w w' : Workspace} {u : Unit}
    (h : Gives Workspace.save w u w') : w'.known = w.known := by
  rcases gives_save_iff.1 h with ⟨-, rfl⟩ | ⟨file, d, -, -, rfl⟩
  · rfl
  · rfl

/-- **A note that is not the file of the known paths** keeps its text when they are saved. -/
theorem Workspace.read_of_gives_save {w w' : Workspace} {path text : Text} {u : Unit}
    (h : Gives Workspace.save w u w') (hstore : ∀ file ∈ w.store, w.vault.absolute path ≠ .ok file)
    (hread : w.vault.read path = .ok text) : w'.vault.read path = .ok text := by
  rcases gives_save_iff.1 h with ⟨-, rfl⟩ | ⟨file, d, hfile, hsave, rfl⟩
  · exact hread
  · obtain ⟨p, b, hp, hb, htext⟩ := Vault.read_eq_ok_iff.1 hread
    have hne : p ≠ file := fun he => hstore file hfile (he ▸ hp)
    exact Vault.read_eq_ok_iff.2 ⟨p, b, (Vault.absolute_congr rfl path).trans hp,
      KnownPaths.bytes_of_save hsave hne hb, htext⟩

end TemplatedNotes
