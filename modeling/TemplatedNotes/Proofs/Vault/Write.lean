/-
  TemplatedNotes/Proofs/Vault/Write.lean
  ======================================
  **A note whose writing fails.**

  A note is opened, which empties it, before its new text is turned into bytes.  So there are two
  kinds of failed writes: the place of the note cannot be found or opened and nothing has changed,
  or the new text holds a surrogate and the note is empty (`fails_modify_iff`).

    * `bytes_of_fails_modify` — when a failed write keeps the bytes of the note;
    * `read_of_fails_modify` — a note that could be read is empty after a failed write.
-/
import TemplatedNotes.Proofs.Action
import TemplatedNotes.Proofs.Vault.Disk

namespace TemplatedNotes.Vault

open TemplatedNotes.Action

variable {v v' : Vault} {path content : Text} {f : Failure} {p : Path}

theorem run_modify (v : Vault) (path content : Text) :
    (modify path content).run.run v =
      match v.absolute path with
      | .error f => (.error f, v)
      | .ok p =>
        match v.disk.writeText p content with
        | (.error f, d) => (.error f, { v with disk := d })
        | (.ok (), d) =>
          (.ok (), { v with disk := d, history := v.history ++ [⟨path, content.length⟩] }) := by
  have hseq : (modify path content).run.run v =
      (Action.lift (v.absolute path) >>= fun p => (do
        set { v with disk := (v.disk.writeText p content).2 }
        Action.lift (v.disk.writeText p content).1
        modifyThe Vault (fun v => { v with history := v.history ++ [⟨path, content.length⟩] }) :
          Action Vault Unit)).run.run v := rfl
  rw [hseq, run_bind, run_lift]
  cases v.absolute path with
  | error f => rfl
  | ok p =>
    dsimp only
    rcases v.disk.writeText p content with ⟨_ | _, d⟩
    · rfl
    · rfl

/-- **How a write can fail**: the place of the note is not found or cannot be opened, and nothing
    has changed; or the new text cannot be encoded, and the note has been emptied. -/
theorem fails_modify_iff :
    Fails (modify path content) v f v' ↔
      (v.absolute path = .error f ∧ v' = v) ∨
      ∃ p, v.absolute path = .ok p ∧
        ((∃ g, v.disk.openable p = .error g ∧ f = .file g (Path.absoluteText p) ∧ v' = v) ∨
          v.disk.openable p = .ok () ∧ Utf8.encode? content = none ∧ f = .unencodable content ∧
            v' = { v with disk := v.disk.put p (.file []) }) := by
  unfold Fails
  constructor
  · intro h
    rw [run_modify] at h
    split at h
    · next habsolute =>
      cases h
      exact Or.inl ⟨habsolute, rfl⟩
    · next p habsolute =>
      refine Or.inr ⟨p, habsolute, ?_⟩
      unfold Disk.writeText at h
      split at h
      · next hwrite =>
        split at hwrite
        · next g hopen =>
          cases hwrite
          cases h
          exact Or.inl ⟨g, hopen, rfl, rfl⟩
        · next hopen =>
          split at hwrite
          · cases hwrite
          · next hencode =>
            cases hwrite
            cases h
            exact Or.inr ⟨hopen, hencode, rfl, rfl⟩
      · cases h
  · rintro (⟨habsolute, rfl⟩ | ⟨p, habsolute, ⟨g, hopen, rfl, rfl⟩ | ⟨hopen, hencode, rfl, rfl⟩⟩)
    · rw [run_modify, habsolute]
    · rw [run_modify, habsolute]
      simp only [Disk.writeText, hopen]
    · rw [run_modify, habsolute]
      simp only [Disk.writeText, hopen, hencode]

/-! ### What a failed write leaves -/

/-- **When a failed write keeps the bytes of a note**: unless the place could be opened and the new
    text cannot be encoded, in which case the note is empty. -/
theorem bytes_of_fails_modify (h : Fails (modify path content) v f v')
    (hp : v.absolute path = .ok p) :
    v'.disk.bytes p = v.disk.bytes p ↔
      ¬ (v.disk.openable p = .ok () ∧ Utf8.encode? content = none ∧ v.disk.bytes p ≠ .ok []) := by
  rcases fails_modify_iff.1 h with ⟨hfail, -⟩ | ⟨p', hp', hcase⟩
  · rw [hp] at hfail
    cases hfail
  · obtain rfl : p' = p := Except.ok.inj (hp'.symm.trans hp)
    rcases hcase with ⟨g, hopen, -, rfl⟩ | ⟨hopen, hencode, -, rfl⟩
    · simp [hopen]
    · rw [Disk.bytes_put hopen]
      simp [hopen, hencode, eq_comm]

theorem bytes_of_fails_modify_of_ne (h : Fails (modify path content) v f v')
    (hp : v.absolute path = .ok p) {q : Path} (hne : q ≠ p) (b : List UInt8) :
    v'.disk.bytes q = .ok b ↔ v.disk.bytes q = .ok b := by
  rcases fails_modify_iff.1 h with ⟨-, rfl⟩ | ⟨p', hp', ⟨g, -, -, rfl⟩ | ⟨hopen, -, -, rfl⟩⟩
  · rfl
  · rfl
  · obtain rfl : p' = p := Except.ok.inj (hp'.symm.trans hp)
    exact Disk.bytes_put_of_ne hopen hne [] b

theorem bytes_of_read {text : Text} (h : v.read path = .ok text) :
    ∃ p b, v.absolute path = .ok p ∧ v.disk.bytes p = .ok b := by
  obtain ⟨p, hp, htext⟩ := Outcome.bind_eq_ok.1 h
  obtain ⟨b, hb, -⟩ := Outcome.bind_eq_ok.1 htext
  exact ⟨p, b, hp, hb⟩

theorem exists?_of_read {text : Text} (h : v.read path = .ok text) : v.exists? path = .ok true := by
  obtain ⟨p, b, hp, hb⟩ := bytes_of_read h
  unfold Disk.bytes at hb
  split at hb
  · next hlook =>
    rw [exists?, hp]
    simp only [Disk.isFile, hlook]
  · cases hb
  · cases hb

/-- **A note that could be read is empty after a failed write**, because nothing but a surrogate
    can have made the write fail. -/
theorem read_of_fails_modify {text : Text} (h : Fails (modify path content) v f v')
    (hread : v.read path = .ok text) :
    f = .unencodable content ∧ Utf8.encode? content = none ∧ v'.read path = .ok [] := by
  obtain ⟨p, b, hp, hb⟩ := bytes_of_read hread
  have hopen := Disk.openable_of_bytes hb
  rcases fails_modify_iff.1 h with ⟨hfail, -⟩ | ⟨p', hp', hcase⟩
  · rw [hp] at hfail
    cases hfail
  · obtain rfl : p' = p := Except.ok.inj (hp'.symm.trans hp)
    rcases hcase with ⟨g, hno, -⟩ | ⟨-, hencode, rfl, rfl⟩
    · rw [hopen] at hno
      cases hno
    · refine ⟨rfl, hencode, Outcome.bind_eq_ok.2 ⟨p', hp, ?_⟩⟩
      rw [textAt, Disk.bytes_put hopen]
      rfl

end TemplatedNotes.Vault
