/-
  TemplatedNotes/Proofs/Batch/Touched.lean
  ========================================
  **What a command that updates notes leaves alone.**

  A turn writes at most one file, its own note, and only a note that has a section and whose
  expansion has another text than it had (`Rewrites`).  So along the turns of a command a file holds
  what it held until the turn of a note at its place rewrites it (`Chain.sameFile_or`), and the save
  at the end touches no file but that of the known paths (`saving_of_run`).  Every write that
  works is entered in the history, and nothing else is (`Chain.history`).

    * `touched_spec` — which files a command changes, what they hold then, and what is entered.
-/
import TemplatedNotes.Proofs.Batch.Turns
import TemplatedNotes.Runtime.Usual

namespace TemplatedNotes

open TemplatedNotes.Action

namespace Workspace

open Disk

variable {w w' w₁ : Workspace} {path text : Text} {r : Outcome (Option Expansion)}

/-! ### One turn -/

/-- A note of a session is read, and its expansion has another text. -/
structure Rewrites [Runtime] (w : Workspace) (path text : Text) (e : Expansion)
    (m : Script.Memory) : Prop
    extends w.Expands path text e m where
  changed : e.changed = true

/-- A note that is rewritten has sections. -/
theorem Rewrites.opens [Runtime] {e : Expansion} {m : Script.Memory}
    (h : w.Rewrites path text e m) :
    Reference.Opens text := by
  obtain ⟨-, hhad, hchange⟩ := Runner.report_of_gives_expand h.expand
  exact hhad.1 (hchange h.changed)

theorem Rewrites.text_ne [Runtime] {e : Expansion} {m : Script.Memory}
    (h : w.Rewrites path text e m) :
    e.text ≠ text := (Runner.changed_iff_of_gives_expand h.expand).1 h.changed

/-- A turn leaves a file as it is, unless it rewrites the note at its place. -/
theorem Ends.sameFile_or [Runtime] (h : Ends w path r w') (q : Path) :
    SameFile w.vault.disk w'.vault.disk q ∨
      ∃ text e m, w.Rewrites path text e m ∧ w.vault.absolute path = .ok q := by
  cases h with
  | written expands changed write =>
    obtain ⟨p, b, hp, hopen, -, rfl⟩ := Vault.exists_of_gives_modify write
    by_cases hq : q = p
    · exact Or.inr ⟨_, _, _, ⟨expands, changed⟩, hq ▸ hp⟩
    · exact Or.inl (bytes_put_of_ne hopen hq b)
  | unwritten expands changed write =>
    obtain ⟨p, b, hp, -⟩ := Vault.bytes_of_read expands.read
    by_cases hq : q = p
    · exact Or.inr ⟨_, _, _, ⟨expands, changed⟩, hq ▸ hp⟩
    · exact Or.inl (Vault.bytes_of_fails_modify_of_ne write hp hq)
  | _ => exact Or.inl (SameFile.refl _ q)

namespace Turn

/-- The expansion that a turn has written into its note. -/
def written? (t : Turn) : Option Expansion := t.expansion?.filter (·.changed)

/-- What a turn enters in the history. -/
def edit? (t : Turn) : Option Edit := t.written?.map fun e => ⟨t.path, e.text.length⟩

@[simp] theorem written?_error {f : Failure} : (Turn.mk path w (.error f) w').written? = none := rfl

@[simp] theorem written?_none : (Turn.mk path w (.ok none) w').written? = none := rfl

@[simp] theorem written?_some {e : Expansion} :
    (Turn.mk path w (.ok (some e)) w').written? = if e.changed then some e else none :=
  Option.filter_some

end Turn

/-- A turn enters the write that worked, and nothing else. -/
theorem Ends.history [Runtime] (h : Ends w path r w') :
    w'.vault.history = w.vault.history ++ (Turn.mk path w r w').edit?.toList := by
  cases h with
  | kept _ same => simp [Turn.edit?, same]
  | written _ changed write =>
    obtain ⟨p, b, -, -, -, rfl⟩ := Vault.exists_of_gives_modify write
    simp [Turn.edit?, changed]
  | unwritten _ _ write =>
    rcases Vault.fails_modify_iff.1 write with ⟨-, rfl⟩ | ⟨p, -, ⟨g, -, -, rfl⟩ | ⟨-, -, -, rfl⟩⟩
    · simp [Turn.edit?]
    · simp [Turn.edit?]
    · simp [Turn.edit?]
  | _ => simp [Turn.edit?]

/-- **A turn has written an expansion** exactly if it is that of its note, and writing it worked. -/
theorem Ends.written?_eq_some_iff [Runtime] {e : Expansion} (h : Ends w path r w') :
    (Turn.mk path w r w').written? = some e ↔ (∃ text m, w.Expands path text e m) ∧
      Gives (Vault.modify path e.text) w.vault ⟨⟩ w'.vault := by
  constructor
  · intro hwritten
    cases h with
    | kept _ same => simp [same] at hwritten
    | @written text e' m v expands changed write =>
      obtain rfl : e' = e := by simpa [changed] using hwritten
      exact ⟨⟨text, m, expands⟩, write⟩
    | _ => simp at hwritten
  · rintro ⟨⟨text, m, hexpands⟩, hwrite⟩
    -- a write that worked is in the history, so the turn has written something
    have hhistory := h.history
    obtain ⟨p, b, -, -, -, hv⟩ := Vault.exists_of_gives_modify hwrite
    rw [hv] at hhistory
    cases h with
    | @written text' e' m' v expands changed _ =>
      obtain ⟨-, rfl, -⟩ := hexpands.unique expands
      simp [changed]
    | kept _ same => simp [Turn.edit?, same] at hhistory
    | _ => simp [Turn.edit?] at hhistory

theorem Ends.isSound [Runtime] (h : Ends w path r w') (hv : w.vault.IsSound) :
    w'.vault.IsSound := by
  cases h with
  | written _ _ write => exact hv.of_modify write
  | unwritten _ _ write => exact hv.of_modify write
  | _ => exact hv

/-! ### The turns of a command -/

variable {ts : List Turn} {rs : Outcome (List Expansion)}

theorem Chain.isSound [Runtime] (h : Chain w ts rs w') (hv : w.vault.IsSound) :
    w'.vault.IsSound := by
  induction h with
  | nil => exact hv
  | stop ends => exact ends.isSound hv
  | next ends _ ih => exact ih (ends.isSound hv)

/-- **A file holds what it held** until the turn of a note at its place rewrites it. -/
theorem Chain.sameFile_or [Runtime] (h : Chain w ts rs w') (q : Path) :
    SameFile w.vault.disk w'.vault.disk q ∨
      ∃ t ∈ ts, ∃ text e m, SameFile w.vault.disk t.before.vault.disk q ∧
        t.before.Rewrites t.path text e m ∧ t.before.vault.absolute t.path = .ok q := by
  induction h with
  | nil w => exact Or.inl (SameFile.refl _ q)
  | @stop w w' path f ends =>
    rcases ends.sameFile_or q with hsame | ⟨text, e, m, hrewrites, hq⟩
    · exact Or.inl hsame
    · exact Or.inr ⟨_, List.mem_cons_self, text, e, m, SameFile.refl _ q, hrewrites, hq⟩
  | @next w w₁ w' path x ts r ends rest ih =>
    rcases ends.sameFile_or q with hsame | ⟨text, e, m, hrewrites, hq⟩
    · rcases ih with hrest | ⟨t, ht, text, e, m, hsame', hrewrites, hq⟩
      · exact Or.inl (hsame.trans hrest)
      · exact Or.inr ⟨t, List.mem_cons_of_mem _ ht, text, e, m, hsame.trans hsame', hrewrites, hq⟩
    · exact Or.inr ⟨_, List.mem_cons_self, text, e, m, SameFile.refl _ q, hrewrites, hq⟩

/-- **The history gains the writes that worked**, in the order of the turns. -/
theorem Chain.history [Runtime] (h : Chain w ts rs w') :
    w'.vault.history = w.vault.history ++ ts.filterMap Turn.edit? := by
  induction h with
  | nil => simp
  | stop ends =>
    rw [ends.history, List.filterMap_cons, List.filterMap_nil]
    split <;> simp [*]
  | next ends rest ih =>
    rw [ih, ends.history, List.filterMap_cons]
    split <;> simp [*]

/-- Every turn of a chain is in the same folder as its start. -/
theorem Chain.absolute_of_mem [Runtime] {t : Turn} (h : Chain w ts rs w') (ht : t ∈ ts)
    (path : Text) :
    t.before.vault.absolute path = w.vault.absolute path := by
  obtain ⟨pre, post, rfl⟩ := List.append_of_mem ht
  obtain ⟨⟨es, hpre⟩, -⟩ := h.of_append
  exact Vault.absolute_congr hpre.frame.2 path

/-- Where a turn has written its expansion stands its text in UTF-8, until a later turn rewrites
    the place. -/
theorem Chain.bytes_of_written [Runtime] {pre post : List Turn} {t : Turn} {e : Expansion}
    (h : Chain w (pre ++ t :: post) rs w') (hwritten : t.written? = some e) :
    ∃ p b, w.vault.absolute t.path = .ok p ∧ Utf8.encode? e.text = some b ∧
      t.after.vault.disk.bytes p = .ok b ∧
      ((∀ t' ∈ post, w.vault.absolute t'.path = .ok p →
        ∀ text e' m, t'.before.Expands t'.path text e' m → e'.text = text) →
        w'.vault.disk.bytes p = .ok b) := by
  obtain ⟨-, hends, ⟨rs₁, hpost⟩, -⟩ := h.of_append
  obtain ⟨-, hwrite⟩ := hends.written?_eq_some_iff.1 hwritten
  obtain ⟨p, b, hp, hopen, hencode, hafter⟩ := Vault.exists_of_gives_modify hwrite
  have hb : t.after.vault.disk.bytes p = .ok b := by
    rw [hafter]
    exact bytes_put hopen b
  have hplace := (h.absolute_of_mem (by simp) t.path).symm.trans hp
  refine ⟨p, b, hplace, hencode, hb, ?_⟩
  intro hlast
  rcases hpost.sameFile_or p with hsame | ⟨t', ht', text, e', m, -, hrewrites, hp'⟩
  · exact (hsame b).2 hb
  · have hplace' := (h.absolute_of_mem (by simp [ht']) t'.path).symm.trans hp'
    exact absurd (hlast t' ht' hplace' text e' m hrewrites.toExpands) hrewrites.text_ne

/-! ### The save -/

/-- What a save leaves as it is, whether it works or fails. -/
structure Saving (w w' : Workspace) : Prop where
  known : w'.known = w.known
  store : w'.store = w.store
  history : w'.vault.history = w.vault.history
  sameFile : w.vault.IsSound → ∀ q, w.store ≠ some q → SameFile w.vault.disk w'.vault.disk q

theorem Saving.refl (w : Workspace) : Saving w w :=
  ⟨rfl, rfl, rfl, fun _ q _ => SameFile.refl _ q⟩

theorem saving_of_run {u : Outcome Unit} (h : save.run.run w = (u, w')) : Saving w w' := by
  rw [run_save] at h
  split at h
  · cases h
    exact Saving.refl _
  · next file hfile =>
    cases h
    refine ⟨rfl, rfl, rfl, fun hv q hq => hv.tree.sameFile_of_save rfl ?_⟩
    rintro rfl
    exact hq hfile

/-- **A command is a chain of turns**, behind which nothing changes but the file of the known
    paths. -/
theorem Command.IsRun.exists_chain [Runtime] {c : Command} (h : c.IsRun w rs w') :
    ∃ rs₁ w₁, Chain w (c.turns w) rs₁ w₁ ∧ Saving w₁ w' := by
  cases h with
  | stopped chain => exact ⟨_, _, chain, Saving.refl _⟩
  | unsaved chain save => exact ⟨_, _, chain, saving_of_run save⟩
  | saved chain save => exact ⟨_, _, chain, saving_of_run save⟩

/-- A file that has changed, and is not that of the known paths, was a note at the start of the
    command, and a turn has rewritten it. -/
theorem Command.IsRun.exists_rewrites [Runtime] {c : Command} (h : c.IsRun w rs w')
    (hv : w.vault.IsSound)
    {q : Path} (hq : w.store ≠ some q) (hchanged : ¬ SameFile w.vault.disk w'.vault.disk q) :
    ∃ t ∈ c.turns w, ∃ text e m, w.vault.absolute t.path = .ok q ∧
      w.vault.read t.path = .ok text ∧ t.before.Rewrites t.path text e m := by
  obtain ⟨rs₁, w₁, hchain, hsaving⟩ := h.exists_chain
  rcases hchain.sameFile_or q with hsame | ⟨t, ht, text, e, m, hsame, hrewrites, hplace⟩
  · have hsaved := hsaving.sameFile (hchain.isSound hv) q (hchain.frame.1 ▸ hq)
    exact absurd (hsame.trans hsaved) hchanged
  · have hplace₀ := (hchain.absolute_of_mem ht t.path).symm.trans hplace
    refine ⟨t, ht, text, e, m, hplace₀, ?_, hrewrites⟩
    obtain ⟨p, b, hp, hb, hdecode⟩ := Vault.read_eq_ok_iff.1 hrewrites.read
    obtain rfl : p = q := Except.ok.inj (hp.symm.trans hplace)
    exact Vault.read_eq_ok_iff.2 ⟨p, b, hplace₀, (hsame b).1 hb, hdecode⟩

/-- A note without sections keeps its bytes. -/
theorem Command.IsRun.bytes_of_plain [Runtime] {c : Command} (h : c.IsRun w rs w')
    (hv : w.vault.IsSound)
    {p : Path} {b : List UInt8} (hstore : w.store ≠ some p) (hb : w.vault.disk.bytes p = .ok b)
    (hdecode : Utf8.decode b = .ok text) (hplain : Reference.read path text = .ok []) :
    w'.vault.disk.bytes p = .ok b := by
  by_contra hother
  have hchanged : ¬ SameFile w.vault.disk w'.vault.disk p := by
    intro hsame
    exact hother ((hsame b).2 hb)
  -- the note may be rewritten under another path, but its text is the same
  obtain ⟨t, -, text', e, m, hplace, hread, hrewrites⟩ := h.exists_rewrites hv hstore hchanged
  obtain ⟨p', b', hp', hb', hdecode'⟩ := Vault.read_eq_ok_iff.1 hread
  obtain rfl : p = p' := Except.ok.inj (hplace.symm.trans hp')
  obtain rfl : b = b' := Except.ok.inj (hb.symm.trans hb')
  obtain rfl : text = text' := Except.ok.inj (hdecode.symm.trans hdecode')
  exact (Reference.opens_iff_of_read hplain).1 hrewrites.opens rfl

/-- **What a command that updates notes touches**, whether it works or fails, by scripts that keep
    off the engine.  A file that has changed is that of the known paths or a note that had sections
    and whose expansion has another text.  So a note without sections keeps its bytes, unless the
    known paths are saved in its place.  Where a turn has written its expansion stand the bytes of
    its text, and they are there at the end if no later turn rewrites the place and the known paths
    are not saved there.  The history gains the writes that worked, in the order of the turns, and
    the turns are those of the notes, in order, as far as they went. -/
theorem touched_spec [Runtime] (c : Command) (hv : w.vault.IsSound)
    (h : IsFollowed c.action w rs w') :
    (∀ q, w.store ≠ some q → ¬ SameFile w.vault.disk w'.vault.disk q →
      ∃ t ∈ c.turns w, ∃ text references e m, w.vault.absolute t.path = .ok q ∧
        w.vault.read t.path = .ok text ∧ Reference.read t.path text = .ok references ∧
        references ≠ [] ∧ t.before.Expands t.path text e m ∧ e.text ≠ text) ∧
    (∀ path p b text, w.store ≠ some p → w.vault.disk.bytes p = .ok b →
      Utf8.decode b = .ok text → Reference.read path text = .ok [] →
      w'.vault.disk.bytes p = .ok b) ∧
    (∀ pre t post e, c.turns w = pre ++ t :: post →
      (t.written? = some e ↔ (∃ text m, t.before.Expands t.path text e m) ∧
        Gives (Vault.modify t.path e.text) t.before.vault ⟨⟩ t.after.vault) ∧
      (t.written? = some e → ∃ p b, w.vault.absolute t.path = .ok p ∧
        Utf8.encode? e.text = some b ∧ t.after.vault.disk.bytes p = .ok b ∧
        (w.store ≠ some p → (∀ t' ∈ post, w.vault.absolute t'.path = .ok p →
          ∀ text e' m, t'.before.Expands t'.path text e' m → e'.text = text) →
          w'.vault.disk.bytes p = .ok b))) ∧
    w'.vault.history = w.vault.history ++ (c.turns w).filterMap Turn.edit? ∧
    (c.turns w).map (·.path) <+: c.notes w := by
  have hrun := Command.isRun_of_run h.run
  obtain ⟨rs₁, w₁, hchain, hsaving⟩ := hrun.exists_chain
  refine ⟨?_, ?_, ?_, hsaving.history.trans hchain.history, map_path_turns _ _ _⟩
  · intro q hq hchanged
    obtain ⟨t, ht, text, e, m, hplace, hread, hrewrites⟩ := hrun.exists_rewrites hv hq hchanged
    obtain ⟨references, hreferences⟩ := hrewrites.opens.exists_read t.path
    have hne := (Reference.opens_iff_of_read hreferences).1 hrewrites.opens
    exact ⟨t, ht, text, references, e, m, hplace, hread, hreferences, hne, hrewrites.toExpands,
      hrewrites.text_ne⟩
  · intro path p b text hstore hb hdecode hplain
    exact hrun.bytes_of_plain hv hstore hb hdecode hplain
  · intro pre t post e hsplit
    rw [hsplit] at hchain
    obtain ⟨-, hends, -⟩ := hchain.of_append
    refine ⟨hends.written?_eq_some_iff, ?_⟩
    intro hwritten
    obtain ⟨p, b, hp, hencode, hb, hkept⟩ := hchain.bytes_of_written hwritten
    refine ⟨p, b, hp, hencode, hb, ?_⟩
    intro hstore hlast
    have hsame := hsaving.sameFile (hchain.isSound hv) p (hchain.frame.1 ▸ hstore)
    exact (hsame b).2 (hkept hlast)

attribute [local instance] Runtime.usual

/-- That a note has no sections can be checked by counting them. -/
theorem read_eq_nil_of_run (h : (Reference.read path text).toOption.map List.length = some 0) :
    Reference.read path text = .ok [] := by
  obtain ⟨references, hread, hcount⟩ := Option.map_eq_some_iff.1 h
  rw [Outcome.eq_ok_of_toOption hread, List.length_eq_zero_iff.1 hcount]

/-- A vault with a script, a note with a byte order mark and carriage returns but no section, a
    note with a section, and a file that is no UTF-8. -/
def mixedNotes : Workspace :=
  { vault :=
      { root := [], excluded := [], history := [⟨Text.of "old.md", 3⟩],
        disk := ⟨[([Text.of "t.py"], .file ((Utf8.encode? (Text.of
            "[[\"return\", [\"lit\", \"hi\"]]]")).getD [])),
          ([Text.of "marked.md"], .file [0xef, 0xbb, 0xbf, 0x61, 0x0d, 0x0a]),
          ([Text.of "a.md"], .file ((Utf8.encode? (Text.of "%% template: 't.py' %%")).getD [])),
          ([Text.of "raw.md"], .file [0xff])]⟩ },
    indexed := false, policy := .marker, memory := .empty, store := some [Text.of "known.json"],
    known := ⟨["marked.md", "a.md", "raw.md"].map Text.of, []⟩ }

theorem touched_spec_mixedNotes :
    ∃ f w', mixedNotes.vault.IsSound ∧
      IsFollowed Command.updateKnown.action mixedNotes (.error f) w' ∧
      w'.vault.disk.bytes [Text.of "marked.md"] = .ok [0xef, 0xbb, 0xbf, 0x61, 0x0d, 0x0a] ∧
      w'.vault.history = [⟨Text.of "old.md", 3⟩, ⟨Text.of "a.md", 30⟩] := by
  have hv : mixedNotes.vault.IsSound := ⟨by decide +kernel, rfl⟩
  have hrun : (Command.updateKnown.action.run.run mixedNotes).1.toOption.isNone = true := by
    decide +kernel
  have hengine : (Command.updateKnown.action.run.run mixedNotes).2.memory.EngineKept := by
    decide +kernel
  have hplain : (Reference.read (Text.of "marked.md") (Text.of "\uFEFFa\r\n")).toOption.map
      List.length = some 0 := by decide +kernel
  have hedits : (Command.updateKnown.turns mixedNotes).filterMap Turn.edit? =
      [⟨Text.of "a.md", 30⟩] := by decide +kernel
  have hbytes : mixedNotes.vault.disk.bytes [Text.of "marked.md"] =
      .ok [0xef, 0xbb, 0xbf, 0x61, 0x0d, 0x0a] := Outcome.eq_ok_of_toOption (by decide +kernel)
  rcases h : Command.updateKnown.action.run.run mixedNotes with ⟨f | es, w'⟩
  · rw [h] at hengine
    have h : IsFollowed Command.updateKnown.action mixedNotes (.error f) w' := ⟨h, hengine⟩
    obtain ⟨-, hkept, -, hhistory, -⟩ := touched_spec .updateKnown hv h
    refine ⟨f, w', hv, h, ?_, ?_⟩
    · exact hkept (Text.of "marked.md") _ _ (Text.of "\uFEFFa\r\n") (by decide) hbytes
        (Outcome.eq_ok_of_toOption (by decide +kernel)) (read_eq_nil_of_run hplain)
    · rw [hhistory, hedits]
      rfl
  · rw [h] at hrun
    cases hrun

/-- A vault with one note, which has no section, and with the known paths in its place. -/
def registeredNote : Workspace :=
  { vault :=
      { root := [], excluded := [], history := [],
        disk := ⟨[([Text.of "reg.md"], .file ((Utf8.encode? (Text.of "plain")).getD []))]⟩ },
    indexed := true, policy := .marker, memory := .empty, store := some [Text.of "reg.md"],
    known := .empty }

/-- **A note without sections that changes**: the known paths are saved in its place. -/
theorem bytes_ne_of_registeredNote :
    ∃ es w', IsFollowed (Command.update (Text.of "reg.md")).action registeredNote (.ok es) w' ∧
      registeredNote.vault.read (Text.of "reg.md") = .ok (Text.of "plain") ∧
      Reference.read (Text.of "reg.md") (Text.of "plain") = .ok [] ∧
      ¬ SameFile registeredNote.vault.disk w'.vault.disk [Text.of "reg.md"] := by
  have hrun : ((Command.update (Text.of "reg.md")).action.run.run
      registeredNote).1.toOption.isSome = true := by
    decide +kernel
  have hengine : ((Command.update (Text.of "reg.md")).action.run.run
      registeredNote).2.memory.EngineKept := by
    decide +kernel
  have hplain : (Reference.read (Text.of "reg.md") (Text.of "plain")).toOption.map List.length =
      some 0 := by
    decide +kernel
  have hbytes : registeredNote.vault.disk.bytes [Text.of "reg.md"] =
      .ok ((Utf8.encode? (Text.of "plain")).getD []) :=
    Outcome.eq_ok_of_toOption (by decide +kernel)
  have hsaved : (((Command.update (Text.of "reg.md")).action.run.run
      registeredNote).2.vault.disk.bytes [Text.of "reg.md"]).toOption ≠
        some ((Utf8.encode? (Text.of "plain")).getD []) := by
    decide +kernel
  obtain ⟨es, h⟩ := exists_isFollowed_of_run hrun hengine
  refine ⟨es, _, h, Outcome.eq_ok_of_toOption (by decide +kernel), read_eq_nil_of_run hplain, ?_⟩
  intro hsame
  exact hsaved (by rw [(hsame _).2 hbytes]; rfl)

end Workspace

end TemplatedNotes
