/-
  TemplatedNotes/Proofs/UpdateAll.lean
  ====================================
  **Updating all notes of a vault.**

  Before a note is updated among all others, a quick look at its text decides whether it may have
  sections; a note that has one passes it.  The notes come one after the other, and the update of
  one changes no file but its own, so what a note held at the start it holds when its turn comes
  (`read_of_gives_refreshMarked`).  Together: an update of all notes misses no section
  (`updateAll_passes_none`).
-/
import TemplatedNotes.Proofs.Section.QuickLook
import TemplatedNotes.Proofs.Update
import TemplatedNotes.Proofs.Vault.Inside
import TemplatedNotes.Runtime.Usual

namespace TemplatedNotes

open TemplatedNotes.Action

namespace Workspace

variable {w w' : Workspace} {path text : Text}

/-! ### The update of one note -/

theorem of_gives_onMemory {α : Type} {x : Script.Run α} {a : α} (h : Gives (onMemory x) w a w') :
    ∃ m, Gives x w.memory a m ∧ w' = { w with memory := m } := by
  have hrun : (onMemory x).run.run w =
      ((x.run.run w.memory).1, { w with memory := (x.run.run w.memory).2 }) := rfl
  rw [Gives, hrun] at h
  injection h with hr hw
  exact ⟨_, Prod.ext hr rfl, hw.symm⟩

theorem of_gives_onVault {α : Type} {x : Action Vault α} {a : α} (h : Gives (onVault x) w a w') :
    ∃ v, Gives x w.vault a v ∧ w' = { w with vault := v } := by
  have hrun : (onVault x).run.run w =
      ((x.run.run w.vault).1, { w with vault := (x.run.run w.vault).2 }) := rfl
  rw [Gives, hrun] at h
  injection h with hr hw
  exact ⟨_, Prod.ext hr rfl, hw.symm⟩

theorem of_fails_onMemory {α : Type} {x : Script.Run α} {f : Failure}
    (h : Fails (onMemory x) w f w') : ∃ m, Fails x w.memory f m ∧ w' = { w with memory := m } := by
  have hrun : (onMemory x).run.run w =
      ((x.run.run w.memory).1, { w with memory := (x.run.run w.memory).2 }) := rfl
  rw [Fails, hrun] at h
  injection h with hr hw
  exact ⟨_, Prod.ext hr rfl, hw.symm⟩

theorem of_fails_onVault {α : Type} {x : Action Vault α} {f : Failure}
    (h : Fails (onVault x) w f w') : ∃ v, Fails x w.vault f v ∧ w' = { w with vault := v } := by
  have hrun : (onVault x).run.run w =
      ((x.run.run w.vault).1, { w with vault := (x.run.run w.vault).2 }) := rfl
  rw [Fails, hrun] at h
  injection h with hr hw
  exact ⟨_, Prod.ext hr rfl, hw.symm⟩

section

variable [Runtime]

/-- **The update of a note that can be read**: it is expanded and recorded, and written back if its
    text has changed. -/
theorem gives_refresh {x : Option Expansion} (hread : w.vault.read path = .ok text)
    (h : Gives (refresh path) w x w') :
    ∃ e m v, x = some e ∧ Gives (w.host.runner.expand w.policy text path) w.memory e m ∧
      (e.changed = false ∧ v = w.vault ∨
        e.changed = true ∧ Gives (Vault.modify path e.text) w.vault ⟨⟩ v) ∧
      w' = { w with vault := v, memory := m, known := w.known.record e } := by
  have h := gives_get_bind.1 h
  have h := (gives_lift_bind (Vault.exists?_of_read hread)).1 h
  rw [if_pos rfl] at h
  have h := (gives_lift_bind hread).1 h
  obtain ⟨e, w₁, he, h⟩ := gives_bind.1 h
  obtain ⟨m, hm, rfl⟩ := of_gives_onMemory (gives_get_bind.1 he)
  obtain ⟨u, w₂, hknown, h⟩ := gives_bind.1 h
  obtain rfl := gives_modifyThe.1 hknown
  cases hchanged : e.changed with
  | false =>
    rw [hchanged] at h
    obtain ⟨rfl, rfl⟩ := gives_pure.1 h
    exact ⟨e, m, w.vault, rfl, hm, Or.inl ⟨hchanged, rfl⟩, rfl⟩
  | true =>
    rw [hchanged] at h
    obtain ⟨u, w₃, hwrite, h⟩ := gives_bind.1 h
    obtain ⟨v, hv, rfl⟩ := of_gives_onVault hwrite
    obtain ⟨rfl, rfl⟩ := gives_pure.1 h
    exact ⟨e, m, v, rfl, hm, Or.inr ⟨hchanged, hv⟩, rfl⟩

/-- The expansion that an update makes is that of the note: its path and all of its sections. -/
theorem source_and_references_of_gives_expand {e : Expansion} {m : Script.Memory}
    {rs : List Reference} (h : Gives (w.host.runner.expand w.policy text path) w.memory e m)
    (hread : Reference.read path text = .ok rs) :
    e.source = path ∧ e.references = rs.length := by
  obtain ⟨ms, hms, h⟩ := Runner.gives_expand h
  obtain ⟨ms', hms', rfl⟩ := Reference.readLines_eq_ok.1 hread
  obtain rfl : ms = ms' := Except.ok.inj (hms.symm.trans hms')
  rcases h with ⟨hnone, rfl, -⟩ | ⟨-, gs, -, rfl⟩
  · rw [hnone]
    exact ⟨rfl, rfl⟩
  · exact ⟨rfl, rfl⟩

/-! ### The notes one after the other -/

/-- A note that can be read is updated if it may open a section, and left as it is otherwise. -/
theorem run_refreshMarked_cons {rest : List Text} (hread : w.vault.read path = .ok text) :
    (refreshMarked (path :: rest)).run.run w =
      ((if Section.mayOpen text then refresh path else pure none) >>= fun x =>
        refreshMarked rest >>= fun es => pure (x.toList ++ es)).run.run w := by
  have hget : (refreshMarked (path :: rest)).run.run w =
      (Action.lift (w.vault.read path) >>= fun text =>
        if Section.mayOpen text then
          refresh path >>= fun x => refreshMarked rest >>= fun es => pure (x.toList ++ es)
        else pure none >>= fun x =>
          refreshMarked rest >>= fun es => pure (Option.toList x ++ es)).run.run w := rfl
  rw [hget, hread, run_bind, run_lift]
  dsimp only
  cases Section.mayOpen text <;> rfl

theorem gives_refreshMarked_cons {rest : List Text} {es : List Expansion} :
    Gives (refreshMarked (path :: rest)) w es w' ↔
      ∃ text x w₁ es₁, w.vault.read path = .ok text ∧
        Gives (if Section.mayOpen text then refresh path else pure none) w x w₁ ∧
        Gives (refreshMarked rest) w₁ es₁ w' ∧ es = x.toList ++ es₁ := by
  constructor
  · intro h
    obtain ⟨text, w₁, htext, -⟩ := gives_bind.1 (gives_get_bind.1 h)
    obtain ⟨hread, -⟩ := gives_lift.1 htext
    rw [Gives, run_refreshMarked_cons hread] at h
    obtain ⟨x, w₂, hx, h⟩ := gives_bind.1 h
    obtain ⟨es₁, w₃, hes, h⟩ := gives_bind.1 h
    obtain ⟨rfl, rfl⟩ := gives_pure.1 h
    exact ⟨text, x, w₂, es₁, hread, hx, hes, rfl⟩
  · rintro ⟨text, x, w₁, es₁, hread, hx, hes, rfl⟩
    rw [Gives, run_refreshMarked_cons hread]
    exact gives_bind.2 ⟨x, w₁, hx, gives_bind.2 ⟨es₁, w', hes, gives_pure.2 ⟨rfl, rfl⟩⟩⟩

theorem gives_refreshMarked_append {pre post : List Text} {es : List Expansion} :
    Gives (refreshMarked (pre ++ post)) w es w' ↔
      ∃ es₁ w₁ es₂, Gives (refreshMarked pre) w es₁ w₁ ∧ Gives (refreshMarked post) w₁ es₂ w' ∧
        es = es₁ ++ es₂ := by
  induction pre generalizing w es with
  | nil =>
    constructor
    · intro h
      exact ⟨[], w, es, gives_pure.2 ⟨rfl, rfl⟩, h, rfl⟩
    · rintro ⟨es₁, w₁, es₂, hpre, hpost, rfl⟩
      obtain ⟨rfl, rfl⟩ := gives_pure.1 hpre
      exact hpost
  | cons path rest ih =>
    rw [List.cons_append, gives_refreshMarked_cons]
    constructor
    · rintro ⟨text, x, w₁, es₁, hread, hx, hes, rfl⟩
      obtain ⟨es₂, w₂, es₃, hrest, hpost, rfl⟩ := ih.1 hes
      exact ⟨x.toList ++ es₂, w₂, es₃,
        gives_refreshMarked_cons.2 ⟨text, x, w₁, es₂, hread, hx, hrest, rfl⟩, hpost, by simp⟩
    · rintro ⟨es₁, w₁, es₂, hpre, hpost, rfl⟩
      obtain ⟨text, x, w₂, es₃, hread, hx, hrest, rfl⟩ := gives_refreshMarked_cons.1 hpre
      exact ⟨text, x, w₂, es₃ ++ es₂, hread, hx, ih.2 ⟨es₃, w₁, es₂, hrest, hpost, rfl⟩, by simp⟩

/-! ### The text of a note while others are updated -/

/-- The update of another note leaves a sound vault, its folder and the text of the note. -/
theorem read_of_gives_refresh {other : Text} {x : Option Expansion} (hv : w.vault.IsSound)
    {otherText : Text} (hother : w.vault.read other = .ok otherText)
    (h : Gives (refresh other) w x w') :
    w'.vault.IsSound ∧ w'.vault.root = w.vault.root ∧
      (w.vault.absolute other ≠ w.vault.absolute path → w.vault.read path = .ok text →
        w'.vault.read path = .ok text) := by
  obtain ⟨e, m, v, -, -, ⟨-, rfl⟩ | ⟨-, hwrite⟩, rfl⟩ := gives_refresh hother h
  · exact ⟨hv, rfl, fun _ hread => hread⟩
  · refine ⟨hv.of_modify hwrite, (hv.disk_of_modify hwrite).1, ?_⟩
    intro hne hread
    exact hv.read_of_modify hwrite hne hread

/-- What stands in a note is there until the note's turn comes. -/
theorem read_of_gives_refreshMarked {pre : List Text} {es : List Expansion}
    (hv : w.vault.IsSound) (hne : ∀ other ∈ pre, w.vault.absolute other ≠ w.vault.absolute path)
    (hread : w.vault.read path = .ok text) (h : Gives (refreshMarked pre) w es w') :
    w'.vault.read path = .ok text := by
  induction pre generalizing w es with
  | nil =>
    obtain ⟨-, rfl⟩ := gives_pure.1 h
    exact hread
  | cons other rest ih =>
    obtain ⟨otherText, x, w₁, es₁, hother, hx, hrest, -⟩ := gives_refreshMarked_cons.1 h
    obtain ⟨hfirst, hlater⟩ := List.forall_mem_cons.1 hne
    have hstep : w₁.vault.IsSound ∧ w₁.vault.root = w.vault.root ∧
        w₁.vault.read path = .ok text := by
      split at hx
      · obtain ⟨hv₁, hroot, hkept⟩ := read_of_gives_refresh hv hother hx
        exact ⟨hv₁, hroot, hkept hfirst hread⟩
      · obtain ⟨-, rfl⟩ := gives_pure.1 hx
        exact ⟨hv, rfl, hread⟩
    obtain ⟨hv₁, hroot, hread₁⟩ := hstep
    refine ih hv₁ ?_ hread₁ hrest
    intro o ho
    rw [Vault.absolute_congr hroot, Vault.absolute_congr hroot]
    exact hlater o ho

/-! ### All notes -/

theorem of_gives_updateAll {es : List Expansion} (h : Gives updateAll w es w') :
    ∃ w₁, Gives (refreshMarked w.vault.notes) w es w₁ := by
  obtain ⟨es₁, w₁, hes, h⟩ := gives_bind.1 (gives_get_bind.1 h)
  obtain ⟨u, w₂, -, h⟩ := gives_bind.1 h
  obtain ⟨rfl, -⟩ := gives_pure.1 h
  exact ⟨w₁, hes⟩

/-- **No note with a section is passed over.**  A text with a section may open one by the quick
    look; so whatever comes of it, the turn of a note with a section is its update, and an update
    of all notes that ends has expanded every listed note that had a section, all of its
    sections. -/
theorem updateAll_passes_none :
    (∀ source text rs, Reference.read source text = .ok rs → rs ≠ [] →
      Section.mayOpen text = true) ∧
    (∀ (w : Workspace) path rest text rs, w.vault.read path = .ok text →
      Reference.read path text = .ok rs → rs ≠ [] →
      (refreshMarked (path :: rest)).run.run w =
        (refresh path >>= fun x =>
          refreshMarked rest >>= fun es => pure (x.toList ++ es)).run.run w) ∧
    (∀ (w w' : Workspace) es, w.vault.IsSound → Gives updateAll w es w' →
      ∀ path ∈ w.vault.notes, ∀ text rs, w.vault.read path = .ok text →
        Reference.read path text = .ok rs → rs ≠ [] →
        ∃ e ∈ es, e.source = path ∧ e.references = rs.length) := by
  refine ⟨fun source text rs => Reference.mayOpen_of_read, ?_, ?_⟩
  · intro w path rest text rs hread hrs hne
    rw [run_refreshMarked_cons hread, if_pos (Reference.mayOpen_of_read hrs hne)]
  · intro w w' es hv h path hpath text rs hread hrs hne
    obtain ⟨w₁, hes⟩ := of_gives_updateAll h
    obtain ⟨pre, post, hnotes, hpre⟩ := List.eq_append_cons_of_mem hpath
    rw [hnotes, gives_refreshMarked_append] at hes
    obtain ⟨es₁, w₂, es₂, hbefore, hes, rfl⟩ := hes
    obtain ⟨p, b, hp, -⟩ := Vault.bytes_of_read hread
    have hread₂ : w₂.vault.read path = .ok text := by
      refine read_of_gives_refreshMarked hv ?_ hread hbefore
      intro other hother
      have hlisted : other ∈ w.vault.notes := by
        rw [hnotes]
        exact List.mem_append_left _ hother
      exact hv.absolute_ne_of_mem_notes hpath hlisted (fun he => hpre (he ▸ hother)) hp
    obtain ⟨text', x, w₃, es₃, hread', hx, -, rfl⟩ := gives_refreshMarked_cons.1 hes
    obtain rfl : text' = text := Except.ok.inj (hread'.symm.trans hread₂)
    rw [if_pos (Reference.mayOpen_of_read hrs hne)] at hx
    obtain ⟨e, m, v, rfl, he, -⟩ := gives_refresh hread₂ hx
    refine ⟨e, ?_, source_and_references_of_gives_expand he hrs⟩
    simp

end

attribute [local instance] Runtime.usual

/-- A vault with a script and two notes with sections, one of them behind a blank line that ends
    in a carriage return. -/
def twoNotes : Workspace :=
  { vault :=
      { root := [], excluded := [], history := [],
        disk := ⟨[([Text.of "t.py"], .file ((Utf8.encode? (Text.of
            "[[\"return\", [\"lit\", \"hi\"]]]")).getD [])),
          ([Text.of "a.md"], .file ((Utf8.encode? (Text.of "%% template: 't.py' %%")).getD [])),
          ([Text.of "b.md"], .file ((Utf8.encode? (Text.of
            " \r\n%%\r template: 't.py' %% \r\n%%%%")).getD []))]⟩ },
    indexed := false, policy := .marker, memory := .empty, known := .empty, store := none }

theorem updateAll_passes_none_twoNotes :
    ∃ es w' text rs, Gives updateAll twoNotes es w' ∧
      twoNotes.vault.read (Text.of "b.md") = .ok text ∧
      Reference.read (Text.of "b.md") text = .ok rs ∧ rs.length = 1 ∧
      Section.mayOpen text = true ∧
      ∃ e ∈ es, e.source = Text.of "b.md" ∧ e.references = 1 := by
  obtain ⟨hquick, -, hall⟩ := updateAll_passes_none
  have hv : twoNotes.vault.IsSound := ⟨by decide +kernel, rfl⟩
  have htext : twoNotes.vault.read (Text.of "b.md") =
      .ok (Text.of " \r\n%%\r template: 't.py' %% \r\n%%%%") :=
    Outcome.eq_ok_of_toOption (by decide +kernel)
  have hnotes : twoNotes.vault.notes = [Text.of "a.md", Text.of "b.md"] := by
    have hsorted : [Text.of "a.md", Text.of "b.md"].mergeSort Text.le =
        [Text.of "a.md", Text.of "b.md"] := List.mergeSort_of_pairwise (by decide +kernel)
    rw [← hsorted]
    exact congrArg (List.mergeSort · Text.le) (by decide +kernel)
  have hseq : updateAll.run.run twoNotes = (refreshMarked twoNotes.vault.notes >>= fun es =>
      save >>= fun _ => pure es).run.run twoNotes := rfl
  have hrun : (updateAll.run.run twoNotes).1.toOption.isSome = true := by
    rw [hseq, hnotes]
    decide +kernel
  have hlength : (Reference.read (Text.of "b.md")
      (Text.of " \r\n%%\r template: 't.py' %% \r\n%%%%")).toOption.map List.length = some 1 := by
    decide +kernel
  rcases h : updateAll.run.run twoNotes with ⟨f | es, w'⟩
  · rw [h] at hrun
    cases hrun
  · cases hread : Reference.read (Text.of "b.md")
        (Text.of " \r\n%%\r template: 't.py' %% \r\n%%%%") with
    | error f =>
      rw [hread] at hlength
      cases hlength
    | ok rs =>
      rw [hread] at hlength
      have hone : rs.length = 1 := Option.some.inj hlength
      have hne : rs ≠ [] := by
        rintro rfl
        cases hone
      obtain ⟨e, he, hsource, hcount⟩ := hall twoNotes w' es hv h (Text.of "b.md")
        (by simp [hnotes]) _ rs htext hread hne
      exact ⟨es, w', _, rs, h, htext, hread, hone, hquick _ _ rs hread hne, e, he, hsource,
        hcount.trans hone⟩

end Workspace

end TemplatedNotes
