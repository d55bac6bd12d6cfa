/-
  TemplatedNotes/Proofs/Update.lean
  =================================
  **Commands whose write fails.**

  An update reads a note, expands it and writes the new text back; an insertion writes the note
  with a new section in it.  A note that was read can be opened, so the only write that fails is
  one of a text with a surrogate, and it leaves the note empty (`failed_write`).  Such a text
  comes about: a literal may spell a surrogate and a script may render it (`update_empties_note`).
-/
import TemplatedNotes.Proofs.Expansion.Walk
import TemplatedNotes.Proofs.Vault.Write
import TemplatedNotes.Runtime.Usual
import TemplatedNotes.Update

namespace TemplatedNotes.Workspace

open TemplatedNotes.Action

variable {w : Workspace} {path : Text} {f : Failure} {v' : Vault}

/-! ### Steps of a command -/

theorem gives_onMemory {α : Type} {x : Script.Run α} {a : α} {m : Script.Memory}
    (h : Gives x w.memory a m) : Gives (onMemory x) w a { w with memory := m } := by
  have hrun : (onMemory x).run.run w =
      ((x.run.run w.memory).1, { w with memory := (x.run.run w.memory).2 }) := rfl
  have hx : x.run.run w.memory = (.ok a, m) := h
  rw [Gives, hrun, hx]

theorem fails_onVault {α : Type} {x : Action Vault α} (h : Fails x w.vault f v') :
    Fails (onVault x) w f { w with vault := v' } := by
  have hrun : (onVault x).run.run w =
      ((x.run.run w.vault).1, { w with vault := (x.run.run w.vault).2 }) := rfl
  have hx : x.run.run w.vault = (.error f, v') := h
  rw [Fails, hrun, hx]

section

variable [Runtime]

theorem gives_expand {text : Text} {e : Expansion} {m : Script.Memory}
    (h : Gives (w.host.runner.expand w.policy text path) w.memory e m) :
    Gives (expand text path) w e { w with memory := m } :=
  gives_bind.2 ⟨w, w, gives_get.2 ⟨rfl, rfl⟩, gives_onMemory h⟩

theorem gives_invoke {script : Template} {arguments : Value} {i : Invocation} {m : Script.Memory}
    (h : Gives (w.host.invoke script path arguments) w.memory i m) :
    Gives (invoke script path arguments) w i { w with memory := m } :=
  gives_bind.2 ⟨w, w, gives_get.2 ⟨rfl, rfl⟩, gives_onMemory h⟩

omit [Runtime] in
theorem gives_template {link : Text} {script : Template}
    (h : w.vault.template path link = .ok script) : Gives (template path link) w script w :=
  gives_bind.2 ⟨w, w, gives_get.2 ⟨rfl, rfl⟩, gives_lift.2 ⟨h, rfl⟩⟩

/-! ### Failed writes -/

/-- An update fails with its write, when it has run the scripts and recorded the note. -/
theorem fails_update {text : Text} {e : Expansion} {m : Script.Memory}
    (hread : w.vault.read path = .ok text)
    (hexpand : Gives (w.host.runner.expand w.policy text path) w.memory e m)
    (hchanged : e.changed = true) (hwrite : Fails (Vault.modify path e.text) w.vault f v') :
    Fails (update path) w f { w with vault := v', memory := m, known := w.known.record e } := by
  refine fails_bind.2 (Or.inl (fails_bind.2 (Or.inr ⟨w, w, gives_get.2 ⟨rfl, rfl⟩, ?_⟩)))
  refine fails_bind.2 (Or.inr ⟨true, w, gives_lift.2 ⟨Vault.exists?_of_read hread, rfl⟩, ?_⟩)
  refine fails_bind.2 (Or.inr ⟨text, w, gives_lift.2 ⟨hread, rfl⟩, ?_⟩)
  refine fails_bind.2 (Or.inr ⟨e, _, gives_expand hexpand, ?_⟩)
  refine fails_bind.2 (Or.inr ⟨⟨⟩, _, gives_modifyThe.2 rfl, ?_⟩)
  rw [hchanged]
  exact fails_bind.2 (Or.inl (fails_onVault hwrite))

theorem fails_insert {link text : Text} {line : Int} {script : Template} {i : Invocation}
    {m : Script.Memory} (htemplate : w.vault.template path link = .ok script)
    (hinvoke : Gives (w.host.invoke script path
      (.mapping .arguments [(.text Arguments.templateKey, .text link)])) w.memory i m)
    (hread : w.vault.read path = .ok text)
    (hwrite : Fails (Vault.modify path (Line.unsplit (insertAt (Line.split text)
      (nearestLine (Line.split text).length line) (Section.block link i.rendered)))) w.vault f v') :
    Fails (insert path line link) w f { w with vault := v', memory := m } := by
  refine fails_bind.2 (Or.inr ⟨script, w, gives_template htemplate, ?_⟩)
  refine fails_bind.2 (Or.inr ⟨i, _, gives_invoke hinvoke, ?_⟩)
  refine fails_bind.2 (Or.inr ⟨_, _, gives_get.2 ⟨rfl, rfl⟩, ?_⟩)
  refine fails_bind.2 (Or.inr ⟨text, _, gives_lift.2 ⟨hread, rfl⟩, ?_⟩)
  exact fails_bind.2 (Or.inl (fails_onVault hwrite))

/-- A note that an expansion changes has sections, and so has a text. -/
theorem text_ne_nil_of_changed {text : Text} {e : Expansion} {m : Script.Memory}
    (hexpand : Gives (w.host.runner.expand w.policy text path) w.memory e m)
    (hchanged : e.changed = true) : text ≠ [] := by
  rintro rfl
  obtain ⟨ms, hms, h⟩ := Runner.gives_expand hexpand
  have hplain : Reference.marksFrom [] (Line.split []) = .ok [.plain] := rfl
  obtain rfl := Except.ok.inj (hplain.symm.trans hms)
  rcases h with ⟨-, rfl, -⟩ | ⟨hne, -⟩
  · cases hchanged
  · exact hne rfl

/-- **Failed writes.**  A write that fails keeps the bytes of the note, unless the note could be
    opened, was not empty, and is to be given a text with a surrogate; in any case no other file
    changes.  An update or an insertion whose write fails has read the note and could open it, so
    its new text holds a surrogate and the note is empty after it. -/
theorem failed_write (w : Workspace) (path : Text) :
    (∀ content f v', Fails (Vault.modify path content) w.vault f v' →
      (∀ g, w.vault.absolute path = .error g → v' = w.vault) ∧
      ∀ p, w.vault.absolute path = .ok p →
        (v'.disk.bytes p = w.vault.disk.bytes p ↔
          ¬ (w.vault.disk.openable p = .ok () ∧ Utf8.encode? content = none ∧
            w.vault.disk.bytes p ≠ .ok [])) ∧
        ∀ q ≠ p, ∀ b, v'.disk.bytes q = .ok b ↔ w.vault.disk.bytes q = .ok b) ∧
    (∀ text e m f v', w.vault.read path = .ok text →
      Gives (w.host.runner.expand w.policy text path) w.memory e m → e.changed = true →
      Fails (Vault.modify path e.text) w.vault f v' →
      ∃ w', Fails (update path) w f w' ∧ Utf8.encode? e.text = none ∧ text ≠ [] ∧
        w'.vault.read path = .ok []) ∧
    (∀ line link script i m text f v', w.vault.template path link = .ok script →
      Gives (w.host.invoke script path
        (.mapping .arguments [(.text Arguments.templateKey, .text link)])) w.memory i m →
      w.vault.read path = .ok text →
      Fails (Vault.modify path (Line.unsplit (insertAt (Line.split text)
        (nearestLine (Line.split text).length line) (Section.block link i.rendered))))
          w.vault f v' →
      ∃ w', Fails (insert path line link) w f w' ∧
        Utf8.encode? (Line.unsplit (insertAt (Line.split text)
          (nearestLine (Line.split text).length line) (Section.block link i.rendered))) = none ∧
        w'.vault.read path = .ok []) := by
  refine ⟨fun content f v' h => ⟨fun g hg => ?_, fun p hp => ⟨Vault.bytes_of_fails_modify h hp,
    fun q hq b => Vault.bytes_of_fails_modify_of_ne h hp hq b⟩⟩, ?_, ?_⟩
  · rcases Vault.fails_modify_iff.1 h with ⟨-, hv⟩ | ⟨p, hp, -⟩
    · exact hv
    · rw [hg] at hp
      cases hp
  · intro text e m f v' hread hexpand hchanged hwrite
    obtain ⟨-, hencode, hempty⟩ := Vault.read_of_fails_modify hwrite hread
    exact ⟨_, fails_update hread hexpand hchanged hwrite, hencode,
      text_ne_nil_of_changed hexpand hchanged, hempty⟩
  · intro line link script i m text f v' htemplate hinvoke hread hwrite
    obtain ⟨-, hencode, hempty⟩ := Vault.read_of_fails_modify hwrite hread
    exact ⟨_, fails_insert htemplate hinvoke hread hwrite, hencode, hempty⟩

end

attribute [local instance] Runtime.usual

/-- A vault with a script that renders an argument and a note that spells a surrogate in it. -/
def surrogateVault : Workspace :=
  { vault :=
      { root := [], excluded := [], history := [],
        disk := ⟨[([Text.of "t.py"], .file ((Utf8.encode? (Text.of
            "[[\"return\", [\"attr\", [\"input\"], \"x\"]]]")).getD [])),
          ([Text.of "n.md"], .file ((Utf8.encode? (Text.of
            "%% template: 't.py', x: '\\ud800' %%")).getD []))]⟩ },
    indexed := false, policy := .marker, memory := .empty, known := .empty, store := none }

theorem failed_write_surrogate :
    ∃ f v' p, Fails (Vault.modify (Text.of "n.md") [.surrogate 0]) surrogateVault.vault f v' ∧
      surrogateVault.vault.absolute (Text.of "n.md") = .ok p ∧
      v'.disk.bytes p ≠ surrogateVault.vault.disk.bytes p := by
  have hp : surrogateVault.vault.absolute (Text.of "n.md") = .ok [Text.of "n.md"] :=
    Outcome.eq_ok_of_toOption (by decide +kernel)
  have hopen : surrogateVault.vault.disk.openable [Text.of "n.md"] = .ok () :=
    Outcome.eq_ok_of_toOption (by decide +kernel)
  have hbytes : (surrogateVault.vault.disk.bytes [Text.of "n.md"]).toOption ≠ some [] := by
    decide +kernel
  have hfails : Fails (Vault.modify (Text.of "n.md") [.surrogate 0]) surrogateVault.vault
      (.unencodable [.surrogate 0]) { surrogateVault.vault with
        disk := surrogateVault.vault.disk.put [Text.of "n.md"] (.file []) } :=
    Vault.fails_modify_iff.2 (Or.inr ⟨_, hp, Or.inr ⟨hopen, rfl, rfl, rfl⟩⟩)
  obtain ⟨-, hkept⟩ := (failed_write surrogateVault (Text.of "n.md")).1 _ _ _ hfails
  refine ⟨_, _, _, hfails, hp, fun heq => (hkept _ hp).1.1 heq ⟨hopen, rfl, fun hb => hbytes ?_⟩⟩
  rw [hb]
  rfl

/-- **An update empties a note**: its script renders the surrogate that the note spells. -/
theorem update_empties_note :
    ∃ f w', surrogateVault.vault.read (Text.of "n.md") =
        .ok (Text.of "%% template: 't.py', x: '\\ud800' %%") ∧
      Fails (update (Text.of "n.md")) surrogateVault f w' ∧
      w'.vault.read (Text.of "n.md") = .ok [] := by
  have hrun : (match (update (Text.of "n.md")).run.run surrogateVault with
      | (.error _, w') => (w'.vault.read (Text.of "n.md")).toOption
      | (.ok _, _) => none) = some [] := by
    decide +kernel
  rcases h : (update (Text.of "n.md")).run.run surrogateVault with ⟨f | _, w'⟩
  · rw [h] at hrun
    exact ⟨f, w', Outcome.eq_ok_of_toOption (by decide +kernel), h,
      Outcome.eq_ok_of_toOption hrun⟩
  · rw [h] at hrun
    cases hrun

end TemplatedNotes.Workspace
