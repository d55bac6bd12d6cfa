/-
  TemplatedNotes/Proofs/Keeps.lean
  ================================
  **What no command of a session changes.**

  A command writes notes, runs scripts, makes single changes to the known paths and saves them.  A
  property that none of these steps breaks (`Stable`) is kept by every command, whether it works or
  fails.
-/
import TemplatedNotes.Proofs.KnownPaths

namespace TemplatedNotes.Workspace

open TemplatedNotes.Action

/-- No step of a command breaks the property. -/
structure Stable (P : Workspace → Prop) : Prop where
  vault : ∀ w v, P w → P { w with vault := v }
  memory : ∀ w m, P w → P { w with memory := m }
  change : ∀ w c, P w → P { w with known := w.known.change c }

/-- The file of the known paths stays the same. -/
theorem stable_store (store : Option Path) : Stable (·.store = store) :=
  ⟨fun _ _ h => h, fun _ _ h => h, fun _ _ h => h⟩

theorem keeps_template {P : Workspace → Prop} (source link : Text) :
    Keeps (template source link) P := keeps_bind keeps_get fun _ => keeps_lift _

section

variable {P : Workspace → Prop} (hP : Stable P)

include hP

theorem Stable.keeps_onVault {α : Type} (x : Action Vault α) : Keeps (onVault x) P :=
  fun w => hP.vault w (x.run.run w.vault).2

theorem Stable.keeps_onMemory {α : Type} (x : Script.Run α) : Keeps (onMemory x) P :=
  fun w => hP.memory w (x.run.run w.memory).2

theorem Stable.keeps_onKnown (c : KnownPaths.Change) : Keeps (onKnown (·.change c)) P :=
  keeps_modifyThe fun w => hP.change w c

/-- Recording an expansion is a sequence of single changes. -/
theorem Stable.keeps_recordPaths (note : Text) (hadReferences : Bool) (used removed : List Text) :
    Keeps (onKnown (·.recordPaths note hadReferences used removed)) P := by
  refine keeps_modifyThe fun w hw => ?_
  dsimp only
  rw [KnownPaths.recordPaths_eq_foldl]
  induction KnownPaths.changes note hadReferences used removed generalizing w with
  | nil => exact hw
  | cons c rest ih => exact ih _ (hP.change w c hw)

theorem Stable.keeps_save : Keeps save P := by
  intro w hw
  rw [run_save]
  split
  · exact hw
  · exact hP.vault w _ hw

variable [Runtime]

theorem Stable.keeps_invoke (script : Template) (source : Text) (arguments : Value) :
    Keeps (invoke script source arguments) P :=
  keeps_bind keeps_get fun _ => hP.keeps_onMemory _

theorem Stable.keeps_expand (text source : Text) : Keeps (expand text source) P :=
  keeps_bind keeps_get fun _ => hP.keeps_onMemory _

/-! ### Updates and insertions -/

theorem Stable.keeps_refresh (path : Text) : Keeps (refresh path) P := by
  refine keeps_bind keeps_get fun w => keeps_bind (keeps_lift _) fun there => ?_
  cases there with
  | false => exact keeps_bind (hP.keeps_onKnown (.removeNote path)) fun _ => keeps_pure _
  | true =>
    refine keeps_bind (keeps_lift _) fun text => keeps_bind (hP.keeps_expand text path) fun e =>
      keeps_bind (hP.keeps_recordPaths e.source e.hadReferences e.used e.removed) fun _ => ?_
    cases e.changed with
    | false => exact keeps_pure _
    | true => exact keeps_bind (hP.keeps_onVault _) fun _ => keeps_pure _

theorem Stable.keeps_refreshEach (paths : List Text) : Keeps (refreshEach paths) P := by
  induction paths with
  | nil => exact keeps_pure _
  | cons path rest ih =>
    exact keeps_bind (hP.keeps_refresh path) fun _ => keeps_bind ih fun _ => keeps_pure _

theorem Stable.keeps_refreshMarked (paths : List Text) : Keeps (refreshMarked paths) P := by
  induction paths with
  | nil => exact keeps_pure _
  | cons path rest ih =>
    refine keeps_bind keeps_get fun w => keeps_bind (keeps_lift _) fun text => ?_
    split
    · exact keeps_bind (hP.keeps_refresh path) fun _ => keeps_bind ih fun _ => keeps_pure _
    · exact keeps_bind (keeps_pure _) fun _ => keeps_bind ih fun _ => keeps_pure _

theorem Stable.keeps_update (path : Text) : Keeps (update path) P :=
  keeps_bind (hP.keeps_refresh path) fun _ => keeps_bind hP.keeps_save fun _ => keeps_pure _

theorem Stable.keeps_updateAll : Keeps updateAll P :=
  keeps_bind keeps_get fun w => keeps_bind (hP.keeps_refreshMarked w.vault.notes) fun _ =>
    keeps_bind hP.keeps_save fun _ => keeps_pure _

theorem Stable.keeps_updateKnown : Keeps updateKnown P :=
  keeps_bind keeps_get fun w => keeps_bind (hP.keeps_refreshEach w.known.notes) fun _ =>
    keeps_bind hP.keeps_save fun _ => keeps_pure _

theorem Stable.keeps_insert (path : Text) (line : Int) (link : Text) :
    Keeps (insert path line link) P := by
  refine keeps_bind (keeps_template path link) fun script => ?_
  refine keeps_bind (hP.keeps_invoke script path _) fun i => keeps_bind keeps_get fun w => ?_
  refine keeps_bind (keeps_lift _) fun text => keeps_bind (hP.keeps_onVault _) fun _ => ?_
  refine keeps_bind (hP.keeps_onKnown (.addNote path)) fun _ => keeps_bind ?_ fun _ => ?_
  · cases script.found with
    | false => exact hP.keeps_onKnown (.removeTemplate link)
    | true => exact hP.keeps_onKnown (.addTemplate link)
  · exact keeps_bind hP.keeps_save fun _ => keeps_pure _

end

end TemplatedNotes.Workspace
