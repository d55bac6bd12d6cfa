/-
  TemplatedNotes/Proofs/Script/Missing.lean
  =========================================
  **What a missing script does.**

  A missing script fails with its link as soon as it is run.  It makes the cells of its arguments,
  which never fails (`keeps_storeEntries`), and touches nothing that is kept between runs.  Its
  marker is one line that opens no section, because what it says is no literal.

    * `gives_invoke_missing` — the run of a missing script;
    * `opening?_missingMarker` — its marker opens no section, for any link.
-/
import TemplatedNotes.Proofs.Literal.Parser
import TemplatedNotes.Proofs.Section.Block
import TemplatedNotes.Script.Sandbox
import TemplatedNotes.Section.Reference

namespace TemplatedNotes.Script

open TemplatedNotes.Action

/-! ### Storing arguments -/

/-- A run that never fails and leaves the attributes given so far as they are. -/
def Run.Keeps {α : Type} (x : Run α) : Prop :=
  ∀ m, ∃ a m', Gives x m a m' ∧ m'.attributes = m.attributes

namespace Run

variable {α β : Type}

theorem keeps_pure (a : α) : Keeps (pure a) := fun m => ⟨a, m, gives_pure.2 ⟨rfl, rfl⟩, rfl⟩

theorem Keeps.bind {x : Run α} {k : α → Run β} (hx : Keeps x) (hk : ∀ a, Keeps (k a)) :
    Keeps (x >>= k) := by
  intro m
  obtain ⟨a, m₁, ha, h₁⟩ := hx m
  obtain ⟨b, m₂, hb, h₂⟩ := hk a m₁
  exact ⟨b, m₂, gives_bind.2 ⟨a, m₁, ha, hb⟩, h₂.trans h₁⟩

theorem keeps_alloc (c : Cell) : Keeps (alloc c) := fun _ => ⟨_, _, rfl, rfl⟩

theorem keeps_make (c : Cell) : Keeps (make c) := (keeps_alloc c).bind (fun _ => keeps_pure _)

mutual

theorem keeps_store : ∀ v, Keeps (store v)
  | .scalar s => by
    rw [store]
    exact keeps_pure _
  | .list items => by
    rw [store]
    exact (keeps_storeItems items).bind (fun _ => keeps_make _)
  | .mapping kind es => by
    rw [store]
    exact (keeps_storeEntries es).bind (fun _ => keeps_make _)

theorem keeps_storeItems : ∀ vs, Keeps (storeItems vs)
  | [] => by
    rw [storeItems]
    exact keeps_pure _
  | v :: vs => by
    rw [storeItems]
    exact (keeps_store v).bind (fun _ => (keeps_storeItems vs).bind (fun _ => keeps_pure _))

theorem keeps_storeEntries : ∀ es, Keeps (storeEntries es)
  | [] => by
    rw [storeEntries]
    exact keeps_pure _
  | (k, v) :: rest => by
    rw [storeEntries]
    exact (keeps_store v).bind (fun _ => (keeps_storeEntries rest).bind (fun _ => keeps_pure _))

end

/-! ### The ends of a run -/

theorem gives_settled {x : Run α} {m m' : Memory} {a : α} :
    Gives (settled x) m a m' ↔ ∃ m₁, Gives x m a m₁ ∧ m' = m₁.settle := by
  have hrun : (settled x).run.run m = ((x.run.run m).1, (x.run.run m).2.settle) := rfl
  constructor
  · intro h
    rw [Gives, hrun] at h
    injection h with hr hm
    exact ⟨(x.run.run m).2, Prod.ext hr rfl, hm.symm⟩
  · rintro ⟨m₁, h, rfl⟩
    have hx : x.run.run m = (.ok a, m₁) := h
    rw [Gives, hrun, hx]

theorem gives_contain_of_fails {script : Text} {x : Run (Option Text)} {m m' : Memory}
    {f : Failure} (h : Fails x m f m') (hf : f.isContained = true) :
    Gives (contain script x) m ⟨script, .error f⟩ m' := by
  have hx : x.run.run m = (.error f, m') := h
  rw [Gives, contain, ExceptT.run_mk, StateT.run_bind, hx]
  show (if f.isContained then _ else _, m') = _
  rw [if_pos hf]

end Run

/-- A memory in which nothing has been given an attribute settles to the one before any run. -/
theorem Memory.settle_of_attributes {m : Memory} (h : m.attributes = []) : m.settle = empty := by
  simp [settle, h]

theorem Memory.attributes_settle (m : Memory) : m.settle.attributes = m.attributes := by
  unfold settle
  split
  · next h => exact (List.isEmpty_iff.1 h).symm
  · rfl

/-- A run that leaves no attributes leaves nothing in the memory. -/
theorem Host.eq_empty_of_gives_invoke [Runtime] {w : Host} {t : Template} {source : Text}
    {arguments : Value} {m m' : Memory} {i : Invocation}
    (h : Gives (w.invoke t source arguments) m i m') (hm : m'.attributes = []) :
    m' = Memory.empty := by
  obtain ⟨m₁, -, rfl⟩ := Run.gives_settled.1 h
  rw [Memory.attributes_settle] at hm
  exact Memory.settle_of_attributes hm

/-! ### The run of a missing script -/

theorem Host.gives_invoke_missing_from [Runtime] (w : Host) {t : Template} (ht : t.found = false)
    (source : Text) (arguments : Value) (m : Memory) :
    ∃ m₁ : Memory, m₁.attributes = m.attributes ∧ Gives (w.invoke t source arguments) m
      ⟨t.path, .error (.templateNotFound t.path)⟩ m₁.settle := by
  obtain ⟨es, m₁, hes, hm⟩ := Run.keeps_storeEntries (Arguments.entriesOf arguments) m
  refine ⟨m₁, hm, Run.gives_settled.2 ⟨m₁, gives_bind.2 ⟨es, m₁, hes, ?_⟩, rfl⟩⟩
  refine Run.gives_contain_of_fails (fails_bind.2 (Or.inl (fails_lift.2 ⟨?_, rfl⟩))) rfl
  rw [Template.program, ht]
  rfl

/-- **The run of a missing script** fails with the link and leaves nothing behind. -/
theorem Host.gives_invoke_missing [Runtime] (w : Host) {t : Template} (ht : t.found = false)
    (source : Text)
    (arguments : Value) :
    Gives (w.invoke t source arguments) Memory.empty
      ⟨t.path, .error (.templateNotFound t.path)⟩ Memory.empty := by
  obtain ⟨m₁, hm, h⟩ := w.gives_invoke_missing_from ht source arguments Memory.empty
  rwa [Memory.settle_of_attributes hm] at h

/-! ### The marker of a missing script -/

/-- The line that stands for a missing script's output. -/
def missingMarker (link : Text) : Text :=
  Section.failureMarker (Failure.templateNotFound link).kindName
    (Failure.templateNotFound link).message

theorem rendered_missing (script link : Text) :
    Invocation.rendered ⟨script, .error (.templateNotFound link)⟩ = some (missingMarker link) := rfl

theorem isKindName_templateNotFound (link : Text) :
    Section.IsKindName (Failure.templateNotFound link).kindName := by
  show Section.IsKindName (Text.of "TemplateNotFoundError")
  exact ⟨⟨by decide, by decide⟩, by decide⟩

/-- What the marker of a missing script says: a key and the bare word `Template`, then more. -/
theorem markerBody_missing (link : Text) :
    ∃ t, t ≠ [] ∧ (∀ c, t.getLast? = some c → c.isBlank = false) ∧
      Section.markerBody (Failure.templateNotFound link).kindName
          (Failure.templateNotFound link).message =
        Text.of "TemplateNotFoundError" ++ .scalar ':' :: .scalar ' ' ::
          (Text.of "Template" ++ .scalar ' ' :: t) := by
  have hmessage : (Failure.templateNotFound link).message =
      Text.of "Template" ++ .scalar ' ' :: (Text.of "not" ++ .scalar ' ' ::
        (Text.of "found: " ++ link)) := rfl
  have hword : ∀ w : Text, w = Text.of "Template" ∨ w = Text.of "not" → Text.IsWord w := by
    rintro w (rfl | rfl)
    · exact ⟨by decide, by decide⟩
    · exact ⟨by decide, by decide⟩
  have hwords : Text.words (Text.of "not" ++ .scalar ' ' :: (Text.of "found: " ++ link)) =
      Text.of "not" :: Text.words (Text.of "found: " ++ link) :=
    Text.words_append (hword _ (Or.inr rfl)) (by decide) _
  have hshown : Text.squeeze (Failure.templateNotFound link).message =
      Text.of "Template" ++ .scalar ' ' ::
        Text.squeeze (Text.of "not" ++ .scalar ' ' :: (Text.of "found: " ++ link)) := by
    rw [hmessage]
    exact Text.squeeze_append (hword _ (Or.inl rfl)) (by decide) (by rw [hwords]; simp)
  refine ⟨Text.squeeze (Text.of "not" ++ .scalar ' ' :: (Text.of "found: " ++ link)), ?_,
    fun c hc => Text.isBlank_of_getLast?_squeeze hc, ?_⟩
  · rw [Text.squeeze, hwords]
    cases Text.words (Text.of "found: " ++ link) <;> simp [Text.join, Text.of]
  · rw [Section.markerBody, hshown]
    simp [Text.of, Failure.kindName]

/-- **The marker of a missing script opens no section**, whatever the link. -/
theorem opening?_missingMarker [Runtime] (link : Text) :
    Reference.opening? (missingMarker link) = .ok none := by
  obtain ⟨t, hne, hlast, hbody⟩ := markerBody_missing link
  have hidentifier : ∀ w : Text, w = Text.of "TemplateNotFoundError" ∨ w = Text.of "Template" →
      Literal.IsIdentifier w := by
    rintro w (rfl | rfl)
    · exact ⟨by decide, by decide⟩
    · exact ⟨by decide, by decide⟩
  obtain ⟨f, hf⟩ := Literal.parse_bareWord (hidentifier _ (Or.inl rfl))
    (hidentifier _ (Or.inr rfl)) (by decide) hne hlast
  have hevaluate := Literal.evaluate_of_parse_eq_error hf rfl
  rw [Reference.opening?, missingMarker,
    Section.payload?_failureMarker (isKindName_templateNotFound link), hbody]
  show (Literal.evaluate _ >>= _) = _
  rw [hevaluate]
  rfl

end TemplatedNotes.Script
