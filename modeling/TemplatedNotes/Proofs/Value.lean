/-
  TemplatedNotes/Proofs/Value.lean
  ================================
  **Values, their parts and their entries.**

  A property of values passes from the parts of a value to the value (`Value.induction`).  A
  property of the values of a mapping is one of what its keys have (`Entries.of_get?_eq_some`), and
  after an assignment it is one of all values again if and only if it is one of the value assigned
  (`Entries.forall_set_iff`).

    * `Value.same_congr` — the kinds of mappings play no part in a comparison.
-/
import TemplatedNotes.Value.Basic

namespace TemplatedNotes

/-! ### Parts of values -/

/-- A property of values that passes from the parts of a value to the value. -/
theorem Value.induction {P : Value → Prop} (scalar : ∀ s, P (.scalar s))
    (list : ∀ items, (∀ v ∈ items, P v) → P (.list items))
    (mapping : ∀ kind es, (∀ e ∈ es, P e.2) → P (.mapping kind es)) (v : Value) : P v := by
  match v with
  | .scalar s => exact scalar s
  | .list items =>
    apply list
    intro v hv
    exact Value.induction scalar list mapping v
  | .mapping kind es =>
    apply mapping
    intro e he
    exact Value.induction scalar list mapping e.2
termination_by v
decreasing_by
  · have hlt := List.sizeOf_lt_of_mem hv
    simp only [Value.list.sizeOf_spec]
    omega
  · have hlt := List.sizeOf_lt_of_mem he
    obtain ⟨k, w⟩ := e
    simp only [Value.mapping.sizeOf_spec, Prod.mk.sizeOf_spec] at *
    omega

namespace Entries

variable {α β : Type}

theorem get?_map (g : α → β) (es : Entries α) (k : Scalar) :
    get? (es.map (fun e => (e.1, g e.2))) k = (get? es k).map g := by
  induction es with
  | nil => rfl
  | cons e rest ih =>
    simp only [get?, List.map_cons, List.find?_cons] at ih ⊢
    cases e.1.same k with
    | true => rfl
    | false => exact ih

theorem exists_of_get?_eq_some {es : Entries α} {k : Scalar} {v : α} (h : get? es k = some v) :
    ∃ e ∈ es, e.2 = v := by
  obtain ⟨e, he, rfl⟩ := Option.map_eq_some_iff.1 h
  exact ⟨e, List.mem_of_find?_eq_some he, rfl⟩

theorem of_get?_eq_some {es : Entries α} {P : α → Prop} (h : ∀ e ∈ es, P e.2) {k : Scalar} {v : α}
    (hv : get? es k = some v) : P v := by
  obtain ⟨e, he, rfl⟩ := exists_of_get?_eq_some hv
  exact h e he

/-- A property of all values of a mapping, after an assignment. -/
theorem forall_set_iff {P : α → Prop} {es : Entries α} {k : Scalar} {v : α}
    (h : ∀ e ∈ es, P e.2) : (∀ e ∈ es.set k v, P e.2) ↔ P v := by
  induction es with
  | nil => simp [set]
  | cons e rest ih =>
    obtain ⟨he, hrest⟩ := List.forall_mem_cons.1 h
    rw [set]
    split
    · simp only [List.forall_mem_cons]
      exact ⟨fun hset => hset.1, fun hv => ⟨hv, hrest⟩⟩
    · rw [List.forall_mem_cons, ih hrest]
      exact ⟨fun hset => hset.2, fun hv => ⟨he, hv⟩⟩

theorem forall_erase {P : α → Prop} {es : Entries α} {k : Scalar} (h : ∀ e ∈ es, P e.2) :
    ∀ e ∈ es.erase k, P e.2 :=
  fun e he => h e (List.mem_filter.1 he).1

end Entries

namespace Value

theorem plainItems_eq_map (vs : List Value) : plainItems vs = vs.map plain := by
  induction vs with
  | nil => rfl
  | cons v rest ih => rw [plainItems, ih, List.map_cons]

theorem plainEntries_eq_map (es : Entries Value) :
    plainEntries es = es.map (fun e => (e.1, plain e.2)) := by
  induction es with
  | nil => rfl
  | cons e rest ih => rw [plainEntries, ih, List.map_cons]

theorem map_eq_self {α : Type} {f : α → α} {xs : List α} (h : xs.map f = xs) :
    ∀ x ∈ xs, f x = x := by
  induction xs with
  | nil => simp
  | cons x rest ih =>
    obtain ⟨hx, hrest⟩ := List.cons.inj h
    exact List.forall_mem_cons.2 ⟨hx, ih hrest⟩

theorem plain_item {items : List Value} (h : (Value.list items).plain = .list items) :
    ∀ v ∈ items, v.plain = v := by
  rw [plain, plainItems_eq_map] at h
  exact map_eq_self (Value.list.inj h)

theorem plain_entry {kind : MappingKind} {es : Entries Value}
    (h : (Value.mapping kind es).plain = .mapping kind es) :
    kind = .plain ∧ ∀ e ∈ es, e.2.plain = e.2 := by
  rw [plain, plainEntries_eq_map] at h
  obtain ⟨hkind, hes⟩ := Value.mapping.inj h
  refine ⟨hkind.symm, ?_⟩
  intro e he
  exact congrArg Prod.snd (map_eq_self hes e he)

/-! ### Comparing values whatever the kinds of their mappings -/

theorem sameItems_plain {xs : List Value}
    (h : ∀ v ∈ xs, ∀ w : Value, v.plain.same w.plain = v.same w) (ys : List Value) :
    sameItems (plainItems xs) (plainItems ys) = sameItems xs ys := by
  induction xs generalizing ys with
  | nil => cases ys <;> rfl
  | cons x rest ih =>
    obtain ⟨hx, hrest⟩ := List.forall_mem_cons.1 h
    cases ys with
    | nil => rfl
    | cons y more => rw [plainItems, plainItems, sameItems, sameItems, hx, ih hrest]

theorem sameEntries_plain {es : Entries Value}
    (h : ∀ e ∈ es, ∀ w : Value, e.2.plain.same w.plain = e.2.same w) (fs : Entries Value) :
    sameEntries (plainEntries es) (plainEntries fs) = sameEntries es fs := by
  induction es with
  | nil => rfl
  | cons e rest ih =>
    obtain ⟨he, hrest⟩ := List.forall_mem_cons.1 h
    rw [plainEntries, sameEntries, sameEntries, ih hrest, plainEntries_eq_map fs,
      Entries.get?_map]
    cases Entries.get? fs e.1 with
    | none => rfl
    | some w => simp only [Option.map_some, he]

theorem same_plain (v w : Value) : v.plain.same w.plain = v.same w := by
  induction v using Value.induction generalizing w with
  | scalar s => cases w <;> rfl
  | list items ih =>
    cases w with
    | list ys => exact sameItems_plain ih ys
    | scalar s => rfl
    | mapping kind fs => rfl
  | mapping kind es ih =>
    cases w with
    | mapping kind' fs =>
      rw [plain, plain, same, same, sameEntries_plain ih fs, plainEntries_eq_map,
        plainEntries_eq_map, List.length_map, List.length_map]
    | scalar s => rfl
    | list ys => rfl

/-- Values that differ in the kinds of their mappings alone are compared alike. -/
theorem same_congr {v w : Value} (h : v.plain = w.plain) (x : Value) :
    v.same x = w.same x ∧ x.same v = x.same w := by
  constructor
  · rw [← same_plain v, h, same_plain]
  · rw [← same_plain x, h, same_plain]

end Value

end TemplatedNotes
