/-
  TemplatedNotes/Proofs/Arguments/Wrapped.lean
  ============================================
  **Argument objects stand for the literals that they are made from.**

  Wrapping a value changes the kind of its mappings and nothing else: the keys, their order and all
  comparisons stay.  A value is wrapped (`IsWrapped`) when no mapping in it is plain.  In a wrapped
  value every item with a key that is not reserved is an attribute too, so a path of items may be
  spelled with attributes in any of its steps (`Respelled`) and still leads to the same part.

    * `ofEntries_reads_literal` — the argument object of a literal equals the literal, is stable
      under wrapping, and is reached both ways.
-/
import TemplatedNotes.Arguments
import TemplatedNotes.Proofs.Action
import TemplatedNotes.Proofs.Value

namespace TemplatedNotes.Arguments

open Value

/-! ### Wrapping -/

theorem wrapItems_eq_map (vs : List Value) : wrapItems vs = vs.map wrap := by
  induction vs with
  | nil => rfl
  | cons v rest ih => rw [wrapItems, ih, List.map_cons]

theorem wrapEntries_eq_map (es : Entries Value) :
    wrapEntries es = es.map (fun e => (e.1, wrap e.2)) := by
  induction es with
  | nil => rfl
  | cons e rest ih => rw [wrapEntries, ih, List.map_cons]

theorem plain_wrap (v : Value) : (wrap v).plain = v.plain := by
  induction v using Value.induction with
  | scalar s => rfl
  | list items ih =>
    rw [wrap, plain, plain, plainItems_eq_map, plainItems_eq_map, wrapItems_eq_map, List.map_map]
    exact congrArg Value.list (List.map_congr_left ih)
  | mapping kind es ih =>
    cases kind with
    | arguments => rfl
    | plain =>
      rw [wrap, plain, plain, plainEntries_eq_map, plainEntries_eq_map, wrapEntries_eq_map,
        List.map_map]
      apply congrArg
      apply List.map_congr_left
      intro e he
      simp [ih e he]

/-- A value without plain mappings. -/
inductive IsWrapped : Value → Prop where
  | scalar (s : Scalar) : IsWrapped (.scalar s)
  | list {items : List Value} (h : ∀ v ∈ items, IsWrapped v) : IsWrapped (.list items)
  | arguments {es : Entries Value} (h : ∀ e ∈ es, IsWrapped e.2) :
      IsWrapped (.mapping .arguments es)

theorem IsWrapped.item {items : List Value} (h : IsWrapped (.list items)) :
    ∀ v ∈ items, IsWrapped v := by
  cases h
  assumption

theorem IsWrapped.entry {kind : MappingKind} {es : Entries Value}
    (h : IsWrapped (.mapping kind es)) : kind = .arguments ∧ ∀ e ∈ es, IsWrapped e.2 := by
  cases h
  exact ⟨rfl, by assumption⟩

/-- Wrapping reaches every mapping of a value whose mappings are all plain. -/
theorem isWrapped_wrap {v : Value} (h : v.plain = v) : IsWrapped (wrap v) := by
  induction v using Value.induction with
  | scalar s => exact .scalar s
  | list items ih =>
    rw [wrap, wrapItems_eq_map]
    apply IsWrapped.list
    intro w hw
    obtain ⟨v, hv, rfl⟩ := List.mem_map.1 hw
    exact ih v hv (plain_item h v hv)
  | mapping kind es ih =>
    obtain ⟨rfl, hes⟩ := plain_entry h
    rw [wrap, wrapEntries_eq_map]
    apply IsWrapped.arguments
    intro f hf
    obtain ⟨e, he, rfl⟩ := List.mem_map.1 hf
    exact ih e he (hes e he)

theorem wrap_of_isWrapped {v : Value} (h : IsWrapped v) : wrap v = v := by
  induction h with
  | scalar s => rfl
  | list h ih =>
    rw [wrap, wrapItems_eq_map, List.map_congr_left ih, List.map_id']
  | arguments h ih => rfl

theorem wrapEntries_of_isWrapped {es : Entries Value} (h : ∀ e ∈ es, IsWrapped e.2) :
    wrapEntries es = es := by
  have hself : ∀ e ∈ es, (e.1, wrap e.2) = e := by
    intro e he
    rw [wrap_of_isWrapped (h e he)]
  rw [wrapEntries_eq_map, List.map_congr_left hself, List.map_id']

/-! ### Items -/

theorem lt_of_place {n length : Nat} {i : Int} {outside : Failure}
    (h : place length i outside = .ok n) : n < length := by
  unfold place at h
  split at h
  · cases h
  · split at h
    · next m hm =>
      cases h
      simp only [place?, Option.ite_none_right_eq_some, Option.some.injEq] at hm
      omega
    · cases h

theorem lt_of_listPlace {n length : Nat} {k : Value} (h : listPlace length k = .ok n) :
    n < length := by
  unfold listPlace at h
  split at h
  · split at h
    · exact lt_of_place h
    · cases h
  · cases h

/-- What the items of a value are: of a mapping its values, of a list its elements, and of a text
    or bytes its characters or numbers, which have no parts. -/
inductive IsItem : Value → Value → Value → Prop where
  | entry {kind : MappingKind} {es : Entries Value} {s : Scalar} {w : Value}
      (h : Entries.get? es s = some w) : IsItem (.mapping kind es) (.scalar s) w
  | element {items : List Value} {k : Value} {n : Nat} (h : listPlace items.length k = .ok n)
      (hn : n < items.length) : IsItem (.list items) k items[n]
  | piece {s : Scalar} {k : Value} (t : Scalar) : IsItem (.scalar s) k (.scalar t)

section Items

variable {v k : Value} {f : Found}

theorem isItem_of_item (h : item (.value v) k = .ok f) : ∃ w, f = .value w ∧ IsItem v k w := by
  cases v with
  | mapping kind es =>
    obtain ⟨s, hs, hread⟩ := Outcome.bind_eq_ok.1 h
    cases k with
    | scalar key =>
      cases hs
      split at hread
      · next w hw =>
        cases hread
        exact ⟨w, rfl, .entry hw⟩
      · cases hread
    | list ks => cases hs
    | mapping kind' ks => cases hs
  | list items =>
    obtain ⟨n, hn, h⟩ := Outcome.bind_eq_ok.1 h
    cases h
    have hlt := lt_of_listPlace hn
    rw [List.getElem?_eq_getElem hlt, Option.getD_some]
    exact ⟨_, rfl, .element hn hlt⟩
  | scalar s =>
    cases s with
    | text t =>
      obtain ⟨c, -, rfl⟩ := Outcome.map_eq_ok.1 h
      exact ⟨_, rfl, .piece _⟩
    | bytes b =>
      obtain ⟨n, -, rfl⟩ := Outcome.map_eq_ok.1 h
      exact ⟨_, rfl, .piece _⟩
    | _ => cases h

theorem item_entry {kind : MappingKind} {es : Entries Value} {s : Scalar} {w : Value}
    (h : Entries.get? es s = some w) :
    item (.value (.mapping kind es)) (.scalar s) = .ok (.value w) := by
  apply Outcome.bind_eq_ok.2
  refine ⟨s, rfl, ?_⟩
  simp only [h]
  rfl

theorem item_element {items : List Value} {n : Nat} (h : listPlace items.length k = .ok n)
    (hn : n < items.length) : item (.value (.list items)) k = .ok (.value items[n]) := by
  show (listPlace items.length k >>= _) = _
  rw [h]
  show Except.ok (Found.value (items[n]?.getD .null)) = _
  rw [List.getElem?_eq_getElem hn, Option.getD_some]

/-- The item of a literal is a literal, and wrapped it is the item of the wrapped literal. -/
theorem item_wrap {w : Value} (hv : v.plain = v) (h : item (.value v) k = .ok (.value w)) :
    w.plain = w ∧ item (.value (wrap v)) k = .ok (.value (wrap w)) := by
  obtain ⟨_, ⟨⟩, hitem⟩ := isItem_of_item h
  cases hitem with
  | @entry kind es s w hw =>
    obtain ⟨rfl, hes⟩ := plain_entry hv
    refine ⟨Entries.of_get?_eq_some (P := fun w => w.plain = w) hes hw, ?_⟩
    rw [wrap, wrapEntries_eq_map]
    apply item_entry
    rw [Entries.get?_map, hw, Option.map_some]
  | @element items k n hplace hn =>
    refine ⟨plain_item hv _ (List.getElem_mem hn), ?_⟩
    have hlength : (items.map wrap).length = items.length := List.length_map ..
    rw [← hlength] at hplace hn
    rw [wrap, wrapItems_eq_map, item_element hplace hn, List.getElem_map]
  | piece t => exact ⟨rfl, h⟩

theorem IsWrapped.of_isItem {w : Value} (hv : IsWrapped v) (h : IsItem v k w) : IsWrapped w := by
  cases h with
  | entry hw => exact Entries.of_get?_eq_some hv.entry.2 hw
  | element hplace hn => exact hv.item _ (List.getElem_mem hn)
  | piece t => exact .scalar t

/-- **A key is an attribute** of a wrapped value, unless it is reserved. -/
theorem member_of_item {name : Text} (hname : isReserved name = false) (hv : IsWrapped v)
    (h : item (.value v) (.text name) = .ok f) : member (.value v) name = .ok f := by
  obtain ⟨w, rfl, hitem⟩ := isItem_of_item h
  cases v with
  | mapping kind es =>
    obtain ⟨rfl, -⟩ := hv.entry
    cases hitem with
    | entry hw => simp only [member, hname, Bool.false_eq_true, if_false, hw]
  | list items => cases h
  | scalar s =>
    cases s with
    | text t => cases h
    | bytes b => cases h
    | _ => cases h

end Items

/-! ### Paths -/

/-- A path of items, and the same path with attributes for the keys in some of its steps. -/
inductive Respelled : List Step → List Step → Prop where
  | nil : Respelled [] []
  | item (k : Value) {path path' : List Step} (h : Respelled path path') :
      Respelled (.item k :: path) (.item k :: path')
  | member {name : Text} (hname : isReserved name = false) {path path' : List Step}
      (h : Respelled path path') :
      Respelled (.item (.text name) :: path) (.member name :: path')

theorem find_cons {f : Found} {s : Step} {path : List Step} {g : Found} :
    find f (s :: path) = .ok g ↔ ∃ part, s.find f = .ok part ∧ find part path = .ok g :=
  Outcome.bind_eq_ok

/-- **Both spellings of a path** lead to the same part of a wrapped value, by induction on the
    path; the parts on the way are wrapped. -/
theorem find_respelled {v w : Value} {path path' : List Step} (hpath : Respelled path path')
    (hv : IsWrapped v) (h : find (.value v) path = .ok (.value w)) :
    find (.value v) path' = .ok (.value w) := by
  induction hpath generalizing v with
  | nil => exact h
  | item k hpath ih =>
    obtain ⟨part, hpart, h⟩ := find_cons.1 h
    obtain ⟨u, rfl, hitem⟩ := isItem_of_item hpart
    exact find_cons.2 ⟨_, hpart, ih (hv.of_isItem hitem) h⟩
  | member hname hpath ih =>
    obtain ⟨part, hpart, h⟩ := find_cons.1 h
    obtain ⟨u, rfl, hitem⟩ := isItem_of_item hpart
    exact find_cons.2 ⟨_, member_of_item hname hv hpart, ih (hv.of_isItem hitem) h⟩

/-- A path of items leads to the same part of a literal before and after it is wrapped. -/
theorem find_wrap {v w : Value} {path path' : List Step} (hpath : Respelled path path')
    (hv : v.plain = v) (h : find (.value v) path = .ok (.value w)) :
    w.plain = w ∧ find (.value (wrap v)) path = .ok (.value (wrap w)) := by
  have hstep : ∀ {v : Value} {k : Value} {path : List Step}, v.plain = v →
      (∀ u, u.plain = u → find (.value u) path = .ok (.value w) →
        w.plain = w ∧ find (.value (wrap u)) path = .ok (.value (wrap w))) →
      find (.value v) (.item k :: path) = .ok (.value w) →
      w.plain = w ∧ find (.value (wrap v)) (.item k :: path) = .ok (.value (wrap w)) := by
    intro v k path hv ih h
    obtain ⟨part, hpart, h⟩ := find_cons.1 h
    obtain ⟨u, rfl, -⟩ := isItem_of_item hpart
    obtain ⟨hu, hwrapped⟩ := item_wrap hv hpart
    obtain ⟨hw, hrest⟩ := ih u hu h
    exact ⟨hw, find_cons.2 ⟨_, hwrapped, hrest⟩⟩
  induction hpath generalizing v with
  | nil =>
    cases h
    exact ⟨hv, rfl⟩
  | item k hpath ih => exact hstep hv (fun u hu h => ih hu h) h
  | member hname hpath ih => exact hstep hv (fun u hu h => ih hu h) h

/-! ### Argument objects -/

/-- **The argument object of a literal reads as the literal.**  It has the entries of the literal
    in their order and compares with any value as the literal does; wrapping it again changes
    nothing; and what a path of keys and indices leads to in the literal, the path leads to in the
    object too, wrapped, however many of its keys are spelled as attributes. -/
theorem ofEntries_reads_literal (es : Entries Value)
    (hplain : (Value.dict es).plain = Value.dict es) :
    ((ofEntries es).plain = Value.dict es ∧
      (entriesOf (ofEntries es)).map Prod.fst = es.map Prod.fst ∧
      ∀ w, (ofEntries es).same w = (Value.dict es).same w ∧
        w.same (ofEntries es) = w.same (Value.dict es)) ∧
    (ofValue (ofEntries es) = ofEntries es ∧ wrap (ofEntries es) = ofEntries es) ∧
    ∀ path v, find (.value (Value.dict es)) path = .ok (.value v) →
      ∀ path', Respelled path path' →
        (wrap v).plain = v ∧ find (.value (ofEntries es)) path' = .ok (.value (wrap v)) := by
  have hwrap : ofEntries es = wrap (Value.dict es) := rfl
  have hforget : (ofEntries es).plain = Value.dict es := by rw [hwrap, plain_wrap, hplain]
  have hwrapped : IsWrapped (ofEntries es) := isWrapped_wrap hplain
  refine ⟨⟨hforget, ?_, ?_⟩, ⟨?_, ?_⟩, ?_⟩
  · show (wrapEntries es).map Prod.fst = _
    rw [wrapEntries_eq_map, List.map_map]
    rfl
  · intro w
    exact Value.same_congr (hforget.trans hplain.symm) w
  · show Value.mapping .arguments (wrapEntries (wrapEntries es)) = _
    rw [wrapEntries_of_isWrapped hwrapped.entry.2]
    rfl
  · rfl
  · intro path v hv path' hpath
    obtain ⟨hw, hfind⟩ := find_wrap hpath hplain hv
    rw [plain_wrap]
    exact ⟨hw, find_respelled hpath hwrapped hfind⟩

/-- Lists in a list and mappings in them, under keys that are names of methods. -/
def methodEntries : Entries Value :=
  [(.text (Text.of "items"), .list [.list [.dict [(.text (Text.of "get"), .scalar (.int 1))]]]),
    (.text (Text.of "keys"), .dict [(.text (Text.of "update"), .dict [])])]

theorem ofEntries_reads_literal_methods :
    (Value.dict methodEntries).plain = Value.dict methodEntries ∧
      find (.value (.dict methodEntries))
        [.item (.text (Text.of "items")), .item (.scalar (.int 0)), .item (.scalar (.int (-1))),
          .item (.text (Text.of "get"))] = .ok (.value (.scalar (.int 1))) ∧
      find (.value (ofEntries methodEntries))
        [.member (Text.of "items"), .item (.scalar (.int 0)), .item (.scalar (.int (-1))),
          .member (Text.of "get")] = .ok (.value (.scalar (.int 1))) := by
  have hplain : (Value.dict methodEntries).plain = Value.dict methodEntries := rfl
  have hfind : find (.value (.dict methodEntries))
      [.item (.text (Text.of "items")), .item (.scalar (.int 0)), .item (.scalar (.int (-1))),
        .item (.text (Text.of "get"))] = .ok (.value (.scalar (.int 1))) := by rfl
  refine ⟨hplain, hfind, ?_⟩
  apply ((ofEntries_reads_literal methodEntries hplain).2.2 _ _ hfind _ ?_).2
  exact .member (by decide) (.item _ (.item _ (.member (by decide) .nil)))

end TemplatedNotes.Arguments
