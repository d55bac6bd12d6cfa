/-
  TemplatedNotes/Proofs/Script/Sparing.lean
  =========================================
  **Scripts that assign nothing to what all scripts share.**

  The index, the module of arithmetic and the kind of failure for missing scripts are the same in
  every run, and keep the attributes that are assigned to them.  It can be seen from the text of
  scripts that they assign nothing to these.  Either they assign nothing at all, and then what is
  shared may be given away and kept wherever scripts like; or they use the names of what is shared
  for nothing but to read an attribute, and load nothing but modules of the vault, and then no other
  value is ever shared.  To spare the index alone, it is enough to use its name in this way.

  In no case do they get hold of the engine or the interpreter: they read no attribute that leads
  there, use no name of the interpreter, and load modules by names that are written out.
  `Stmt.spares` says all of this, by what a `Care` guards.

  What such scripts work on stays in order (`Memory.Spares`): nothing guarded has been given an
  attribute, and it stands nowhere but under its own names.  `Run.Spares` is said of a run that
  keeps this order and gives a result of some kind, and there is one lemma for every function that
  scripts are run by, up to statements and expressions.
-/
import TemplatedNotes.Proofs.Action
import TemplatedNotes.Proofs.Value
import TemplatedNotes.Script.Sandbox

namespace TemplatedNotes.Script

open TemplatedNotes.Action

/-! ### The text of scripts -/

/-- Whether a built-in is shared by all scripts and can be given attributes, or loads one that is. -/
def Builtin.isShared : Builtin → Bool
  | .index _ => true
  | .math => true
  | .notFoundKind => true
  | .require _ => true
  | _ => false

/-- What scripts take care of. -/
inductive Care where
  /-- They assign nothing, and give nothing away that loads modules. -/
  | assignments
  /-- They give nothing away that is shared, nor assign anything to it. -/
  | shared
  /-- They do not give the index away, nor assign anything to it; nor what loads modules. -/
  | index

namespace Care

/-- Whether a built-in may stand nowhere but under its own name. -/
def guards : Care → Builtin → Bool
  | _, .require _ => true
  | .shared, b => b.isShared
  | .index, .index _ => true
  | _, _ => false

/-- Whether a name is one for what is guarded. -/
def guardsName : Care → Text → Bool
  | .assignments, n => n == requireName
  | .shared, n => [indexName, notFoundName, requireName].contains n
  | .index, n => [indexName, requireName].contains n

/-- Whether anything may be assigned. -/
def mayAssign : Care → Bool
  | .assignments => false
  | _ => true

/-- Whether something may have been given attributes. -/
def mayKeep : Care → Lasting → Bool
  | .index, .math => true
  | .index, .notFoundKind => true
  | _, _ => false

variable {care : Care}

theorem guards_eq_false {b : Builtin} (hb : b.isShared = false) : care.guards b = false := by
  cases b with
  | index source => cases hb
  | require base => cases hb
  | math => cases hb
  | notFoundKind => cases hb
  | _ => cases care <;> rfl

/-- What stands under a name that is not guarded is not guarded. -/
theorem guards_index (h : care.guardsName indexName = false) (source : Text) :
    care.guards (.index source) = false := by
  cases care with
  | assignments => rfl
  | shared => cases h
  | index => cases h

theorem guards_require (base : Text) : care.guards (.require base) = true := by cases care <;> rfl

theorem guardsName_require : care.guardsName requireName = true := by cases care <;> decide

theorem guards_notFoundKind (h : care.guardsName notFoundName = false) :
    care.guards .notFoundKind = false := by
  cases care with
  | shared => cases h
  | _ => rfl

/-- What may be assigned to may keep what it is given. -/
theorem mayKeep_math (hassign : care.mayAssign = true) (h : care.guards .math = false) :
    care.mayKeep .math = true := by
  cases care with
  | assignments => cases hassign
  | shared => cases h
  | index => rfl

theorem mayKeep_notFoundKind (hassign : care.mayAssign = true)
    (h : care.guards .notFoundKind = false) : care.mayKeep .notFoundKind = true := by
  cases care with
  | assignments => cases hassign
  | shared => cases h
  | index => rfl

theorem guards_index_of_mayAssign (hassign : care.mayAssign = true) (source : Text) :
    care.guards (.index source) = true := by
  cases care with
  | assignments => cases hassign
  | _ => rfl

end Care

/-- The attributes of what scripts are given that lead to the engine. -/
def engineParts : List Text :=
  Text.of "_index" :: Run.indexParts ++ Run.loaderParts ++ Run.pageParts

/-- Whether an attribute may lead to the engine or the interpreter. -/
def leadsOut (n : Text) : Bool := Run.isSpecial n || engineParts.contains n

theorem isSpecial_of_leadsOut {n : Text} (hn : leadsOut n = false) : Run.isSpecial n = false :=
  (Bool.or_eq_false_iff.1 hn).1

/-- An attribute that does not lead out is none of those that do. -/
theorem not_mem_of_leadsOut {n : Text} (hn : leadsOut n = false) (parts : List Text)
    (hparts : parts ⊆ engineParts) : ¬ parts.contains n = true := by
  intro h
  have hin := List.contains_iff_mem.2 (hparts (List.contains_iff_mem.1 h))
  rw [leadsOut, hin, Bool.or_true] at hn
  cases hn

/-- Whether a module may be loaded: one of the vault, and that of arithmetic if it is not guarded. -/
def Care.mayLoad (care : Care) (n : Text) : Bool :=
  isVaultModule n || n == Text.of "math" && !care.guards .math

/-- Whether a call loads a module, whose name is written out. -/
def loadsModule (care : Care) : Expr → List Expr → Bool
  | .name n, [.literal (.scalar (.text t))] => n == requireName && care.mayLoad t
  | _, _ => false

section

variable [Runtime]

/-- Whether an expression is a name, and none of the interpreter's own. -/
def Expr.isName : Expr → Bool
  | .name n => !Run.isForeign n
  | _ => false

mutual

/-- Whether an expression does not give away what is guarded; an attribute of it may be read. -/
def Expr.spares (care : Care) : Expr → Bool
  | .literal _ => true
  | .name n => !care.guardsName n && !Run.isForeign n
  | .member e n => !care.guardsName n && !leadsOut n && (e.isName || e.spares care)
  | .item e k => e.spares care && k.spares care
  | .display e => e.spares care
  | .length e => e.spares care
  | .concat parts => allSpare care parts
  | .join _ e => e.spares care
  | .each _ e body => e.spares care && body.spares care
  | .same a b => a.spares care && b.spares care
  | .add a b => a.spares care && b.spares care
  | .function _ body => body.spares care
  | .call f arguments => loadsModule care f arguments || f.spares care && allSpare care arguments
  | .render path arguments extra _ =>
    path.spares care && optionSpares care arguments && extraSpare care extra
  | .indexHas _ => true
  | .unshowable _ => true

/-- Whether all of some expressions spare what is guarded. -/
def allSpare (care : Care) : List Expr → Bool
  | [] => true
  | e :: rest => e.spares care && allSpare care rest

/-- Whether an expression that may be left out spares what is guarded. -/
def optionSpares (care : Care) : Option Expr → Bool
  | none => true
  | some e => e.spares care

/-- Whether all of some named expressions spare what is guarded. -/
def extraSpare (care : Care) : List (Text × Expr) → Bool
  | [] => true
  | (_, e) :: rest => e.spares care && extraSpare care rest

end

mutual

/-- Whether a statement assigns nothing to what is guarded, and does not give it away. -/
def Stmt.spares (care : Care) : Stmt → Bool
  | .bind _ e => e.spares care
  | .finish e => e.spares care
  | .branch e yes no => e.spares care && programSpares care yes && programSpares care no
  | .fail _ _ => true
  | .assign e n value =>
    care.mayAssign && !Run.isSpecial n && e.spares care && value.spares care
  | .malformed => true

/-- Whether none of some statements assigns anything to what is guarded, or gives it away. -/
def programSpares (care : Care) : List Stmt → Bool
  | [] => true
  | s :: rest => s.spares care && programSpares care rest

end

end

/-! ### Memories in order -/

/-- A value that is not guarded. -/
def Handle.Spares (care : Care) (h : Handle) : Prop := ∀ b, h = .builtin b → care.guards b = false

/-- Names whose values are not guarded, except for those that may be. -/
def Frame.Spares (care : Care) (f : Frame) : Prop :=
  ∀ b ∈ f.names, care.guardsName b.1 = false → b.2.Spares care

/-- A cell from which nothing guarded can be reached, except for names that may stand for it. -/
def Cell.Spares [Runtime] (care : Care) : Cell → Prop
  | .list items => ∀ h ∈ items, h.Spares care
  | .mapping _ es => ∀ e ∈ es, e.2.Spares care
  | .page fields => ∀ b ∈ fields, b.2.Spares care
  | .module _ => True
  | .function _ _ body _ => body.spares care = true
  | .waiting _ path arguments extra =>
    path.Spares care ∧ arguments.Spares care ∧ ∀ b ∈ extra, b.2.Spares care
  | .unshowable _ => True
  | .frame f => f.Spares care

/-- A memory in which nothing guarded was given an attribute, and where it stands only where it
    may. -/
structure Memory.Spares [Runtime] (care : Care) (m : Memory) : Prop where
  attributes : ∀ a ∈ m.attributes, care.mayKeep a.1.1 = true ∧ a.2.Spares care
  cells : ∀ n, (m.cell n).Spares care

/-- A run that keeps the memory in order and gives only what satisfies a property. -/
def Run.Spares [Runtime] {α : Type} (care : Care) (x : Run α) (Q : α → Prop) : Prop :=
  ∀ m, m.Spares care →
    (x.run.run m).2.Spares care ∧ ∀ a, (x.run.run m).1 = .ok a → Q a

variable {care : Care} {m m' : Memory} {h value key default : Handle} {c : Cell} {n : Text}

theorem Handle.spares_scalar (s : Scalar) : (Handle.scalar s).Spares care := by
  intro b hb
  cases hb

theorem Handle.spares_ref (number : Nat) : (Handle.ref number).Spares care := by
  intro b hb
  cases hb

theorem Handle.spares_builtin {b : Builtin} (hb : care.guards b = false) :
    (Handle.builtin b).Spares care := by
  rintro b' ⟨⟩
  exact hb

theorem Handle.spares_null : Handle.null.Spares care := Handle.spares_scalar _

theorem Memory.spares_empty [Runtime] : Memory.empty.Spares care := by
  refine ⟨by simp [Memory.empty], ?_⟩
  intro number h hh
  cases hh

/-! ### Names and entries -/

theorem mem_of_lookup {κ : Type} [BEq κ] [LawfulBEq κ] {bs : List (κ × Handle)} {k : κ}
    (hl : bs.lookup k = some h) : (k, h) ∈ bs := by
  obtain ⟨_, _, rfl, -⟩ := List.lookup_eq_some_iff.1 hl
  simp

/-- What was given an attribute got nothing guarded. -/
theorem Memory.Spares.attribute? [Runtime] {owner : Lasting} (hm : m.Spares care)
    (ha : m.attribute? owner n = some h) : h.Spares care :=
  (hm.attributes _ (mem_of_lookup ha)).2

/-- The index has been given nothing, under any care. -/
theorem Memory.Spares.attribute?_index [Runtime] (hm : m.Spares care) (n : Text) :
    m.attribute? .index n = none := by
  cases ha : m.attribute? .index n with
  | none => rfl
  | some h =>
    have hkept := (hm.attributes _ (mem_of_lookup ha)).1
    cases care <;> cases hkept

theorem mem_bindings_set {bs : Bindings} {b : Text × Handle} (hb : b ∈ bs.set n h) :
    b = (n, h) ∨ b ∈ bs := by
  induction bs with
  | nil => exact Or.inl (List.mem_singleton.1 hb)
  | cons first rest ih =>
    rw [Bindings.set] at hb
    split at hb
    · rcases List.mem_cons.1 hb with hb | hb
      · exact Or.inl hb
      · exact Or.inr (List.mem_cons_of_mem _ hb)
    · rcases List.mem_cons.1 hb with rfl | hb
      · exact Or.inr List.mem_cons_self
      · rcases ih hb with hb | hb
        · exact Or.inl hb
        · exact Or.inr (List.mem_cons_of_mem _ hb)

/-- A property of all values of a mapping is one of all its values after an assignment. -/
theorem forall_mem_set {α : Type} {P : α → Prop} {es : Entries α} {k : Scalar} {v : α}
    (hes : ∀ e ∈ es, P e.2) (hv : P v) : ∀ e ∈ es.set k v, P e.2 :=
  (Entries.forall_set_iff hes).2 hv

theorem forall_mem_update {α : Type} {P : α → Prop} {es fs : Entries α}
    (hes : ∀ e ∈ es, P e.2) (hfs : ∀ e ∈ fs, P e.2) : ∀ e ∈ es.update fs, P e.2 := by
  unfold Entries.update
  induction fs generalizing es with
  | nil => exact hes
  | cons first rest ih =>
    obtain ⟨hfirst, hrest⟩ := List.forall_mem_cons.1 hfs
    exact ih (forall_mem_set hes hfirst) hrest

theorem Frame.Spares.lookup {f : Frame} (hf : f.Spares care) (hn : care.guardsName n = false)
    (hl : f.names.lookup n = some h) : h.Spares care :=
  hf (n, h) (mem_of_lookup hl) hn

namespace Run

variable [Runtime] {α β : Type} {x : Run α} {P Q : α → Prop} {R : β → Prop}

/-! ### Steps of a run -/

theorem Spares.imp (hx : Spares care x P) (himp : ∀ a, P a → Q a) : Spares care x Q := by
  intro m hm
  obtain ⟨hm', ha⟩ := hx m hm
  exact ⟨hm', fun a h => himp a (ha a h)⟩

theorem spares_pure {a : α} (ha : Q a) : Spares care (pure a) Q := by
  intro m hm
  refine ⟨hm, ?_⟩
  rintro b hb
  cases hb
  exact ha

theorem spares_throw (f : Failure) : Spares care (throw f : Run α) Q := by
  intro m hm
  refine ⟨hm, ?_⟩
  intro a ha
  cases ha

theorem spares_lift {r : Outcome α} (hr : ∀ a, r = .ok a → Q a) : Spares care (lift r) Q := by
  intro m hm
  exact ⟨hm, hr⟩

theorem Spares.bind {k : α → Run β} (hx : Spares care x P)
    (hk : ∀ a, P a → Spares care (k a) R) : Spares care (x >>= k) R := by
  intro m hm
  obtain ⟨hm', ha⟩ := hx m hm
  rw [run_bind]
  rcases hrun : x.run.run m with ⟨f | a, m'⟩
  · rw [hrun] at hm'
    refine ⟨hm', ?_⟩
    intro b hb
    cases hb
  · rw [hrun] at hm' ha
    exact hk a (ha a rfl) m' hm'

theorem spares_get : Spares care (get : Run Memory) (fun m => m.Spares care) := by
  intro m hm
  refine ⟨hm, ?_⟩
  rintro a ha
  cases ha
  exact hm

theorem spares_look {f : Memory → Outcome α} (hf : ∀ m a, m.Spares care → f m = .ok a → Q a) :
    Spares care (look f) Q :=
  spares_get.bind (fun m hm => spares_lift (fun a ha => hf m a hm ha))

theorem spares_cell (number : Nat) : Spares care (cell number) (fun c => c.Spares care) :=
  spares_get.bind (fun _ hm => spares_pure (hm.cells number))

theorem spares_alloc (hc : c.Spares care) : Spares care (alloc c) (fun _ => True) := by
  intro m hm
  refine ⟨⟨hm.attributes, ?_⟩, fun _ _ => trivial⟩
  intro number
  show ((m.cells.push c)[number]?.getD default).Spares care
  rw [Array.getElem?_push]
  split
  · exact hc
  · exact hm.cells number

theorem spares_put (number : Nat) (hc : c.Spares care) :
    Spares care (put number c) (fun _ => True) := by
  intro m hm
  refine ⟨⟨hm.attributes, ?_⟩, fun _ _ => trivial⟩
  intro other
  show ((m.cells.setIfInBounds number c)[other]?.getD default).Spares care
  rw [Array.getElem?_setIfInBounds]
  split
  · split
    · exact hc
    · exact Memory.spares_empty.cells other
  · exact hm.cells other

theorem spares_make (hc : c.Spares care) : Spares care (make c) (Handle.Spares care) :=
  (spares_alloc hc).bind (fun _ _ => spares_pure (Handle.spares_ref _))

theorem spares_mapM {f : α → Run β} {xs : List α} (hf : ∀ x ∈ xs, Spares care (f x) R) :
    Spares care (xs.mapM f) (fun ys => ∀ y ∈ ys, R y) := by
  induction xs with
  | nil =>
    rw [List.mapM_nil]
    exact spares_pure (by simp)
  | cons x rest ih =>
    obtain ⟨hx, hrest⟩ := List.forall_mem_cons.1 hf
    rw [List.mapM_cons]
    refine hx.bind (fun y hy => (ih hrest).bind (fun ys hys => spares_pure ?_))
    exact List.forall_mem_cons.2 ⟨hy, hys⟩

/-- The values of a mapping, each made into another one. -/
theorem spares_mapEntries {f : Handle → Run Handle} {es : Entries Handle}
    (hf : ∀ e ∈ es, Spares care (f e.2) (Handle.Spares care)) :
    Spares care (es.mapM (fun e => do return (e.1, ← f e.2)))
      (fun hs => ∀ e ∈ hs, e.2.Spares care) :=
  spares_mapM (fun e he => (hf e he).bind (fun _ hh => spares_pure hh))

/-! ### Making values -/

mutual

theorem spares_store : ∀ v, Spares care (store v) (Handle.Spares care)
  | .scalar s => by
    rw [store]
    exact spares_pure (Handle.spares_scalar s)
  | .list items => by
    rw [store]
    exact (spares_storeItems items).bind (fun _ hs => spares_make hs)
  | .mapping kind es => by
    rw [store]
    exact (spares_storeEntries es).bind (fun _ hs => spares_make hs)

theorem spares_storeItems :
    ∀ vs, Spares care (storeItems vs) (fun hs => ∀ h ∈ hs, h.Spares care)
  | [] => by
    rw [storeItems]
    exact spares_pure (by simp)
  | v :: vs => by
    rw [storeItems]
    refine (spares_store v).bind (fun h hh => (spares_storeItems vs).bind (fun hs hhs => ?_))
    exact spares_pure (List.forall_mem_cons.2 ⟨hh, hhs⟩)

theorem spares_storeEntries :
    ∀ es, Spares care (storeEntries es) (fun hs => ∀ e ∈ hs, e.2.Spares care)
  | [] => by
    rw [storeEntries]
    exact spares_pure (by simp)
  | (k, v) :: rest => by
    rw [storeEntries]
    refine (spares_store v).bind (fun h hh => (spares_storeEntries rest).bind (fun hs hhs => ?_))
    exact spares_pure (List.forall_mem_cons.2 ⟨hh, hhs⟩)

end

theorem spares_list? {xs : List Handle} (hm : m.Spares care) (hl : m.list? h = some xs) :
    ∀ x ∈ xs, x.Spares care := by
  unfold Memory.list? at hl
  split at hl
  · next number =>
    have hcell := hm.cells number
    split at hl
    · next items hitems =>
      cases hl
      rwa [hitems] at hcell
    · cases hl
  · cases hl

theorem spares_add (a b : Handle) : Spares care (add a b) (Handle.Spares care) := by
  unfold add
  refine spares_get.bind (fun m hm => ?_)
  split
  · exact (spares_lift (Q := fun _ => True) (fun _ _ => trivial)).bind
      (fun s _ => spares_pure (Handle.spares_scalar s))
  · split
    · next xs ys hys _ hxs =>
      refine spares_make ?_
      intro x hx
      rcases List.mem_append.1 hx with hx | hx
      · exact spares_list? hm hxs x hx
      · exact spares_list? hm hys x hx
    · exact spares_throw _
    · exact spares_throw _
    · exact spares_throw _
    · exact spares_throw _

theorem spares_wrapTo (depth : Nat) (hh : h.Spares care) :
    Spares care (wrapTo depth h) (Handle.Spares care) := by
  induction depth generalizing h with
  | zero =>
    cases h with
    | scalar s => exact spares_pure hh
    | builtin b => exact spares_pure hh
    | ref number => exact spares_throw _
  | succ depth ih =>
    cases h with
    | scalar s => exact spares_pure hh
    | builtin b => exact spares_pure hh
    | ref number =>
      rw [wrapTo]
      refine (spares_cell number).bind (fun c hc => ?_)
      split
      · exact (spares_mapM (fun x hx => ih (hc x hx))).bind (fun hs hhs => spares_make hhs)
      · exact (spares_mapEntries (fun e he => ih (hc e he))).bind (fun _ hhs => spares_make hhs)
      · exact spares_pure hh

theorem spares_wrap (hh : h.Spares care) : Spares care (wrap h) (Handle.Spares care) :=
  spares_get.bind (fun _ _ => spares_wrapTo _ hh)

theorem spares_argumentObject {es : Entries Handle} (hes : ∀ e ∈ es, e.2.Spares care) :
    Spares care (argumentObject es) (fun _ => True) :=
  (spares_mapEntries (fun e he => spares_wrap (hes e he))).bind (fun _ hhs => spares_alloc hhs)

/-! ### Parts of values -/

theorem spares_items {hs : List Handle} (hm : m.Spares care) (hi : m.items h = .ok hs) :
    ∀ x ∈ hs, x.Spares care := by
  unfold Memory.items at hi
  dsimp only at hi
  split at hi
  · cases hi
    intro x hx
    obtain ⟨c, -, rfl⟩ := List.mem_map.1 hx
    exact Handle.spares_scalar _
  · cases hi
    intro x hx
    obtain ⟨b, -, rfl⟩ := List.mem_map.1 hx
    exact Handle.spares_scalar _
  · next number =>
    have hcell := hm.cells number
    split at hi
    · next items hitems =>
      cases hi
      rwa [hitems] at hcell
    · cases hi
      intro x hx
      obtain ⟨e, -, rfl⟩ := List.mem_map.1 hx
      exact Handle.spares_scalar _
    · cases hi
  · cases hi

omit [Runtime] in
theorem spares_scalarItem {s : Scalar} {kind : Text} (hi : Memory.scalarItem s key kind = .ok h) :
    h.Spares care := by
  unfold Memory.scalarItem at hi
  split at hi
  · obtain ⟨c, -, rfl⟩ := Outcome.map_eq_ok.1 hi
    exact Handle.spares_scalar _
  · obtain ⟨b, -, rfl⟩ := Outcome.map_eq_ok.1 hi
    exact Handle.spares_scalar _
  · cases hi
  · cases hi
  · cases hi

theorem spares_cellItem (hc : c.Spares care) (hi : m.cellItem c key = .ok h) : h.Spares care := by
  unfold Memory.cellItem at hi
  split at hi
  · next items =>
    obtain ⟨number, -, hi⟩ := Outcome.bind_eq_ok.1 hi
    cases hi
    cases hitem : items[number]? with
    | none => exact Handle.spares_null
    | some x => exact hc x (List.mem_of_getElem? hitem)
  · next kind es =>
    obtain ⟨k, -, hi⟩ := Outcome.bind_eq_ok.1 hi
    split at hi
    · next x hx =>
      cases hi
      obtain ⟨e, he, rfl⟩ := Entries.exists_of_get?_eq_some hx
      exact hc e he
    · cases hi
  · cases hi

theorem spares_item (hm : m.Spares care) (hi : m.item value key = .ok h) : h.Spares care := by
  unfold Memory.item at hi
  split at hi
  · exact spares_scalarItem hi
  · cases hi
  · next number =>
    split at hi
    · split at hi
      · exact spares_scalarItem hi
      · cases hi
      · next f _ => exact spares_cellItem (hm.cells f) hi
    · exact spares_cellItem (hm.cells number) hi

theorem spares_getOr (hm : m.Spares care) (hd : default.Spares care)
    (hg : m.getOr value key default = .ok h) : h.Spares care := by
  unfold Memory.getOr at hg
  split at hg
  · next number =>
    have hcell := hm.cells number
    split at hg
    · next kind es hes =>
      rw [hes] at hcell
      obtain ⟨k, -, rfl⟩ := Outcome.map_eq_ok.1 hg
      cases hget : es.get? k with
      | none => exact hd
      | some x =>
        obtain ⟨e, he, rfl⟩ := Entries.exists_of_get?_eq_some hget
        exact hcell e he
    · cases hg
  · cases hg

/-! ### Names -/

theorem spares_frameAt (number : Nat) :
    Spares care (frameAt number) (fun f => f.Spares care) := by
  unfold frameAt
  refine (spares_cell number).bind (fun c hc => ?_)
  split
  · exact spares_pure hc
  · refine spares_pure ?_
    intro b hb
    cases hb

/-- Only its own names may stand for what is guarded. -/
theorem spares_findName (hn : isForeign n = false) (inner : Bool) (scope : List Nat) :
    Spares care (findName n inner scope) (fun h => care.guardsName n = false → h.Spares care) := by
  induction scope generalizing inner with
  | nil =>
    rw [findName, hn]
    exact spares_throw _
  | cons number rest ih =>
    rw [findName]
    refine (spares_frameAt number).bind (fun f hf => ?_)
    split
    · next h hl => exact spares_pure (fun hn => hf.lookup hn hl)
    · split
      · exact spares_throw _
      · exact ih false

theorem spares_bindIn (number : Nat) (n : Text) (hh : h.Spares care) :
    Spares care (bindIn number n h) (fun _ => True) := by
  refine (spares_frameAt number).bind (fun f hf => spares_put number ?_)
  intro b hb hne
  rcases mem_bindings_set hb with rfl | hb
  · exact hh
  · exact hf b hb hne

theorem spares_bindName (scope : List Nat) (n : Text) (hh : h.Spares care) :
    Spares care (bindName scope n h) (fun _ => True) := by
  cases scope with
  | nil => exact spares_pure trivial
  | cons number rest => exact spares_bindIn number n hh

theorem spares_titleOf (scope : List Nat) : Spares care (titleOf scope) (fun _ => True) := by
  cases scope with
  | nil => exact spares_pure trivial
  | cons number rest => exact (spares_frameAt number).bind (fun _ _ => spares_pure trivial)

theorem spares_enter (title n : Text) (hh : h.Spares care) (scope : List Nat) :
    Spares care (enter title n h scope) (fun _ => True) := by
  refine (spares_alloc ?_).bind (fun _ _ => spares_pure trivial)
  intro b hb _
  rw [List.mem_singleton.1 hb]
  exact hh

/-! ### The index -/

theorem spares_makePage (p : Page) : Spares care (makePage p) (Handle.Spares care) := by
  refine (spares_store _).bind (fun f hf => (spares_store _).bind (fun t ht => spares_make ?_))
  intro b hb
  simp only [List.mem_cons, List.not_mem_nil, or_false] at hb
  rcases hb with rfl | rfl | rfl | rfl | rfl | rfl
  · exact Handle.spares_scalar _
  · exact Handle.spares_scalar _
  · exact Handle.spares_scalar _
  · exact hf
  · exact ht
  · exact Handle.spares_scalar _

theorem spares_asText (h : Handle) (method : String) :
    Spares care (asText h method) (fun _ => True) := by
  unfold asText
  split
  · exact spares_pure trivial
  · exact (spares_get.bind (fun _ _ => spares_pure (Q := fun _ => True) trivial)).bind
      (fun f _ => spares_throw f)

theorem spares_ownParts (parts : List Text) : Spares care (ownParts parts) (fun _ => True) := by
  refine spares_get.bind (fun m hm => ?_)
  have hnone : parts.find? (fun n => (m.attribute? .index n).isSome) = none :=
    List.find?_eq_none.2 (fun n _ => by simp [hm.attribute?_index n])
  rw [hnone]
  exact spares_pure trivial

theorem spares_indexPage (w : Host) (link : Handle) :
    Spares care (indexPage w link) (Handle.Spares care) := by
  unfold indexPage
  refine (spares_ownParts _).bind (fun _ _ => ?_)
  refine (spares_asText link "strip").bind (fun t _ => ?_)
  refine (spares_lift (Q := fun _ => True) (fun _ _ => trivial)).bind (fun p _ => ?_)
  split
  · exact spares_makePage _
  · exact spares_pure Handle.spares_null

theorem spares_indexPages (w : Host) (folder : Handle) :
    Spares care (indexPages w folder) (Handle.Spares care) := by
  have hpages : ∀ t, Spares care (do
      ownParts (["vault", "_load"].map Text.of)
      let ps ← ofOutcome (w.vault.pages t)
      let hs ← ps.mapM makePage
      make (.list hs)) (Handle.Spares care) := by
    intro t
    refine (spares_ownParts _).bind (fun _ _ => ?_)
    refine (spares_lift (Q := fun _ => True) (fun _ _ => trivial)).bind (fun ps _ => ?_)
    exact (spares_mapM (fun p _ => spares_makePage p)).bind (fun hs hhs => spares_make hhs)
  unfold indexPages
  refine spares_get.bind (fun m _ => ?_)
  dsimp only
  split
  · exact (spares_asText folder "strip").bind (fun t _ => hpages t)
  · exact (spares_pure (Q := fun _ => True) trivial).bind (fun t _ => hpages t)

theorem spares_lacking (hn : isSpecial n = false) (f : Failure) :
    Spares care (lacking n f : Run α) Q := by
  unfold lacking
  rw [hn]
  exact spares_throw f

theorem spares_indexMember (hn : leadsOut n = false) :
    Spares care (indexMember n) (Handle.Spares care) := by
  unfold indexMember
  refine spares_get.bind (fun m hm => ?_)
  split
  · next h ha => exact spares_pure (hm.attribute? ha)
  · split
    · exact spares_pure (Handle.spares_builtin (Care.guards_eq_false rfl))
    · split
      · exact spares_pure (Handle.spares_builtin (Care.guards_eq_false rfl))
      · rw [if_neg (not_mem_of_leadsOut hn indexParts (fun _ h => by simp [engineParts, h]))]
        exact spares_lacking (isSpecial_of_leadsOut hn) _

theorem spares_indexHas (index : Handle) (n : Text) :
    Spares care (indexHas index n) (fun _ => True) := by
  unfold indexHas
  split
  · exact spares_get.bind (fun _ _ => spares_pure trivial)
  · exact spares_pure trivial

/-! ### Attributes -/

theorem spares_cellMember (number : Nat) (hc : c.Spares care)
    (hn : care.guardsName n = false) (hout : leadsOut n = false) :
    Spares care (cellMember number c n) (Handle.Spares care) := by
  have hspecial := isSpecial_of_leadsOut hout
  unfold cellMember
  split
  · next es =>
    split
    · next h hget =>
      refine spares_pure ?_
      split at hget
      · cases hget
      · obtain ⟨e, he, rfl⟩ := Entries.exists_of_get?_eq_some hget
        exact hc e he
    · split
      · exact spares_pure (Handle.spares_builtin (Care.guards_eq_false rfl))
      · exact spares_lacking hspecial _
  · split
    · exact spares_pure (Handle.spares_builtin (Care.guards_eq_false rfl))
    · exact spares_lacking hspecial _
  · next fields =>
    split
    · next h hl => exact spares_pure (hc _ (mem_of_lookup hl))
    · split
      · exact spares_pure (Handle.spares_builtin (Care.guards_eq_false rfl))
      · rw [if_neg (not_mem_of_leadsOut hout pageParts (fun _ h => by simp [engineParts, h]))]
        exact spares_lacking hspecial _
  · next frame =>
    refine (spares_frameAt frame).bind (fun f hf => ?_)
    split
    · next h hl => exact spares_pure (hf.lookup hn hl)
    · refine spares_get.bind (fun m _ => ?_)
      exact (spares_lift (Q := fun _ => True) (fun _ _ => trivial)).bind
        (fun name _ => spares_lacking hspecial _)
  · exact spares_lacking hspecial _

/-- An attribute of any value is not guarded, also where the value is. -/
theorem spares_member (h : Handle) (hn : care.guardsName n = false) (hout : leadsOut n = false) :
    Spares care (member h n) (Handle.Spares care) := by
  have hspecial := isSpecial_of_leadsOut hout
  unfold member
  split
  · split
    · split
      · exact spares_pure (Handle.spares_builtin (Care.guards_eq_false rfl))
      · exact spares_lacking hspecial _
    · split
      · exact spares_pure (Handle.spares_builtin (Care.guards_eq_false rfl))
      · exact spares_lacking hspecial _
    · exact spares_lacking hspecial _
  · next number => exact (spares_cell number).bind (fun c hc => spares_cellMember number hc hn hout)
  · split
    · exact spares_pure (Handle.spares_builtin (Care.guards_eq_false rfl))
    · split
      · exact spares_pure (Handle.spares_scalar _)
      · split
        · next hindex => exact absurd (by simp [hindex]) (not_mem_of_leadsOut hout
            [Text.of "_index"] (by simp [engineParts]))
        · exact spares_indexMember hout
  · rw [if_neg (not_mem_of_leadsOut hout loaderParts (fun _ h => by simp [engineParts, h]))]
    exact spares_lacking hspecial _
  · refine spares_get.bind (fun m hm => ?_)
    split
    · next h ha => exact spares_pure (hm.attribute? ha)
    · split
      · exact spares_pure (Handle.spares_builtin (Care.guards_eq_false rfl))
      · exact spares_lacking hspecial _
  · refine spares_get.bind (fun m hm => ?_)
    split
    · next h ha => exact spares_pure (hm.attribute? ha)
    · exact spares_lacking hspecial _
  · exact spares_lacking hspecial _

theorem spares_giveAttribute {owner : Lasting} (howner : care.mayKeep owner = true) (n : Text)
    (hv : value.Spares care) : Spares care (giveAttribute owner n value) (fun _ => True) := by
  intro m hm
  exact ⟨⟨List.forall_mem_cons.2 ⟨⟨howner, hv⟩, hm.attributes⟩, hm.cells⟩, fun _ _ => trivial⟩

/-- An assignment to what is not guarded leaves what is guarded alone. -/
theorem spares_assign (hassign : care.mayAssign = true) (hspecial : isSpecial n = false)
    (hh : h.Spares care) (hv : value.Spares care) : Spares care (assign h n value) (fun _ => True) := by
  unfold assign
  split
  · next source =>
    have hindex := hh _ rfl
    rw [Care.guards_index_of_mayAssign hassign] at hindex
    cases hindex
  · next base =>
    have hrequire := hh _ rfl
    rw [Care.guards_require] at hrequire
    cases hrequire
  · rw [hspecial]
    exact spares_giveAttribute (Care.mayKeep_math hassign (hh _ rfl)) n hv
  · rw [hspecial]
    exact spares_giveAttribute (Care.mayKeep_notFoundKind hassign (hh _ rfl)) n hv
  · next number =>
    refine (spares_cell number).bind (fun c hc => ?_)
    split
    · exact (spares_wrap hv).bind (fun x hx => spares_put number (forall_mem_set hc hx))
    · exact spares_lacking hspecial _
    · split
      · refine spares_put number ?_
        intro b hb
        rcases mem_bindings_set hb with rfl | hb
        · exact hv
        · exact hc b hb
      · exact spares_lacking hspecial _
    · next frame => exact spares_bindIn frame n hv
    · exact spares_lacking hspecial _
  · exact spares_get.bind (fun _ _ => spares_lacking hspecial _)

end Run

end TemplatedNotes.Script
