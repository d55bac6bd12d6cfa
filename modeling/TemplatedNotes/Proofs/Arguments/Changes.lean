/-
  TemplatedNotes/Proofs/Arguments/Changes.lean
  ============================================
  **What changes do to wrapped arguments.**

  A change gives an attribute or an item a value, or removes one, of the part of a value that a path
  leads to; a change that fails leaves the value as it was.  An attribute's new value is wrapped, an
  item's is stored as it is.  So a change keeps a value wrapped if and only if what it stores is
  wrapped (`isWrapped_alter_iff`, from what each change does to one value and what each step of the
  path does with the changed part), and a history of changes does if and only if that goes for each
  of its item assignments.

    * `isWrapped_history_iff` — when the parts of a value stay attributes through a history;
    * `plain_after_setItem` — a history through which they do not.
-/
import TemplatedNotes.Proofs.Arguments.Wrapped

namespace TemplatedNotes.Arguments

/-- A property of all items of a list, after one of them has changed. -/
theorem forall_mem_set_iff {α : Type} {P : α → Prop} {xs : List α} (h : ∀ x ∈ xs, P x) {n : Nat}
    (hn : n < xs.length) {x : α} : (∀ y ∈ xs.set n x, P y) ↔ P x := by
  constructor
  · intro hset
    exact hset x (List.mem_set hn x)
  · intro hx y hy
    rcases List.mem_or_eq_of_mem_set hy with hy | rfl
    · exact h y hy
    · exact hx

/-! ### Changes of one value -/

/-- A change of a value. -/
inductive Change where
  | setMember (name : Text) (new : Value)
  | eraseMember (name : Text)
  | setItem (key new : Value)
  | eraseItem (key : Value)

def Change.apply : Change → Found → Outcome Value
  | .setMember name new => Arguments.setMember name new
  | .eraseMember name => Arguments.eraseMember name
  | .setItem key new => Arguments.setItem key new
  | .eraseItem key => Arguments.eraseItem key

/-- What a change puts into a value. -/
def Change.stored? : Change → Option Value
  | .setMember _ new => some (wrap new)
  | .setItem _ new => some new
  | _ => none

/-- What a change stores is wrapped. -/
def Change.StoresWrapped (c : Change) : Prop := ∀ new ∈ c.stored?, IsWrapped new

section Changes

variable {c : Change} {v w : Value}

theorem isWrapped_arguments_iff {es : Entries Value} :
    IsWrapped (.mapping .arguments es) ↔ ∀ e ∈ es, IsWrapped e.2 :=
  ⟨fun h => h.entry.2, .arguments⟩

theorem isWrapped_list_iff {items : List Value} :
    IsWrapped (.list items) ↔ ∀ v ∈ items, IsWrapped v :=
  ⟨IsWrapped.item, .list⟩

theorem storesWrapped_iff {new : Value} (h : c.stored? = some new) :
    c.StoresWrapped ↔ IsWrapped new := by
  unfold Change.StoresWrapped
  simp [h]

theorem storesWrapped_of_none (h : c.stored? = none) : c.StoresWrapped := by
  intro new hnew
  rw [h] at hnew
  cases hnew

/-- Scalars do not change. -/
theorem apply_scalar (c : Change) (s : Scalar) : c.apply (.value (.scalar s)) ≠ .ok w := by
  intro h
  cases c <;> cases h

theorem apply_method (c : Change) (name : Text) : c.apply (.method name) ≠ .ok w := by
  intro h
  cases c <;> cases h

/-- **A change keeps a value wrapped** if and only if what it stores is wrapped. -/
theorem isWrapped_apply_iff (hv : IsWrapped v) (h : c.apply (.value v) = .ok w) :
    IsWrapped w ↔ c.StoresWrapped := by
  cases hv with
  | scalar s => exact absurd h (apply_scalar c s)
  | @arguments es hes =>
    cases c with
    | setMember name new =>
      cases h
      rw [isWrapped_arguments_iff, Entries.forall_set_iff hes, storesWrapped_iff rfl]
    | eraseMember name =>
      simp only [Change.apply, Arguments.eraseMember] at h
      split at h
      · cases h
        exact iff_of_true (.arguments (Entries.forall_erase hes)) (storesWrapped_of_none rfl)
      · cases h
    | setItem key new =>
      obtain ⟨s, -, rfl⟩ := Outcome.map_eq_ok.1 h
      rw [isWrapped_arguments_iff, Entries.forall_set_iff hes, storesWrapped_iff rfl]
    | eraseItem key =>
      obtain ⟨s, -, herase⟩ := Outcome.bind_eq_ok.1 h
      split at herase
      · cases herase
        exact iff_of_true (.arguments (Entries.forall_erase hes)) (storesWrapped_of_none rfl)
      · cases herase
  | @list items hitems =>
    cases c with
    | setMember name new => cases h
    | eraseMember name => cases h
    | setItem key new =>
      simp only [Change.apply, Arguments.setItem] at h
      split at h
      · next n hn =>
        cases h
        rw [isWrapped_list_iff, forall_mem_set_iff hitems (lt_of_listPlace hn),
          storesWrapped_iff rfl]
      · cases h
    | eraseItem key =>
      simp only [Change.apply, Arguments.eraseItem] at h
      split at h
      · next n hn =>
        cases h
        have herase : ∀ v ∈ items.eraseIdx n, IsWrapped v :=
          fun v hv => hitems v (List.mem_of_mem_eraseIdx hv)
        exact iff_of_true (.list herase) (storesWrapped_of_none rfl)
      · cases h

end Changes

/-! ### Changes at the end of a path -/

section Paths

variable {c : Change} {v w part new : Value} {s : Step}

theorem isItem_or_member (h : s.find (.value v) = .ok (.value part)) :
    (∃ k, s = .item k ∧ IsItem v k part) ∨
      ∃ es name, s = .member name ∧ v = .mapping .arguments es ∧
        Entries.get? es (.text name) = some part := by
  cases s with
  | item k =>
    left
    obtain ⟨_, ⟨⟩, hitem⟩ := isItem_of_item h
    exact ⟨k, rfl, hitem⟩
  | member name =>
    right
    simp only [Step.find, Arguments.member] at h
    split at h
    · next es heq =>
      cases heq
      split at h
      · next u hu =>
        cases h
        split at hu
        · cases hu
        · exact ⟨es, name, rfl, rfl, hu⟩
      · split at h <;> cases h
    · split at h <;> cases h
    · cases h

theorem IsWrapped.of_find (hv : IsWrapped v) (h : s.find (.value v) = .ok (.value part)) :
    IsWrapped part := by
  rcases isItem_or_member h with ⟨k, -, hitem⟩ | ⟨es, name, -, rfl, hget⟩
  · exact hv.of_isItem hitem
  · exact Entries.of_get?_eq_some hv.entry.2 hget

/-- A wrapped value with a new part is wrapped if and only if the new part is. -/
theorem isWrapped_replace_iff (hv : IsWrapped v) (h : s.find (.value v) = .ok (.value part))
    (hscalar : ∀ t, v ≠ .scalar t) : IsWrapped (s.replace v new) ↔ IsWrapped new := by
  rcases isItem_or_member h with ⟨k, rfl, hitem⟩ | ⟨es, name, rfl, rfl, -⟩
  · cases hitem with
    | entry hget =>
      obtain ⟨rfl, hes⟩ := hv.entry
      rw [Step.replace, isWrapped_arguments_iff, Entries.forall_set_iff hes]
    | @element items k n hplace hn =>
      simp only [Step.replace, hplace]
      rw [isWrapped_list_iff, forall_mem_set_iff hv.item hn]
    | piece t => exact absurd rfl (hscalar _)
  · rw [Step.replace, isWrapped_arguments_iff, Entries.forall_set_iff hv.entry.2]

/-- No part of a scalar changes. -/
theorem alter_scalar (c : Change) (t : Scalar) (path : List Step) :
    alter c.apply (.scalar t) path ≠ .ok w := by
  induction path generalizing t w with
  | nil => exact apply_scalar c t
  | cons s rest ih =>
    intro h
    obtain ⟨found, hfind, h⟩ := Outcome.bind_eq_ok.1 h
    cases s with
    | member name => cases hfind
    | item k =>
      obtain ⟨_, rfl, hitem⟩ := isItem_of_item hfind
      cases hitem with
      | piece u =>
        obtain ⟨new, hnew, -⟩ := Outcome.bind_eq_ok.1 h
        exact ih u hnew

theorem find_method {name : Text} {path : List Step} {f : Found}
    (h : find (.method name) path = .ok f) : f = .method name := by
  cases path with
  | nil => exact (Except.ok.inj h).symm
  | cons s rest =>
    obtain ⟨g, hg, -⟩ := find_cons.1 h
    cases s <;> cases hg

/-- **A change at the end of a path keeps a value wrapped** if and only if what it stores is
    wrapped, by induction on the path. -/
theorem isWrapped_alter_iff {path : List Step} (hv : IsWrapped v)
    (h : alter c.apply v path = .ok w) : IsWrapped w ↔ c.StoresWrapped := by
  induction path generalizing v w with
  | nil => exact isWrapped_apply_iff hv h
  | cons s rest ih =>
    have hscalar : ∀ t, v ≠ .scalar t := by
      rintro t rfl
      exact alter_scalar c t _ h
    obtain ⟨found, hfind, h⟩ := Outcome.bind_eq_ok.1 h
    cases found with
    | value part =>
      obtain ⟨new, hnew, hw⟩ := Outcome.bind_eq_ok.1 h
      cases hw
      rw [isWrapped_replace_iff hv hfind hscalar, ih (hv.of_find hfind) hnew]
    | method name =>
      obtain ⟨f, hf, h⟩ := Outcome.bind_eq_ok.1 h
      obtain ⟨u, hu, -⟩ := Outcome.bind_eq_ok.1 h
      rw [find_method hf] at hu
      exact absurd hu (apply_method c name)

end Paths

/-! ### Histories -/

/-- A change of what a path leads to. -/
structure Edit where
  path : List Step
  change : Change

/-- A value after an edit; an edit that fails leaves it as it was. -/
def Edit.after (e : Edit) (v : Value) : Value :=
  match alter e.change.apply v e.path with
  | .ok w => w
  | .error _ => v

/-- The values that a value goes through with a history of edits. -/
def states (v : Value) : List Edit → List Value
  | [] => [v]
  | e :: rest => v :: states (e.after v) rest

/-- Each item assignment of a history that works stores a value without plain mappings. -/
def ItemsWrapped (v : Value) : List Edit → Prop
  | [] => True
  | e :: rest =>
    (∀ w key new, alter e.change.apply v e.path = .ok w → e.change = .setItem key new →
      IsWrapped new) ∧ ItemsWrapped (e.after v) rest

/-- The values that attributes are given are literals: all their mappings are plain. -/
def AssignsLiterals (history : List Edit) : Prop :=
  ∀ e ∈ history, ∀ name new, e.change = .setMember name new → new.plain = new

theorem storesWrapped_of_isLiteral {c : Change}
    (hmember : ∀ name new, c = .setMember name new → new.plain = new) :
    c.StoresWrapped ↔ ∀ key new, c = .setItem key new → IsWrapped new := by
  cases c with
  | setMember name new =>
    rw [storesWrapped_iff rfl]
    exact iff_of_true (isWrapped_wrap (hmember name new rfl)) (fun key new h => by cases h)
  | eraseMember name =>
    exact iff_of_true (storesWrapped_of_none rfl) (fun key new h => by cases h)
  | setItem key new =>
    rw [storesWrapped_iff rfl]
    constructor
    · rintro h _ _ ⟨⟩
      exact h
    · intro h
      exact h key new rfl
  | eraseItem key =>
    exact iff_of_true (storesWrapped_of_none rfl) (fun key new h => by cases h)

/-- One edit of a history. -/
theorem isWrapped_after_iff {e : Edit} {v : Value} (hv : IsWrapped v)
    (hmember : ∀ name new, e.change = .setMember name new → new.plain = new) :
    IsWrapped (e.after v) ↔
      ∀ w key new, alter e.change.apply v e.path = .ok w → e.change = .setItem key new →
        IsWrapped new := by
  unfold Edit.after
  cases halter : alter e.change.apply v e.path with
  | error f => exact iff_of_true hv (fun w key new h => by cases h)
  | ok w =>
    dsimp only
    rw [isWrapped_alter_iff hv halter, storesWrapped_of_isLiteral hmember]
    constructor
    · intro h _ key new _ hnew
      exact h key new hnew
    · intro h key new hnew
      exact h w key new rfl hnew

/-- All states of a history are wrapped if and only if its item assignments store wrapped values. -/
theorem isWrapped_states_iff {v : Value} {history : List Edit} (hv : IsWrapped v)
    (hliterals : AssignsLiterals history) :
    (∀ w ∈ states v history, IsWrapped w) ↔ ItemsWrapped v history := by
  induction history generalizing v with
  | nil => simpa [states, ItemsWrapped] using hv
  | cons e rest ih =>
    obtain ⟨hfirst, hrest⟩ := List.forall_mem_cons.1 hliterals
    rw [states, List.forall_mem_cons, ItemsWrapped, ← isWrapped_after_iff hv hfirst]
    constructor
    · rintro ⟨-, hstates⟩
      have hafter : IsWrapped (e.after v) := by
        apply hstates
        cases rest <;> exact List.mem_cons_self
      exact ⟨hafter, (ih hafter hrest).1 hstates⟩
    · rintro ⟨hafter, hitems⟩
      exact ⟨hv, (ih hafter hrest).2 hitems⟩

/-- **The parts of arguments stay attributes** through a history of changes whose item assignments
    store no plain mappings, and no other history keeps all mappings argument objects.  In each
    state of such a history, whatever a path of keys and indices leads to, the path leads to with
    any of its keys spelled as attributes too. -/
theorem isWrapped_history_iff (v : Value) (history : List Edit) (hv : IsWrapped v)
    (hliterals : AssignsLiterals history) :
    ((∀ w ∈ states v history, IsWrapped w) ↔ ItemsWrapped v history) ∧
      (ItemsWrapped v history → ∀ w ∈ states v history, ∀ path path' part,
        Respelled path path' → find (.value w) path = .ok (.value part) →
          find (.value w) path' = .ok (.value part)) := by
  have hstates := isWrapped_states_iff hv hliterals
  refine ⟨hstates, ?_⟩
  intro hitems w hw path path' part hpath hfind
  exact find_respelled hpath (hstates.2 hitems w hw) hfind

/-- An attribute is given a list with an object in it, whose first item then gets another key. -/
def rowsHistory : List Edit :=
  [⟨[], .setMember (Text.of "rows") (.list [.dict [(.text (Text.of "a"), .scalar (.int 1))]])⟩,
    ⟨[.member (Text.of "rows"), .item (.scalar (.int 0))],
      .setItem (.text (Text.of "keys")) (.list [.scalar .null])⟩]

/-- The arguments after both changes. -/
def rowsArguments : Value :=
  ofEntries [(.text (Text.of "rows"), .list [.dict [(.text (Text.of "a"), .scalar (.int 1)),
    (.text (Text.of "keys"), .list [.scalar .null])]])]

theorem isWrapped_history_iff_rows :
    IsWrapped empty ∧ AssignsLiterals rowsHistory ∧ rowsArguments ∈ states empty rowsHistory ∧
      IsWrapped rowsArguments ∧
      find (.value rowsArguments)
        [.member (Text.of "rows"), .item (.scalar (.int 0)), .member (Text.of "keys")] =
          .ok (.value (.list [.scalar .null])) := by
  have hempty : IsWrapped empty := .arguments (by simp)
  have hliterals : AssignsLiterals rowsHistory := by
    intro e he name new hnew
    simp only [rowsHistory, List.mem_cons, List.not_mem_nil, or_false] at he
    rcases he with rfl | rfl
    · cases hnew
      rfl
    · cases hnew
  have hstates : states empty rowsHistory = [empty, _, rowsArguments] := rfl
  have hitems : ItemsWrapped empty rowsHistory := by
    refine ⟨?_, ?_, trivial⟩
    · intro w key new _ hnew
      cases hnew
    · intro w key new _ hnew
      cases hnew
      exact .list (by simp [IsWrapped.scalar])
  have hmem : rowsArguments ∈ states empty rowsHistory := by simp [hstates]
  obtain ⟨hwrapped, hpaths⟩ := isWrapped_history_iff empty rowsHistory hempty hliterals
  refine ⟨hempty, hliterals, hmem, hwrapped.2 hitems _ hmem, ?_⟩
  have hpath : Respelled
      [.item (.text (Text.of "rows")), .item (.scalar (.int 0)), .item (.text (Text.of "keys"))]
      [.member (Text.of "rows"), .item (.scalar (.int 0)), .member (Text.of "keys")] :=
    .member (by decide) (.item _ (.member (by decide) .nil))
  exact hpaths hitems _ hmem _ _ _ hpath rfl

/-- An item is given an object. -/
def objectEdit : Edit :=
  ⟨[], .setItem (.text (Text.of "a")) (.dict [(.text (Text.of "b"), .scalar (.int 1))])⟩

/-- **An object that is given to an item stays plain**, so its key is an item and no attribute. -/
theorem plain_after_setItem :
    IsWrapped empty ∧ ¬ IsWrapped (objectEdit.after empty) ∧
      find (.value (objectEdit.after empty))
        [.item (.text (Text.of "a")), .item (.text (Text.of "b"))] =
          .ok (.value (.scalar (.int 1))) ∧
      find (.value (objectEdit.after empty)) [.member (Text.of "a"), .member (Text.of "b")] =
        .error (.noAttribute (Text.of "dict") (Text.of "b")) := by
  refine ⟨.arguments (by simp), ?_, rfl, rfl⟩
  intro hwrapped
  have hitem : IsItem (objectEdit.after empty) (.text (Text.of "a"))
      (.dict [(.text (Text.of "b"), .scalar (.int 1))]) := .entry rfl
  cases hwrapped.of_isItem hitem

end TemplatedNotes.Arguments
