/-
  TemplatedNotes/Proofs/KnownPaths/History.lean
  =============================================
  **The known paths after any history of operations.**

  Paths are added to one of two lists, removed from one, or recorded from an expansion, which is to
  make single changes one after the other.  So each list goes through a sequence of moves
  (`list_after`), and what is in it at the end is decided by the last move that names a path.

    * `mem_foldl_apply` — what is in a list after moves;
    * `without_eq_iterate` — to remove a path is to erase its first occurrence as long as there is
      one;
    * `filter_after` — paths that are there after every operation keep their places;
    * `history_spec` — the whole law of both lists.
-/
import Mathlib.Data.List.Infix
import TemplatedNotes.Proofs.KnownPaths

namespace TemplatedNotes.KnownPaths

/-! ### Moves on a list -/

/-- What is done to a list of paths. -/
inductive Move where
  | add (path : Text)
  | remove (path : Text)
deriving DecidableEq

/-- The path that a move names. -/
def Move.path : Move → Text
  | .add path => path
  | .remove path => path

/-- A list after a move. -/
def Move.apply (paths : List Text) : Move → List Text
  | .add path => Expansion.addOnce paths path
  | .remove path => without paths path

variable {paths : List Text} {path : Text} {keep : Text → Bool}

theorem without_of_not_mem (h : path ∉ paths) : without paths path = paths :=
  List.filter_eq_self.2 fun _ hp => bne_iff_ne.2 fun heq => h (heq ▸ hp)

/-- A move decides on the path that it names and on no other. -/
theorem mem_apply {m : Move} :
    path ∈ m.apply paths ↔ m = .add path ∨ path ∈ paths ∧ m.path ≠ path := by
  cases m with
  | add p =>
    have heq : p = path ↔ path = p := eq_comm
    simp only [Move.apply, Move.path, Expansion.mem_addOnce, Move.add.injEq, ne_eq, heq]
    tauto
  | remove p => simp [Move.apply, Move.path, mem_without, eq_comm]

/-- **The last word on a path**: it is in the list if the last move that names it adds it, and if no
    move names it and it was there. -/
theorem mem_foldl_apply {ms : List Move} :
    path ∈ ms.foldl Move.apply paths ↔
      (∃ earlier later, ms = earlier ++ .add path :: later ∧ ∀ m ∈ later, m.path ≠ path) ∨
        path ∈ paths ∧ ∀ m ∈ ms, m.path ≠ path := by
  induction ms generalizing paths with
  | nil => simp
  | cons first rest ih =>
    rw [List.foldl_cons, ih, mem_apply, List.forall_mem_cons]
    constructor
    · rintro (⟨earlier, later, rfl, hlater⟩ | ⟨rfl | ⟨hpath, hfirst⟩, hrest⟩)
      · exact Or.inl ⟨first :: earlier, later, rfl, hlater⟩
      · exact Or.inl ⟨[], rest, rfl, hrest⟩
      · exact Or.inr ⟨hpath, hfirst, hrest⟩
    · rintro (⟨earlier, later, hsplit, hlater⟩ | ⟨hpath, hfirst, hrest⟩)
      · cases earlier with
        | nil =>
          obtain ⟨rfl, rfl⟩ := List.cons.inj hsplit
          exact Or.inr ⟨Or.inl rfl, hlater⟩
        | cons _ earlier =>
          obtain ⟨rfl, rfl⟩ := List.cons.inj hsplit
          exact Or.inl ⟨earlier, later, rfl, hlater⟩
      · exact Or.inr ⟨Or.inr ⟨hpath, hfirst⟩, hrest⟩

theorem without_erase (paths : List Text) (path : Text) :
    without (paths.erase path) path = without paths path := by
  by_cases h : path ∈ paths
  · obtain ⟨before, behind, -, hpaths, herase⟩ := List.exists_erase_eq h
    rw [herase, hpaths]
    simp [without]
  · rw [List.erase_of_not_mem h]

/-- **To remove a path** is to erase its first occurrence as long as there is one. -/
theorem without_eq_iterate (paths : List Text) (path : Text) :
    without paths path = (List.erase · path)^[paths.count path] paths := by
  induction hcount : paths.count path generalizing paths with
  | zero => exact without_of_not_mem (List.count_eq_zero.1 hcount)
  | succ n ih =>
    have hrest : (paths.erase path).count path = n := by
      rw [List.count_erase_self, hcount, Nat.add_sub_cancel]
    rw [Function.iterate_succ_apply, ← ih _ hrest, without_erase]

/-- Paths that are there keep their places when others are added. -/
theorem filter_foldl_addOnce {added : List Text} (h : ∀ p, keep p = true → p ∈ paths) :
    (added.foldl Expansion.addOnce paths).filter keep = paths.filter keep := by
  induction added generalizing paths with
  | nil => rfl
  | cons path rest ih =>
    rw [List.foldl_cons, ih fun p hp => Expansion.mem_addOnce.2 (Or.inl (h p hp))]
    by_cases hmem : path ∈ paths
    · rw [addOnce_of_mem hmem]
    · have hpath : [path].filter keep = [] := by
        rw [List.filter_cons_of_neg (fun hkeep => hmem (h path hkeep)), List.filter_nil]
      rw [addOnce_of_not_mem hmem, List.filter_append, hpath, List.append_nil]

/-- Paths keep their places when others are removed. -/
theorem filter_foldl_without {removed : List Text} (h : ∀ p, keep p = true → p ∉ removed) :
    (removed.foldl without paths).filter keep = paths.filter keep := by
  induction removed generalizing paths with
  | nil => rfl
  | cons path rest ih =>
    have hrest := fun p hp => (List.not_mem_of_not_mem_cons (h p hp) : p ∉ rest)
    rw [List.foldl_cons, ih hrest, without, List.filter_filter]
    refine List.filter_congr fun p _ => ?_
    cases hp : keep p with
    | false => rfl
    | true => exact bne_iff_ne.2 (List.ne_of_not_mem_cons (h p hp))

/-! ### Operations -/

/-- One of the two lists. -/
inductive Side where
  | notes
  | templates
deriving DecidableEq

/-- The list on a side. -/
def list (k : KnownPaths) : Side → List Text
  | .notes => k.notes
  | .templates => k.templates

/-- The change that makes a move on a side. -/
def Change.on : Side → Move → Change
  | .notes, .add path => .addNote path
  | .notes, .remove path => .removeNote path
  | .templates, .add path => .addTemplate path
  | .templates, .remove path => .removeTemplate path

/-- The side of a change. -/
def Change.side : Change → Side
  | .addNote _ | .removeNote _ => .notes
  | .addTemplate _ | .removeTemplate _ => .templates

/-- The move that a change makes on its side. -/
def Change.move : Change → Move
  | .addNote path | .addTemplate path => .add path
  | .removeNote path | .removeTemplate path => .remove path

theorem ext_list {k k' : KnownPaths} (h : ∀ side, k.list side = k'.list side) : k = k' :=
  eq_iff.2 ⟨h .notes, h .templates⟩

/-- A change makes its move on its side and leaves the other list. -/
theorem list_change (k : KnownPaths) (c : Change) (side : Side) :
    (k.change c).list side =
      if c.side = side then c.move.apply (k.list side) else k.list side := by
  cases c <;> cases side <;> rfl

/-- The known paths are changed, or an expansion is recorded. -/
inductive Operation where
  | change (c : Change)
  | record (e : Expansion)

/-- The known paths after an operation. -/
def operate (k : KnownPaths) : Operation → KnownPaths
  | .change c => k.change c
  | .record e => k.record e

/-- The known paths after a history of operations. -/
def after (k : KnownPaths) (history : List Operation) : KnownPaths := history.foldl operate k

/-- The changes that an operation makes. -/
def Operation.changes : Operation → List Change
  | .change c => [c]
  | .record e => KnownPaths.changes e.source e.hadReferences e.used e.removed

theorem operate_eq_foldl (k : KnownPaths) (o : Operation) :
    k.operate o = o.changes.foldl change k := by
  cases o with
  | change c => rfl
  | record e => exact recordPaths_eq_foldl k _ _ _ _

/-- The moves that changes make on a side, in their order. -/
def movesOn (side : Side) (cs : List Change) : List Move :=
  (cs.filter (·.side = side)).map Change.move

theorem list_foldl_change (k : KnownPaths) (cs : List Change) (side : Side) :
    (cs.foldl change k).list side = (movesOn side cs).foldl Move.apply (k.list side) := by
  induction cs generalizing k with
  | nil => rfl
  | cons c rest ih =>
    rw [List.foldl_cons, ih, list_change, movesOn, movesOn]
    by_cases hside : c.side = side
    · rw [if_pos hside, List.filter_cons_of_pos (by simpa using hside), List.map_cons,
        List.foldl_cons]
    · rw [if_neg hside, List.filter_cons_of_neg (by simpa using hside)]

/-- **A list after a history** has made all moves of its operations. -/
theorem list_after (k : KnownPaths) (history : List Operation) (side : Side) :
    (k.after history).list side =
      (movesOn side (history.flatMap Operation.changes)).foldl Move.apply (k.list side) := by
  have hchanges : k.after history = (history.flatMap Operation.changes).foldl change k := by
    rw [after, List.foldl_flatMap]
    congr
    funext k o
    exact operate_eq_foldl k o
  rw [hchanges, list_foldl_change]

/-- On each side, an operation adds some paths and then removes some. -/
theorem list_operate (k : KnownPaths) (o : Operation) (side : Side) :
    ∃ added removed : List Text, (k.operate o).list side =
      removed.foldl without (added.foldl Expansion.addOnce (k.list side)) := by
  cases o with
  | change c =>
    rw [operate, list_change]
    split
    · cases c.move with
      | add path => exact ⟨[path], [], rfl⟩
      | remove path => exact ⟨[], [path], rfl⟩
    · exact ⟨[], [], rfl⟩
  | record e =>
    rw [operate, record_eq]
    cases side with
    | notes =>
      by_cases he : e.hadReferences
      · exact ⟨[e.source], [], if_pos he⟩
      · exact ⟨[], [e.source], if_neg he⟩
    | templates => exact ⟨e.used, e.removed, rfl⟩

/-- Paths that are there before and after an operation keep their places. -/
theorem filter_operate {k : KnownPaths} {o : Operation} {side : Side}
    (hbefore : ∀ p, keep p = true → p ∈ k.list side)
    (hafter : ∀ p, keep p = true → p ∈ (k.operate o).list side) :
    ((k.operate o).list side).filter keep = (k.list side).filter keep := by
  obtain ⟨added, removed, hlist⟩ := list_operate k o side
  rw [hlist] at hafter ⊢
  rw [filter_foldl_without fun p hp => (mem_foldl_without.1 (hafter p hp)).2,
    filter_foldl_addOnce hbefore]

/-- **Paths that are there throughout a history keep their places**, with all repetitions. -/
theorem filter_after {k : KnownPaths} {history : List Operation} {side : Side}
    (h : ∀ past, past <+: history → ∀ p, keep p = true → p ∈ (k.after past).list side) :
    ((k.after history).list side).filter keep = (k.list side).filter keep := by
  induction history generalizing k with
  | nil => rfl
  | cons o rest ih =>
    have hrest : ∀ past, past <+: rest →
        ∀ p, keep p = true → p ∈ ((k.operate o).after past).list side :=
      fun past hpast => h (o :: past) (List.cons_prefix_cons.2 ⟨rfl, hpast⟩)
    calc ((k.after (o :: rest)).list side).filter keep
        = ((k.operate o).list side).filter keep := ih hrest
      _ = (k.list side).filter keep :=
          filter_operate (h [] List.nil_prefix) (hrest [] List.nil_prefix)

/-! ### The law of the lists -/

theorem Change.side_on (side : Side) (m : Move) : (Change.on side m).side = side := by
  cases side <;> cases m <;> rfl

theorem Change.move_on (side : Side) (m : Move) : (Change.on side m).move = m := by
  cases side <;> cases m <;> rfl

theorem list_change_on (k : KnownPaths) (side : Side) (m : Move) :
    (k.change (.on side m)).list side = m.apply (k.list side) := by
  rw [list_change, if_pos (Change.side_on side m), Change.move_on]

/-- A move that leaves its list leaves everything. -/
theorem change_on_eq_self {k : KnownPaths} {side : Side} {m : Move}
    (h : m.apply (k.list side) = k.list side) : k.change (.on side m) = k := by
  refine ext_list fun other => ?_
  rw [list_change, Change.side_on, Change.move_on]
  split
  · next heq => rw [← heq, h]
  · rfl

/-- **The known paths over whole histories**, from any lists, repetitions included, on either side.
    A path is in the list at the end if the last move that names it adds it, or if none does and
    it was there; to record an expansion is to make the changes that it reports, one after the
    other.  Whatever the lists are: to add a path that is there or remove one that is not changes
    nothing, a path that is removed loses all its occurrences one after the other, and a new path
    comes last.  Two paths that are there after every operation keep their order. -/
theorem history_spec (k : KnownPaths) (side : Side) :
    (∀ history path, path ∈ (k.after history).list side ↔
      (∃ earlier later, movesOn side (history.flatMap Operation.changes) =
          earlier ++ .add path :: later ∧ ∀ m ∈ later, m.path ≠ path) ∨
        path ∈ k.list side ∧
          ∀ m ∈ movesOn side (history.flatMap Operation.changes), m.path ≠ path) ∧
    (∀ e, k.record e = (Operation.record e).changes.foldl change k) ∧
    (∀ path, path ∈ k.list side → k.change (.on side (.add path)) = k) ∧
    (∀ path, path ∉ k.list side → k.change (.on side (.remove path)) = k) ∧
    (∀ path, path ∉ (k.change (.on side (.remove path))).list side ∧
      (k.change (.on side (.remove path))).list side =
        (List.erase · path)^[(k.list side).count path] (k.list side)) ∧
    (∀ path, path ∉ k.list side →
      (k.change (.on side (.add path))).list side = k.list side ++ [path]) ∧
    (∀ history p q,
      (∀ past, past <+: history →
        p ∈ (k.after past).list side ∧ q ∈ (k.after past).list side) →
      ((k.after history).list side).filter (fun x => x = p ∨ x = q) =
        (k.list side).filter (fun x => x = p ∨ x = q)) := by
  refine ⟨fun history path => ?_, fun e => operate_eq_foldl k (.record e),
    fun path hpath => change_on_eq_self (addOnce_of_mem hpath),
    fun path hpath => change_on_eq_self (without_of_not_mem hpath),
    fun path => ?_, fun path hpath => ?_, fun history p q hthere => filter_after ?_⟩
  · rw [list_after]
    exact mem_foldl_apply
  · rw [list_change_on]
    exact ⟨fun h => (mem_without.1 h).2 rfl, without_eq_iterate _ path⟩
  · rw [list_change_on]
    exact addOnce_of_not_mem hpath
  · intro past hpast x hx
    rcases of_decide_eq_true hx with rfl | rfl
    · exact (hthere past hpast).1
    · exact (hthere past hpast).2

/-- Lists with repetitions, as a file may hold them. -/
def repeatedPaths : KnownPaths :=
  ⟨["b.md", "a.md", "b.md"].map Text.of, ["t.py", "u.py", "z.py", "t.py", "u.py"].map Text.of⟩

/-- A note is recorded in which `u.py` has worked and was missing too, and `u.py` is added again. -/
def worksAndMissing : List Operation :=
  [.record { Expansion.unchanged (Text.of "a.md") [] with
      hadReferences := true
      used := ["n.py", "u.py"].map Text.of
      removed := [Text.of "u.py"] },
    .change (.addTemplate (Text.of "u.py"))]

theorem history_spec_worksAndMissing :
    ((repeatedPaths.after worksAndMissing).list .templates =
        ["t.py", "z.py", "t.py", "n.py", "u.py"].map Text.of ∧
      Text.of "u.py" ∈ (repeatedPaths.after worksAndMissing).list .templates) ∧
    (Text.of "t.py" ∈ repeatedPaths.list .templates ∧
      repeatedPaths.change (.on .templates (.add (Text.of "t.py"))) = repeatedPaths) ∧
    (Text.of "n.py" ∉ repeatedPaths.list .templates ∧
      repeatedPaths.change (.on .templates (.remove (Text.of "n.py"))) = repeatedPaths ∧
      (repeatedPaths.change (.on .templates (.add (Text.of "n.py")))).list .templates =
        repeatedPaths.list .templates ++ [Text.of "n.py"]) ∧
    ((∀ past, past <+: worksAndMissing →
        Text.of "t.py" ∈ (repeatedPaths.after past).list .templates ∧
          Text.of "z.py" ∈ (repeatedPaths.after past).list .templates) ∧
      ((repeatedPaths.after worksAndMissing).list .templates).filter
          (fun x => x = Text.of "t.py" ∨ x = Text.of "z.py") =
        ["t.py", "z.py", "t.py"].map Text.of) := by
  obtain ⟨hmem, -, hadd, hremove, -, hnew, horder⟩ := history_spec repeatedPaths .templates
  have hthere : ∀ past, past <+: worksAndMissing →
      Text.of "t.py" ∈ (repeatedPaths.after past).list .templates ∧
        Text.of "z.py" ∈ (repeatedPaths.after past).list .templates := by
    have hall : ∀ past ∈ worksAndMissing.inits,
        Text.of "t.py" ∈ (repeatedPaths.after past).list .templates ∧
          Text.of "z.py" ∈ (repeatedPaths.after past).list .templates := by
      decide +kernel
    exact fun past hpast => hall past ((List.mem_inits _ _).2 hpast)
  have hlast : movesOn .templates (worksAndMissing.flatMap Operation.changes) =
      [.add (Text.of "n.py"), .add (Text.of "u.py"), .remove (Text.of "u.py")] ++
        .add (Text.of "u.py") :: [] := by
    decide +kernel
  have hpresent : Text.of "t.py" ∈ repeatedPaths.list .templates := by decide +kernel
  have hfresh : Text.of "n.py" ∉ repeatedPaths.list .templates := by decide +kernel
  refine ⟨⟨by decide +kernel, (hmem _ _).2 (Or.inl ⟨_, _, hlast, by simp⟩)⟩,
    ⟨hpresent, hadd _ hpresent⟩, ⟨hfresh, hremove _ hfresh, hnew _ hfresh⟩, hthere, ?_⟩
  rw [horder _ _ _ hthere]
  decide +kernel

end TemplatedNotes.KnownPaths
