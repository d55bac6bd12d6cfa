/-
  TemplatedNotes/Proofs/Text/Pieces.lean
  ======================================
  **Texts of several lines among the lines of a text.**

  A text is its pieces between line feeds (`exists_pieces`), so a text put among lines is those
  pieces put there (`unsplit_append_cons`).  Cutting the whole again keeps every line, up to a
  carriage return at its end (`forall₂_isKept`).  A text is its own lines put together if and
  only if no line of it ends in a carriage return and a line feed (`unsplit_split_iff`).
-/
import Mathlib.Data.List.Forall2
import TemplatedNotes.Proofs.Text.Lines

namespace TemplatedNotes.Line

/-! ### Pieces -/

theorem unsplit_cons (l : Text) {ls : List Text} (h : ls ≠ []) :
    unsplit (l :: ls) = l ++ lineFeed :: unsplit ls := by
  cases ls with
  | nil => exact absurd rfl h
  | cons l' ls => simp [unsplit, Text.join, lineFeed]

/-- A code point in front of lines is in front of their text. -/
theorem unsplit_consFirst (c : CodePoint) {ls : List Text} (h : ls ≠ []) :
    unsplit (consFirst c ls) = c :: unsplit ls := by
  cases ls with
  | nil => exact absurd rfl h
  | cons l ls =>
    cases ls with
    | nil => rfl
    | cons l' ls =>
      rw [consFirst_cons, unsplit_cons (c :: l) (by simp), unsplit_cons l (by simp)]
      rfl

/-- Every text is made of lines without line feeds. -/
theorem exists_pieces (t : Text) :
    ∃ ls, ls ≠ [] ∧ (∀ l ∈ ls, lineFeed ∉ l) ∧ unsplit ls = t := by
  induction t with
  | nil => exact ⟨[[]], by simp, by simp, rfl⟩
  | cons c rest ih =>
    obtain ⟨ls, hne, hfeed, rfl⟩ := ih
    by_cases hc : c = lineFeed
    · subst hc
      exact ⟨[] :: ls, by simp, by simpa using hfeed, unsplit_cons [] hne⟩
    · refine ⟨consFirst c ls, consFirst_ne_nil c ls, ?_, unsplit_consFirst c hne⟩
      cases ls with
      | nil => exact absurd rfl hne
      | cons l ls =>
        obtain ⟨hl, hrest⟩ := List.forall_mem_cons.1 hfeed
        exact List.forall_mem_cons.2 ⟨by simpa using ⟨Ne.symm hc, hl⟩, hrest⟩

/-- Lines put together and then put among others are put among them one by one. -/
theorem unsplit_append_cons (xs : List Text) {ys : List Text} (h : ys ≠ []) (zs : List Text) :
    unsplit (xs ++ unsplit ys :: zs) = unsplit (xs ++ ys ++ zs) := by
  induction xs with
  | nil =>
    induction ys with
    | nil => exact absurd rfl h
    | cons y ys ih =>
      cases ys with
      | nil => rfl
      | cons y' ys =>
        have hrest := ih (by simp)
        rw [List.nil_append, List.nil_append] at hrest ⊢
        rw [List.cons_append, unsplit_cons y (by simp), unsplit_cons y (by simp), ← hrest]
        cases zs with
        | nil => rfl
        | cons z zs =>
          rw [unsplit_cons (y ++ _) (by simp), unsplit_cons (unsplit (y' :: ys)) (by simp)]
          simp
  | cons x xs ih =>
    rw [List.cons_append, List.cons_append, List.cons_append, unsplit_cons x (by simp),
      unsplit_cons x (by simp [h]), ih]

/-! ### Lines that are kept -/

/-- A line that is kept, or has lost a carriage return at its end. -/
def IsKept (old new : Text) : Prop := new = old ∨ old = new ++ [carriageReturn]

theorem isKept_chomp (l : Text) : IsKept l (chomp l) := by
  rcases eq_chomp_or l with h | h
  · exact Or.inl h.symm
  · exact Or.inr h

theorem IsKept.bare_eq {old new : Text} (h : IsKept old new) : bare new = bare old := by
  rcases h with rfl | rfl
  · rfl
  · exact (bare_append_carriageReturn new).symm

/-- A line that does not end in a carriage return is kept as it is. -/
theorem IsKept.eq {old new : Text} (h : IsKept old new) (hold : ¬ EndsInReturn old) :
    new = old := by
  rcases h with h | rfl
  · exact h
  · exact absurd List.getLast?_concat hold

/-- **Lines put together and cut again** are kept. -/
theorem forall₂_isKept {ls : List Text} (hne : ls ≠ []) (hfeed : ∀ l ∈ ls, lineFeed ∉ l) :
    List.Forall₂ IsKept ls (split (unsplit ls)) := by
  rcases List.eq_nil_or_concat ls with rfl | ⟨init, last, rfl⟩
  · exact absurd rfl hne
  · rw [List.concat_eq_append] at hfeed ⊢
    obtain ⟨hinit, hend⟩ := List.forall_mem_append.1 hfeed
    rw [split_unsplit_concat hinit (hend last (List.mem_singleton_self last))]
    refine List.rel_append ?_ (.cons (Or.inl rfl) .nil)
    exact List.forall₂_map_right_iff.2 (List.forall₂_same.2 fun l _ => isKept_chomp l)

theorem exists_of_forall₂_append {α β : Type} {r : α → β → Prop} {xs ys : List α} {zs : List β}
    (h : List.Forall₂ r (xs ++ ys) zs) :
    ∃ xs' ys', zs = xs' ++ ys' ∧ List.Forall₂ r xs xs' ∧ List.Forall₂ r ys ys' :=
  ⟨_, _, (List.take_append_drop xs.length zs).symm, (List.forall₂_take_append zs xs ys h.flip).flip,
    (List.forall₂_drop_append zs xs ys h.flip).flip⟩

theorem map_bare_of_forall₂ {ls ls' : List Text} (h : List.Forall₂ IsKept ls ls') :
    ls'.map bare = ls.map bare := by
  induction h with
  | nil => rfl
  | cons hl _ ih => rw [List.map_cons, List.map_cons, hl.bare_eq, ih]

/-! ### Texts that are their own lines -/

theorem isInfix_cons_iff {c : CodePoint} {t : Text} :
    [carriageReturn, lineFeed] <:+: c :: t ↔
      (c = carriageReturn ∧ t.head? = some lineFeed) ∨ [carriageReturn, lineFeed] <:+: t := by
  rw [List.infix_cons_iff]
  refine or_congr ?_ Iff.rfl
  cases t <;> simp [List.cons_prefix_cons, eq_comm]

/-- **A text is its lines put together** unless a carriage return stands before a line feed. -/
theorem unsplit_split_iff {t : Text} :
    unsplit (split t) = t ↔ ¬ [carriageReturn, lineFeed] <:+: t := by
  induction t using split.induct with
  | case1 => simp [split, unsplit, Text.join]
  | case2 rest ih =>
    have hne : CodePoint.scalar '\n' ≠ carriageReturn := by decide
    rw [split, unsplit_cons [] (split_ne_nil rest), isInfix_cons_iff, List.nil_append,
      show CodePoint.scalar '\n' = lineFeed from rfl, List.cons.injEq, ih]
    simp [show lineFeed ≠ carriageReturn by decide]
  | case3 rest ih =>
    rw [split, unsplit_cons [] (split_ne_nil rest), isInfix_cons_iff]
    simp [lineFeed, carriageReturn]
  | case4 c rest hfeed hreturn ih =>
    have hhead : ¬ (c = carriageReturn ∧ rest.head? = some lineFeed) := by
      rintro ⟨rfl, hh⟩
      obtain ⟨more, rfl⟩ := List.head?_eq_some_iff.1 hh
      exact hreturn more rfl rfl
    have hsplit := split.eq_4 c rest hfeed hreturn
    rw [hsplit, unsplit_consFirst c (split_ne_nil rest), isInfix_cons_iff, List.cons.injEq, ih]
    simp [hhead]

end TemplatedNotes.Line
