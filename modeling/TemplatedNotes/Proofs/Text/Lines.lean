/-
  TemplatedNotes/Proofs/Text/Lines.lean
  =====================================
  **Cutting a text into lines after putting lines together.**

  The lines of a text hold no line feed.  Lines put together with line feeds are cut at the same
  places again, but a line that ends in a carriage return loses it, because the two characters
  are then one line end (`split_unsplit`); the last line keeps it (`split_unsplit_concat`).  So
  what is left of the lines without the carriage returns at their ends does not change
  (`map_bare_split_unsplit`).
-/
import Mathlib.Data.List.DropRight
import TemplatedNotes.Text.Line

namespace TemplatedNotes.Line

/-- The code point that ends a line. -/
def lineFeed : CodePoint := .scalar '\n'

/-- The code point that counts as part of a line end before a line feed. -/
def carriageReturn : CodePoint := .scalar '\r'

/-- A line without a carriage return at its end; only the last one is taken. -/
def chomp (l : Text) : Text := if l.getLast? = some carriageReturn then l.dropLast else l

/-- Whether a line ends in a carriage return. -/
def EndsInReturn (l : Text) : Prop := l.getLast? = some carriageReturn

instance (l : Text) : Decidable (EndsInReturn l) :=
  inferInstanceAs (Decidable (l.getLast? = some carriageReturn))

theorem chomp_of_not {l : Text} (h : ¬ EndsInReturn l) : chomp l = l := if_neg h

theorem chomp_cons {c : CodePoint} {l : Text} (h : l ≠ [] ∨ c ≠ carriageReturn) :
    chomp (c :: l) = c :: chomp l := by
  cases l with
  | nil =>
    have hc : c ≠ carriageReturn := h.resolve_left (fun hn => hn rfl)
    simp [chomp, hc]
  | cons d rest =>
    unfold chomp
    rw [List.getLast?_cons_cons]
    split <;> simp

/-- A line is its chomped form, with or without a carriage return after it. -/
theorem eq_chomp_or (l : Text) : l = chomp l ∨ l = chomp l ++ [carriageReturn] := by
  unfold chomp
  split
  · next h =>
    obtain ⟨ys, hy⟩ := List.getLast?_eq_some_iff.1 h
    exact Or.inr (by rw [hy, List.dropLast_concat])
  · exact Or.inl rfl

/-- A line without any carriage returns at its end. -/
def bare (l : Text) : Text := l.rdropWhile (· == carriageReturn)

theorem bare_append_carriageReturn (l : Text) : bare (l ++ [carriageReturn]) = bare l :=
  List.rdropWhile_concat_pos (· == carriageReturn) l carriageReturn (by decide)

theorem bare_chomp (l : Text) : bare (chomp l) = bare l := by
  rcases eq_chomp_or l with h | h
  · rw [← h]
  · exact (bare_append_carriageReturn (chomp l)).symm.trans (congrArg bare h.symm)

/-! ### Lines of a text -/

theorem split_lineFeed (t : Text) : split (lineFeed :: t) = [] :: split t := by
  simp [lineFeed, split]

theorem split_carriageReturn_lineFeed (t : Text) :
    split (carriageReturn :: lineFeed :: t) = [] :: split t := by
  simp [lineFeed, carriageReturn, split]

theorem split_cons {c : CodePoint} {t : Text} (hc : c ≠ lineFeed)
    (ht : c ≠ carriageReturn ∨ t.head? ≠ some lineFeed) :
    split (c :: t) = consFirst c (split t) := by
  rw [split]
  · exact fun h => hc h
  · rintro rest hr rfl
    rcases ht with ht | ht
    · exact ht hr
    · exact ht rfl

theorem consFirst_cons (c : CodePoint) (l : Text) (ls : List Text) :
    consFirst c (l :: ls) = (c :: l) :: ls := rfl

/-- A line feed ends the line before it, and with it a carriage return. -/
theorem split_append_lineFeed {l : Text} (h : lineFeed ∉ l) (t : Text) :
    split (l ++ lineFeed :: t) = chomp l :: split t := by
  induction l with
  | nil => exact split_lineFeed t
  | cons c rest ih =>
    have hc : c ≠ lineFeed := fun e => h (e ▸ List.mem_cons_self)
    have hrest : lineFeed ∉ rest := fun m => h (List.mem_cons_of_mem _ m)
    by_cases hlast : rest = [] ∧ c = carriageReturn
    · obtain ⟨rfl, rfl⟩ := hlast
      exact split_carriageReturn_lineFeed t
    · have hcr : rest ≠ [] ∨ c ≠ carriageReturn := by
        by_cases hr : rest = []
        · exact Or.inr (fun e => hlast ⟨hr, e⟩)
        · exact Or.inl hr
      have hhead : c ≠ carriageReturn ∨ (rest ++ lineFeed :: t).head? ≠ some lineFeed := by
        rcases hcr with hr | hr
        · cases rest with
          | nil => exact absurd rfl hr
          | cons d more =>
            refine Or.inr (fun e => hrest ?_)
            rw [List.cons_append, List.head?_cons] at e
            rw [Option.some.inj e]
            exact List.mem_cons_self
        · exact Or.inl hr
      rw [List.cons_append, split_cons hc hhead, ih hrest, consFirst_cons, chomp_cons hcr]

theorem split_of_not_mem {l : Text} (h : lineFeed ∉ l) : split l = [l] := by
  induction l with
  | nil => rfl
  | cons c rest ih =>
    have hc : c ≠ lineFeed := fun e => h (e ▸ List.mem_cons_self)
    have hrest : lineFeed ∉ rest := fun m => h (List.mem_cons_of_mem _ m)
    have hhead : rest.head? ≠ some lineFeed := fun e => hrest (List.mem_of_mem_head? e)
    rw [split_cons hc (Or.inr hhead), ih hrest, consFirst_cons]

theorem lineFeed_not_mem_of_mem_split (t : Text) : ∀ l ∈ split t, lineFeed ∉ l := by
  induction t using split.induct with
  | case1 => simp [split]
  | case2 rest ih =>
    intro l hl
    rw [split] at hl
    rcases List.mem_cons.1 hl with rfl | hl
    · simp
    · exact ih l hl
  | case3 rest ih =>
    intro l hl
    rw [split] at hl
    rcases List.mem_cons.1 hl with rfl | hl
    · simp
    · exact ih l hl
  | case4 c rest hfeed hreturn ih =>
    intro l hl
    rw [split] at hl
    · cases hs : split rest with
      | nil => exact absurd hs (split_ne_nil rest)
      | cons first more =>
        rw [hs] at hl ih
        rcases List.mem_cons.1 hl with rfl | hl
        · intro hm
          rcases List.mem_cons.1 hm with hm | hm
          · exact hfeed hm.symm
          · exact ih first List.mem_cons_self hm
        · exact ih l (List.mem_cons_of_mem _ hl)
    · exact hfeed
    · exact hreturn

/-- Lines put together and cut again: those that ended in a carriage return have lost it, the last
    line apart, which no line feed follows. -/
theorem split_unsplit_concat {ls : List Text} {last : Text} (hfeed : ∀ l ∈ ls, lineFeed ∉ l)
    (hlast : lineFeed ∉ last) : split (unsplit (ls ++ [last])) = ls.map chomp ++ [last] := by
  induction ls with
  | nil => exact split_of_not_mem hlast
  | cons l rest ih =>
    obtain ⟨hl, hrest⟩ := List.forall_mem_cons.1 hfeed
    have hjoin : unsplit (l :: (rest ++ [last])) = l ++ lineFeed :: unsplit (rest ++ [last]) := by
      cases rest <;> simp [unsplit, Text.join, lineFeed]
    rw [List.cons_append, hjoin, split_append_lineFeed hl, ih hrest]
    rfl

theorem split_unsplit {ls : List Text} (hne : ls ≠ []) (hfeed : ∀ l ∈ ls, lineFeed ∉ l)
    (hlast : ∀ l, ls.getLast? = some l → ¬ EndsInReturn l) :
    split (unsplit ls) = ls.map chomp := by
  rcases List.eq_nil_or_concat ls with rfl | ⟨init, last, rfl⟩
  · exact absurd rfl hne
  · rw [List.concat_eq_append] at hfeed hlast ⊢
    obtain ⟨hinit, hend⟩ := List.forall_mem_append.1 hfeed
    have hchomp : chomp last = last := chomp_of_not (hlast last List.getLast?_concat)
    rw [split_unsplit_concat hinit (hend last (List.mem_singleton_self last)), List.map_append,
      List.map_singleton, hchomp]

/-- Up to carriage returns at their ends, lines put together and cut again are the same. -/
theorem map_bare_split_unsplit {ls : List Text} (hne : ls ≠ []) (hfeed : ∀ l ∈ ls, lineFeed ∉ l) :
    (split (unsplit ls)).map bare = ls.map bare := by
  rcases List.eq_nil_or_concat ls with rfl | ⟨init, last, rfl⟩
  · exact absurd rfl hne
  · rw [List.concat_eq_append] at hfeed ⊢
    obtain ⟨hinit, hend⟩ := List.forall_mem_append.1 hfeed
    rw [split_unsplit_concat hinit (hend last (List.mem_singleton_self last)), List.map_append,
      List.map_append, List.map_map]
    exact congrArg (· ++ _) (List.map_congr_left fun l _ => bare_chomp l)

end TemplatedNotes.Line
