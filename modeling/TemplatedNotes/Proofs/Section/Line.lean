/-
  TemplatedNotes/Proofs/Section/Line.lean
  =======================================
  **White space after a line does not change its kind.**

  Fences, opening lines and terminators may have white space at their ends, and the payload of an
  opening line does not include it.  So a line means the same without the carriage return that the
  cut of a text into lines takes off, and without any of them (`DropsBlank`).

  A terminator is no opening line (`payload?_of_isTerminator`).
-/
import Mathlib.Data.List.Induction
import TemplatedNotes.Proofs.Text.Blank
import TemplatedNotes.Proofs.Text.Lines
import TemplatedNotes.Section.Line

namespace TemplatedNotes

namespace Section

/-! ### White space at the end of a line -/

theorem backtick_ne_of_isBlank {c : CodePoint} (hc : c.isBlank = true) : c ≠ backtick := by
  rintro rfl
  exact absurd hc (by decide)

theorem percent_ne_of_isBlank {c : CodePoint} (hc : c.isBlank = true) : c ≠ .scalar '%' := by
  rintro rfl
  exact absurd hc (by decide)

/-- A fence keeps its depth. -/
theorem fenceDepth?_append_blank (line : Text) {c : CodePoint} (hc : c.isBlank = true) :
    fenceDepth? (line ++ [c]) = fenceDepth? line := by
  have hne : c ≠ backtick := backtick_ne_of_isBlank hc
  have htick : (c == backtick) = false := by simpa using hne
  unfold fenceDepth?
  rw [List.takeWhile_append, List.dropWhile_append]
  split
  · -- every code point of the line is a backtick
    next h =>
    have hall : line.takeWhile (· == backtick) = line :=
      (List.takeWhile_prefix _).eq_of_length h
    have hrest : line.dropWhile (· == backtick) = [] := by
      have hsum := List.takeWhile_append_dropWhile (p := (· == backtick)) (l := line)
      rw [hall] at hsum
      simpa using hsum
    simp [hall, hrest, htick, Ne.symm hne]
  · next h =>
    have hrest : (line.dropWhile (· == backtick)).isEmpty = false := by
      rw [Bool.eq_false_iff]
      intro he
      apply h
      have hsum := List.takeWhile_append_dropWhile (p := (· == backtick)) (l := line)
      rw [List.isEmpty_iff.1 he, List.append_nil] at hsum
      rw [hsum]
    simp [hrest, Ne.symm hne]

theorem isTerminator_append_blank (line : Text) {c : CodePoint} (hc : c.isBlank = true) :
    isTerminator (line ++ [c]) = isTerminator line := by
  have hp : c ≠ .scalar '%' := percent_ne_of_isBlank hc
  rcases line with _ | ⟨x, _ | ⟨y, _ | ⟨z, _ | ⟨w, rest⟩⟩⟩⟩
  · simp [isTerminator, terminator, List.isPrefixOf]
  · simp [isTerminator, terminator, List.isPrefixOf]
  · simp [isTerminator, terminator, List.isPrefixOf]
  · simp [isTerminator, terminator, List.isPrefixOf, Ne.symm hp]
  · simp [isTerminator, terminator, List.isPrefixOf, Text.isBlank, hc]

theorem beforeDelimiter?_append_blank (t : Text) {c : CodePoint} (hc : c.isBlank = true) :
    beforeDelimiter? (t ++ [c]) = beforeDelimiter? t := by
  unfold beforeDelimiter?
  rw [Text.trimRight_append_blank t hc]

/-- A line that does not start with a delimiter has no payload. -/
theorem payload?_eq_none {line : Text}
    (h : ∀ rest, line ≠ .scalar '%' :: .scalar '%' :: rest) : payload? line = none := by
  unfold payload?
  split
  · next rest => exact absurd rfl (h rest)
  · rfl

theorem payload?_append_blank (line : Text) {c : CodePoint} (hc : c.isBlank = true) :
    payload? (line ++ [c]) = payload? line := by
  have hp : c ≠ .scalar '%' := percent_ne_of_isBlank hc
  by_cases hd : ∃ rest, line = .scalar '%' :: .scalar '%' :: rest
  · obtain ⟨rest, rfl⟩ := hd
    simp only [List.cons_append, payload?]
    rcases Text.trimLeft_append_blank rest hc with h | ⟨h, h'⟩
    · rw [h, beforeDelimiter?_append_blank _ hc]
    · rw [h, h']
  · have hline : payload? line = none := payload?_eq_none (fun rest e => hd ⟨rest, e⟩)
    rw [hline]
    apply payload?_eq_none
    intro rest e
    -- the blank is none of the two percent signs, so both stand in the line itself
    rcases line with _ | ⟨x, _ | ⟨y, more⟩⟩
    · simp at e
    · simp only [List.cons_append, List.nil_append, List.cons.injEq] at e
      exact hp e.2.1
    · simp only [List.cons_append, List.cons.injEq] at e
      exact hd ⟨more, by rw [e.1, e.2.1]⟩

/-! ### Carriage returns at the ends of lines -/

/-- Takes nothing but white space from the end of a line. -/
def DropsBlank (f : Text → Text) : Prop :=
  ∀ line, ∃ s, line = f line ++ s ∧ ∀ c ∈ s, c.isBlank = true

theorem dropsBlank_chomp : DropsBlank Line.chomp := by
  intro line
  rcases Line.eq_chomp_or line with h | h
  · exact ⟨[], by rwa [List.append_nil], by simp⟩
  · exact ⟨_, h, by decide⟩

theorem dropsBlank_bare : DropsBlank Line.bare := by
  intro line
  refine ⟨_, List.rdropWhile_append_rtakeWhile.symm, fun c hc => ?_⟩
  have hreturn : c = Line.carriageReturn := by simpa using List.mem_rtakeWhile_imp hc
  rw [hreturn]
  decide

/-- What white space after a line does not change is the same without it. -/
theorem DropsBlank.invariant {α : Type} {f : Text → Text} {g : Text → α} (hf : DropsBlank f)
    (h : ∀ (line : Text) (c : CodePoint), c.isBlank = true → g (line ++ [c]) = g line)
    (line : Text) : g (f line) = g line := by
  have hall : ∀ s t : Text, (∀ c ∈ s, c.isBlank = true) → g (t ++ s) = g t := by
    intro s
    induction s with
    | nil =>
      intro t _
      rw [List.append_nil]
    | cons c rest ih =>
      intro t hs
      obtain ⟨hc, hrest⟩ := List.forall_mem_cons.1 hs
      rw [List.append_cons, ih (t ++ [c]) hrest, h t c hc]
  obtain ⟨s, hline, hs⟩ := hf line
  calc g (f line) = g (f line ++ s) := (hall s (f line) hs).symm
    _ = g line := congrArg g hline.symm

theorem DropsBlank.fenceDepth?_eq {f : Text → Text} (hf : DropsBlank f) (line : Text) :
    fenceDepth? (f line) = fenceDepth? line :=
  hf.invariant (fun l _ hc => fenceDepth?_append_blank l hc) line

theorem DropsBlank.isTerminator_eq {f : Text → Text} (hf : DropsBlank f) (line : Text) :
    isTerminator (f line) = isTerminator line :=
  hf.invariant (fun l _ hc => isTerminator_append_blank l hc) line

theorem DropsBlank.payload?_eq {f : Text → Text} (hf : DropsBlank f) (line : Text) :
    payload? (f line) = payload? line :=
  hf.invariant (fun l _ hc => payload?_append_blank l hc) line

/-! ### Terminators -/

theorem isTerminator_iff {line : Text} :
    isTerminator line = true ↔ ∃ rest, line = terminator ++ rest ∧ Text.isBlank rest = true := by
  unfold isTerminator
  rw [Bool.and_eq_true, List.isPrefixOf_iff_prefix]
  constructor
  · rintro ⟨⟨rest, rfl⟩, hb⟩
    exact ⟨rest, rfl, hb⟩
  · rintro ⟨rest, rfl, hb⟩
    exact ⟨List.prefix_append _ _, hb⟩

theorem isTerminator_terminator : isTerminator terminator = true := by decide

theorem fenceDepth?_terminator : fenceDepth? terminator = none := by decide

/-- A terminator is no opening line: nothing stands between its percent signs. -/
theorem payload?_of_isTerminator {line : Text} (h : isTerminator line = true) :
    payload? line = none := by
  obtain ⟨rest, rfl, hb⟩ := isTerminator_iff.1 h
  induction rest using List.reverseRecOn with
  | nil => decide
  | append_singleton rest c ih =>
    have hall : Text.isBlank rest = true ∧ c.isBlank = true := by
      simpa [Text.isBlank] using hb
    rw [← List.append_assoc, payload?_append_blank _ hall.2]
    exact ih (isTerminator_iff.2 ⟨rest, rfl, hall.1⟩) hall.1

end Section

end TemplatedNotes
