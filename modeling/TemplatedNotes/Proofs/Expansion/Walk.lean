/-
  TemplatedNotes/Proofs/Expansion/Walk.lean
  =========================================
  **What the walk through the lines of a note does.**

  The walk goes along the lines once.  It looks for a section at every index it comes to, and
  jumps behind a section's terminator without looking at the lines between.  No section opens
  there, so the jump misses none: the sections are generated one after the other in the order of
  the note, each once, and the new lines are the old ones with what was generated spliced in
  (`splice`).

    * `walk_eq` — the walk is generating in order and then splicing;
    * `expand_eq`, `gives_expand`, `fails_expand_iff` — so is an expansion, behind the reading of
      the sections.
-/
import TemplatedNotes.Expansion
import TemplatedNotes.Proofs.Section.Reading

namespace TemplatedNotes

open TemplatedNotes.Action

variable {σ : Type}

/-! ### Sections in a row of marks -/

namespace Reference

/-- How many lines after an opening line go with its section, the terminator included. -/
def bodyLength (ms : List Mark) : Nat := ((closing ms).map (· + 1)).getD 0

theorem bodyLength_eq_getD (index : Nat) (ms : List Mark) :
    ((closing ms).map (index + 1 + ·)).getD index - index = bodyLength ms := by
  unfold bodyLength
  cases closing ms with
  | none => exact Nat.sub_self index
  | some j =>
    show index + 1 + j - index = j + 1
    omega

/-- No section opens in the body of a section. -/
theorem sections_drop_bodyLength (source : Text) (index : Nat) (ms : List Mark) :
    sections source (index + bodyLength ms) (ms.drop (bodyLength ms)) =
      sections source index ms := by
  induction ms generalizing index with
  | nil => rfl
  | cons m rest ih =>
    cases m with
    | opening script arguments => rfl
    | terminator => rfl
    | plain =>
      cases hc : closing rest with
      | none =>
        have hb : bodyLength (.plain :: rest) = 0 := by simp [bodyLength, closing, hc]
        rw [hb]
        rfl
      | some j =>
        have hb : bodyLength (.plain :: rest) = j + 1 + 1 := by simp [bodyLength, closing, hc]
        have hb' : bodyLength rest = j + 1 := by simp [bodyLength, hc]
        have hrest := ih (index + 1)
        rw [hb'] at hrest
        rw [hb, List.drop_succ_cons, show index + (j + 1 + 1) = index + 1 + (j + 1) by omega]
        exact hrest

/-- A section is found by its index among all sections of the marks around it. -/
theorem find?_sections_append (source : Text) (index : Nat) (pre ms : List Mark) :
    (sections source index (pre ++ ms)).find? (fun r => r.start == index + pre.length) =
      (sections source (index + pre.length) ms).find? (fun r => r.start == index + pre.length) := by
  induction pre generalizing index with
  | nil => rfl
  | cons m rest ih =>
    have hindex : index + (m :: rest).length = index + 1 + rest.length := by
      rw [List.length_cons]
      omega
    rw [List.cons_append, hindex]
    by_cases ho : ∃ script arguments, m = .opening script arguments
    · obtain ⟨script, arguments, rfl⟩ := ho
      rw [sections, List.find?_cons_of_neg, ih]
      have hne : index ≠ index + 1 + rest.length := by omega
      simpa using hne
    · rw [sections_cons _ ho, ih]

theorem le_start_of_mem_sections {source : Text} {index : Nat} {ms : List Mark} {r : Reference}
    (h : r ∈ sections source index ms) : index ≤ r.start := by
  obtain ⟨i, s, a, -, rfl⟩ := mem_sections.1 h
  exact Nat.le_add_right index i

theorem find?_sections_eq_none {source : Text} {index : Nat} (ms : List Mark) :
    (sections source (index + 1) ms).find? (fun r => r.start == index) = none := by
  refine List.find?_eq_none.2 (fun r hr => ?_)
  have hle := le_start_of_mem_sections hr
  have hne : r.start ≠ index := by omega
  simpa using hne

end Reference

/-! ### Splicing -/

/-- The lines of a note with what was generated for its sections, in order: after each opening
    line the next of the generated, in the place of the section's body.  The first `skip` lines
    are left out.  Only the marks say which lines go and stay, so that marks can be spliced too. -/
def Expansion.splice {α : Type} : Nat → List α → List Reference.Mark → List (List α) → List α
  | skip + 1, _ :: lines, _ :: ms, generated => splice skip lines ms generated
  | 0, line :: lines, .opening _ _ :: ms, new :: generated =>
    line :: new ++ splice (Reference.bodyLength ms) lines ms generated
  | 0, line :: lines, _ :: ms, generated => line :: splice 0 lines ms generated
  | _, _, _, _ => []

theorem Expansion.splice_cons {α : Type} {m : Reference.Mark}
    (h : ¬ ∃ script arguments, m = .opening script arguments) (line : α) (lines : List α)
    (ms : List Reference.Mark) (generated : List (List α)) :
    splice 0 (line :: lines) (m :: ms) generated = line :: splice 0 lines ms generated := by
  cases m with
  | opening script arguments => exact absurd ⟨script, arguments, rfl⟩ h
  | plain => rfl
  | terminator => rfl

/-- What `splice` is given fits together: there is a mark for every line, and something generated
    for every section behind the skipped lines. -/
inductive Expansion.Fits {α : Type} :
    Nat → List α → List Reference.Mark → List (List α) → Prop where
  | done (skip : Nat) : Fits skip [] [] []
  | skipped {skip : Nat} {lines : List α} {ms : List Reference.Mark} {generated : List (List α)}
      (line : α) (m : Reference.Mark) (rest : Fits skip lines ms generated) :
      Fits (skip + 1) (line :: lines) (m :: ms) generated
  | opens {lines : List α} {ms : List Reference.Mark} {generated : List (List α)} (line : α)
      (script : Text) (arguments : Value) (new : List α)
      (rest : Fits (Reference.bodyLength ms) lines ms generated) :
      Fits 0 (line :: lines) (.opening script arguments :: ms) (new :: generated)
  | stays {lines : List α} {ms : List Reference.Mark} {generated : List (List α)} (line : α)
      {m : Reference.Mark} (other : ¬ ∃ script arguments, m = .opening script arguments)
      (rest : Fits 0 lines ms generated) : Fits 0 (line :: lines) (m :: ms) generated

theorem Expansion.fits_of_length {α : Type} (source : Text) (index : Nat) {skip : Nat}
    {lines : List α} {ms : List Reference.Mark} {generated : List (List α)}
    (hlen : ms.length = lines.length)
    (hgen : generated.length = (Reference.sections source index (ms.drop skip)).length) :
    Fits skip lines ms generated := by
  induction lines generalizing skip ms generated index with
  | nil =>
    obtain rfl := List.length_eq_zero_iff.1 hlen
    rw [List.drop_nil] at hgen
    obtain rfl := List.length_eq_zero_iff.1 hgen
    exact .done skip
  | cons line rest ih =>
    cases ms with
    | nil => cases hlen
    | cons m ms =>
      have hrest : ms.length = rest.length := Nat.succ.inj hlen
      cases skip with
      | succ skip => exact .skipped line m (ih index hrest hgen)
      | zero =>
        rw [List.drop_zero] at hgen
        by_cases ho : ∃ script arguments, m = .opening script arguments
        · obtain ⟨script, arguments, rfl⟩ := ho
          cases generated with
          | nil => cases hgen
          | cons new generated =>
            refine .opens line script arguments new
              (ih (index + 1 + Reference.bodyLength ms) hrest ?_)
            rw [Reference.sections_drop_bodyLength]
            exact Nat.succ.inj hgen
        · rw [Reference.sections_cons _ ho] at hgen
          exact .stays line ho (ih (index + 1) hrest hgen)

namespace Runner

open Expansion Reference

/-- Generates sections, one after the other. -/
def generateAll (runner : Runner σ) (policy : MissingPolicy) :
    List Reference → Action σ (List Generated)
  | [] => return []
  | r :: rest => do
    let g ← runner.generate policy r
    let gs ← generateAll runner policy rest
    return g :: gs

/-- **The walk is generating all sections in order and then splicing.** -/
theorem walk_eq (runner : Runner σ) (policy : MissingPolicy) (source : Text) (pre : List Mark)
    (skip : Nat) {lines : List Text} {ms : List Mark} (hlen : ms.length = lines.length) :
    runner.walk policy (sections source 0 (pre ++ ms)) pre.length skip lines =
      (do
        let gs ← runner.generateAll policy (sections source (pre.length + skip) (ms.drop skip))
        return (splice skip lines ms (gs.map Generated.lines), gs)) := by
  induction lines generalizing pre skip ms with
  | nil =>
    obtain rfl := List.length_eq_zero_iff.1 hlen
    rw [walk, List.drop_nil, sections, generateAll, pure_bind]
    cases skip <;> rfl
  | cons line rest ih =>
    cases ms with
    | nil => cases hlen
    | cons m ms =>
      have hrest : ms.length = rest.length := Nat.succ.inj hlen
      have hpre : (pre ++ [m]).length = pre.length + 1 := by simp
      have happ : pre ++ m :: ms = pre ++ [m] ++ ms := by simp
      cases skip with
      | succ skip =>
        have hih := ih (pre ++ [m]) skip hrest
        rw [hpre, ← happ] at hih
        rw [walk, hih, List.drop_succ_cons,
          show pre.length + 1 + skip = pre.length + (skip + 1) by omega]
        rfl
      | zero =>
        have hfind := find?_sections_append source 0 pre (m :: ms)
        rw [Nat.zero_add] at hfind
        rw [walk, hfind, List.drop_zero, Nat.add_zero pre.length]
        by_cases ho : ∃ script arguments, m = .opening script arguments
        · obtain ⟨script, arguments, rfl⟩ := ho
          have hih := ih (pre ++ [.opening script arguments]) (bodyLength ms) hrest
          rw [hpre, ← happ, sections_drop_bodyLength] at hih
          rw [sections, List.find?_cons_of_pos (by simp)]
          simp only [generateAll, bind_assoc, pure_bind, bodyLength_eq_getD, hih]
          rfl
        · have hih := ih (pre ++ [m]) 0 hrest
          rw [hpre, ← happ, List.drop_zero, Nat.add_zero] at hih
          rw [sections_cons _ ho, find?_sections_eq_none]
          simp only [hih, bind_assoc, pure_bind, splice_cons ho]

variable [Runtime]

/-- **An expansion** generates the sections that the lines of the note make and splices what was
    generated into them; a note without sections stays as it is. -/
theorem expand_eq (runner : Runner σ) (policy : MissingPolicy) {text : Text} (source : Text)
    {ms : List Mark} (hms : marksFrom [] (Line.split text) = .ok ms) :
    runner.expand policy text source =
      if (sections source 0 ms).isEmpty then return .unchanged source text
      else do
        let gs ← runner.generateAll policy (sections source 0 ms)
        return .ofGenerated source text (sections source 0 ms).length
          (splice 0 (Line.split text) ms (gs.map Generated.lines)) gs := by
  have hread : Action.lift (readLines source (Line.split text)) =
      (pure (sections source 0 ms) : Action σ (List Reference)) := by
    rw [readLines_eq_ok.2 ⟨ms, hms, rfl⟩]
    rfl
  have hwalk := walk_eq runner policy source [] 0 (length_marksFrom hms)
  rw [List.nil_append, List.length_nil, List.drop_zero] at hwalk
  unfold expand
  simp only [hread, pure_bind, hwalk, bind_assoc]

theorem gives_expand {runner : Runner σ} {policy : MissingPolicy} {text source : Text} {s s' : σ}
    {e : Expansion} (h : Gives (runner.expand policy text source) s e s') :
    ∃ ms, marksFrom [] (Line.split text) = .ok ms ∧
      (sections source 0 ms = [] ∧ e = .unchanged source text ∧ s' = s ∨
        sections source 0 ms ≠ [] ∧
          ∃ gs, Gives (runner.generateAll policy (sections source 0 ms)) s gs s' ∧
            e = .ofGenerated source text (sections source 0 ms).length
              (splice 0 (Line.split text) ms (gs.map Generated.lines)) gs) := by
  cases hms : marksFrom [] (Line.split text) with
  | error f =>
    obtain ⟨rs, s₁, hread, -⟩ := gives_bind.1 h
    rw [gives_lift, readLines_eq, hms] at hread
    cases hread.1
  | ok ms =>
    refine ⟨ms, rfl, ?_⟩
    rw [expand_eq runner policy source hms] at h
    by_cases hempty : sections source 0 ms = []
    · rw [hempty] at h
      obtain ⟨rfl, rfl⟩ := gives_pure.1 h
      exact Or.inl ⟨hempty, rfl, rfl⟩
    · rw [if_neg (by simpa using hempty)] at h
      obtain ⟨gs, s₂, hgs, h⟩ := gives_bind.1 h
      obtain ⟨rfl, rfl⟩ := gives_pure.1 h
      exact Or.inr ⟨hempty, gs, hgs, rfl⟩

/-- An expansion fails with the reading of the note, which runs nothing, or with a section. -/
theorem fails_expand_iff {runner : Runner σ} {policy : MissingPolicy} {text source : Text}
    {s s' : σ} {f : Failure} :
    Fails (runner.expand policy text source) s f s' ↔
      Reference.read source text = .error f ∧ s' = s ∨
        ∃ rs, Reference.read source text = .ok rs ∧
          Fails (runner.generateAll policy rs) s f s' := by
  unfold Reference.read
  cases hms : marksFrom [] (Line.split text) with
  | error g =>
    have hread := readLines_eq_error source hms
    constructor
    · intro h
      rcases fails_bind.1 h with h | ⟨rs, s₁, hrs, -⟩
      · exact Or.inl (fails_lift.1 h)
      · rw [gives_lift, hread] at hrs
        cases hrs.1
    · rintro (h | ⟨rs, hrs, -⟩)
      · exact fails_bind.2 (Or.inl (fails_lift.2 h))
      · rw [hread] at hrs
        cases hrs
  | ok ms =>
    have hread : readLines source (Line.split text) =
        .ok (sections source 0 ms) := readLines_eq_ok.2 ⟨ms, hms, rfl⟩
    rw [expand_eq runner policy source hms, hread]
    by_cases hempty : sections source 0 ms = []
    · rw [hempty]
      constructor
      · intro h
        exact absurd h not_fails_pure
      · rintro (⟨h, -⟩ | ⟨rs, hrs, h⟩)
        · cases h
        · cases hrs
          exact absurd h not_fails_pure
    · rw [if_neg (by simpa using hempty)]
      constructor
      · intro h
        rcases fails_bind.1 h with h | ⟨gs, s₁, -, h⟩
        · exact Or.inr ⟨_, rfl, h⟩
        · exact absurd h not_fails_pure
      · rintro (⟨h, -⟩ | ⟨rs, hrs, h⟩)
        · cases h
        · cases hrs
          exact fails_bind.2 (Or.inl h)

end Runner

end TemplatedNotes
