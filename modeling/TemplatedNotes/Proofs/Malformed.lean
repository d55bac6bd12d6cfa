/-
  TemplatedNotes/Proofs/Malformed.lean
  ====================================
  **What a malformed literal does to the note it stands in.**

  An opening line whose literal is refused is ordinary text (`mark_of_refused`), and a note with
  such lines is read, expanded and updated as any other.  One refusal goes through: an escape that
  spells a number of `overflow` or more.  A note cannot be read exactly when a visible line has such
  a literal behind lines that can be read (`readLines_eq_error_iff`).  Then no script runs, and an
  update fails with everything as it was.

  `refused_literals` puts this together; `evaluate_overflowing` is such a literal.
-/
import TemplatedNotes.Proofs.Literal.Refusal
import TemplatedNotes.Proofs.Update
import TemplatedNotes.Runtime.Usual

namespace TemplatedNotes

open TemplatedNotes.Action

/-! ### Lines that cannot be read -/

namespace Reference

variable [Runtime]

/-- A line of the form of an opening line whose literal is refused means nothing. -/
theorem mark_of_refused {line payload : Text} (hpayload : Section.payload? line = some payload)
    (h : Literal.evaluate payload = .ok Arguments.empty) : mark line = .ok .plain := by
  have hopening : opening? line = .ok none := by
    rw [opening?, hpayload]
    show (Literal.evaluate payload >>= _) = _
    rw [h]
    rfl
  have hterminator : Section.isTerminator line = false := by
    cases ht : Section.isTerminator line with
    | false => rfl
    | true =>
      rw [Section.payload?_of_isTerminator ht] at hpayload
      cases hpayload
  unfold mark
  rw [hopening, hterminator]
  rfl

/-- **A note cannot be read** when the literal of a visible opening line cannot be evaluated, and
    the first such line decides how. -/
theorem readLines_eq_error_iff {source : Text} {lines : List Text} {f : Failure} :
    readLines source lines = .error f ↔
      ∃ i line, VisibleAt lines i line ∧ opening? line = .error f ∧
        ∃ rs, readLines source (lines.take i) = .ok rs := by
  rw [readLines_eq, Outcome.map_eq_error, marksFrom_eq_error_iff]
  simp only [markBehind_eq_error_iff]
  constructor
  · rintro ⟨i, line, hl, ⟨⟨hd, hf⟩, ho⟩, ms, hms⟩
    exact ⟨i, line, ⟨hl, hd, hf⟩, ho, _, readLines_eq_ok.2 ⟨ms, hms, rfl⟩⟩
  · rintro ⟨i, line, ⟨hl, hd, hf⟩, ho, rs, hrs⟩
    obtain ⟨ms, hms, -⟩ := readLines_eq_ok.1 hrs
    exact ⟨i, line, hl, ⟨⟨hd, hf⟩, ho⟩, ms, hms⟩

end Reference

/-! ### Expansions and updates that fail -/

namespace Workspace

section

variable [Runtime]

theorem fails_expand_of_read {w : Workspace} {path text : Text} {f : Failure}
    (h : Reference.read path text = .error f) : Fails (expand text path) w f w := by
  have hexpand : Fails (w.host.runner.expand w.policy text path) w.memory f w.memory :=
    Runner.fails_expand_iff.2 (Or.inl ⟨h, rfl⟩)
  refine fails_bind.2 (Or.inr ⟨w, w, gives_get.2 ⟨rfl, rfl⟩, ?_⟩)
  have hrun : (onMemory (w.host.runner.expand w.policy text path)).run.run w =
      (((w.host.runner.expand w.policy text path).run.run w.memory).1,
        { w with memory := ((w.host.runner.expand w.policy text path).run.run w.memory).2 }) := rfl
  have hx : (w.host.runner.expand w.policy text path).run.run w.memory = (.error f, w.memory) :=
    hexpand
  rw [Fails, hrun, hx]

/-- An update of a note that cannot be read fails before it has changed anything. -/
theorem fails_update_of_read {w : Workspace} {path text : Text} {f : Failure}
    (hread : w.vault.read path = .ok text) (h : Reference.read path text = .error f) :
    Fails (update path) w f w := by
  refine fails_bind.2 (Or.inl (fails_bind.2 (Or.inr ⟨w, w, gives_get.2 ⟨rfl, rfl⟩, ?_⟩)))
  refine fails_bind.2 (Or.inr ⟨true, w, gives_lift.2 ⟨Vault.exists?_of_read hread, rfl⟩, ?_⟩)
  refine fails_bind.2 (Or.inr ⟨text, w, gives_lift.2 ⟨hread, rfl⟩, ?_⟩)
  exact fails_bind.2 (Or.inl (fails_expand_of_read h))

/-- **Refused literals.**  The evaluation of a literal gives its arguments, or none when it is
    refused for its syntax, a value out of range or its nesting; only a number of `overflow` or
    more, spelled by an escape in it, makes the evaluation fail.  A line with a refused literal is
    ordinary text.  A note cannot be read exactly when a visible line spells such a number, behind
    lines that can be read; an expansion fails only so or in a section, and an update of a note that
    cannot be read changes nothing. -/
theorem refused_literals (raw source text : Text) :
    ((∃ arguments, Literal.evaluate raw = .ok arguments ∧
        (Literal.parse raw = .ok arguments ∨
          ∃ f, Literal.parse raw = .error f ∧ f.kindName ∈ Literal.ignoredKinds ∧
            arguments = Arguments.empty)) ∨
      ∃ n, Literal.overflow ≤ n ∧ Literal.Spells raw n ∧
        Literal.parse raw = .error (.codePoint n) ∧
        Literal.evaluate raw = .error (.codePoint n)) ∧
    (∀ line f, Section.payload? line = some raw → Literal.parse raw = .error f →
      f.kindName ∈ Literal.ignoredKinds → Reference.mark line = .ok .plain) ∧
    (∀ f, Reference.read source text = .error f ↔
      ∃ i line payload n, Reference.VisibleAt (Line.split text) i line ∧
        Section.payload? line = some payload ∧ Literal.overflow ≤ n ∧
        Literal.parse payload = .error (.codePoint n) ∧ f = .codePoint n ∧
        ∃ rs, Reference.readLines source ((Line.split text).take i) = .ok rs) ∧
    (∀ (σ : Type) (runner : Runner σ) policy s f s',
      Fails (runner.expand policy text source) s f s' ↔
        Reference.read source text = .error f ∧ s' = s ∨
          ∃ rs, Reference.read source text = .ok rs ∧
            Fails (runner.generateAll policy rs) s f s') ∧
    ∀ w f, w.vault.read source = .ok text → Reference.read source text = .error f →
      Fails (update source) w f w := by
  refine ⟨?_, fun line f hpayload hparse hkind => ?_, fun f => ?_,
    fun σ runner policy s f s' => Runner.fails_expand_iff,
    fun w f hread h => fails_update_of_read hread h⟩
  · rcases Literal.evaluate_cases raw with ⟨a, hp, he⟩ | ⟨f, hp, hkind, he⟩ | h
    · exact Or.inl ⟨a, he, Or.inl hp⟩
    · exact Or.inl ⟨Arguments.empty, he, Or.inr ⟨f, hp, hkind, rfl⟩⟩
    · exact Or.inr h
  · exact Reference.mark_of_refused hpayload
      (Literal.evaluate_of_parse_eq_error hparse (Literal.isIgnored_of_mem hkind))
  · unfold Reference.read
    rw [Reference.readLines_eq_error_iff]
    simp only [Reference.opening?_eq_error_iff, Literal.evaluate_eq_error_iff]
    constructor
    · rintro ⟨i, line, hv, ⟨payload, hp, n, hn, hparse, rfl⟩, hrs⟩
      exact ⟨i, line, payload, n, hv, hp, hn, hparse, rfl, hrs⟩
    · rintro ⟨i, line, payload, n, hv, hp, hn, hparse, rfl, hrs⟩
      exact ⟨i, line, hv, ⟨payload, hp, n, hn, hparse, rfl⟩, hrs⟩

end

attribute [local instance] Runtime.usual

/-- A line of prose between percent signs is ordinary text. -/
theorem refused_literals_prose : Reference.mark (Text.of "%% not an object %%") = .ok .plain := by
  have hpayload : Section.payload? (Text.of "%% not an object %%") =
      some (Text.of "not an object") := by decide
  have hrefused : (Literal.parse (Text.of "not an object")).toOption = none := by decide +kernel
  have hevaluate : (Literal.evaluate (Text.of "not an object")).toOption.isSome = true := by
    decide +kernel
  obtain ⟨hcases, hplain, -⟩ := refused_literals (Text.of "not an object") (Text.of "n.md") []
  rcases hcases with ⟨arguments, -, hparse | ⟨f, hparse, hkind, -⟩⟩ | ⟨n, -, -, -, herror⟩
  · rw [hparse] at hrefused
    cases hrefused
  · exact hplain _ f hpayload hparse hkind
  · rw [herror] at hevaluate
    cases hevaluate

/-- **A literal that cannot be evaluated**, and a note that it keeps from being read. -/
theorem evaluate_overflowing :
    (¬ ∃ arguments, Literal.evaluate (Text.of "a: '\\u\x7b80000000\x7d'") = .ok arguments) ∧
      ¬ ∃ rs, Reference.read (Text.of "n.md")
        (Text.of "%% a: '\\u\x7b80000000\x7d' %%\n%% template: 't.py' %%\n%%%%") = .ok rs := by
  have hevaluate : (Literal.evaluate
      (Text.of "a: '\\u\x7b80000000\x7d'")).toOption.isNone = true := by decide +kernel
  have hread : (Reference.read (Text.of "n.md")
      (Text.of "%% a: '\\u\x7b80000000\x7d' %%\n%% template: 't.py' %%\n%%%%")).toOption.isNone =
        true := by decide +kernel
  constructor
  · rintro ⟨arguments, h⟩
    rw [h] at hevaluate
    cases hevaluate
  · rintro ⟨rs, h⟩
    rw [h] at hread
    cases hread

end Workspace

end TemplatedNotes
