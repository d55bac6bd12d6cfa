/-
  TemplatedNotes/Proofs/Frontmatter.lean
  ======================================
  **A note is its block and its body, and nothing else.**

  A block ends before the first line feed behind which the mark stands again, which is where the
  first later line starts with the mark (`lineFeed_cons_infix_iff`).  What is left of that line goes
  with the mark, and the body is all the text behind it, so the parts put together are the note
  (`IsCut`).  The body may have marks of its own: only the first later one counts.

    * `cut?_eq_some_iff`, `cut?_eq_none_iff` — where a note is cut, and which notes are not;
    * `split_spec` — what the frontmatter and the body of a note are.
-/
import Mathlib.Data.List.Infix
import TemplatedNotes.Frontmatter
import TemplatedNotes.Proofs.Action
import TemplatedNotes.Proofs.Text.Lines
import TemplatedNotes.Runtime.Usual

namespace TemplatedNotes

/-! ### Lines that start with a mark -/

namespace Line

variable {mark t : Text}

/-- A mark without line ends starts a text if and only if it starts its first line. -/
theorem isPrefix_head_split_iff (hfeed : lineFeed ∉ mark) (hreturn : carriageReturn ∉ mark) :
    mark <+: t ↔ mark <+: (split t).head (split_ne_nil t) := by
  induction t using split.induct generalizing mark with
  | case1 => simp [split]
  | case2 rest =>
    cases mark with
    | nil => simp
    | cons c mark =>
      have hc : c ≠ lineFeed := fun h => hfeed (h ▸ List.mem_cons_self)
      simp [split, List.cons_prefix_cons, show c ≠ .scalar '\n' from hc]
  | case3 rest =>
    cases mark with
    | nil => simp
    | cons c mark =>
      have hc : c ≠ carriageReturn := fun h => hreturn (h ▸ List.mem_cons_self)
      simp [split, List.cons_prefix_cons, show c ≠ .scalar '\r' from hc]
  | case4 c rest hc hcr ih =>
    have hsplit := split.eq_4 c rest hc hcr
    cases hs : split rest with
    | nil => exact absurd hs (split_ne_nil rest)
    | cons first more =>
      simp only [hs, List.head_cons] at ih
      simp only [hsplit, hs, consFirst_cons, List.head_cons]
      cases mark with
      | nil => simp
      | cons d mark =>
        rw [List.mem_cons, not_or] at hfeed hreturn
        rw [List.cons_prefix_cons, List.cons_prefix_cons, ih hfeed.2 hreturn.2]

theorem exists_mem_split_iff (hfeed : lineFeed ∉ mark) (hreturn : carriageReturn ∉ mark) :
    (∃ line ∈ split t, mark <+: line) ↔
      mark <+: t ∨ ∃ line ∈ (split t).tail, mark <+: line := by
  have hhead : mark <+: t ↔ _ := isPrefix_head_split_iff hfeed hreturn
  cases hs : split t with
  | nil => exact absurd hs (split_ne_nil t)
  | cons first more =>
    simp only [hs, List.head_cons] at hhead
    simp [hhead]

/-- **A mark stands behind a line feed** if and only if a line other than the first starts with it. -/
theorem lineFeed_cons_infix_iff (hfeed : lineFeed ∉ mark) (hreturn : carriageReturn ∉ mark) :
    lineFeed :: mark <:+: t ↔ ∃ line ∈ (split t).tail, mark <+: line := by
  induction t using split.induct with
  | case1 => simp [split]
  | case2 rest ih =>
    rw [List.infix_cons_iff, ih, show CodePoint.scalar '\n' = lineFeed from rfl, split_lineFeed,
      List.cons_prefix_cons, List.tail_cons, exists_mem_split_iff hfeed hreturn]
    simp
  | case3 rest ih =>
    rw [List.infix_cons_iff, List.infix_cons_iff, ih,
      show CodePoint.scalar '\n' = lineFeed from rfl,
      show CodePoint.scalar '\r' = carriageReturn from rfl, split_carriageReturn_lineFeed,
      List.cons_prefix_cons, List.cons_prefix_cons, List.tail_cons, exists_mem_split_iff hfeed hreturn]
    simp [show lineFeed ≠ carriageReturn by decide]
  | case4 c rest hc hcr ih =>
    have hsplit := split.eq_4 c rest hc hcr
    have hne : lineFeed ≠ c := fun h => hc h.symm
    rw [List.infix_cons_iff, ih, hsplit, List.cons_prefix_cons]
    cases hs : split rest with
    | nil => exact absurd hs (split_ne_nil rest)
    | cons first more => simp [consFirst_cons, hne]

/-- The same behind a line feed of its own: then the first line counts too. -/
theorem lineFeed_cons_infix_cons_iff (hfeed : lineFeed ∉ mark) (hreturn : carriageReturn ∉ mark) :
    lineFeed :: mark <:+: lineFeed :: t ↔ ∃ line ∈ split t, mark <+: line := by
  rw [lineFeed_cons_infix_iff hfeed hreturn, split_lineFeed, List.tail_cons]

end Line

/-! ### The first place of a mark -/

namespace Text

open Line

variable {mark t before after : Text}

theorem splitAtFirst_append (h : splitAtFirst mark t = some (before, after)) :
    t = before ++ mark ++ after := by
  induction t generalizing before with
  | nil =>
    rw [splitAtFirst] at h
    split at h
    · next hmark =>
      cases h
      simpa using hmark
    · cases h
  | cons c rest ih =>
    rw [splitAtFirst] at h
    split at h
    · next hbegins =>
      cases h
      obtain ⟨more, hmore⟩ := List.isPrefixOf_iff_prefix.1 hbegins
      rw [← hmore, List.drop_left, List.nil_append]
    · obtain ⟨⟨b, a⟩, hrest, he⟩ := Option.map_eq_some_iff.1 h
      cases he
      rw [ih hrest]
      rfl

theorem splitAtFirst_eq_none_iff (hmark : mark ≠ []) :
    splitAtFirst mark t = none ↔ ¬ mark <:+: t := by
  induction t with
  | nil => simp [splitAtFirst, hmark]
  | cons c rest ih =>
    rw [splitAtFirst, List.infix_cons_iff]
    split
    · next h => exact iff_of_false (by simp) (by simp [List.isPrefixOf_iff_prefix.1 h])
    · next h =>
      rw [Option.map_eq_none_iff, ih, not_or]
      exact ⟨fun hrest => ⟨fun hp => h (List.isPrefixOf_iff_prefix.2 hp), hrest⟩, And.right⟩

/-- A mark without line feeds that starts a text ends before the first line feed of the text. -/
theorem isPrefix_of_append_lineFeed (hfeed : lineFeed ∉ mark)
    (h : mark <+: before ++ lineFeed :: after) : mark <+: before := by
  induction before generalizing mark with
  | nil =>
    cases mark with
    | nil => exact List.nil_prefix
    | cons c mark =>
      obtain ⟨rfl, -⟩ := List.cons_prefix_cons.1 h
      exact absurd List.mem_cons_self hfeed
  | cons d before ih =>
    cases mark with
    | nil => exact List.nil_prefix
    | cons c mark =>
      obtain ⟨hc, hrest⟩ := List.cons_prefix_cons.1 h
      exact List.cons_prefix_cons.2 ⟨hc, ih (fun hm => hfeed (List.mem_cons_of_mem c hm)) hrest⟩

/-- **A mark behind a line feed is found at its first place**: what comes before has none, and none
    can begin there and end behind it, because it would go over a line feed. -/
theorem splitAtFirst_lineFeed (hfeed : lineFeed ∉ mark) (h : ¬ lineFeed :: mark <:+: before) :
    splitAtFirst (lineFeed :: mark) (before ++ (lineFeed :: mark) ++ after) =
      some (before, after) := by
  induction before with
  | nil =>
    have hbegins : (lineFeed :: mark).isPrefixOf (lineFeed :: (mark ++ after)) = true :=
      List.isPrefixOf_iff_prefix.2 (List.prefix_append (lineFeed :: mark) after)
    rw [List.nil_append, List.cons_append, splitAtFirst, if_pos hbegins, ← List.cons_append,
      List.drop_left]
  | cons c before ih =>
    rw [List.infix_cons_iff, not_or] at h
    have hno : ¬ (lineFeed :: mark).isPrefixOf
        (c :: (before ++ (lineFeed :: mark) ++ after)) = true := by
      intro hbegins
      obtain ⟨hc, hmark⟩ := List.cons_prefix_cons.1 (List.isPrefixOf_iff_prefix.1 hbegins)
      rw [List.append_assoc, List.cons_append] at hmark
      exact h.1 (List.cons_prefix_cons.2 ⟨hc, isPrefix_of_append_lineFeed hfeed hmark⟩)
    rw [List.cons_append, List.cons_append, splitAtFirst, if_neg hno, ih h.2]
    rfl

/-- What comes before the first place of a mark behind a line feed has none. -/
theorem not_infix_of_splitAtFirst (h : splitAtFirst mark t = some (before, after))
    (hmark : mark ≠ []) : ¬ mark <:+: before := by
  induction t generalizing before with
  | nil =>
    rw [splitAtFirst] at h
    split at h
    · cases h
      simpa using hmark
    · cases h
  | cons c rest ih =>
    rw [splitAtFirst] at h
    split at h
    · cases h
      simpa using hmark
    · next hno =>
      obtain ⟨⟨b, a⟩, hrest, he⟩ := Option.map_eq_some_iff.1 h
      cases he
      rw [List.infix_cons_iff, not_or]
      refine ⟨fun hbegins => hno (List.isPrefixOf_iff_prefix.2 ?_), ih hrest⟩
      rw [splitAtFirst_append hrest, List.append_assoc, ← List.cons_append]
      exact hbegins.trans (List.prefix_append _ _)

end Text

/-! ### Cutting a note -/

namespace Frontmatter

open Line

variable {t block body : Text}

/-- A note begins with the mark, goes on with a block in which the mark stands behind no line feed,
    with the mark behind one, and with what is left of that line; the body is all that follows the
    end of the line, and empty if the note ends there. -/
inductive IsCut : Text → Text → Text → Prop where
  | ended {block left : Text} (hfirst : ¬ lineFeed :: fence <:+: block) (hleft : lineFeed ∉ left) :
      IsCut (fence ++ block ++ (lineFeed :: fence) ++ left) block []
  | followed {block left body : Text} (hfirst : ¬ lineFeed :: fence <:+: block)
      (hleft : lineFeed ∉ left) :
      IsCut (fence ++ block ++ (lineFeed :: fence) ++ (left ++ lineFeed :: body)) block body

theorem lineFeed_not_mem_fence : lineFeed ∉ fence := by decide

theorem carriageReturn_not_mem_fence : carriageReturn ∉ fence := by decide

/-- The rest of a line and what follows its end. -/
theorem exists_left (after : Text) :
    ∃ left, lineFeed ∉ left ∧
      (after = left ∧ (after.dropWhile (· != lineFeed)).drop 1 = [] ∨
        after = left ++ lineFeed :: (after.dropWhile (· != lineFeed)).drop 1) := by
  induction after with
  | nil => exact ⟨[], by simp, Or.inl ⟨rfl, rfl⟩⟩
  | cons c after ih =>
    by_cases hc : c = lineFeed
    · subst hc
      exact ⟨[], by simp, Or.inr (by simp [lineFeed])⟩
    · have hdrop : (c :: after).dropWhile (· != lineFeed) =
          after.dropWhile (· != lineFeed) :=
        List.dropWhile_cons_of_pos (by simpa using hc)
      obtain ⟨left, hleft, hafter⟩ := ih
      refine ⟨c :: left, by simpa using ⟨Ne.symm hc, hleft⟩, ?_⟩
      rw [hdrop]
      rcases hafter with ⟨h, hnil⟩ | h
      · exact Or.inl ⟨congrArg (c :: ·) h, hnil⟩
      · exact Or.inr (congrArg (c :: ·) h)

theorem dropWhile_left {left : Text} (hleft : lineFeed ∉ left) (rest : Text) :
    (left ++ rest).dropWhile (· != lineFeed) = rest.dropWhile (· != lineFeed) := by
  apply List.dropWhile_append_of_pos
  intro c hc
  simpa using fun h : c = lineFeed => hleft (h ▸ hc)

theorem drop_left_lineFeed {left : Text} (hleft : lineFeed ∉ left) (body : Text) :
    ((left ++ lineFeed :: body).dropWhile (· != lineFeed)).drop 1 = body := by
  rw [dropWhile_left hleft]
  rfl

theorem drop_left {left : Text} (hleft : lineFeed ∉ left) :
    (left.dropWhile (· != lineFeed)).drop 1 = [] := by
  rw [← List.append_nil left, dropWhile_left hleft]
  rfl

theorem cut?_fence (t : Text) :
    cut? (fence ++ t) = (Text.splitAtFirst (lineFeed :: fence) t).map (fun p =>
      (p.1, (p.2.dropWhile (· != lineFeed)).drop 1)) := by
  have hbegins : fence.isPrefixOf (fence ++ t) = true :=
    List.isPrefixOf_iff_prefix.2 (List.prefix_append fence t)
  have hdrop : (fence ++ t).drop 3 = t := rfl
  have hmark : (CodePoint.scalar '\n' :: fence) = lineFeed :: fence := rfl
  rw [cut?, if_pos hbegins, hdrop, hmark]
  cases Text.splitAtFirst (lineFeed :: fence) t with
  | none => rfl
  | some p => rfl

/-- **Where a note is cut.** -/
theorem cut?_eq_some_iff : cut? t = some (block, body) ↔ IsCut t block body := by
  constructor
  · intro h
    by_cases hbegins : fence <+: t
    · obtain ⟨rest, rfl⟩ := hbegins
      rw [cut?_fence] at h
      obtain ⟨⟨b, after⟩, hsplit, he⟩ := Option.map_eq_some_iff.1 h
      cases he
      have hfirst := Text.not_infix_of_splitAtFirst hsplit (by simp)
      obtain ⟨left, hleft, hafter⟩ := exists_left after
      rw [Text.splitAtFirst_append hsplit, ← List.append_assoc, ← List.append_assoc]
      rcases hafter with ⟨rfl, hnil⟩ | hafter
      · rw [hnil]
        exact .ended hfirst hleft
      · have hcut : IsCut _ b ((after.dropWhile (· != lineFeed)).drop 1) :=
          .followed hfirst hleft
        rwa [← hafter] at hcut
    · rw [cut?, if_neg (fun hp => hbegins (List.isPrefixOf_iff_prefix.1 hp))] at h
      cases h
  · intro h
    cases h with
    | ended hfirst hleft =>
      rw [List.append_assoc, List.append_assoc, cut?_fence, ← List.append_assoc,
        Text.splitAtFirst_lineFeed lineFeed_not_mem_fence hfirst, Option.map_some,
        drop_left hleft]
    | followed hfirst hleft =>
      rw [List.append_assoc, List.append_assoc, cut?_fence, ← List.append_assoc,
        Text.splitAtFirst_lineFeed lineFeed_not_mem_fence hfirst, Option.map_some,
        drop_left_lineFeed hleft]

/-- A note with a block starts with the mark, and so does another line of it. -/
def HasBlock (t : Text) : Prop := fence <+: t ∧ ∃ line ∈ (Line.split t).tail, fence <+: line

/-- **A note is not cut** if and only if it has no block. -/
theorem cut?_eq_none_iff : cut? t = none ↔ ¬ HasBlock t := by
  unfold HasBlock
  rw [← lineFeed_cons_infix_iff lineFeed_not_mem_fence carriageReturn_not_mem_fence]
  by_cases hbegins : fence <+: t
  · obtain ⟨rest, rfl⟩ := hbegins
    have hrest : lineFeed :: fence <:+: fence ++ rest ↔ lineFeed :: fence <:+: rest := by
      simp [fence, List.infix_cons_iff, List.cons_prefix_cons, lineFeed]
    rw [cut?_fence, Option.map_eq_none_iff, Text.splitAtFirst_eq_none_iff (by simp), hrest]
    simp
  · rw [cut?, if_neg (fun hp => hbegins (List.isPrefixOf_iff_prefix.1 hp))]
    simp [hbegins]

/-- The body ends the note. -/
theorem IsCut.isSuffix (h : IsCut t block body) : body <:+ t := by
  cases h with
  | ended => exact List.nil_suffix
  | @followed block left body =>
    exact ⟨fence ++ block ++ (lineFeed :: fence) ++ (left ++ [lineFeed]), by simp⟩

/-! ### What a block says -/

/-- The entries that a block gives: those of its mapping, and none if it is malformed YAML or
    something else than a mapping. -/
inductive Says [Runtime] (block : Text) : Entries Value → Prop where
  | mapping {kind : MappingKind} {es : Entries Value}
      (h : Runtime.loadYaml block = .ok (.mapping kind es)) : Says block es
  | nothing (hmapping : ∀ kind es, Runtime.loadYaml block ≠ .ok (.mapping kind es))
      (hfailure : ∀ f, Runtime.loadYaml block ≠ .error (.failure f)) : Says block []

theorem entries_eq_ok_iff [Runtime] {es : Entries Value} :
    entries block = .ok es ↔ Says block es := by
  unfold entries
  constructor
  · intro h
    split at h
    · next hload =>
      cases h
      exact .mapping hload
    · next v hno hload =>
      cases h
      exact .nothing (fun kind es he => hno kind es (Except.ok.inj (hload.symm.trans he)))
        (fun f he => by cases hload.symm.trans he)
    · next hload =>
      cases h
      exact .nothing (fun kind es he => by cases hload.symm.trans he)
        (fun f he => by cases hload.symm.trans he)
    · cases h
  · intro h
    cases h with
    | mapping h => rw [h]
    | nothing hmapping hfailure =>
      split
      · next hload => exact absurd hload (hmapping _ _)
      · rfl
      · rfl
      · next hload => exact absurd hload (hfailure _)

theorem split_eq_ok_iff [Runtime] {es : Entries Value} :
    split t = .ok (es, body) ↔
      (∃ block, IsCut t block body ∧ Says block es) ∨ ¬ HasBlock t ∧ es = [] ∧ body = t := by
  rw [← cut?_eq_none_iff]
  unfold split
  cases hcut : cut? t with
  | none =>
    have hno : ∀ block, ¬ IsCut t block body := by
      intro block h
      rw [← cut?_eq_some_iff, hcut] at h
      cases h
    simp [hno, eq_comm]
  | some p =>
    obtain ⟨b, a⟩ := p
    constructor
    · intro h
      obtain ⟨es', hes, he⟩ := Outcome.map_eq_ok.1 h
      cases he
      exact Or.inl ⟨b, cut?_eq_some_iff.1 hcut, entries_eq_ok_iff.1 hes⟩
    · rintro (⟨block, hblock, hes⟩ | ⟨h, -⟩)
      · rw [cut?_eq_some_iff.2 hblock] at hcut
        cases hcut
        exact Outcome.map_eq_ok.2 ⟨es, entries_eq_ok_iff.2 hes, rfl⟩
      · cases h

/-- A note written from the lines of a block and a body. -/
def compose (lines body : Text) : Text :=
  fence ++ (lineFeed :: lines) ++ (lineFeed :: fence) ++ (lineFeed :: body)

/-- **A note is its frontmatter and its body.**  The body ends the note, and with what stands
    before it, the block between its marks, it is all of the note.  A note without a block is all
    body.  And a note that was written from a block none of whose lines starts with the mark and
    from a body gives them back, whatever the body is, if the block says anything at all. -/
theorem split_spec [Runtime] :
    (∀ t es body, split t = .ok (es, body) → body <:+ t ∧
      (HasBlock t → ∃ block, IsCut t block body ∧ Says block es)) ∧
    (∀ t, (¬ fence <+: t ∨ ∀ line ∈ (Line.split t).tail, ¬ fence <+: line) →
      split t = .ok ([], t)) ∧
    ∀ lines body, (∀ line ∈ Line.split lines, ¬ fence <+: line) →
      (∀ f, Runtime.loadYaml (lineFeed :: lines) ≠ .error (.failure f)) →
      (∀ kind es, Runtime.loadYaml (lineFeed :: lines) = .ok (.mapping kind es) →
        split (compose lines body) = .ok (es, body)) ∧
      ((∀ kind es, Runtime.loadYaml (lineFeed :: lines) ≠ .ok (.mapping kind es)) →
        split (compose lines body) = .ok ([], body)) := by
  refine ⟨?_, ?_, ?_⟩
  · intro t es body h
    rcases split_eq_ok_iff.1 h with ⟨block, hcut, hsays⟩ | ⟨hno, -, rfl⟩
    · exact ⟨hcut.isSuffix, fun _ => ⟨block, hcut, hsays⟩⟩
    · exact ⟨List.suffix_rfl, fun hblock => absurd hblock hno⟩
  · intro t h
    refine split_eq_ok_iff.2 (Or.inr ⟨?_, rfl, rfl⟩)
    rintro ⟨hbegins, line, hline, hmark⟩
    rcases h with h | h
    · exact h hbegins
    · exact h line hline hmark
  · intro lines body hlines hload
    have hfirst : ¬ lineFeed :: fence <:+: lineFeed :: lines := by
      rw [lineFeed_cons_infix_cons_iff lineFeed_not_mem_fence carriageReturn_not_mem_fence]
      rintro ⟨line, hline, hmark⟩
      exact hlines line hline hmark
    have hcut : IsCut (compose lines body) (lineFeed :: lines) body :=
      .followed hfirst List.not_mem_nil
    constructor
    · intro kind es h
      exact split_eq_ok_iff.2 (Or.inl ⟨_, hcut, .mapping h⟩)
    · intro h
      exact split_eq_ok_iff.2 (Or.inl ⟨_, hcut, .nothing h hload⟩)

attribute [local instance] Runtime.usual

/-- The keys of a mapping. -/
def keys? : Value → Option (List Scalar)
  | .mapping _ es => some (es.map (·.1))
  | _ => none

/-- Lines of a block that has no line starting with the mark, but a value made of its character. -/
def ruledLines : Text := Text.of "title: A\nrule: '--'"

/-- A body in which the mark stands on a line of its own. -/
def ruledBody : Text := Text.of "a\n---\nb"

theorem split_spec_ruled :
    (∀ line ∈ Line.split ruledLines, ¬ fence <+: line) ∧
      (∀ line ∈ (Line.split (Text.of "--- a\n--")).tail, ¬ fence <+: line) ∧
      split (Text.of "--- a\n--") = .ok ([], Text.of "--- a\n--") ∧
      ∃ es, split (compose ruledLines ruledBody) = .ok (es, ruledBody) ∧
        es.map (·.1) = [.text (Text.of "title"), .text (Text.of "rule")] ∧
        ruledBody <:+ compose ruledLines ruledBody := by
  obtain ⟨hparts, hwhole, hcompose⟩ := split_spec
  have hlines : ∀ line ∈ Line.split ruledLines, ¬ fence <+: line := by decide
  have hlater : ∀ line ∈ (Line.split (Text.of "--- a\n--")).tail, ¬ fence <+: line := by decide
  have hkeys : (Runtime.loadYaml (lineFeed :: ruledLines)).toOption.bind keys? =
      some [.text (Text.of "title"), .text (Text.of "rule")] := by
    decide +kernel
  obtain ⟨v, hload, hv⟩ := Option.bind_eq_some_iff.1 hkeys
  replace hload := Outcome.eq_ok_of_toOption hload
  cases v with
  | scalar s => cases hv
  | list items => cases hv
  | mapping kind es =>
    have hok : ∀ f, Runtime.loadYaml (lineFeed :: ruledLines) ≠ .error (.failure f) := by
      intro f h
      rw [hload] at h
      cases h
    have hsplit := (hcompose ruledLines ruledBody hlines hok).1 kind es hload
    exact ⟨hlines, hlater, hwhole _ (Or.inr hlater), es, hsplit, Option.some.inj hv,
      (hparts _ _ _ hsplit).1⟩

/-- A block that ends with the note, right behind its first mark. -/
example : cut? (Text.of "---\n---") = some ([], []) := by decide

end Frontmatter

end TemplatedNotes
