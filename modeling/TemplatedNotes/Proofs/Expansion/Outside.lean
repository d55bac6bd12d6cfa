/-
  TemplatedNotes/Proofs/Expansion/Outside.lean
  ============================================
  **The lines outside the sections, in a note and in the note that it becomes.**

  The lines that no section covers are what is left when nothing is generated for the sections
  (`outside_eq_splice`).  In the new lines a section for which a block was generated covers just
  this block.  A section for which nothing was generated has lost its terminator, and if another
  one comes next it takes that one and covers the lines up to it.  So the lines outside become
  fewer, and they stay the same exactly when this happens to no section
  (`splice_nothing_splice`).
-/
import TemplatedNotes.Proofs.Expansion.Reread
import TemplatedNotes.Proofs.Expansion.Splice

namespace TemplatedNotes

namespace Reference

/-- The lines that no section covers. -/
def outside (rs : List Reference) (lines : List Text) : List Text :=
  (lines.zipIdx.filter (fun p => !rs.any (·.covers p.2))).map (·.1)

/-- Behind the terminator of no section comes another terminator that could close a section. -/
def NoSpareEnd [Runtime] (rs : List Reference) (lines : List Text) : Prop :=
  ∀ r ∈ rs, ∀ j, r.finish = some j → ∀ k, ¬ CanCloseAt lines j k

theorem bodyLength_eq_zero_iff {ms : List Mark} : bodyLength ms = 0 ↔ closing ms = none := by
  unfold bodyLength
  cases closing ms <;> simp

theorem bodyLength_le (ms : List Mark) : bodyLength ms ≤ ms.length := by
  unfold bodyLength
  cases hc : closing ms with
  | none => exact Nat.zero_le _
  | some j =>
    obtain ⟨hlt, -⟩ := List.getElem?_eq_some_iff.1 (closing_eq_some_iff.1 hc).1
    exact hlt

theorem IsBody.length_bodyMarks [Runtime] {new : List Text} (h : IsBody new) :
    (bodyMarks new).length = new.length := by
  rcases h with rfl | h
  · rfl
  · rw [h.bodyMarks_eq, h.length_blockMarks]

end Reference

namespace Expansion

open Reference

variable {α β : Type} {skip : Nat} {lines : List Text} {ms : List Mark}
  {generated : List (List Text)}

/-! ### Splicing nothing -/

/-- Nothing, for each of the sections. -/
def nothing (generated : List (List Text)) : List (List Text) := generated.map (fun _ => [])

theorem Fits.map (h : Fits skip lines ms generated) (f : List Text → List Text) :
    Fits skip lines ms (generated.map f) := by
  induction h with
  | done skip => exact .done skip
  | skipped line m _ ih => exact .skipped line m ih
  | opens line script arguments new _ ih => exact .opens line script arguments (f new) ih
  | stays line other _ ih => exact .stays line other ih

theorem outside_eq_splice (source : Text) (h : Fits 0 lines ms generated) :
    outside (sections source 0 ms) lines = splice 0 lines ms (nothing generated) := by
  have hline : ∀ i line, lineAt (sections source 0 ms) (nothing generated) i line =
      if (sections source 0 ms).any (·.covers i) then [] else [line] := by
    intro i line
    have hnone : (((sections source 0 ms).zip (nothing generated)).filter
        (fun p => p.1.start == i)).flatMap (·.2) = [] := by
      refine List.flatMap_eq_nil_iff.2 (fun p hp => ?_)
      obtain ⟨new, -, hnew⟩ := List.mem_map.1 (List.of_mem_zip (List.mem_filter.1 hp).1).2
      exact hnew.symm
    rw [lineAt, hnone]
  have hfits : Fits 0 lines ms (nothing generated) := h.map _
  rw [splice_eq_flatMap source hfits, outside]
  induction lines.zipIdx with
  | nil => rfl
  | cons p rest ih =>
    rw [List.flatMap_cons, hline, List.filter_cons]
    cases (sections source 0 ms).any (·.covers p.2) with
    | true => exact ih
    | false => exact congrArg (p.1 :: ·) ih

theorem splice_nothing_sublist (h : Fits skip lines ms generated) :
    (splice skip lines ms (nothing generated)).Sublist (splice skip lines ms generated) := by
  induction h with
  | done skip => exact List.Sublist.refl _
  | skipped line m _ ih => exact ih
  | opens line script arguments new _ ih =>
    exact (ih.trans (List.sublist_append_right new _)).cons_cons line
  | stays line other _ ih =>
    rw [splice_cons other, splice_cons other]
    exact ih.cons_cons line

theorem map_splice (f : α → β) (skip : Nat) (lines : List α) (ms : List Mark)
    (generated : List (List α)) :
    (splice skip lines ms generated).map f =
      splice skip (lines.map f) ms (generated.map (List.map f)) := by
  induction lines generalizing skip ms generated with
  | nil => cases skip <;> cases ms <;> rfl
  | cons line rest ih =>
    cases ms with
    | nil => cases skip <;> rfl
    | cons m ms =>
      cases skip with
      | succ skip => exact ih skip ms generated
      | zero =>
        by_cases ho : ∃ script arguments, m = .opening script arguments
        · obtain ⟨script, arguments, rfl⟩ := ho
          cases generated with
          | nil => exact congrArg (f line :: ·) (ih 0 ms [])
          | cons new generated =>
            rw [List.map_cons, splice, List.map_append, List.map_cons, ih, List.map_cons, splice]
        · rw [List.map_cons, splice_cons ho, splice_cons ho, List.map_cons, ih]

/-! ### The bodies of spliced sections -/

/-- Up to the end of the section that it closes, lines stay as they are. -/
theorem splice_eq_take_append {α : Type} {lines : List α} {ms : List Mark}
    (hlen : ms.length = lines.length) (generated : List (List α)) :
    splice 0 lines ms generated =
      lines.take (bodyLength ms) ++ splice (bodyLength ms) lines ms generated := by
  induction ms generalizing lines with
  | nil => rfl
  | cons m ms ih =>
    cases lines with
    | nil => cases hlen
    | cons line rest =>
      cases m with
      | opening script arguments => rfl
      | terminator => rfl
      | plain =>
        cases hc : closing ms with
        | none =>
          have hb : bodyLength (.plain :: ms) = 0 := by simp [bodyLength, closing, hc]
          rw [hb]
          rfl
        | some j =>
          have hb : bodyLength (.plain :: ms) = bodyLength ms + 1 := by
            simp [bodyLength, closing, hc]
          rw [hb, List.take_succ_cons]
          exact congrArg (line :: ·) (ih (Nat.succ.inj hlen))

/-- The terminator that comes next is the same in the new lines. -/
theorem closing_splice (h : Fits skip lines ms generated) (f : List Text → List Mark) :
    closing (splice skip ms ms (generated.map f)) = closing (ms.drop skip) := by
  induction h with
  | done skip => cases skip <;> rfl
  | skipped line m _ ih => exact ih
  | opens line script arguments new _ ih => rfl
  | @stays lines ms generated line m other _ ih =>
    rw [splice_cons other, List.drop_zero]
    cases m with
    | opening script arguments => exact absurd ⟨script, arguments, rfl⟩ other
    | terminator => rfl
    | plain => rw [closing, closing, ih, List.drop_zero]

theorem length_splice [Runtime] (h : Fits skip lines ms generated)
    (hbodies : ∀ new ∈ generated, IsBody new) :
    (splice skip ms ms (generated.map bodyMarks)).length =
      (splice skip lines ms generated).length := by
  induction h with
  | done skip => cases skip <;> rfl
  | skipped line m _ ih => exact ih hbodies
  | opens line script arguments new _ ih =>
    obtain ⟨hnew, hmore⟩ := List.forall_mem_cons.1 hbodies
    rw [List.map_cons, splice, splice, List.length_append, List.length_append, List.length_cons,
      List.length_cons, hnew.length_bodyMarks, ih hmore]
  | stays line other _ ih =>
    rw [splice_cons other, splice_cons other, List.length_cons, List.length_cons, ih hbodies]

/-! ### Sections that keep to themselves -/

/-- No section for which nothing was generated has another terminator coming next behind its
    own. -/
def KeepsEnds : Nat → List Mark → List (List Text) → Prop
  | skip + 1, _ :: ms, generated => KeepsEnds skip ms generated
  | 0, .opening _ _ :: ms, new :: generated =>
    (new = [] → closing (ms.drop (bodyLength ms)) = none) ∧ KeepsEnds (bodyLength ms) ms generated
  | 0, _ :: ms, generated => KeepsEnds 0 ms generated
  | _, [], _ => True

theorem keepsEnds_cons {m : Mark} (h : ¬ ∃ script arguments, m = .opening script arguments)
    (ms : List Mark) (generated : List (List Text)) :
    KeepsEnds 0 (m :: ms) generated ↔ KeepsEnds 0 ms generated := by
  cases m with
  | opening script arguments => exact absurd ⟨script, arguments, rfl⟩ h
  | plain => exact Iff.rfl
  | terminator => exact Iff.rfl

theorem keepsEnds_append (body ms : List Mark) (generated : List (List Text)) :
    KeepsEnds body.length (body ++ ms) generated ↔ KeepsEnds 0 ms generated := by
  induction body with
  | nil => exact Iff.rfl
  | cons m rest ih => exact ih

/-- What comes behind more lines is all there is only if there are no more lines. -/
theorem sublist_of_append {p w r : List Text} (h : (p ++ w).Sublist r) :
    w.Sublist r ∧ (w = r ↔ p = [] ∧ p ++ w = r) := by
  refine ⟨(List.sublist_append_right p w).trans h, fun hw => ?_, fun ⟨hp, hw⟩ => ?_⟩
  · have hlen := h.length_le
    rw [List.length_append, hw] at hlen
    have hp : p = [] := List.length_eq_zero_iff.1 (by omega)
    exact ⟨hp, by rw [hp, List.nil_append, hw]⟩
  · rwa [hp, List.nil_append] at hw

/-- Behind a section for which nothing was generated, lines are covered up to the terminator that
    comes next. -/
theorem splice_behind_nil {r : List Text} {ns : List Mark} (hlen : ns.length = lines.length)
    (h : (splice 0 lines ns (nothing generated)).Sublist r) :
    (splice (bodyLength ns) lines ns (nothing generated)).Sublist r ∧
      (splice (bodyLength ns) lines ns (nothing generated) = r ↔
        closing ns = none ∧ splice 0 lines ns (nothing generated) = r) := by
  rw [splice_eq_take_append hlen] at h ⊢
  obtain ⟨hsub, heq⟩ := sublist_of_append h
  refine ⟨hsub, heq.trans (and_congr_left fun _ => ?_)⟩
  rw [List.take_eq_nil_iff, ← bodyLength_eq_zero_iff]
  constructor
  · rintro (hzero | hnil)
    · exact hzero
    · have hle := bodyLength_le ns
      rw [hlen, hnil] at hle
      exact Nat.le_zero.1 hle
  · exact Or.inl

/-- A section for which a block was generated covers the block. -/
theorem splice_behind_block [Runtime] {new : List Text} (h : IsBlock new) (lines : List Text)
    (ns : List Mark) (more : List (List Text)) :
    splice (bodyLength (bodyMarks new ++ ns)) (new ++ lines) (bodyMarks new ++ ns) more =
      splice 0 lines ns more := by
  rw [h.bodyMarks_eq, bodyLength_blockMarks h]
  exact splice_append h.length_blockMarks lines ns more

/-- **The lines outside the sections of the new lines** are some of those outside the sections of
    the old ones, and all of them exactly when every section keeps to itself. -/
theorem splice_nothing_splice [Runtime] (h : Fits skip lines ms generated)
    (hbodies : ∀ new ∈ generated, IsBody new) :
    (splice 0 (splice skip lines ms generated) (splice skip ms ms (generated.map bodyMarks))
        (nothing generated)).Sublist (splice skip lines ms (nothing generated)) ∧
      (splice 0 (splice skip lines ms generated) (splice skip ms ms (generated.map bodyMarks))
        (nothing generated) = splice skip lines ms (nothing generated) ↔
          KeepsEnds skip ms generated) := by
  induction h with
  | done skip => cases skip <;> exact ⟨List.Sublist.refl _, iff_of_true rfl trivial⟩
  | skipped line m _ ih => exact ih hbodies
  | @stays lines ms generated line m other _ ih =>
    obtain ⟨hsub, heq⟩ := ih hbodies
    rw [splice_cons other, splice_cons other, splice_cons other, splice_cons other,
      keepsEnds_cons other]
    refine ⟨hsub.cons_cons line, ?_⟩
    rw [List.cons_inj_right, heq]
  | @opens lines ms generated line script arguments new rest ih =>
    obtain ⟨hnew, hmore⟩ := List.forall_mem_cons.1 hbodies
    obtain ⟨hsub, heq⟩ := ih hmore
    have hbody : (splice (bodyLength (bodyMarks new ++
          splice (bodyLength ms) ms ms (generated.map bodyMarks)))
        (new ++ splice (bodyLength ms) lines ms generated)
        (bodyMarks new ++ splice (bodyLength ms) ms ms (generated.map bodyMarks))
        (nothing generated)).Sublist (splice (bodyLength ms) lines ms (nothing generated)) ∧
      (splice (bodyLength (bodyMarks new ++
          splice (bodyLength ms) ms ms (generated.map bodyMarks)))
        (new ++ splice (bodyLength ms) lines ms generated)
        (bodyMarks new ++ splice (bodyLength ms) ms ms (generated.map bodyMarks))
        (nothing generated) = splice (bodyLength ms) lines ms (nothing generated) ↔
          KeepsEnds 0 (.opening script arguments :: ms) (new :: generated)) := by
      rcases hnew with rfl | hblock
      · obtain ⟨hsub', heq'⟩ := splice_behind_nil (length_splice rest hmore) hsub
        refine ⟨hsub', heq'.trans ?_⟩
        rw [closing_splice rest, heq, KeepsEnds]
        exact and_congr_left fun _ => ⟨fun hnone _ => hnone, fun hnone => hnone rfl⟩
      · rw [splice_behind_block hblock]
        refine ⟨hsub, heq.trans ?_⟩
        obtain ⟨body, rfl, -⟩ := hblock
        rw [KeepsEnds]
        exact ⟨fun hkeeps => ⟨fun hnil => by simp at hnil, hkeeps⟩, fun hkeeps => hkeeps.2⟩
    refine ⟨hbody.1.cons_cons line, ?_⟩
    rw [← hbody.2]
    exact List.cons_inj_right line

/-- If no section has another terminator behind its own, none has in the new lines. -/
theorem KeepsEnds.splice [Runtime] (h : Fits skip lines ms generated)
    (hbodies : ∀ new ∈ generated, IsBody new) (hkeeps : KeepsEnds skip ms (nothing generated)) :
    KeepsEnds 0 (splice skip ms ms (generated.map bodyMarks)) (nothing generated) := by
  induction h with
  | done skip => cases skip <;> trivial
  | skipped line m _ ih => exact ih hbodies hkeeps
  | @stays lines ms generated line m other _ ih =>
    rw [splice_cons other, keepsEnds_cons other]
    exact ih hbodies ((keepsEnds_cons other _ _).1 hkeeps)
  | @opens lines ms generated line script arguments new rest ih =>
    obtain ⟨hnew, hmore⟩ := List.forall_mem_cons.1 hbodies
    obtain ⟨hnext, hrest⟩ : ([] = [] → closing (ms.drop (bodyLength ms)) = none) ∧
        KeepsEnds (bodyLength ms) ms (nothing generated) := hkeeps
    have hclosing := closing_splice rest bodyMarks
    rw [hnext rfl] at hclosing
    have hih := ih hmore hrest
    show (_ → closing ((bodyMarks new ++ _).drop (bodyLength (bodyMarks new ++ _))) = none) ∧
      KeepsEnds (bodyLength (bodyMarks new ++ _)) (bodyMarks new ++ _) (nothing generated)
    rcases hnew with rfl | hblock
    · have hzero := bodyLength_eq_zero_iff.2 hclosing
      rw [show bodyMarks [] = [] from rfl, List.nil_append, hzero]
      exact ⟨fun _ => hclosing, hih⟩
    · rw [hblock.bodyMarks_eq, bodyLength_blockMarks hblock, ← hblock.length_blockMarks,
        List.drop_left]
      exact ⟨fun _ => hclosing, (keepsEnds_append _ _ _).2 hih⟩

/-! ### Sections that keep to themselves, by position -/

/-- What comes next behind the terminators of later sections is the same without the first mark. -/
theorem forall_closing_drop_cons {source : Text} {index i : Nat} {ms ns : List Mark} (m : Mark)
    (hi : index + 1 ≤ i) :
    (∀ p ∈ (sections source i ns).zip generated, p.2 = [] →
      ∀ j, p.1.finish = some j → closing (ms.drop (j + 1 - (index + 1))) = none) ↔
    ∀ p ∈ (sections source i ns).zip generated, p.2 = [] →
      ∀ j, p.1.finish = some j → closing ((m :: ms).drop (j + 1 - index)) = none := by
  refine forall₂_congr fun p hp => forall₃_congr fun _ j hj => ?_
  obtain ⟨k, s, a, -, hr⟩ := mem_sections.1 (List.of_mem_zip hp).1
  have hle : index ≤ j := by
    rw [hr] at hj
    obtain ⟨d, -, rfl⟩ := Option.map_eq_some_iff.1 hj
    omega
  rw [show j + 1 - index = j + 1 - (index + 1) + 1 by omega, List.drop_succ_cons]

theorem keepsEnds_iff_from (source : Text) (index : Nat) (h : Fits skip lines ms generated) :
    KeepsEnds skip ms generated ↔
      ∀ p ∈ (sections source (index + skip) (ms.drop skip)).zip generated, p.2 = [] →
        ∀ j, p.1.finish = some j → closing (ms.drop (j + 1 - index)) = none := by
  induction h generalizing index with
  | done skip => cases skip <;> simp [KeepsEnds, sections]
  | @skipped skip lines ms generated line m _ ih =>
    rw [List.drop_succ_cons, ← forall_closing_drop_cons m (by omega),
      show index + (skip + 1) = index + 1 + skip by omega]
    exact ih (index + 1)
  | @stays lines ms generated line m other _ ih =>
    rw [List.drop_zero, Nat.add_zero, keepsEnds_cons other, sections_cons _ other,
      ← forall_closing_drop_cons m (Nat.le_refl _)]
    exact ih (index + 1)
  | @opens lines ms generated line script arguments new _ ih =>
    have hih := ih (index + 1)
    rw [sections_drop_bodyLength,
      forall_closing_drop_cons (.opening script arguments) (Nat.le_refl _)] at hih
    rw [List.drop_zero, Nat.add_zero, KeepsEnds, sections, List.zip_cons_cons, List.forall_mem_cons]
    refine and_congr (imp_congr_right fun _ => ?_) hih
    cases hc : closing ms with
    | none =>
      have hzero : bodyLength ms = 0 := bodyLength_eq_zero_iff.2 hc
      rw [hzero, List.drop_zero, hc]
      simp
    | some d =>
      have hlength : bodyLength ms = d + 1 := by simp [bodyLength, hc]
      rw [hlength]
      constructor
      · intro hnone j hj
        cases hj
        rwa [show index + 1 + d + 1 - index = d + 1 + 1 by omega, List.drop_succ_cons]
      · intro hall
        have hnone := hall _ rfl
        rwa [show index + 1 + d + 1 - index = d + 1 + 1 by omega, List.drop_succ_cons] at hnone

/-- Behind the terminator of no section for which nothing was generated can another terminator
    close a section. -/
theorem keepsEnds_iff [Runtime] (source : Text) (hms : marksFrom [] lines = .ok ms)
    (h : Fits 0 lines ms generated) :
    KeepsEnds 0 ms generated ↔
      ∀ p ∈ (sections source 0 ms).zip generated, p.2 = [] →
        ∀ j, p.1.finish = some j → ∀ k, ¬ CanCloseAt lines j k := by
  rw [keepsEnds_iff_from source 0 h]
  refine forall₂_congr fun p _ => forall₃_congr fun _ j _ => ?_
  rw [← closing_eq_none_iff hms, Option.map_eq_none_iff, Nat.sub_zero]

/-- In a note where no terminator can close a section behind the terminator of another one, all
    sections keep to themselves whatever is generated for them. -/
theorem noSpareEnd_iff [Runtime] (source : Text) (hms : marksFrom [] lines = .ok ms)
    (h : Fits 0 lines ms generated)
    (hlen : generated.length = (sections source 0 ms).length) :
    NoSpareEnd (sections source 0 ms) lines ↔ KeepsEnds 0 ms (nothing generated) := by
  have hfits : Fits 0 lines ms (nothing generated) := h.map _
  rw [keepsEnds_iff source hms hfits]
  constructor
  · intro hno p hp _ j hj
    exact hno p.1 (List.of_mem_zip hp).1 j hj
  · intro hkeeps r hr j hj
    have hfst : ((sections source 0 ms).zip (nothing generated)).map Prod.fst =
        sections source 0 ms := List.map_fst_zip (by rw [nothing, List.length_map, hlen])
    rw [← hfst] at hr
    obtain ⟨p, hp, rfl⟩ := List.mem_map.1 hr
    obtain ⟨new, -, hnew⟩ := List.mem_map.1 (List.of_mem_zip hp).2
    exact hkeeps p hp hnew.symm j hj

end Expansion

end TemplatedNotes
