/-
  TemplatedNotes/Proofs/Section/Block.lean
  ========================================
  **The marker of a failure is one line, and its payload is what it says.**

  Between the percent signs of a marker stands the kind of the failure, followed by its squeezed
  message if there is one (`markerBody`).  That is one line, neither a fence nor a terminator, and
  the white space around its text is not part of its payload (`payload?_failureMarker`).
-/
import TemplatedNotes.Proofs.Section.Opening
import TemplatedNotes.Section.Block

namespace TemplatedNotes.Section

/-- What a marker says. -/
def markerBody (kindName message : Text) : Text :=
  let shown := Text.squeeze message
  if shown.isEmpty then kindName else kindName ++ Text.of ": " ++ shown

theorem failureMarker_eq (kindName message : Text) :
    failureMarker kindName message =
      .scalar '%' :: .scalar '%' :: .scalar ' ' :: markerBody kindName message ++
        [.scalar ' ', .scalar '%', .scalar '%'] := rfl

/-- A kind name that a marker can start with: one word that does not start with a percent sign. -/
structure IsKindName (kindName : Text) : Prop where
  isWord : Text.IsWord kindName
  no_percent : kindName.head? ≠ some (.scalar '%')

theorem head?_markerBody {kindName : Text} (h : kindName ≠ []) (message : Text) :
    (markerBody kindName message).head? = kindName.head? := by
  cases kindName with
  | nil => exact absurd rfl h
  | cons c rest =>
    unfold markerBody
    dsimp only
    split <;> rfl

theorem isBlank_of_mem_markerBody {kindName message : Text} (h : IsKindName kindName)
    {c : CodePoint} (hc : c ∈ markerBody kindName message) :
    c.isBlank = false ∨ c = .scalar ' ' := by
  unfold markerBody at hc
  dsimp only at hc
  split at hc
  · exact Or.inl (h.isWord.solid c hc)
  · rcases List.mem_append.1 hc with hc | hc
    · rcases List.mem_append.1 hc with hc | hc
      · exact Or.inl (h.isWord.solid c hc)
      · have hsep : c = .scalar ':' ∨ c = .scalar ' ' := by simpa [Text.of] using hc
        rcases hsep with rfl | rfl
        · exact Or.inl (by decide)
        · exact Or.inr rfl
    · exact Text.isBlank_of_mem_squeeze hc

theorem isBlank_of_getLast?_markerBody {kindName message : Text} (h : IsKindName kindName)
    {c : CodePoint} (hc : (markerBody kindName message).getLast? = some c) :
    c.isBlank = false := by
  unfold markerBody at hc
  dsimp only at hc
  split at hc
  · exact h.isWord.solid c (List.mem_of_getLast? hc)
  · next hne =>
    have hshown : Text.squeeze message ≠ [] := by simpa using hne
    rw [List.getLast?_append, List.getLast?_eq_some_getLast hshown, Option.some_or,
      ← List.getLast?_eq_some_getLast hshown] at hc
    exact Text.isBlank_of_getLast?_squeeze hc

/-! ### The marker as a line -/

theorem lineFeed_not_mem_failureMarker {kindName : Text} (h : IsKindName kindName)
    (message : Text) : Line.lineFeed ∉ failureMarker kindName message := by
  intro hm
  rw [failureMarker_eq] at hm
  have hbody : Line.lineFeed ∈ markerBody kindName message := by simpa [Line.lineFeed] using hm
  rcases isBlank_of_mem_markerBody h hbody with hb | hb
  · exact absurd hb (by decide)
  · exact absurd hb (by decide)

theorem fenceDepth?_failureMarker (kindName message : Text) :
    fenceDepth? (failureMarker kindName message) = none := by
  rw [failureMarker_eq]
  rfl

theorem isTerminator_failureMarker (kindName message : Text) :
    isTerminator (failureMarker kindName message) = false := by
  rw [failureMarker_eq]
  rfl

/-- What stands between delimiters and spaces is a payload when it neither starts nor ends blank
    and does not start with a percent sign. -/
theorem payload?_delimited {c : CodePoint} {rest : Text} (hblank : c.isBlank = false)
    (hpercent : c ≠ .scalar '%')
    (hlast : ∀ d, (c :: rest).getLast? = some d → d.isBlank = false) :
    payload? (.scalar '%' :: .scalar '%' :: .scalar ' ' :: (c :: rest) ++
      [.scalar ' ', .scalar '%', .scalar '%']) = some (c :: rest) := by
  have hspace : ∀ d ∈ [CodePoint.scalar ' '], d.isBlank = true := by decide
  have hhead : ∀ d, (c :: rest).head? = some d → d ≠ .scalar '%' ∧ d.isBlank = false := by
    intro d hd
    obtain rfl := Option.some.inj hd
    exact ⟨hpercent, hblank⟩
  let parts : OpeningLine :=
    ⟨[.scalar ' '], c :: rest, [.scalar ' '], [], hspace, hspace, by simp, by simp, hhead, hlast⟩
  exact payload?_eq_some_iff.2 ⟨parts, rfl, rfl⟩

/-- **The payload of a marker** is what it says. -/
theorem payload?_failureMarker {kindName : Text} (h : IsKindName kindName) (message : Text) :
    payload? (failureMarker kindName message) = some (markerBody kindName message) := by
  have hhead := head?_markerBody h.isWord.ne_nil message
  have hlast : ∀ c, (markerBody kindName message).getLast? = some c → c.isBlank = false :=
    fun c hc => isBlank_of_getLast?_markerBody h hc
  rw [failureMarker_eq]
  cases hb : markerBody kindName message with
  | nil =>
    rw [hb] at hhead
    exact absurd (List.head?_eq_none_iff.1 hhead.symm) h.isWord.ne_nil
  | cons c rest =>
    rw [hb] at hhead hlast
    have hblank : c.isBlank = false := h.isWord.solid c (List.mem_of_mem_head? hhead.symm)
    have hpercent : c ≠ .scalar '%' := by
      rintro rfl
      exact h.no_percent hhead.symm
    exact payload?_delimited hblank hpercent hlast

end TemplatedNotes.Section
