/-
  TemplatedNotes/Proofs/Section/Opening.lean
  ==========================================
  **An opening line can be taken apart in one way only.**

  The payload of a line is found from its two ends: behind the delimiter at its start and in front
  of the one at its end, without the white space at both.  An `OpeningLine` is a line in its parts,
  and a line is one in at most one way (`OpeningLine.text_injective`), so the payload that is found
  is the one of its parts, whatever percent signs are in it (`payload?_eq_some_iff`).
-/
import TemplatedNotes.Proofs.Section.Line

namespace TemplatedNotes.Section

/-! ### A delimiter at the end of a text -/

theorem trimRight_append_delimiter (t : Text) {w : Text} (hw : ∀ c ∈ w, c.isBlank = true) :
    Text.trimRight (t ++ (delimiter ++ w)) = t ++ delimiter := by
  refine Text.trimRight_eq_iff.2 ⟨⟨w, (List.append_assoc _ _ _).symm, hw⟩, ?_⟩
  intro c hc
  rw [List.getLast?_append] at hc
  obtain rfl := Option.some.inj hc
  decide

theorem beforeDelimiter?_append (t : Text) {w : Text} (hw : ∀ c ∈ w, c.isBlank = true) :
    beforeDelimiter? (t ++ (delimiter ++ w)) = some (Text.trimRight t) := by
  rw [beforeDelimiter?, trimRight_append_delimiter t hw, List.reverse_append]
  simp [delimiter]

theorem exists_of_beforeDelimiter? {t r : Text} (h : beforeDelimiter? t = some r) :
    ∃ u w, t = u ++ (delimiter ++ w) ∧ (∀ c ∈ w, c.isBlank = true) ∧ Text.trimRight u = r := by
  unfold beforeDelimiter? at h
  split at h
  · next rest hends =>
    cases h
    have htrim : Text.trimRight t = rest.reverse ++ delimiter := by
      rw [← List.reverse_inj, hends]
      simp [delimiter]
    obtain ⟨⟨w, ht, hw⟩, -⟩ := Text.trimRight_eq_iff.1 htrim
    exact ⟨rest.reverse, w, by rw [ht, List.append_assoc], hw, rfl⟩
  · cases h

/-! ### Opening lines -/

/-- An opening line in its parts. -/
@[ext]
structure OpeningLine where
  indent : Text
  payload : Text
  gap : Text
  tail : Text
  blank_indent : ∀ c ∈ indent, c.isBlank = true
  blank_gap : ∀ c ∈ gap, c.isBlank = true
  blank_tail : ∀ c ∈ tail, c.isBlank = true
  ne_nil : payload ≠ []
  solid_head : ∀ c, payload.head? = some c → c ≠ .scalar '%' ∧ c.isBlank = false
  solid_last : ∀ c, payload.getLast? = some c → c.isBlank = false

namespace OpeningLine

/-- The line itself. -/
def text (o : OpeningLine) : Text :=
  delimiter ++ (o.indent ++ (o.payload ++ (o.gap ++ (delimiter ++ o.tail))))

variable (o : OpeningLine)

theorem trimLeft_behind :
    Text.trimLeft (o.indent ++ (o.payload ++ (o.gap ++ (delimiter ++ o.tail)))) =
      o.payload ++ (o.gap ++ (delimiter ++ o.tail)) := by
  refine Text.trimLeft_eq_iff.2 ⟨⟨o.indent, rfl, o.blank_indent⟩, ?_⟩
  intro c hc
  rw [List.head?_append_of_ne_nil _ o.ne_nil] at hc
  exact (o.solid_head c hc).2

theorem trimRight_payload : Text.trimRight (o.payload ++ o.gap) = o.payload :=
  Text.trimRight_eq_iff.2 ⟨⟨o.gap, rfl, o.blank_gap⟩, o.solid_last⟩

/-- **The parts of an opening line** are determined by the line. -/
theorem text_injective {o o' : OpeningLine} (h : o.text = o'.text) : o = o' := by
  have hbehind := List.append_cancel_left h
  -- trimming takes the indent off, and what is left is the same
  have hleft : o.payload ++ (o.gap ++ (delimiter ++ o.tail)) =
      o'.payload ++ (o'.gap ++ (delimiter ++ o'.tail)) := by
    rw [← o.trimLeft_behind, hbehind, o'.trimLeft_behind]
  rw [hleft] at hbehind
  have hindent : o.indent = o'.indent := List.append_cancel_right hbehind
  -- the same from the other end, behind the last delimiter and before it
  rw [← List.append_assoc o.payload, ← List.append_assoc o'.payload] at hleft
  have hdelimited : o.payload ++ o.gap ++ delimiter = o'.payload ++ o'.gap ++ delimiter := by
    rw [← trimRight_append_delimiter _ o.blank_tail, hleft,
      trimRight_append_delimiter _ o'.blank_tail]
  have hgapped : o.payload ++ o.gap = o'.payload ++ o'.gap := List.append_cancel_right hdelimited
  rw [hgapped] at hleft
  have htail : o.tail = o'.tail := List.append_cancel_left (List.append_cancel_left hleft)
  have hpayload : o.payload = o'.payload := by
    rw [← o.trimRight_payload, hgapped, o'.trimRight_payload]
  rw [hpayload] at hgapped
  exact OpeningLine.ext hindent hpayload (List.append_cancel_left hgapped) htail

end OpeningLine

/-! ### The payload from the two ends of a line -/

theorem exists_of_payload? {line p : Text} (h : payload? line = some p) :
    ∃ rest, line = delimiter ++ rest ∧ beforeDelimiter? (Text.trimLeft rest) = some p ∧ p ≠ [] ∧
      p.head? ≠ some (.scalar '%') := by
  unfold payload? at h
  split at h
  · next rest =>
    split at h
    · next c more hbefore =>
      split at h
      · cases h
      · next hc =>
        cases h
        exact ⟨rest, rfl, hbefore, by simp, by simpa using hc⟩
    · cases h
  · cases h

/-- **A line has a payload** exactly when it is an opening line with that payload. -/
theorem payload?_eq_some_iff {line p : Text} :
    payload? line = some p ↔ ∃ o : OpeningLine, o.text = line ∧ o.payload = p := by
  constructor
  · intro h
    obtain ⟨rest, rfl, hbefore, hne, hpercent⟩ := exists_of_payload? h
    generalize hbehind : Text.trimLeft rest = behind at hbefore
    obtain ⟨⟨indent, rfl, hindent⟩, hhead⟩ := Text.trimLeft_eq_iff.1 hbehind
    obtain ⟨u, tail, rfl, htail, hp⟩ := exists_of_beforeDelimiter? hbefore
    obtain ⟨⟨gap, rfl, hgap⟩, hlast⟩ := Text.trimRight_eq_iff.1 hp
    refine ⟨⟨indent, p, gap, tail, hindent, hgap, htail, hne, ?_, hlast⟩, ?_, rfl⟩
    · intro c hc
      refine ⟨fun hcp => hpercent (hcp ▸ hc), hhead c ?_⟩
      rw [List.append_assoc, List.head?_append_of_ne_nil _ hne, hc]
    · simp only [OpeningLine.text, List.append_assoc]
  · rintro ⟨o, rfl, rfl⟩
    have hbefore : beforeDelimiter? (Text.trimLeft
        (o.indent ++ (o.payload ++ (o.gap ++ (delimiter ++ o.tail))))) = some o.payload := by
      rw [o.trimLeft_behind, ← List.append_assoc, beforeDelimiter?_append _ o.blank_tail,
        o.trimRight_payload]
    obtain ⟨c, more, hcons⟩ := List.exists_cons_of_ne_nil o.ne_nil
    have hc := (o.solid_head c (by rw [hcons]; rfl)).1
    rw [OpeningLine.text]
    simp only [delimiter, List.cons_append, List.nil_append, payload?] at hbefore ⊢
    rw [hbefore, hcons]
    exact if_neg hc

end TemplatedNotes.Section
