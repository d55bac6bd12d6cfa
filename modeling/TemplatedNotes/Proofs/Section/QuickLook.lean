/-
  TemplatedNotes/Proofs/Section/QuickLook.lean
  ============================================
  **The quick look at a note misses no opening line.**

  The quick look goes over a whole text and starts again at every line, with patterns that may run
  over line ends; the reader cuts the text into lines first and takes a carriage return off each.
  Up to its first line feed a text is the first line of the cut, perhaps with that carriage return
  after it, and a line with a payload opens where it stands, whatever comes after its line feed
  (`opensAt_of_payload?`).  So a text of which any line has a payload may open a section
  (`mayOpen_of_mem_split`), and a note with a section has such a line (`mayOpen_of_read`).
-/
import TemplatedNotes.Proofs.Section.Opening
import TemplatedNotes.Proofs.Section.Reading

namespace TemplatedNotes

namespace Section

/-! ### One line -/

theorem trimLeft_append_of_ne_nil {t : Text} (h : Text.trimLeft t ≠ []) (rest : Text) :
    Text.trimLeft (t ++ rest) = Text.trimLeft t ++ rest := by
  have hne : ¬ (t.dropWhile CodePoint.isBlank).isEmpty = true := by
    intro he
    exact h (List.isEmpty_iff.1 he)
  rw [Text.trimLeft, List.dropWhile_append, if_neg hne]
  rfl

/-- **A line with a payload opens where it stands**, with whatever comes after its line feed. -/
theorem opensAt_of_payload? {line payload : Text} (h : payload? line = some payload)
    (hfeed : lineFeed ∉ line) {tail : Text} (htail : ∀ c, tail.head? = some c → c = lineFeed) :
    opensAt (line ++ tail) = true := by
  obtain ⟨o, rfl, -⟩ := payload?_eq_some_iff.1 h
  obtain ⟨c, q, hcons⟩ := List.exists_cons_of_ne_nil o.ne_nil
  have hpercent : c ≠ .scalar '%' := (o.solid_head c (by rw [hcons]; rfl)).1
  obtain ⟨more, hmore⟩ : ∃ more, q ++ o.gap ++ (delimiter ++ o.tail) = more := ⟨_, rfl⟩
  have hrest : o.payload ++ (o.gap ++ (delimiter ++ o.tail)) = c :: more := by
    rw [hcons, ← hmore, List.append_assoc, List.cons_append]
  -- the line ends in a delimiter behind the first code point of the payload
  have hends : (beforeDelimiter? more).isSome = true := by
    rw [← hmore, beforeDelimiter?_append _ o.blank_tail]
    rfl
  have hline : (more ++ tail).takeWhile (· != lineFeed) = more := by
    have hfeedless : lineFeed ∉ more :=
      fun hmem => hfeed (by simp [OpeningLine.text, hrest, hmem])
    have hall : ∀ d ∈ more, (d != lineFeed) = true :=
      fun d hd => bne_iff_ne.2 (ne_of_mem_of_not_mem hd hfeedless)
    rw [List.takeWhile_append_of_pos hall]
    cases tail with
    | nil => simp
    | cons d rest => simp [htail d rfl]
  have hcloses : closesAfter (more ++ tail) = true := by
    simp [closesAfter, hline, hends]
  have hbehind : Text.trimLeft (o.indent ++ (c :: more) ++ tail) = c :: (more ++ tail) := by
    have htrim : Text.trimLeft (o.indent ++ (c :: more)) = c :: more := by
      rw [← hrest, o.trimLeft_behind]
    rw [trimLeft_append_of_ne_nil (by simp [htrim]), htrim, List.cons_append]
  rw [OpeningLine.text, hrest, List.append_assoc]
  simp only [opensAt, delimiter, List.cons_append, List.nil_append, List.drop_succ_cons,
    List.drop_zero, hbehind]
  simp [hcloses, hpercent]

/-! ### A whole text -/

theorem opensInside_of_opensAt {t : Text} (h : opensAt t = true) : opensInside true t = true := by
  cases t with
  | nil => simp [opensAt, delimiter] at h
  | cons c rest => simp [opensInside, h]

/-- What opens behind a line feed opens in the whole text. -/
theorem opensInside_append_lineFeed {t : Text} (h : opensInside true t = true) (fresh : Bool)
    (line : Text) : opensInside fresh (line ++ lineFeed :: t) = true := by
  induction line generalizing fresh with
  | nil => simp [opensInside, h]
  | cons c rest ih => simp [opensInside, ih]

/-- A text is one line, or a first line without a line feed and the text behind its line feed. -/
theorem eq_line_or_append (t : Text) :
    lineFeed ∉ t ∨ ∃ line rest, lineFeed ∉ line ∧ t = line ++ lineFeed :: rest := by
  by_cases h : lineFeed ∈ t
  · obtain ⟨line, rest, ht, hline⟩ := List.eq_append_cons_of_mem h
    exact Or.inr ⟨line, rest, hline, ht⟩
  · exact Or.inl h

/-- **A text with an opening line may open a section**: any of its lines may be that line, whether
    fences hide it or not. -/
theorem mayOpen_of_mem_split {text line payload : Text} (hline : line ∈ Line.split text)
    (h : payload? line = some payload) : mayOpen text = true := by
  obtain ⟨n, hn⟩ : ∃ n, text.length = n := ⟨_, rfl⟩
  induction n using Nat.strong_induction_on generalizing text with
  | _ n ih =>
    rcases eq_line_or_append text with hone | ⟨first, rest, hfirst, rfl⟩
    · rw [Line.split_of_not_mem hone] at hline
      obtain rfl := List.mem_singleton.1 hline
      apply opensInside_of_opensAt
      rw [← List.append_nil line]
      exact opensAt_of_payload? h hone (by simp)
    · have hsplit : Line.split (first ++ lineFeed :: rest) = Line.chomp first :: Line.split rest :=
        Line.split_append_lineFeed hfirst rest
      rw [hsplit] at hline
      rcases List.mem_cons.1 hline with rfl | hline
      · -- the line stands here, perhaps with a carriage return at its end
        rw [dropsBlank_chomp.payload?_eq] at h
        exact opensInside_of_opensAt (opensAt_of_payload? h hfirst (by simp))
      · have hlength : rest.length < n := by
          rw [← hn, List.length_append, List.length_cons]
          omega
        exact opensInside_append_lineFeed (ih rest.length hlength hline rfl) true first

end Section

variable [Runtime]

/-- **A note with a section may open one**, by the quick look. -/
theorem Reference.mayOpen_of_read {source text : Text} {rs : List Reference}
    (h : Reference.read source text = .ok rs) (hne : rs ≠ []) : Section.mayOpen text = true := by
  obtain ⟨r, hr⟩ := List.exists_mem_of_ne_nil rs hne
  obtain ⟨line, payload, ⟨hline, -⟩, hpayload, -⟩ := ((mem_iff_isSection h r).1 hr).opensAt
  exact Section.mayOpen_of_mem_split (List.mem_of_getElem? hline) hpayload

end TemplatedNotes
