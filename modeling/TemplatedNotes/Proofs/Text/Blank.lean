/-
  TemplatedNotes/Proofs/Text/Blank.lean
  =====================================
  **Texts without white space at their ends, and with single spaces inside.**

  Trimming takes nothing from a text that neither starts nor ends blank.  The words of a text are
  not empty and hold no white space (`isWord_of_mem_words`), and a word in front of white space is
  the first word (`words_append`).  So a squeezed text has spaces only between words: it holds no
  other white space and does not end blank.
-/
import TemplatedNotes.Text.Blank

namespace TemplatedNotes.Text

/-! ### Trimming -/

theorem trimRight_append_blank (t : Text) {c : CodePoint} (hc : c.isBlank = true) :
    trimRight (t ++ [c]) = trimRight t := by
  simp [trimRight, List.reverse_append, hc]

/-- Trimming the start of a text does not see a blank at its end, unless nothing else is left. -/
theorem trimLeft_append_blank (t : Text) {c : CodePoint} (hc : c.isBlank = true) :
    trimLeft (t ++ [c]) = trimLeft t ++ [c] ∨ trimLeft (t ++ [c]) = [] ∧ trimLeft t = [] := by
  unfold trimLeft
  rw [List.dropWhile_append]
  split
  · next h => exact Or.inr ⟨by simp [hc], List.isEmpty_iff.1 h⟩
  · exact Or.inl rfl

theorem trimLeft_eq_self {t : Text} (h : ∀ c, t.head? = some c → c.isBlank = false) :
    trimLeft t = t := by
  cases t with
  | nil => rfl
  | cons c rest =>
    have hc : ¬ c.isBlank = true := by simp [h c rfl]
    exact List.dropWhile_cons_of_neg hc

theorem trimRight_eq_self {t : Text} (h : ∀ c, t.getLast? = some c → c.isBlank = false) :
    trimRight t = t := by
  have hreverse : trimLeft t.reverse = t.reverse :=
    trimLeft_eq_self (fun c hc => h c (by rwa [← List.head?_reverse]))
  show (trimLeft t.reverse).reverse = t
  rw [hreverse, List.reverse_reverse]

/-- The start that is trimmed is blank, and what is left does not start blank. -/
theorem trimLeft_eq_iff {t r : Text} :
    trimLeft t = r ↔
      (∃ w, t = w ++ r ∧ ∀ c ∈ w, c.isBlank = true) ∧
        ∀ c, r.head? = some c → c.isBlank = false := by
  constructor
  · rintro rfl
    refine ⟨⟨t.takeWhile CodePoint.isBlank, ?_, ?_⟩, ?_⟩
    · exact List.takeWhile_append_dropWhile.symm
    · exact List.all_eq_true.1 List.all_takeWhile
    · intro c hc
      have hhead := List.head?_dropWhile_not CodePoint.isBlank t
      rw [show (t.dropWhile CodePoint.isBlank).head? = some c from hc] at hhead
      exact hhead
  · rintro ⟨⟨w, rfl, hw⟩, hr⟩
    calc trimLeft (w ++ r) = trimLeft r := List.dropWhile_append_of_pos hw
      _ = r := trimLeft_eq_self hr

/-- The end that is trimmed is blank, and what is left does not end blank. -/
theorem trimRight_eq_iff {t r : Text} :
    trimRight t = r ↔
      (∃ w, t = r ++ w ∧ ∀ c ∈ w, c.isBlank = true) ∧
        ∀ c, r.getLast? = some c → c.isBlank = false := by
  have hreverse : trimRight t = r ↔ trimLeft t.reverse = r.reverse := List.reverse_eq_iff
  rw [hreverse, trimLeft_eq_iff, List.head?_reverse]
  refine and_congr_left (fun _ => ⟨?_, ?_⟩)
  · rintro ⟨w, ht, hw⟩
    refine ⟨w.reverse, ?_, fun c hc => hw c (List.mem_reverse.1 hc)⟩
    rw [← List.reverse_inj, ht, List.reverse_append, List.reverse_reverse]
  · rintro ⟨w, rfl, hw⟩
    exact ⟨w.reverse, List.reverse_append, fun c hc => hw c (List.mem_reverse.1 hc)⟩

theorem trim_eq_self {t : Text} (hhead : ∀ c, t.head? = some c → c.isBlank = false)
    (hlast : ∀ c, t.getLast? = some c → c.isBlank = false) : trim t = t := by
  rw [trim, trimLeft_eq_self hhead, trimRight_eq_self hlast]

/-! ### Words -/

/-- Something between white space. -/
structure IsWord (w : Text) : Prop where
  ne_nil : w ≠ []
  solid : ∀ c ∈ w, c.isBlank = false

theorem wordsAfter_blank {c : CodePoint} (hc : c.isBlank = true) (word t : Text) :
    wordsAfter word (c :: t) = if word.isEmpty then words t else word.reverse :: words t := by
  rw [wordsAfter, if_pos hc]
  rfl

theorem wordsAfter_solid {c : CodePoint} (hc : c.isBlank = false) (word t : Text) :
    wordsAfter word (c :: t) = wordsAfter (c :: word) t := by
  rw [wordsAfter, hc]
  rfl

theorem isWord_of_mem_wordsAfter {word t : Text} (hword : ∀ c ∈ word, c.isBlank = false) :
    ∀ w ∈ wordsAfter word t, IsWord w := by
  have hbegun : word ≠ [] → IsWord word.reverse := by
    intro hne
    exact ⟨by simpa using hne, fun c hc => hword c (List.mem_reverse.1 hc)⟩
  induction t generalizing word with
  | nil =>
    intro w hw
    cases word with
    | nil => cases hw
    | cons d rest =>
      obtain rfl := List.mem_singleton.1 hw
      exact hbegun (by simp)
  | cons c rest ih =>
    cases hc : c.isBlank with
    | false =>
      rw [wordsAfter_solid hc]
      have hmore : ∀ d ∈ c :: word, d.isBlank = false := by
        intro d hd
        rcases List.mem_cons.1 hd with rfl | hd
        · exact hc
        · exact hword d hd
      exact ih hmore (fun _ => ⟨by simp, fun d hd => hmore d (List.mem_reverse.1 hd)⟩)
    | true =>
      have hrest : ∀ w ∈ words rest, IsWord w := ih (by simp) (fun h => absurd rfl h)
      intro w hw
      rw [wordsAfter_blank hc] at hw
      cases word with
      | nil => exact hrest w hw
      | cons d more =>
        rcases List.mem_cons.1 hw with rfl | hw
        · exact hbegun (by simp)
        · exact hrest w hw

theorem isWord_of_mem_words {w t : Text} (h : w ∈ words t) : IsWord w :=
  isWord_of_mem_wordsAfter (by simp) w h

theorem mem_of_mem_wordsAfter {word t w : Text} (hw : w ∈ wordsAfter word t) {c : CodePoint}
    (hc : c ∈ w) : c ∈ word ∨ c ∈ t := by
  induction t generalizing word with
  | nil =>
    cases word with
    | nil => cases hw
    | cons d rest =>
      obtain rfl := List.mem_singleton.1 hw
      exact Or.inl (List.mem_reverse.1 hc)
  | cons d rest ih =>
    cases hd : d.isBlank with
    | false =>
      rw [wordsAfter_solid hd] at hw
      rcases ih hw with h | h
      · rcases List.mem_cons.1 h with rfl | h
        · exact Or.inr List.mem_cons_self
        · exact Or.inl h
      · exact Or.inr (List.mem_cons_of_mem d h)
    | true =>
      have hrest : w ∈ words rest → c ∈ word ∨ c ∈ d :: rest := by
        intro hw
        rcases ih hw with h | h
        · cases h
        · exact Or.inr (List.mem_cons_of_mem d h)
      rw [wordsAfter_blank hd] at hw
      split at hw
      · exact hrest hw
      · rcases List.mem_cons.1 hw with rfl | hw
        · exact Or.inl (List.mem_reverse.1 hc)
        · exact hrest hw

/-- A word in front of white space is the first word of a text. -/
theorem words_append {w : Text} (hw : IsWord w) {c : CodePoint} (hc : c.isBlank = true)
    (t : Text) : words (w ++ c :: t) = w :: words t := by
  have hafter : ∀ (v word : Text), (∀ d ∈ v, d.isBlank = false) → word.reverse ++ v ≠ [] →
      wordsAfter word (v ++ c :: t) = (word.reverse ++ v) :: words t := by
    intro v
    induction v with
    | nil =>
      intro word _ hne
      rw [List.append_nil] at hne
      rw [List.nil_append, wordsAfter_blank hc, if_neg (by simpa using hne), List.append_nil]
    | cons d rest ih =>
      intro word hsolid hne
      rw [List.cons_append, wordsAfter_solid (hsolid d List.mem_cons_self),
        ih (d :: word) (fun x hx => hsolid x (List.mem_cons_of_mem d hx)) (by simp)]
      simp
  exact hafter w [] hw.solid hw.ne_nil

/-! ### Words put together -/

theorem mem_join {sep : Text} {ls : List Text} {c : CodePoint} (h : c ∈ join sep ls) :
    c ∈ sep ∨ ∃ l ∈ ls, c ∈ l := by
  induction ls using join.induct with
  | case1 => cases h
  | case2 t => exact Or.inr ⟨t, List.mem_singleton_self t, h⟩
  | case3 t rest hne ih =>
    rw [join] at h
    · rcases List.mem_append.1 h with h | h
      · rcases List.mem_append.1 h with h | h
        · exact Or.inr ⟨t, List.mem_cons_self, h⟩
        · exact Or.inl h
      · rcases ih h with h | ⟨l, hl, h⟩
        · exact Or.inl h
        · exact Or.inr ⟨l, List.mem_cons_of_mem t hl, h⟩
    · exact hne

theorem join_cons_cons (sep t u : Text) (ts : List Text) :
    join sep (t :: u :: ts) = t ++ sep ++ join sep (u :: ts) := rfl

theorem mem_join_of_mem {sep t : Text} {ts : List Text} {c : CodePoint} (ht : t ∈ ts)
    (hc : c ∈ t) : c ∈ join sep ts := by
  induction ts with
  | nil => cases ht
  | cons first more ih =>
    cases more with
    | nil => rwa [List.mem_singleton.1 ht] at hc
    | cons next more =>
      rw [join_cons_cons]
      rcases List.mem_cons.1 ht with rfl | ht
      · simp [hc]
      · exact List.mem_append_right _ (ih ht)

/-- With a separator between each two, texts are not many more than the code points of the whole. -/
theorem length_le_length_join {sep : Text} (h : sep ≠ []) (ts : List Text) :
    ts.length ≤ (join sep ts).length + 1 := by
  induction ts with
  | nil => exact Nat.zero_le _
  | cons t more ih =>
    cases more with
    | nil => exact Nat.le_add_left 1 _
    | cons u ts =>
      have hlength := List.length_pos_iff.2 h
      rw [join_cons_cons, List.length_append, List.length_append, List.length_cons]
      omega

/-- Texts that are not empty, put together, end as the last of them does. -/
theorem getLast?_join {sep : Text} {ls : List Text} (hne : ∀ l ∈ ls, l ≠ []) {c : CodePoint}
    (h : (join sep ls).getLast? = some c) : ∃ l ∈ ls, l.getLast? = some c := by
  induction ls using join.induct with
  | case1 => cases h
  | case2 t => exact ⟨t, List.mem_singleton_self t, h⟩
  | case3 t rest hrest ih =>
    rw [join] at h
    · have hjoin : join sep rest ≠ [] := by
        cases rest with
        | nil => exact absurd rfl hrest
        | cons first more =>
          have hfirst : first ≠ [] := hne first (by simp)
          cases more <;> simp [join, hfirst]
      rw [List.getLast?_append, List.getLast?_eq_some_getLast hjoin, Option.some_or,
        ← List.getLast?_eq_some_getLast hjoin] at h
      obtain ⟨l, hl, hlast⟩ := ih (fun l hl => hne l (List.mem_cons_of_mem t hl)) h
      exact ⟨l, List.mem_cons_of_mem t hl, hlast⟩
    · exact hrest

/-! ### Squeezed texts -/

theorem isBlank_of_mem_squeeze {c : CodePoint} {t : Text} (h : c ∈ squeeze t) :
    c.isBlank = false ∨ c = .scalar ' ' := by
  rcases mem_join h with h | ⟨w, hw, h⟩
  · exact Or.inr (List.mem_singleton.1 h)
  · exact Or.inl ((isWord_of_mem_words hw).solid c h)

theorem mem_of_mem_squeeze {c : CodePoint} {t : Text} (h : c ∈ squeeze t) :
    c = .scalar ' ' ∨ c ∈ t := by
  rcases mem_join h with h | ⟨w, hw, h⟩
  · exact Or.inl (List.mem_singleton.1 h)
  · rcases mem_of_mem_wordsAfter hw h with h | h
    · cases h
    · exact Or.inr h

theorem isBlank_of_getLast?_squeeze {c : CodePoint} {t : Text}
    (h : (squeeze t).getLast? = some c) : c.isBlank = false := by
  obtain ⟨w, hw, hlast⟩ := getLast?_join (fun w hw => (isWord_of_mem_words hw).ne_nil) h
  exact (isWord_of_mem_words hw).solid c (List.mem_of_getLast? hlast)

theorem squeeze_append {w : Text} (hw : IsWord w) {c : CodePoint} (hc : c.isBlank = true)
    {t : Text} (ht : words t ≠ []) : squeeze (w ++ c :: t) = w ++ .scalar ' ' :: squeeze t := by
  unfold squeeze
  rw [words_append hw hc, join]
  · simp
  · exact ht

end TemplatedNotes.Text
