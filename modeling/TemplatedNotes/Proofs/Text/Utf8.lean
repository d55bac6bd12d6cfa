/-
  TemplatedNotes/Proofs/Text/Utf8.lean
  ====================================
  **What was written is what is read.**

  A character is decoded from its bytes whatever follows them (`decodeFrom_encodeValue`): its first
  byte says how many continue it and between what bounds the next one lies, and the values that
  have fewer bytes or belong to surrogates are the ones that these bounds leave out.  So a text
  that has bytes is the text of its bytes (`decode_of_encode?`), and bytes that are decoded are those
  of their text (`decode_eq_ok_iff`).
-/
import TemplatedNotes.Text.Utf8

namespace TemplatedNotes

theorem CodePoint.ofNat_value (c : CodePoint) : CodePoint.ofNat c.value = c := by
  rw [ofNat, ofNat?_value, Option.getD_some]

namespace Utf8

theorem toNat_toUInt8 {n : Nat} (h : n < 0x100) : n.toUInt8.toNat = n := by
  rw [Nat.toUInt8_eq, UInt8.toNat_ofNat', Nat.mod_eq_of_lt h]

/-- The first byte of a character that more bytes continue. -/
theorem decodeFrom_begin (position : Nat) {b : UInt8} {p : Pending} (h : begin? b = some p)
    (howed : p.owed ≠ 0) (rest : List UInt8) :
    decodeFrom position none (b :: rest) = decodeFrom (position + 1) (some p) rest := by
  simp only [decodeFrom, h, if_neg howed]

/-- A byte that continues a character but does not end it. -/
theorem decodeFrom_continue (position owed : Nat) {low high n : Nat} (hbyte : n < 0x40)
    (hlow : low ≤ 0x80 + n) (hhigh : 0x80 + n ≤ high) (value : Nat) (bytes rest : List UInt8) :
    decodeFrom position (some ⟨owed + 2, low, high, value, bytes⟩) ((0x80 + n).toUInt8 :: rest) =
      decodeFrom (position + 1)
        (some ⟨owed + 1, 0x80, 0xbf, value * 0x40 + n, (0x80 + n).toUInt8 :: bytes⟩) rest := by
  have howed : ¬ owed + 2 = 1 := by omega
  simp only [decodeFrom, toNat_toUInt8 (show 0x80 + n < 0x100 by omega), hlow, hhigh, and_self,
    if_true, howed, if_false, Nat.add_sub_cancel_left, Nat.add_one_sub_one]

/-- The last byte of a character. -/
theorem decodeFrom_finish (position : Nat) {low high n : Nat} (hbyte : n < 0x40)
    (hlow : low ≤ 0x80 + n) (hhigh : 0x80 + n ≤ high) (value : Nat) (bytes rest : List UInt8) :
    decodeFrom position (some ⟨1, low, high, value, bytes⟩) ((0x80 + n).toUInt8 :: rest) =
      (decodeFrom (position + 1) none rest).map (CodePoint.ofNat (value * 0x40 + n) :: ·) := by
  simp only [decodeFrom, toNat_toUInt8 (show 0x80 + n < 0x100 by omega), hlow, hhigh, and_self,
    if_true, Nat.add_sub_cancel_left]

theorem begin?_one {n : Nat} (h : n < 0x80) :
    begin? n.toUInt8 = some ⟨0, 0, 0, n, [n.toUInt8]⟩ := by
  unfold begin?
  dsimp only
  rw [toNat_toUInt8 (by omega), if_pos h]

theorem begin?_two {n : Nat} (hlow : 2 ≤ n) (hhigh : n < 0x20) :
    begin? (0xc0 + n).toUInt8 = some ⟨1, 0x80, 0xbf, n, [(0xc0 + n).toUInt8]⟩ := by
  unfold begin?
  dsimp only
  rw [toNat_toUInt8 (by omega), if_neg (by omega), if_neg (by omega), if_pos (by omega),
    Nat.add_sub_cancel_left]

theorem begin?_three {n : Nat} (h : n < 0x10) :
    begin? (0xe0 + n).toUInt8 = some ⟨2, if n = 0 then 0xa0 else 0x80,
      if n = 0xd then 0x9f else 0xbf, n, [(0xe0 + n).toUInt8]⟩ := by
  have hfirst : 0xe0 + n = 0xe0 ↔ n = 0 := by omega
  have hlast : 0xe0 + n = 0xed ↔ n = 0xd := by omega
  unfold begin?
  dsimp only
  rw [toNat_toUInt8 (by omega), if_neg (by omega), if_neg (by omega), if_neg (by omega),
    if_pos (by omega), Nat.add_sub_cancel_left]
  simp only [hfirst, hlast]

theorem begin?_four {n : Nat} (h : n < 5) :
    begin? (0xf0 + n).toUInt8 = some ⟨3, if n = 0 then 0x90 else 0x80,
      if n = 4 then 0x8f else 0xbf, n, [(0xf0 + n).toUInt8]⟩ := by
  have hfirst : 0xf0 + n = 0xf0 ↔ n = 0 := by omega
  have hlast : 0xf0 + n = 0xf4 ↔ n = 4 := by omega
  unfold begin?
  dsimp only
  rw [toNat_toUInt8 (by omega), if_neg (by omega), if_neg (by omega), if_neg (by omega),
    if_neg (by omega), if_pos (by omega), Nat.add_sub_cancel_left]
  simp only [hfirst, hlast]

/-- **A character is decoded from its bytes**, whatever follows them. -/
theorem decodeFrom_encodeValue (position : Nat) {n : Nat} (h : n.isValidChar)
    (rest : List UInt8) :
    decodeFrom position none (encodeValue n ++ rest) =
      (decodeFrom (position + (encodeValue n).length) none rest).map
        (CodePoint.ofNat n :: ·) := by
  have hvalid : n < 0xd800 ∨ 0xdfff < n ∧ n < 0x110000 := h
  unfold encodeValue
  split
  · next h₁ =>
    simp only [List.singleton_append, decodeFrom, begin?_one h₁, if_true]
    rfl
  split
  · next h₁ h₂ =>
    have hvalue : n / 0x40 * 0x40 + n % 0x40 = n := Nat.div_add_mod' n 0x40
    rw [List.cons_append, List.singleton_append,
      decodeFrom_begin position (begin?_two (n := n / 0x40) (by omega) (by omega)) (by simp),
      decodeFrom_finish _ (by omega) (by omega) (by omega), hvalue]
    rfl
  split
  · next h₁ h₂ h₃ =>
    have hvalue : (n / 0x1000 * 0x40 + n / 0x40 % 0x40) * 0x40 + n % 0x40 = n := by omega
    rw [List.cons_append, List.cons_append, List.singleton_append,
      decodeFrom_begin position (begin?_three (n := n / 0x1000) (by omega)) (by simp),
      decodeFrom_continue _ 0 (by omega) (by split <;> omega) (by split <;> omega),
      decodeFrom_finish _ (by omega) (by omega) (by omega), hvalue]
    rfl
  · next h₁ h₂ h₃ =>
    have hvalue : ((n / 0x40000 * 0x40 + n / 0x1000 % 0x40) * 0x40 + n / 0x40 % 0x40) * 0x40 +
        n % 0x40 = n := by omega
    rw [List.cons_append, List.cons_append, List.cons_append, List.singleton_append,
      decodeFrom_begin position (begin?_four (n := n / 0x40000) (by omega)) (by simp),
      decodeFrom_continue _ 1 (by omega) (by split <;> omega) (by split <;> omega),
      decodeFrom_continue _ 0 (by omega) (by omega) (by omega),
      decodeFrom_finish _ (by omega) (by omega) (by omega), hvalue]
    rfl

theorem decodeFrom_of_encode? {t : Text} {b : List UInt8} (h : encode? t = some b)
    (position : Nat) : decodeFrom position none b = .ok t := by
  induction t generalizing b position with
  | nil =>
    cases h
    rfl
  | cons c rest ih =>
    cases c with
    | surrogate u => cases h
    | scalar c =>
      obtain ⟨bytes, hbytes, rfl⟩ := Option.map_eq_some_iff.1 h
      have hchar : CodePoint.ofNat c.toNat = .scalar c := CodePoint.ofNat_value (.scalar c)
      rw [decodeFrom_encodeValue position (n := c.toNat) c.valid, ih hbytes, hchar]
      rfl

/-- **A text that has bytes is the text of its bytes.** -/
theorem decode_of_encode? {t : Text} {b : List UInt8} (h : encode? t = some b) :
    decode b = .ok t :=
  decodeFrom_of_encode? h 0

theorem encode?_inj {t t' : Text} {b : List UInt8} (h : encode? t = some b)
    (h' : encode? t' = some b) : t = t' := by
  have hdecode := decode_of_encode? h
  rw [decode_of_encode? h'] at hdecode
  exact (Except.ok.inj hdecode).symm

/-- A text that has bytes holds no surrogate. -/
theorem surrogate_not_mem_of_encode? {t : Text} {b : List UInt8} (h : encode? t = some b)
    (u : Fin 2048) : CodePoint.surrogate u ∉ t := by
  induction t generalizing b with
  | nil => simp
  | cons c rest ih =>
    cases c with
    | surrogate u' => cases h
    | scalar c =>
      obtain ⟨bytes, hbytes, -⟩ := Option.map_eq_some_iff.1 h
      simpa using ih hbytes

/-- A text without surrogates has bytes. -/
theorem exists_encode? {t : Text} (h : ∀ u, CodePoint.surrogate u ∉ t) :
    ∃ b, encode? t = some b := by
  induction t with
  | nil => exact ⟨[], rfl⟩
  | cons c rest ih =>
    cases c with
    | surrogate u => exact absurd List.mem_cons_self (h u)
    | scalar c =>
      obtain ⟨b, hb⟩ := ih (fun u hu => h u (List.mem_cons_of_mem _ hu))
      exact ⟨encodeValue c.toNat ++ b, by rw [encode?, hb]; rfl⟩

/-! ### What is decoded is the text of its bytes -/

theorem toUInt8_of_toNat {b : UInt8} {n : Nat} (h : b.toNat = n) : n.toUInt8 = b := by
  rw [← h, Nat.toUInt8_eq, UInt8.ofNat_toNat]

/-- What a first byte says: how many bytes follow, the bounds on the next one and the value so
    far. -/
theorem begin?_cases {b : UInt8} {p : Pending} (h : begin? b = some p) :
    (b.toNat < 0x80 ∧ p = ⟨0, 0, 0, b.toNat, [b]⟩) ∨
      (0xc2 ≤ b.toNat ∧ b.toNat < 0xe0 ∧ p = ⟨1, 0x80, 0xbf, b.toNat - 0xc0, [b]⟩) ∨
      (0xe0 ≤ b.toNat ∧ b.toNat < 0xf0 ∧ p = ⟨2, if b.toNat = 0xe0 then 0xa0 else 0x80,
        if b.toNat = 0xed then 0x9f else 0xbf, b.toNat - 0xe0, [b]⟩) ∨
      (0xf0 ≤ b.toNat ∧ b.toNat < 0xf5 ∧ p = ⟨3, if b.toNat = 0xf0 then 0x90 else 0x80,
        if b.toNat = 0xf4 then 0x8f else 0xbf, b.toNat - 0xf0, [b]⟩) := by
  unfold begin? at h
  dsimp only at h
  split at h
  · next h₁ =>
    cases h
    exact .inl ⟨h₁, rfl⟩
  split at h
  · cases h
  split at h
  · cases h
    exact .inr (.inl ⟨by omega, by omega, rfl⟩)
  split at h
  · cases h
    exact .inr (.inr (.inl ⟨by omega, by omega, rfl⟩))
  split at h
  · cases h
    exact .inr (.inr (.inr ⟨by omega, by omega, rfl⟩))
  · cases h

theorem exists_of_map_ok {x : Except Fault Text} {c : CodePoint} {t : Text}
    (h : x.map (c :: ·) = .ok t) : ∃ after, x = .ok after ∧ t = c :: after := by
  cases x with
  | error f => cases h
  | ok after =>
    cases h
    exact ⟨after, rfl, rfl⟩

section Inside

variable {position owed low high value : Nat} {bytes bs : List UInt8} {t : Text}

/-- Inside a character that more than one byte continues. -/
theorem exists_of_decodeFrom_continue
    (h : decodeFrom position (some ⟨owed + 2, low, high, value, bytes⟩) bs = .ok t) :
    ∃ c rest, bs = c :: rest ∧ low ≤ c.toNat ∧ c.toNat ≤ high ∧
      decodeFrom (position + 1)
        (some ⟨owed + 1, 0x80, 0xbf, value * 0x40 + (c.toNat - 0x80), c :: bytes⟩) rest = .ok t := by
  cases bs with
  | nil => cases h
  | cons c rest =>
    rw [decodeFrom] at h
    split at h
    · next hbounds => exact ⟨c, rest, rfl, hbounds.1, hbounds.2, h⟩
    · cases h

/-- Inside a character that one byte ends. -/
theorem exists_of_decodeFrom_finish
    (h : decodeFrom position (some ⟨1, low, high, value, bytes⟩) bs = .ok t) :
    ∃ c rest after, bs = c :: rest ∧ low ≤ c.toNat ∧ c.toNat ≤ high ∧
      t = CodePoint.ofNat (value * 0x40 + (c.toNat - 0x80)) :: after ∧
      decodeFrom (position + 1) none rest = .ok after := by
  cases bs with
  | nil => cases h
  | cons c rest =>
    rw [decodeFrom] at h
    split at h
    · next hbounds =>
      obtain ⟨after, hafter, rfl⟩ := exists_of_map_ok h
      exact ⟨c, rest, after, rfl, hbounds.1, hbounds.2, rfl, hafter⟩
    · cases h

end Inside

/-- **What is decoded starts with the bytes of a character.** -/
theorem exists_of_decodeFrom_cons {position : Nat} {b : UInt8} {bs : List UInt8} {t : Text}
    (h : decodeFrom position none (b :: bs) = .ok t) :
    ∃ n rest after position', n.isValidChar ∧ b :: bs = encodeValue n ++ rest ∧
      t = CodePoint.ofNat n :: after ∧ decodeFrom position' none rest = .ok after := by
  rw [decodeFrom] at h
  cases hp : begin? b with
  | none =>
    rw [hp] at h
    cases h
  | some p =>
    rw [hp] at h
    dsimp only at h
    rcases begin?_cases hp with ⟨hb, rfl⟩ | ⟨hlow, hhigh, rfl⟩ | ⟨hlow, hhigh, rfl⟩ |
      ⟨hlow, hhigh, rfl⟩
    · rw [if_pos rfl] at h
      obtain ⟨after, hafter, rfl⟩ := exists_of_map_ok h
      refine ⟨b.toNat, bs, after, _, Or.inl (by omega), ?_, rfl, hafter⟩
      rw [encodeValue, if_pos hb, toUInt8_of_toNat rfl, List.singleton_append]
    · rw [if_neg Nat.one_ne_zero] at h
      obtain ⟨c, rest, after, rfl, hc, hc', rfl, hafter⟩ := exists_of_decodeFrom_finish h
      refine ⟨_, rest, after, _, Or.inl (by omega), ?_, rfl, hafter⟩
      rw [encodeValue, if_neg (by omega), if_pos (by omega),
        toUInt8_of_toNat (b := b) (by omega), toUInt8_of_toNat (b := c) (by omega)]
      rfl
    · rw [if_neg (Nat.succ_ne_zero 1)] at h
      obtain ⟨c, bs, rfl, hc, hc', h⟩ := exists_of_decodeFrom_continue h
      obtain ⟨d, rest, after, rfl, hd, hd', rfl, hafter⟩ := exists_of_decodeFrom_finish h
      have hbelow : 0x80 ≤ c.toNat ∧ (b.toNat = 0xe0 → 0xa0 ≤ c.toNat) := by
        split at hc <;> omega
      have habove : c.toNat ≤ 0xbf ∧ (b.toNat = 0xed → c.toNat ≤ 0x9f) := by
        split at hc' <;> omega
      refine ⟨_, rest, after, _, ?_, ?_, rfl, hafter⟩
      · rw [Nat.isValidChar]
        omega
      rw [encodeValue, if_neg (by omega), if_neg (by omega), if_pos (by omega),
        toUInt8_of_toNat (b := b) (by omega), toUInt8_of_toNat (b := c) (by omega),
        toUInt8_of_toNat (b := d) (by omega)]
      rfl
    · rw [if_neg (Nat.succ_ne_zero 2)] at h
      obtain ⟨c, bs, rfl, hc, hc', h⟩ := exists_of_decodeFrom_continue h
      obtain ⟨d, bs, rfl, hd, hd', h⟩ := exists_of_decodeFrom_continue h
      obtain ⟨e, rest, after, rfl, he, he', rfl, hafter⟩ := exists_of_decodeFrom_finish h
      have hbelow : 0x80 ≤ c.toNat ∧ (b.toNat = 0xf0 → 0x90 ≤ c.toNat) := by
        split at hc <;> omega
      have habove : c.toNat ≤ 0xbf ∧ (b.toNat = 0xf4 → c.toNat ≤ 0x8f) := by
        split at hc' <;> omega
      refine ⟨_, rest, after, _, ?_, ?_, rfl, hafter⟩
      · rw [Nat.isValidChar]
        omega
      rw [encodeValue, if_neg (by omega), if_neg (by omega), if_neg (by omega),
        toUInt8_of_toNat (b := b) (by omega), toUInt8_of_toNat (b := c) (by omega),
        toUInt8_of_toNat (b := d) (by omega), toUInt8_of_toNat (b := e) (by omega)]
      rfl

theorem encodeValue_ne_nil (n : Nat) : encodeValue n ≠ [] := by
  unfold encodeValue
  split
  · exact List.cons_ne_nil _ _
  split
  · exact List.cons_ne_nil _ _
  split
  · exact List.cons_ne_nil _ _
  · exact List.cons_ne_nil _ _

theorem encode?_of_decodeFrom {position : Nat} {b : List UInt8} {t : Text}
    (h : decodeFrom position none b = .ok t) : encode? t = some b := by
  induction hn : b.length using Nat.strongRecOn generalizing position b t with
  | ind m ih =>
    cases b with
    | nil =>
      cases h
      rfl
    | cons first bs =>
      obtain ⟨n, rest, after, position', hn', hbytes, rfl, hafter⟩ := exists_of_decodeFrom_cons h
      have hchar : CodePoint.ofNat n = .scalar (Char.ofNatAux n hn') := by
        rw [CodePoint.ofNat, CodePoint.ofNat?, dif_pos hn', Option.getD_some]
      have hless : rest.length < m := by
        have hlength := congrArg List.length hbytes
        have hpos := List.length_pos_iff.2 (encodeValue_ne_nil n)
        rw [List.length_append] at hlength
        omega
      have hrest := ih rest.length hless hafter rfl
      rw [hchar, encode?, hrest, hbytes]
      rfl

/-- **Bytes are a text exactly if they are its bytes.** -/
theorem decode_eq_ok_iff {b : List UInt8} {t : Text} : decode b = .ok t ↔ encode? t = some b :=
  ⟨encode?_of_decodeFrom, decode_of_encode?⟩

end Utf8

end TemplatedNotes
