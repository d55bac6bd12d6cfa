/-
  TemplatedNotes/Proofs/Json/Written.lean
  =======================================
  **JSON that was written is read back.**

  A reader takes a written text off whatever follows it (`Reader.Takes`).  An escaped code point is
  read as itself, so a text without surrogates comes back from between its quotes
  (`takes_value_writeText`); one with surrogates may not, because two of them in a row are read as
  one code point.  The entries of a block are read one after the other, the line ends and margins
  between them skipped (`takes_enclosed`), and so are lists of texts and objects.

  A written text has no carriage return (`carriageReturn_not_mem_writeMembers`): those of its texts
  are escaped.
-/
import TemplatedNotes.Json.Reader
import TemplatedNotes.Json.Writer
import TemplatedNotes.Proofs.Text.Blank
import TemplatedNotes.Proofs.Text.Utf8

namespace TemplatedNotes.Json

/-- A reader gives a value for a text, whatever follows the text. -/
def Reader.Takes {α : Type} (reader : Reader α) (t : Text) (a : α) : Prop :=
  ∀ rest, reader (t ++ rest) = .ok (a, rest)

/-! ### Texts -/

theorem textUnits_escape {c e : Char} (h : escapeLetters.lookup c = some e) (rest : Text) :
    textUnits (.scalar '\\' :: .scalar c :: rest) = consRead (.scalar e) (textUnits rest) := by
  have hc : c ≠ 'u' := by
    rintro rfl
    cases h
  rw [textUnits, h]
  exact fun a b x d more _ hu => hc hu

theorem textUnits_number {a b x d : CodePoint} {n : Nat} (h : hexQuad? a b x d = some n)
    (rest : Text) : textUnits (.scalar '\\' :: .scalar 'u' :: a :: b :: x :: d :: rest) =
      consRead (CodePoint.ofNat n) (textUnits rest) := by
  rw [textUnits, h]

theorem textUnits_plain {c : CodePoint} (hquote : c ≠ .scalar '"') (hslash : c ≠ .scalar '\\')
    (h : 32 ≤ c.value) (rest : Text) :
    textUnits (c :: rest) = consRead c (textUnits rest) := by
  rw [textUnits]
  · rw [if_neg]
    rintro (hlt | rfl)
    · omega
    · exact hslash rfl
  · exact hquote
  · exact fun a b x d more hc => absurd hc hslash
  · exact fun c' more hc => absurd hc hslash

/-- The digits that a control character is written by are those of its number. -/
theorem hexQuad?_of_lt : ∀ n < 32,
    Quoted.hexDigits 4 n =
      ([.scalar '0', .scalar '0', .scalar (Nat.digitChar (n / 16)),
        .scalar (Nat.digitChar (n % 16))] : Text) ∧
    hexQuad? '0' '0' (.scalar (Nat.digitChar (n / 16))) (.scalar (Nat.digitChar (n % 16))) =
      some n := by
  decide +kernel

/-- **A code point is read as itself**, however it is written. -/
theorem textUnits_writeCodePoint (c : CodePoint) (rest : Text) :
    textUnits (writeCodePoint c ++ rest) = consRead c (textUnits rest) := by
  unfold writeCodePoint
  split
  · next h =>
    rcases h with rfl | rfl
    · exact textUnits_escape (c := '"') rfl rest
    · exact textUnits_escape (c := '\\') rfl rest
  · next h =>
    obtain ⟨hquote, hslash⟩ := not_or.1 h
    split
    · next p hp =>
      have hmem := List.mem_of_find?_eq_some hp
      have hc : c = .scalar p.1 := by simpa using List.find?_some hp
      have hletter : ∀ q ∈ controlLetters, escapeLetters.lookup q.2 = some q.1 := by decide
      rw [hc]
      exact textUnits_escape (hletter p hmem) rest
    · split
      · next hlt =>
        obtain ⟨hdigits, hquad⟩ := hexQuad?_of_lt c.value hlt
        have hread := textUnits_number hquad rest
        rw [CodePoint.ofNat_value] at hread
        rw [hdigits]
        exact hread
      · next hge => exact textUnits_plain hquote hslash (Nat.not_lt.1 hge) rest

theorem textUnits_written (t rest : Text) :
    textUnits (t.flatMap writeCodePoint ++ .scalar '"' :: rest) = .ok (t, rest) := by
  induction t with
  | nil => rw [List.flatMap_nil, List.nil_append, textUnits]
  | cons c more ih =>
    rw [List.flatMap_cons, List.append_assoc, textUnits_writeCodePoint, ih]
    rfl

/-- A text without surrogates has no pairs of them. -/
theorem joinPairs_eq_self {t : Text} (h : ∀ u, CodePoint.surrogate u ∉ t) : joinPairs t = t := by
  induction t with
  | nil => rfl
  | cons a more ih =>
    have hmore : joinPairs more = more := ih (fun u hu => h u (List.mem_cons_of_mem a hu))
    cases more with
    | nil => rfl
    | cons b rest =>
      have hpair : pairOf? a b = none := by
        cases a with
        | surrogate u => exact absurd List.mem_cons_self (h u)
        | scalar c =>
          have hvalid : c.toNat < 0xd800 ∨ 0xdfff < c.toNat ∧ c.toNat < 0x110000 := c.valid
          refine if_neg ?_
          rintro ⟨hlow, hhigh, -⟩
          simp only [CodePoint.value] at hlow hhigh
          omega
      rw [joinPairs, hpair]
      exact congrArg (a :: ·) hmore

theorem takes_quotedText {t : Text} (h : ∀ u, CodePoint.surrogate u ∉ t) :
    Reader.Takes quotedText (t.flatMap writeCodePoint ++ [.scalar '"']) t := by
  intro rest
  rw [List.append_assoc, List.singleton_append, quotedText, textUnits_written]
  exact congrArg (fun s => Except.ok (s, rest)) (joinPairs_eq_self h)

/-- **A text without surrogates is read back** from between its quotes. -/
theorem takes_value_writeText {t : Text} (h : ∀ u, CodePoint.surrogate u ∉ t) (depth : Nat) :
    Reader.Takes (value (depth + 1)) (writeText t) (Value.text t) := by
  intro rest
  have hatom : value (depth + 1) (writeText t ++ rest) =
      (quotedText (t.flatMap writeCodePoint ++ [.scalar '"'] ++ rest)).map
        (fun p => (Value.text p.1, p.2)) := rfl
  rw [hatom, takes_quotedText h]
  rfl

/-! ### Blocks -/

/-- A text that starts with a mark, not with white space. -/
def StartsSolid (t : Text) : Prop := ∃ c more, t = c :: more ∧ isSpace c = false

theorem skipSpace_of_startsSolid {t : Text} (h : StartsSolid t) (rest : Text) :
    skipSpace (t ++ rest) = t ++ rest := by
  obtain ⟨c, more, rfl, hc⟩ := h
  rw [List.cons_append, skipSpace, List.dropWhile_cons_of_neg (by simp [hc])]

theorem skipSpace_margin (depth : Nat) (t : Text) : skipSpace (margin depth ++ t) = skipSpace t := by
  unfold margin
  induction 2 * depth with
  | zero => rfl
  | succ n ih => rwa [List.replicate_succ, List.cons_append]

theorem skipSpace_lineFeed (t : Text) : skipSpace (.scalar '\n' :: t) = skipSpace t := rfl

/-- The marks that end a block. -/
def IsClosing (close : Char) : Prop := close = ']' ∨ close = '\x7d'

variable {α : Type} {entry : Reader α} {close : Char} {es : List (Text × α)}

/-- Entries, a line for each, and the mark that closes their block on a line of its own. -/
def blockLines (close : Char) (depth : Nat) (entries : List Text) : Text :=
  Text.join [.scalar ',', .scalar '\n'] (entries.map (margin (depth + 1) ++ ·)) ++
    .scalar '\n' :: margin depth ++ [.scalar close]

/-- An entry that the closing mark follows is the last one. -/
theorem separated_last {t after rest : Text} {x : α} (h : entry t = .ok (x, after))
    (hskip : skipSpace after = .scalar close :: rest) (rounds : Nat) :
    Reader.separated entry close (rounds + 1) t = .ok ([x], rest) := by
  simp only [Reader.separated, h, bind, Except.bind, hskip, if_true]
  rfl

/-- An entry that a comma follows has others behind it. -/
theorem separated_comma {t after rest end' : Text} {x : α} {xs : List α} {rounds : Nat}
    (hcomma : ',' ≠ close) (h : entry t = .ok (x, after))
    (hskip : skipSpace after = .scalar ',' :: rest)
    (hrest : Reader.separated entry close rounds (skipSpace rest) = .ok (xs, end')) :
    Reader.separated entry close (rounds + 1) t = .ok (x :: xs, end') := by
  simp only [Reader.separated, h, bind, Except.bind, hskip, if_neg hcomma, if_true, hrest]
  rfl

/-- **Entries are read one after the other**, whatever follows the mark that closes them. -/
theorem separated_blockLines (hclose : IsClosing close)
    (hes : ∀ e ∈ es, entry.Takes e.1 e.2 ∧ StartsSolid e.1) (hne : es ≠ []) {rounds : Nat}
    (hrounds : es.length ≤ rounds) (depth : Nat) (rest : Text) :
    Reader.separated entry close rounds
        (skipSpace (blockLines close depth (es.map (·.1)) ++ rest)) =
      .ok (es.map (·.2), rest) := by
  have hcomma : ',' ≠ close := by
    rcases hclose with rfl | rfl <;> decide
  induction es generalizing rounds with
  | nil => exact absurd rfl hne
  | cons e more ih =>
    obtain ⟨⟨htakes, hsolid⟩, hmore⟩ := List.forall_mem_cons.1 hes
    cases rounds with
    | zero => cases hrounds
    | succ rounds =>
      cases more with
      | nil =>
        have hlines : blockLines close depth ([e].map (·.1)) ++ rest = margin (depth + 1) ++
            (e.1 ++ .scalar '\n' :: (margin depth ++ .scalar close :: rest)) := by
          simp [blockLines, Text.join]
        have hend : skipSpace (.scalar '\n' :: (margin depth ++ .scalar close :: rest)) =
            .scalar close :: rest := by
          rw [skipSpace_lineFeed, skipSpace_margin]
          rcases hclose with rfl | rfl <;> rfl
        rw [hlines, skipSpace_margin, skipSpace_of_startsSolid hsolid]
        exact separated_last (htakes _) hend rounds
      | cons e' more =>
        have hlines : blockLines close depth ((e :: e' :: more).map (·.1)) ++ rest =
            margin (depth + 1) ++ (e.1 ++ .scalar ',' :: .scalar '\n' ::
              (blockLines close depth ((e' :: more).map (·.1)) ++ rest)) := by
          simp [blockLines, Text.join_cons_cons]
        have hrest := ih hmore (by simp) (Nat.le_of_succ_le_succ hrounds)
        rw [hlines, skipSpace_margin, skipSpace_of_startsSolid hsolid]
        exact separated_comma hcomma (htakes _) rfl hrest

/-- A block starts with its first entry. -/
theorem exists_blockLines_cons (close : Char) (depth : Nat) (entry : Text) (more : List Text) :
    ∃ after, blockLines close depth (entry :: more) = margin (depth + 1) ++ (entry ++ after) := by
  cases more with
  | nil => exact ⟨_, by simp [blockLines, Text.join]; rfl⟩
  | cons next more => exact ⟨_, by simp [blockLines, Text.join_cons_cons]; rfl⟩

theorem length_le_length_blockLines (close : Char) (depth : Nat) (entries : List Text) :
    entries.length ≤ (blockLines close depth entries).length := by
  have hseparator : ([.scalar ',', .scalar '\n'] : Text) ≠ [] := List.cons_ne_nil _ _
  have hjoin := Text.length_le_length_join hseparator (entries.map (margin (depth + 1) ++ ·))
  rw [List.length_map] at hjoin
  unfold blockLines
  simp only [List.length_append, List.length_cons]
  omega

theorem writeBlock_of_ne_nil (first last : Char) (depth : Nat) {entries : List Text}
    (h : entries ≠ []) : writeBlock first last depth entries =
      .scalar first :: .scalar '\n' :: blockLines last depth entries := by
  unfold writeBlock blockLines
  rw [if_neg (by simpa using h)]
  simp

/-- **The entries of a block are read back**, behind the mark that opens it. -/
theorem takes_enclosed (first : Char) (hclose : IsClosing close)
    (hes : ∀ e ∈ es, entry.Takes e.1 e.2 ∧ ∃ more, e.1 = .scalar '"' :: more) (depth : Nat) :
    ∃ body, writeBlock first close depth (es.map (·.1)) = .scalar first :: body ∧
      Reader.Takes (Reader.enclosed entry close) body (es.map (·.2)) := by
  have hsolid : ∀ e ∈ es, entry.Takes e.1 e.2 ∧ StartsSolid e.1 := by
    intro e he
    obtain ⟨htakes, more, hmore⟩ := hes e he
    exact ⟨htakes, _, more, hmore, rfl⟩
  cases es with
  | nil =>
    refine ⟨[.scalar close], rfl, fun rest => ?_⟩
    have hskip : skipSpace ([.scalar close] ++ rest) = .scalar close :: rest := by
      rcases hclose with rfl | rfl <;> rfl
    simp only [Reader.enclosed, hskip, if_true, List.map_nil]
  | cons e more =>
    refine ⟨.scalar '\n' :: blockLines close depth ((e :: more).map (·.1)),
      writeBlock_of_ne_nil first close depth (by simp), fun rest => ?_⟩
    obtain ⟨-, quoted, hquoted⟩ := hes e List.mem_cons_self
    obtain ⟨after, hafter⟩ := exists_blockLines_cons close depth e.1 (more.map (·.1))
    -- the first entry starts with a quote, so the block is not taken for an empty one
    have hquote : skipSpace (blockLines close depth ((e :: more).map (·.1)) ++ rest) =
        .scalar '"' :: (quoted ++ after ++ rest) := by
      rw [List.map_cons, hafter, hquoted, List.append_assoc, skipSpace_margin]
      simp [skipSpace, isSpace]
    have hrounds : (e :: more).length ≤
        (.scalar '\n' :: blockLines close depth ((e :: more).map (·.1)) ++ rest).length := by
      have hlength := length_le_length_blockLines close depth ((e :: more).map (·.1))
      simp only [List.length_map, List.length_append, List.length_cons] at hlength ⊢
      omega
    have hread := separated_blockLines hclose hsolid (by simp) hrounds depth rest
    rw [hquote] at hread
    have hne : '"' ≠ close := by
      rcases hclose with rfl | rfl <;> decide
    rw [List.cons_append, Reader.enclosed, skipSpace_lineFeed, hquote]
    dsimp only
    rw [if_neg hne]
    exact hread

/-! ### Lists of texts and objects -/

theorem startsSolid_writeBlock {first : Char} (h : isSpace (.scalar first) = false) (last : Char)
    (depth : Nat) (entries : List Text) : StartsSolid (writeBlock first last depth entries) := by
  unfold writeBlock
  split
  · exact ⟨_, _, rfl, h⟩
  · exact ⟨_, _, rfl, h⟩

/-- **A list of texts is read back.** -/
theorem takes_value_writeTexts {ts : List Text} (h : ∀ t ∈ ts, ∀ u, CodePoint.surrogate u ∉ t)
    (depth margin : Nat) :
    Reader.Takes (value (depth + 2)) (writeTexts margin ts) (Value.list (ts.map Value.text)) := by
  have hes : ∀ e ∈ ts.map (fun t => (writeText t, Value.text t)),
      Reader.Takes (value (depth + 1)) e.1 e.2 ∧ ∃ more, e.1 = .scalar '"' :: more := by
    intro e he
    obtain ⟨t, ht, rfl⟩ := List.mem_map.1 he
    exact ⟨takes_value_writeText (h t ht) depth, _, rfl⟩
  obtain ⟨body, hbody, htakes⟩ := takes_enclosed '[' (Or.inl rfl) hes margin
  rw [List.map_map] at hbody htakes
  intro rest
  have hvalue : value (depth + 2) (.scalar '[' :: (body ++ rest)) =
      (Reader.enclosed (value (depth + 1)) ']' (body ++ rest)).map
        (fun p => (Value.list p.1, p.2)) := rfl
  have hwrite : writeTexts margin ts = .scalar '[' :: body := hbody
  rw [hwrite, List.cons_append, hvalue, htakes]
  rfl

theorem takes_member {reader : Reader Value} {key written : Text} {v : Value}
    (hkey : ∀ u, CodePoint.surrogate u ∉ key) (htakes : reader.Takes written v)
    (hsolid : StartsSolid written) :
    Reader.Takes (member reader) (writeText key ++ Text.of ": " ++ written) (.text key, v) := by
  intro rest
  have htext : writeText key ++ Text.of ": " ++ written ++ rest =
      .scalar '"' :: (key.flatMap writeCodePoint ++ [.scalar '"'] ++
        .scalar ':' :: .scalar ' ' :: (written ++ rest)) := by
    simp [writeText, Text.of]
  have hcolon : skipSpace (.scalar ':' :: .scalar ' ' :: (written ++ rest)) =
      .scalar ':' :: .scalar ' ' :: (written ++ rest) := rfl
  have hspace : skipSpace (.scalar ' ' :: (written ++ rest)) = written ++ rest :=
    skipSpace_of_startsSolid hsolid rest
  rw [htext, member, takes_quotedText hkey]
  simp only [bind, Except.bind, hcolon, hspace, htakes rest]
  rfl

/-- **An object is read back**, from how its values are written. -/
theorem takes_value_writeMembers (ms : List (Text × Text × Value)) {depth : Nat}
    (h : ∀ m ∈ ms, (∀ u, CodePoint.surrogate u ∉ m.1) ∧
      Reader.Takes (value depth) m.2.1 m.2.2 ∧ StartsSolid m.2.1) (margin : Nat) :
    Reader.Takes (value (depth + 1)) (writeMembers margin (ms.map (fun m => (m.1, m.2.1))))
      (Value.dict (Entries.ofList (ms.map (fun m => (.text m.1, m.2.2))))) := by
  have hes : ∀ e ∈ ms.map (fun m => (writeText m.1 ++ Text.of ": " ++ m.2.1,
      ((.text m.1, m.2.2) : Scalar × Value))),
      Reader.Takes (member (value depth)) e.1 e.2 ∧ ∃ more, e.1 = .scalar '"' :: more := by
    intro e he
    obtain ⟨m, hm, rfl⟩ := List.mem_map.1 he
    obtain ⟨hkey, htakes, hsolid⟩ := h m hm
    exact ⟨takes_member hkey htakes hsolid, _, rfl⟩
  obtain ⟨body, hbody, htakes⟩ := takes_enclosed '\x7b' (Or.inr rfl) hes margin
  rw [List.map_map] at hbody htakes
  intro rest
  have hvalue : value (depth + 1) (.scalar '\x7b' :: (body ++ rest)) =
      (Reader.enclosed (member (value depth)) '\x7d' (body ++ rest)).map
        (fun p => (Value.dict (Entries.ofList p.1), p.2)) := rfl
  have hwrite : writeMembers margin (ms.map (fun m => (m.1, m.2.1))) = .scalar '\x7b' :: body := by
    rw [writeMembers, List.map_map]
    exact hbody
  rw [hwrite, List.cons_append, hvalue, htakes]
  rfl

/-- A document that is one written value is read as this value. -/
theorem read_of_takes [Runtime] {t : Text} {v : Value} (h : Reader.Takes (value maxDepth) t v)
    (hsolid : StartsSolid t) : read t = .ok v := by
  have hskip := skipSpace_of_startsSolid hsolid []
  have hvalue := h []
  rw [List.append_nil] at hskip hvalue
  rw [read, hskip, hvalue]
  rfl

/-! ### The code points of written texts -/

theorem carriageReturn_not_mem_writeCodePoint (c : CodePoint) :
    CodePoint.scalar '\r' ∉ writeCodePoint c := by
  unfold writeCodePoint
  split
  · next h =>
    rcases h with rfl | rfl <;> decide
  · split
    · next p hp =>
      have hletter : ∀ q ∈ controlLetters, q.2 ≠ '\r' := by decide
      have hne := hletter p (List.mem_of_find?_eq_some hp)
      simpa using Ne.symm hne
    · next hnone =>
      split
      · next hlt =>
        have hdigits : ∀ n < 32, CodePoint.scalar '\r' ∉ Quoted.hexDigits 4 n := by decide +kernel
        simpa using hdigits c.value hlt
      · intro hmem
        obtain rfl := List.mem_singleton.1 hmem
        cases hnone

theorem carriageReturn_not_mem_writeText (t : Text) :
    CodePoint.scalar '\r' ∉ writeText t := by
  unfold writeText
  simpa using fun c _ => carriageReturn_not_mem_writeCodePoint c

theorem carriageReturn_not_mem_margin (depth : Nat) : CodePoint.scalar '\r' ∉ margin depth := by
  intro h
  cases List.eq_of_mem_replicate h

theorem carriageReturn_not_mem_writeBlock {first last : Char} (hfirst : first ≠ '\r')
    (hlast : last ≠ '\r') (depth : Nat) {entries : List Text}
    (h : ∀ e ∈ entries, CodePoint.scalar '\r' ∉ e) :
    CodePoint.scalar '\r' ∉ writeBlock first last depth entries := by
  have hlines : CodePoint.scalar '\r' ∉ Text.join [.scalar ',', .scalar '\n']
      (entries.map (margin (depth + 1) ++ ·)) := by
    intro hmem
    rcases Text.mem_join hmem with hmem | ⟨line, hline, hmem⟩
    · exact absurd hmem (by decide)
    · obtain ⟨e, he, rfl⟩ := List.mem_map.1 hline
      rcases List.mem_append.1 hmem with hmem | hmem
      · exact carriageReturn_not_mem_margin _ hmem
      · exact h e he hmem
  unfold writeBlock
  split
  · simpa using ⟨Ne.symm hfirst, Ne.symm hlast⟩
  · simpa using ⟨Ne.symm hfirst, hlines, carriageReturn_not_mem_margin depth, Ne.symm hlast⟩

/-- **A written object has no carriage return**, if the values in it have none. -/
theorem carriageReturn_not_mem_writeMembers (depth : Nat) {ms : List (Text × Text)}
    (h : ∀ m ∈ ms, CodePoint.scalar '\r' ∉ m.2) :
    CodePoint.scalar '\r' ∉ writeMembers depth ms := by
  refine carriageReturn_not_mem_writeBlock (by decide) (by decide) depth ?_
  intro e he
  obtain ⟨m, hm, rfl⟩ := List.mem_map.1 he
  have hcolon : CodePoint.scalar '\r' ∉ Text.of ": " := by decide
  simpa using ⟨carriageReturn_not_mem_writeText m.1, hcolon, h m hm⟩

theorem carriageReturn_not_mem_writeTexts (depth : Nat) (ts : List Text) :
    CodePoint.scalar '\r' ∉ writeTexts depth ts := by
  refine carriageReturn_not_mem_writeBlock (by decide) (by decide) depth ?_
  intro e he
  obtain ⟨t, -, rfl⟩ := List.mem_map.1 he
  exact carriageReturn_not_mem_writeText t

theorem mem_writeBlock {first last : Char} {depth : Nat} {entries : List Text} {e : Text}
    {c : CodePoint} (he : e ∈ entries) (hc : c ∈ e) : c ∈ writeBlock first last depth entries := by
  rw [writeBlock_of_ne_nil first last depth (List.ne_nil_of_mem he), blockLines]
  have hjoin : c ∈ Text.join [.scalar ',', .scalar '\n']
      (entries.map (margin (depth + 1) ++ ·)) :=
    Text.mem_join_of_mem (List.mem_map_of_mem he) (List.mem_append_right _ hc)
  simp [hjoin]

/-- A surrogate is written as it is. -/
theorem surrogate_mem_writeTexts {ts : List Text} {t : Text} {u : Fin 2048} (ht : t ∈ ts)
    (hu : CodePoint.surrogate u ∈ t) (depth : Nat) :
    CodePoint.surrogate u ∈ writeTexts depth ts := by
  refine mem_writeBlock (List.mem_map_of_mem ht) ?_
  have hself : CodePoint.surrogate u ∈ writeCodePoint (.surrogate u) := by
    have hvalue : ¬ (CodePoint.surrogate u).value < 32 := by
      rw [CodePoint.value]
      omega
    simp [writeCodePoint, controlLetters, hvalue]
  unfold writeText
  have hmem : CodePoint.surrogate u ∈ t.flatMap writeCodePoint :=
    List.mem_flatMap.2 ⟨_, hu, hself⟩
  simp [hmem]

end TemplatedNotes.Json
