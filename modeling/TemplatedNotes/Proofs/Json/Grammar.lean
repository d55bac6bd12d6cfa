/-
  TemplatedNotes/Proofs/Json/Grammar.lean
  =======================================
  **The grammar of JSON documents, and that reading follows it.**

      document ::= gap value gap                    row(e) ::= e gap {',' gap e gap}
      value    ::= atom | array | object            member ::= text gap ':' gap value
      array    ::= '[' gap [row(value)] ']'         object ::= '\x7b' gap [row(member)] '\x7d'

  `IsDocument depth t v` says that a text is a document nested up to a depth and denotes a value; in
  an object the last value of a key counts (`Literal.LastWins`).  A reader follows a relation
  between texts and values when what it takes off a text is related to its result, and a related
  text is read with that result in front of everything that cannot go on with a number
  (`Reader.Follows`).  Following passes from the entries to the loop over them, to arrays and
  objects, and so to values by induction on the depth.

    * `read_eq_ok_iff` — a text is read as a value exactly if it is a document that denotes it and is
      nested no deeper than `maxDepth`;
    * `IsDocument.mono` — a greater depth has all the documents of a smaller one.
-/
import TemplatedNotes.Proofs.Json.Word
import TemplatedNotes.Proofs.Literal.Grammar

namespace TemplatedNotes.Json

variable {α : Type}

/-! ### The grammar -/

/-- White space or nothing. -/
def IsGap (t : Text) : Prop := ∀ c ∈ t, isSpace c = true

/-- Entries with a comma between each two. -/
inductive Row (entry : Text → α → Prop) : Text → List α → Prop where
  | last {w g : Text} {x : α} (hx : entry w x) (hg : IsGap g) : Row entry (w ++ g) [x]
  | cons {w g g' rest : Text} {x : α} {xs : List α} (hx : entry w x) (hg : IsGap g)
      (hg' : IsGap g') (hrest : Row entry rest xs) :
      Row entry (w ++ (g ++ .scalar ',' :: (g' ++ rest))) (x :: xs)

/-- A row or nothing, and its closing mark. -/
inductive Enclosed (entry : Text → α → Prop) (close : Char) : Text → List α → Prop where
  | empty {g : Text} (hg : IsGap g) : Enclosed entry close (g ++ [.scalar close]) []
  | row {g w : Text} {xs : List α} (hg : IsGap g) (hrow : Row entry w xs) :
      Enclosed entry close (g ++ (w ++ [.scalar close])) xs

/-- A key and its value. -/
inductive IsMember (value : Text → Value → Prop) : Text → Scalar × Value → Prop where
  | intro {k x g g' w : Text} {v : Value} (hk : IsQuoted k x) (hg : IsGap g) (hg' : IsGap g')
      (hv : value w v) :
      IsMember value (.scalar '"' :: (k ++ .scalar '"' :: (g ++ .scalar ':' :: (g' ++ w))))
        (.text (joinPairs x), v)

/-- A value whose parts are values of some kind. -/
inductive IsMadeOf (part : Text → Value → Prop) : Text → Value → Prop where
  | atom {w : Text} {v : Value} (h : IsAtom w v) : IsMadeOf part w v
  | array {w : Text} {vs : List Value} (h : Enclosed part ']' w vs) :
      IsMadeOf part (.scalar '[' :: w) (.list vs)
  | object {w : Text} {ms es : List (Scalar × Value)} (h : Enclosed (IsMember part) '\x7d' w ms)
      (hes : Literal.LastWins ms es) : IsMadeOf part (.scalar '\x7b' :: w) (Value.dict es)

/-- A value nested up to a depth. -/
def IsValue : Nat → Text → Value → Prop
  | 0 => fun _ _ => False
  | depth + 1 => IsMadeOf (IsValue depth)

/-- A value with white space around it. -/
inductive IsDocument (depth : Nat) : Text → Value → Prop where
  | intro {g w g' : Text} {v : Value} (hg : IsGap g) (h : IsValue depth w v) (hg' : IsGap g') :
      IsDocument depth (g ++ (w ++ g')) v

/-! ### Greater depths -/

section Mono

variable {entry entry' : Text → α → Prop} {w : Text}

theorem Row.mono (h : ∀ w x, entry w x → entry' w x) {xs : List α} (hrow : Row entry w xs) :
    Row entry' w xs := by
  induction hrow with
  | last hx hg => exact .last (h _ _ hx) hg
  | cons hx hg hg' _ ih => exact .cons (h _ _ hx) hg hg' ih

theorem Enclosed.mono {close : Char} (h : ∀ w x, entry w x → entry' w x) {xs : List α}
    (henclosed : Enclosed entry close w xs) : Enclosed entry' close w xs := by
  cases henclosed with
  | empty hg => exact .empty hg
  | row hg hrow => exact .row hg (hrow.mono h)

theorem IsMadeOf.mono {part part' : Text → Value → Prop} (h : ∀ w v, part w v → part' w v)
    {v : Value} (hv : IsMadeOf part w v) : IsMadeOf part' w v := by
  cases hv with
  | atom ha => exact .atom ha
  | array henclosed => exact .array (henclosed.mono h)
  | object henclosed hes =>
    refine .object (henclosed.mono ?_) hes
    rintro w m ⟨hk, hg, hg', hv⟩
    exact .intro hk hg hg' (h _ _ hv)

theorem IsValue.succ {depth : Nat} {v : Value} (h : IsValue depth w v) :
    IsValue (depth + 1) w v := by
  induction depth generalizing w v with
  | zero => exact h.elim
  | succ depth ih => exact IsMadeOf.mono (fun _ _ => ih) h

theorem IsDocument.mono {depth depth' : Nat} (hle : depth ≤ depth') {v : Value}
    (h : IsDocument depth w v) : IsDocument depth' w v := by
  obtain ⟨hg, hv, hg'⟩ := h
  refine .intro hg ?_ hg'
  induction hle with
  | refl => exact hv
  | step _ ih => exact ih.succ

end Mono

/-! ### White space -/

theorem skipSpace_gap {g : Text} (hg : IsGap g) (t : Text) : skipSpace (g ++ t) = skipSpace t :=
  List.dropWhile_append_of_pos hg

theorem exists_gap (t : Text) : ∃ g, IsGap g ∧ t = g ++ skipSpace t :=
  ⟨t.takeWhile isSpace, fun _ hc => List.mem_takeWhile_imp hc, List.takeWhile_append_dropWhile.symm⟩

theorem skipSpace_cons {c : CodePoint} (hc : isSpace c = false) (t : Text) :
    skipSpace (c :: t) = c :: t := List.dropWhile_cons_of_neg (by simp [hc])

/-- White space ends a number, and so do the marks. -/
theorem stops_gap {g : Text} (hg : IsGap g) {t : Text} (ht : Stops t) : Stops (g ++ t) := by
  cases g with
  | nil => exact ht
  | cons c more =>
    have hc : isSpace c = true := hg c List.mem_cons_self
    have hspace : ((c = .scalar ' ' ∨ c = .scalar '\t') ∨ c = .scalar '\n') ∨ c = .scalar '\r' := by
      simpa [isSpace] using hc
    intro d hd
    obtain rfl := Option.some.inj hd
    rcases hspace with ((rfl | rfl) | rfl) | rfl <;> decide

theorem stops_cons {c : Char} (h : c = ',' ∨ IsClosing c) (t : Text) : Stops (.scalar c :: t) := by
  intro d hd
  obtain rfl := Option.some.inj hd
  rcases h with rfl | rfl | rfl <;> decide

/-! ### Readers that follow the grammar -/

/-- A text starts with neither white space nor a closing mark. -/
def StartsEntry (t : Text) : Prop :=
  ∃ c more, t = c :: more ∧ isSpace c = false ∧ c ≠ .scalar ']' ∧ c ≠ .scalar '\x7d'

/-- What is read derives its result, and what derives a result is read with it. -/
structure Reader.Follows (r : Reader α) (derives : Text → α → Prop) : Prop where
  sound : ∀ {t : Text} {x : α} {rest : Text}, r t = .ok (x, rest) →
    ∃ w, t = w ++ rest ∧ derives w x
  complete : ∀ {w : Text} {x : α}, derives w x → ∀ {rest : Text}, Stops rest →
    r (w ++ rest) = .ok (x, rest)
  starts : ∀ {w : Text} {x : α}, derives w x → StartsEntry w

theorem StartsEntry.skipSpace {w : Text} (h : StartsEntry w) (rest : Text) :
    skipSpace (w ++ rest) = w ++ rest := by
  obtain ⟨c, more, rfl, hc, -, -⟩ := h
  exact skipSpace_cons hc (more ++ rest)

theorem StartsEntry.append {w : Text} (h : StartsEntry w) (rest : Text) :
    StartsEntry (w ++ rest) := by
  obtain ⟨c, more, rfl, hc⟩ := h
  exact ⟨c, more ++ rest, rfl, hc⟩

theorem StartsEntry.length_pos {w : Text} (h : StartsEntry w) : 0 < w.length := by
  obtain ⟨c, more, rfl, -⟩ := h
  exact Nat.succ_pos _

variable {entry : Reader α} {derives : Text → α → Prop} {close : Char}

theorem Row.starts (hentry : entry.Follows derives) {w : Text} {xs : List α}
    (h : Row derives w xs) : StartsEntry w := by
  cases h with
  | last hx => exact (hentry.starts hx).append _
  | cons hx => exact (hentry.starts hx).append _

theorem Row.length_le (hentry : entry.Follows derives) {w : Text} {xs : List α}
    (h : Row derives w xs) : xs.length ≤ w.length := by
  induction h with
  | last hx =>
    have hpos := (hentry.starts hx).length_pos
    rw [List.length_append, List.length_singleton]
    omega
  | cons hx hg hg' _ ih =>
    have hpos := (hentry.starts hx).length_pos
    simp only [List.length_append, List.length_cons]
    omega

theorem IsClosing.isSpace (h : IsClosing close) : isSpace (.scalar close) = false := by
  rcases h with rfl | rfl <;> decide

theorem IsClosing.comma_ne (h : IsClosing close) : ',' ≠ close := by
  rcases h with rfl | rfl <;> decide

theorem sound_separated (hentry : entry.Follows derives) {rounds : Nat} {t rest : Text}
    {xs : List α} (h : Reader.separated entry close rounds t = .ok (xs, rest)) :
    ∃ w, t = w ++ .scalar close :: rest ∧ Row derives w xs := by
  induction rounds generalizing t xs with
  | zero => cases h
  | succ rounds ih =>
    obtain ⟨⟨x, after⟩, hx, hbehind⟩ := Outcome.bind_eq_ok.1 h
    obtain ⟨w, ht, hw⟩ := hentry.sound hx
    obtain ⟨g, hg, hafter⟩ := exists_gap after
    dsimp only at hbehind
    split at hbehind
    · next c behind hskip =>
      rw [hskip] at hafter
      split at hbehind
      · next hclose =>
        cases hbehind
        exact ⟨w ++ g, by rw [ht, hafter, hclose, List.append_assoc], .last hw hg⟩
      split at hbehind
      · next hcomma =>
        obtain ⟨⟨more, end'⟩, hmore, hresult⟩ := Outcome.bind_eq_ok.1 hbehind
        cases hresult
        obtain ⟨row, hrow, hderives⟩ := ih hmore
        obtain ⟨g', hg', hgap⟩ := exists_gap behind
        refine ⟨_, ?_, .cons hw hg hg' hderives⟩
        rw [ht, hafter, hcomma, hgap, hrow]
        simp
      · cases hbehind
    · cases hbehind

theorem complete_separated (hentry : entry.Follows derives) (hclose : IsClosing close) {w : Text}
    {xs : List α} (hrow : Row derives w xs) {rounds : Nat} (hrounds : xs.length ≤ rounds)
    (rest : Text) :
    Reader.separated entry close rounds (w ++ .scalar close :: rest) = .ok (xs, rest) := by
  induction hrow generalizing rounds with
  | @last w g x hx hg =>
    obtain ⟨rounds, rfl⟩ := Nat.exists_eq_succ_of_ne_zero (Nat.ne_of_gt hrounds)
    have hread := hentry.complete hx (stops_gap hg (stops_cons (Or.inr hclose) rest))
    have hskip : skipSpace (g ++ .scalar close :: rest) = .scalar close :: rest := by
      rw [skipSpace_gap hg, skipSpace_cons hclose.isSpace]
    rw [List.append_assoc]
    exact separated_last hread hskip rounds
  | @cons w g g' more x xs hx hg hg' hrest ih =>
    cases rounds with
    | zero => cases hrounds
    | succ rounds =>
      have hread := hentry.complete hx (stops_gap hg (stops_cons (Or.inl rfl)
        (g' ++ (more ++ .scalar close :: rest))))
      have hcomma : skipSpace (g ++ .scalar ',' :: (g' ++ (more ++ .scalar close :: rest))) =
          .scalar ',' :: (g' ++ (more ++ .scalar close :: rest)) := by
        rw [skipSpace_gap hg, skipSpace_cons (by decide)]
      have hmore := ih (Nat.le_of_succ_le_succ hrounds)
      rw [← (hrest.starts hentry).skipSpace, ← skipSpace_gap hg'] at hmore
      simp only [List.append_assoc, List.cons_append]
      exact separated_comma hclose.comma_ne hread hcomma hmore

/-- Nothing but white space before the closing mark, or entries to read. -/
theorem enclosed_cases (entry : Reader α) (close : Char) (t : Text) :
    (∃ rest, skipSpace t = .scalar close :: rest ∧
      Reader.enclosed entry close t = .ok ([], rest)) ∨
    ((∀ rest, skipSpace t ≠ .scalar close :: rest) ∧ ∃ rounds, (skipSpace t).length ≤ rounds ∧
      Reader.enclosed entry close t = Reader.separated entry close rounds (skipSpace t)) := by
  have hle : (skipSpace t).length ≤ t.length := (List.dropWhile_suffix _).length_le
  unfold Reader.enclosed
  split
  · next c rest hskip =>
    by_cases hc : c = close
    · subst hc
      exact Or.inl ⟨rest, hskip, if_pos rfl⟩
    · refine Or.inr ⟨fun after heq => ?_, t.length, hle, ?_⟩
      · rw [hskip] at heq
        cases heq
        exact hc rfl
      · rw [if_neg hc, hskip]
  · next hno => exact Or.inr ⟨fun rest heq => hno _ _ heq, _, Nat.le_refl _, rfl⟩

theorem sound_enclosed (hentry : entry.Follows derives) {t rest : Text} {xs : List α}
    (h : Reader.enclosed entry close t = .ok (xs, rest)) :
    ∃ w, t = w ++ rest ∧ Enclosed derives close w xs := by
  obtain ⟨g, hg, hgap⟩ := exists_gap t
  rcases enclosed_cases entry close t with ⟨after, hskip, heq⟩ | ⟨-, rounds, -, heq⟩
  · rw [heq] at h
    cases h
    rw [hskip] at hgap
    exact ⟨_, by simp [hgap], .empty hg⟩
  · rw [heq] at h
    obtain ⟨w, hw, hrow⟩ := sound_separated hentry h
    rw [hw] at hgap
    exact ⟨_, by simp [hgap], .row hg hrow⟩

theorem complete_enclosed (hentry : entry.Follows derives) (hclose : IsClosing close) {w : Text}
    {xs : List α} (h : Enclosed derives close w xs) (rest : Text) :
    Reader.enclosed entry close (w ++ rest) = .ok (xs, rest) := by
  cases h with
  | @empty g hg =>
    have hskip : skipSpace (g ++ [.scalar close] ++ rest) = .scalar close :: rest := by
      rw [List.append_assoc, skipSpace_gap hg, List.singleton_append,
        skipSpace_cons hclose.isSpace]
    rcases enclosed_cases entry close (g ++ [.scalar close] ++ rest) with
      ⟨after, hafter, heq⟩ | ⟨hno, -⟩
    · rw [hskip] at hafter
      cases hafter
      exact heq
    · exact absurd hskip (hno rest)
  | @row g w xs hg hrow =>
    have hstarts := hrow.starts hentry
    have hskip : skipSpace (g ++ (w ++ [.scalar close]) ++ rest) = w ++ .scalar close :: rest := by
      rw [List.append_assoc, skipSpace_gap hg, List.append_assoc, List.singleton_append,
        hstarts.skipSpace]
    rcases enclosed_cases entry close (g ++ (w ++ [.scalar close]) ++ rest) with
      ⟨after, hafter, -⟩ | ⟨-, rounds, hrounds, heq⟩
    · -- an entry does not start with the closing mark
      obtain ⟨c, more, rfl, -, hbracket, hbrace⟩ := hstarts
      rw [hskip] at hafter
      cases hafter
      rcases hclose with rfl | rfl
      · exact absurd rfl hbracket
      · exact absurd rfl hbrace
    · rw [heq, hskip]
      refine complete_separated hentry hclose hrow ?_ rest
      have hlength := hrow.length_le hentry
      rw [hskip, List.length_append] at hrounds
      omega

/-! ### Members and values -/

theorem follows_member {reader : Reader Value} {denotes : Text → Value → Prop}
    (hreader : reader.Follows denotes) : (member reader).Follows (IsMember denotes) := by
  constructor
  · intro t m rest h
    unfold member at h
    split at h
    · next more =>
      obtain ⟨⟨k, after⟩, hk, h⟩ := Outcome.bind_eq_ok.1 h
      obtain ⟨w, x, rfl, hw, rfl⟩ := quotedText_eq_ok_iff.1 hk
      obtain ⟨g, hg, hafter⟩ := exists_gap after
      dsimp only at h
      split at h
      · next behind hskip =>
        obtain ⟨⟨v, end'⟩, hv, h⟩ := Outcome.bind_eq_ok.1 h
        cases h
        obtain ⟨g', hg', hbehind⟩ := exists_gap behind
        obtain ⟨w', hw', hdenotes⟩ := hreader.sound hv
        refine ⟨_, ?_, .intro hw hg hg' hdenotes⟩
        rw [hafter, hskip, hbehind, hw']
        simp
      · cases h
    · cases h
  · intro w m h rest hrest
    obtain @⟨k, x, g, g', w, v, hk, hg, hg', hv⟩ := h
    have hkey : quotedText (k ++ .scalar '"' :: (g ++ .scalar ':' :: (g' ++ (w ++ rest)))) =
        .ok (joinPairs x, g ++ .scalar ':' :: (g' ++ (w ++ rest))) :=
      quotedText_eq_ok_iff.2 ⟨k, x, rfl, hk, rfl⟩
    have hcolon : skipSpace (g ++ .scalar ':' :: (g' ++ (w ++ rest))) =
        .scalar ':' :: (g' ++ (w ++ rest)) := by
      rw [skipSpace_gap hg, skipSpace_cons (by decide)]
    have hskip : skipSpace (g' ++ (w ++ rest)) = w ++ rest := by
      rw [skipSpace_gap hg', (hreader.starts hv).skipSpace]
    simp only [List.cons_append, List.append_assoc]
    rw [member, hkey]
    simp only [bind, Except.bind, hcolon, hskip, hreader.complete hv hrest]
    rfl
  · intro w m h
    obtain ⟨hk, hg, hg', hv⟩ := h
    exact ⟨_, _, rfl, by decide, by decide, by decide⟩

/-- An atom starts with none of the marks. -/
theorem IsAtom.exists_cons {w : Text} {v : Value} (h : IsAtom w v) :
    ∃ c more, w = c :: more ∧ c ≠ .scalar '[' ∧ c ≠ .scalar '\x7b' ∧ isSpace c = false ∧
      c ≠ .scalar ']' ∧ c ≠ .scalar '\x7d' := by
  cases h with
  | text h => exact ⟨_, _, rfl, by decide, by decide, by decide, by decide, by decide⟩
  | @constant c hc =>
    have htable : ∀ p ∈ constants, p.1 = p.1.headD ' ' :: p.1.tail ∧
        p.1.headD ' ' ≠ .scalar '[' ∧ p.1.headD ' ' ≠ .scalar '\x7b' ∧
        isSpace (p.1.headD ' ') = false ∧ p.1.headD ' ' ≠ .scalar ']' ∧
        p.1.headD ' ' ≠ .scalar '\x7d' := by decide
    exact ⟨_, _, htable c hc⟩
  | number h =>
    obtain ⟨c, more, hc, rfl | rfl⟩ := h.exists_digit
    · have hne : ∀ d : CodePoint, d.isAsciiDigit = false → c ≠ d :=
        fun d hd => ne_of_isAsciiDigit hc hd
      refine ⟨c, more, rfl, hne _ (by decide), hne _ (by decide), ?_, hne _ (by decide),
        hne _ (by decide)⟩
      simp [isSpace, hne (.scalar ' ') (by decide), hne (.scalar '\t') (by decide),
        hne (.scalar '\n') (by decide), hne (.scalar '\r') (by decide)]
    · exact ⟨_, _, rfl, by decide, by decide, by decide, by decide, by decide⟩

theorem value_succ_of_ne {c : CodePoint} (hbracket : c ≠ .scalar '[') (hbrace : c ≠ .scalar '\x7b')
    (depth : Nat) (more : Text) : value (depth + 1) (c :: more) = atom (c :: more) := by
  unfold value
  split
  · next heq => exact absurd (List.cons.inj heq).1 hbracket
  · next heq => exact absurd (List.cons.inj heq).1 hbrace
  · rfl

theorem Enclosed.forall_mem {derives : Text → α → Prop} {P : α → Prop} (h : ∀ w x, derives w x → P x)
    {close : Char} {w : Text} {xs : List α} (henclosed : Enclosed derives close w xs) :
    ∀ x ∈ xs, P x := by
  cases henclosed with
  | empty hg => simp
  | row hg hrow =>
    induction hrow with
    | last hx => simpa using h _ _ hx
    | cons hx hg hg' _ ih => exact List.forall_mem_cons.2 ⟨h _ _ hx, ih⟩

theorem Enclosed.exists_key {part : Text → Value → Prop} {w : Text} {ms : List (Scalar × Value)}
    (h : Enclosed (IsMember part) close w ms) : ∀ m ∈ ms, ∃ k, m.1 = .text k := by
  refine h.forall_mem ?_
  rintro w m ⟨-⟩
  exact ⟨_, rfl⟩

/-- The entries of an object are those that its members leave. -/
theorem lastWins_of_enclosed {part : Text → Value → Prop} {w : Text}
    {ms : List (Scalar × Value)} (h : Enclosed (IsMember part) '\x7d' w ms) :
    Literal.LastWins ms (Entries.ofList ms) :=
  Literal.lastWins_ofList h.exists_key

/-- **Reading a value follows the grammar**, at every depth. -/
theorem follows_value (depth : Nat) : (value depth).Follows (IsValue depth) := by
  induction depth with
  | zero =>
    constructor
    · intro t v rest h
      cases h
    · intro w v h
      exact h.elim
    · intro w v h
      exact h.elim
  | succ depth ih =>
    constructor
    · intro t v rest h
      unfold value at h
      split at h
      · obtain ⟨⟨vs, after⟩, hvs, heq⟩ := Outcome.map_eq_ok.1 h
        cases heq
        obtain ⟨w, rfl, hw⟩ := sound_enclosed ih hvs
        exact ⟨_, rfl, .array hw⟩
      · obtain ⟨⟨ms, after⟩, hms, heq⟩ := Outcome.map_eq_ok.1 h
        cases heq
        obtain ⟨w, rfl, hw⟩ := sound_enclosed (follows_member ih) hms
        exact ⟨_, rfl, .object hw (lastWins_of_enclosed hw)⟩
      · obtain ⟨w, rfl, hw⟩ := exists_of_atom h
        exact ⟨w, rfl, .atom hw⟩
    · intro w v h rest hrest
      cases h with
      | atom ha =>
        obtain ⟨c, more, rfl, hbracket, hbrace, -⟩ := ha.exists_cons
        rw [List.cons_append, value_succ_of_ne hbracket hbrace]
        exact atom_of_isAtom ha hrest
      | @array w vs hw =>
        have hread := complete_enclosed ih (Or.inl rfl) hw rest
        show (Reader.enclosed (value depth) ']' (w ++ rest)).map _ = _
        rw [hread]
        rfl
      | @object w ms es hw hes =>
        have hread := complete_enclosed (follows_member ih) (Or.inr rfl) hw rest
        obtain rfl := hes.unique (lastWins_of_enclosed hw)
        show (Reader.enclosed (member (value depth)) '\x7d' (w ++ rest)).map _ = _
        rw [hread]
        rfl
    · intro w v h
      cases h with
      | atom ha =>
        obtain ⟨c, more, rfl, -, -, hc⟩ := ha.exists_cons
        exact ⟨c, more, rfl, hc⟩
      | array hw => exact ⟨_, _, rfl, by decide, by decide, by decide⟩
      | object hw hes => exact ⟨_, _, rfl, by decide, by decide, by decide⟩

/-! ### Documents -/

/-- **A text is read as a value** exactly if it is a document that denotes it. -/
theorem read_eq_ok_iff [Runtime] {t : Text} {v : Value} :
    read t = .ok v ↔ IsDocument maxDepth t v := by
  have hvalue := follows_value maxDepth
  constructor
  · intro h
    obtain ⟨g, hg, ht⟩ := exists_gap t
    obtain ⟨⟨v', after⟩, hv, h⟩ := Outcome.bind_eq_ok.1 h
    obtain ⟨w, hw, hdenotes⟩ := hvalue.sound hv
    obtain ⟨g', hg', hafter⟩ := exists_gap after
    dsimp only at h
    split at h
    · next hempty =>
      cases h
      rw [List.isEmpty_iff.1 hempty, List.append_nil] at hafter
      rw [ht, hw, hafter]
      exact .intro hg hdenotes hg'
    · cases h
  · rintro @⟨g, w, g', v, hg, hv, hg'⟩
    have hstops : Stops g' := by
      rw [← List.append_nil g']
      exact stops_gap hg' (fun c hc => by cases hc)
    have hskip : skipSpace (g ++ (w ++ g')) = w ++ g' := by
      rw [skipSpace_gap hg, (hvalue.starts hv).skipSpace]
    have hend : skipSpace g' = [] := by
      rw [← List.append_nil g', skipSpace_gap hg']
      rfl
    unfold read
    rw [hskip, hvalue.complete hv hstops]
    simp only [bind, Except.bind, hend, List.isEmpty_nil, if_true]
    rfl

/-- A document denotes one value. -/
theorem IsDocument.unique [Runtime] {t : Text} {v v' : Value} (h : IsDocument maxDepth t v)
    (h' : IsDocument maxDepth t v') : v = v' := by
  have hread := read_eq_ok_iff.2 h
  rw [read_eq_ok_iff.2 h'] at hread
  exact (Except.ok.inj hread).symm

/-! ### Arrays that are nested too deep -/

/-- Arrays in each other. -/
def nested : Nat → Text
  | 0 => []
  | n + 1 => .scalar '[' :: (nested n ++ [.scalar ']'])

theorem isGap_nil : IsGap [] := fun _ hc => nomatch hc

/-- They are a value, however many they are. -/
theorem isValue_nested (n : Nat) : ∃ v, IsValue (n + 1) (nested (n + 1)) v := by
  induction n with
  | zero => exact ⟨_, .array (.empty isGap_nil)⟩
  | succ n ih =>
    obtain ⟨v, hv⟩ := ih
    have hrow : Row (IsValue (n + 1)) (nested (n + 1)) [v] := by
      rw [← List.append_nil (nested (n + 1))]
      exact .last hv isGap_nil
    exact ⟨_, .array (.row isGap_nil hrow)⟩

theorem separated_error {t : Text} {f : Fault} (h : entry t = .error f) (rounds : Nat) :
    Reader.separated entry close (rounds + 1) t = .error f := by
  simp only [Reader.separated, h, bind, Except.bind]

theorem value_nested {depth n : Nat} (h : depth < n) (rest : Text) :
    value depth (nested n ++ rest) = .error .nesting := by
  induction depth generalizing n rest with
  | zero => rfl
  | succ depth ih =>
    obtain ⟨m, rfl⟩ : ∃ m, n = m + 1 + 1 := ⟨n - 2, by omega⟩
    have hshape : nested (m + 1 + 1) ++ rest =
        .scalar '[' :: (nested (m + 1) ++ .scalar ']' :: rest) := by
      rw [nested, List.cons_append, List.append_assoc]
      rfl
    have hskip : skipSpace (nested (m + 1) ++ .scalar ']' :: rest) =
        nested (m + 1) ++ .scalar ']' :: rest := rfl
    have hinner := ih (Nat.lt_of_succ_lt_succ h) (.scalar ']' :: rest)
    have henclosed : Reader.enclosed (value depth) ']' (nested (m + 1) ++ .scalar ']' :: rest) =
        .error .nesting := by
      rcases enclosed_cases (value depth) ']' (nested (m + 1) ++ .scalar ']' :: rest) with
        ⟨after, hafter, -⟩ | ⟨-, rounds, hrounds, heq⟩
      · rw [hskip] at hafter
        cases hafter
      · obtain ⟨rounds, rfl⟩ : ∃ r, rounds = r + 1 := by
          refine ⟨rounds - 1, ?_⟩
          rw [hskip, List.length_append, List.length_cons] at hrounds
          omega
        rw [heq, hskip]
        exact separated_error hinner rounds
    rw [hshape]
    show (Reader.enclosed (value depth) ']' _).map _ = _
    rw [henclosed]
    rfl

end TemplatedNotes.Json
