/-
  TemplatedNotes/Proofs/Literal/Nesting.lean
  ==========================================
  **A literal is read if and only if its tokens derive an object.**

  The reader may also fail at a number or an escape that has no value, and where the nesting is
  too deep.  Both can be seen on the tokens: `openLevels` are the arrays, objects and signs that
  some tokens leave open, a sign until the value behind it is complete.  The reader keeps step with
  them: a value that begins behind some levels ends with them, but for the signs (`stays_value`).
  So if no place of the tokens has more than `maxDepth` open levels and every number and escape has
  a value (`InRange`), all that remains is a fault of syntax.

    * `parse_iff_denotes` — what such a literal gives, and that otherwise its syntax is at fault.
-/
import TemplatedNotes.Proofs.Literal.Grammar
import TemplatedNotes.Runtime.Usual

namespace TemplatedNotes.Literal

variable {α : Type}

/-! ### Open levels -/

inductive Level where
  | object
  | array
  | sign
deriving DecidableEq, Repr

/-- Open levels, innermost first, once a value is complete: its signs are gone. -/
def settled (levels : List Level) : List Level := levels.dropWhile (· == .sign)

def levelsAfter (levels : List Level) (t : Token) : List Level :=
  if t.isMark '\x7b' then .object :: levels
  else if t.isMark '[' then .array :: levels
  else if t.isMark '+' || t.isMark '-' then .sign :: levels
  else if t.isMark '\x7d' || t.isMark ']' then settled (settled levels).tail
  else settled levels

/-- The levels that tokens leave open, innermost first. -/
def openLevels (tokens : List Token) : List Level := tokens.foldl levelsAfter []

/-- An entry of an array or an object may start behind some tokens. -/
def StartsEntry (before : List Token) : Prop :=
  ∃ t, before.getLast? = some t ∧
    (t.isMark '\x7b' = true ∨ t.isMark '[' = true ∨ t.isMark ',' = true)

/-- A key of an object may start behind some tokens. -/
def StartsKey (before : List Token) : Prop :=
  (openLevels before).head? = some .object ∧ StartsEntry before

section

variable [Runtime]

/-- The numbers and the escapes of tokens have values, numbers that are keys have texts, and the
    nesting stays within the limit. -/
structure InRange (tokens : List Token) : Prop where
  quoted : ∀ t ∈ tokens, t.kind = .quoted → ∃ x, decodeQuoted t.text = .ok x
  number : ∀ t ∈ tokens, t.kind = .number → ∃ n, decodeNumber t.text = .ok n
  key : ∀ before t, before ++ [t] <+: tokens → t.kind = .number → StartsKey before →
    ∃ k, key t = .ok k
  nesting : ∀ before, before <+: tokens → (openLevels before).length ≤ maxDepth

end

theorem settled_sign (levels : List Level) : settled (.sign :: levels) = settled levels := rfl

theorem settled_of_ne {level : Level} (h : level ≠ .sign) (outer : List Level) :
    settled (level :: outer) = level :: outer := by
  simp [settled, h]

theorem openLevels_concat (before : List Token) (t : Token) :
    openLevels (before ++ [t]) = levelsAfter (openLevels before) t := by
  simp [openLevels]

section LevelsAfter

variable {t : Token} (levels : List Level)

theorem levelsAfter_of_sign {minus : Bool} (h : t.isMark (signMark minus) = true) :
    levelsAfter levels t = .sign :: levels := by
  have hbrace : t.isMark '\x7b' = false := isMark_of_ne h (by cases minus <;> decide)
  have hbracket : t.isMark '[' = false := isMark_of_ne h (by cases minus <;> decide)
  have hsign : (t.isMark '+' || t.isMark '-') = true := by
    cases minus with
    | true => exact Bool.or_eq_true_iff.2 (Or.inr h)
    | false => exact Bool.or_eq_true_iff.2 (Or.inl h)
  simp only [levelsAfter, hbrace, hbracket, hsign, Bool.false_eq_true, if_false, if_true]

theorem levelsAfter_of_brace (h : t.isMark '\x7b' = true) :
    levelsAfter levels t = .object :: levels := if_pos h

theorem levelsAfter_of_bracket (h : t.isMark '[' = true) :
    levelsAfter levels t = .array :: levels := by
  have hbrace : t.isMark '\x7b' = false := isMark_of_ne h (by decide)
  simp only [levelsAfter, hbrace, h, Bool.false_eq_true, if_false, if_true]

theorem levelsAfter_of_close {close : Char} (h : t.isMark close = true)
    (hclose : close = '\x7d' ∨ close = ']') :
    levelsAfter levels t = settled (settled levels).tail := by
  have hends : (t.isMark '\x7d' || t.isMark ']') = true := by
    rcases hclose with rfl | rfl
    · exact Bool.or_eq_true_iff.2 (Or.inl h)
    · exact Bool.or_eq_true_iff.2 (Or.inr h)
  have hother : ∀ c, c ≠ '\x7d' → c ≠ ']' → t.isMark c = false := by
    intro c h₁ h₂
    rcases hclose with rfl | rfl
    · exact isMark_of_ne h h₁.symm
    · exact isMark_of_ne h h₂.symm
  have hbrace := hother '\x7b' (by decide) (by decide)
  have hbracket := hother '[' (by decide) (by decide)
  have hplus := hother '+' (by decide) (by decide)
  have hminus := hother '-' (by decide) (by decide)
  simp only [levelsAfter, hbrace, hbracket, hplus, hminus, hends, Bool.or_self,
    Bool.false_eq_true, if_false, if_true]

/-- Any other token completes a value or stands between two. -/
theorem levelsAfter_of_not (h : ∀ c ∈ ['\x7b', '[', '+', '-', '\x7d', ']'], t.isMark c = false) :
    levelsAfter levels t = settled levels := by
  simp only [List.mem_cons, List.not_mem_nil, or_false, forall_eq_or_imp, forall_eq] at h
  obtain ⟨hbrace, hbracket, hplus, hminus, hbrace', hbracket'⟩ := h
  simp only [levelsAfter, hbrace, hbracket, hplus, hminus, hbrace', hbracket', Bool.or_self,
    Bool.false_eq_true, if_false]

theorem levelsAfter_of_mark {c : Char} (h : t.isMark c = true) (hc : c = ',' ∨ c = ':') :
    levelsAfter levels t = settled levels := by
  apply levelsAfter_of_not
  intro d hd
  apply isMark_of_ne h
  rcases hc with rfl | rfl
  · rintro rfl
    exact absurd hd (by decide)
  · rintro rfl
    exact absurd hd (by decide)

theorem levelsAfter_of_kind {kind : TokenKind} (h : t.kind = kind) (hne : kind ≠ .mark) :
    levelsAfter levels t = settled levels :=
  levelsAfter_of_not levels (fun c _ => isMark_of_kind h hne c)

end LevelsAfter

/-! ### Readers that keep step with the open levels -/

/-- Behind some of the tokens, reading ends with a fault of syntax or goes on behind more of them,
    with the given levels open. -/
def Stays (tokens before : List Token) (levels : List Level) (o : Outcome (α × List Token)) :
    Prop :=
  (∃ f, o = .error (.literal f)) ∨
    ∃ x read rest, o = .ok (x, rest) ∧ read ≠ [] ∧ before ++ read ++ rest = tokens ∧
      openLevels (before ++ read) = levels

variable {tokens before : List Token} {levels : List Level}

/-- A result that is worked on afterwards, unless that finds a fault of syntax. -/
theorem Stays.bind {β : Type} {o : Outcome (α × List Token)} (h : Stays tokens before levels o)
    {g : α → Outcome β} (hg : ∀ x, (∃ f, g x = .error (.literal f)) ∨ ∃ y, g x = .ok y) :
    Stays tokens before levels (o >>= fun p => g p.1 >>= fun y => .ok (y, p.2)) := by
  rcases h with ⟨f, rfl⟩ | ⟨x, read, rest, rfl, hread⟩
  · exact Or.inl ⟨f, rfl⟩
  · show Stays tokens before levels (g x >>= fun y => .ok (y, rest))
    rcases hg x with ⟨f, h⟩ | ⟨y, h⟩
    · rw [h]
      exact Or.inl ⟨f, rfl⟩
    · rw [h]
      exact Or.inr ⟨y, read, rest, rfl, hread⟩

theorem Stays.map {β : Type} {o : Outcome (α × List Token)} (h : Stays tokens before levels o)
    (g : α → β) : Stays tokens before levels (o >>= fun p => .ok (g p.1, p.2)) :=
  h.bind (g := fun x => .ok (g x)) (fun x => Or.inr ⟨g x, rfl⟩)

/-- What follows some tokens keeps step when it does so behind them. -/
theorem Stays.append {read : List Token} {o : Outcome (α × List Token)}
    (h : Stays tokens (before ++ read) levels o) : Stays tokens before levels o := by
  rcases h with h | ⟨x, more, rest, rfl, hne, htokens, hopen⟩
  · exact Or.inl h
  · exact Or.inr ⟨x, read ++ more, rest, rfl, by simp [hne], by simpa using htokens,
      by simpa using hopen⟩

theorem expect_cases (c : Char) (ts : List Token) :
    (∃ f, expect c ts = .error (.literal f)) ∨
      ∃ t rest, ts = t :: rest ∧ t.isMark c = true ∧ expect c ts = .ok rest := by
  by_cases h : isAt c ts = true
  · obtain ⟨t, rest, rfl, ht⟩ := exists_cons_of_isAt h
    exact Or.inr ⟨t, rest, rfl, ht, expect_cons ht rest⟩
  · exact Or.inl ⟨_, if_neg h⟩

section Repeated

variable {entry : Reader α} {close : Char} {level : Level} {outer : List Level}
  {rest : List Token}

/-- At its closing mark the loop over entries ends. -/
theorem stays_repeated_of_isAt (hclose : close = '\x7d' ∨ close = ']') (hlevel : level ≠ .sign)
    (htokens : before ++ rest = tokens) (hopen : openLevels before = level :: outer)
    (hat : isAt close rest = true) (n : Nat) :
    Stays tokens before (settled outer) (Reader.repeated entry close (n + 1) rest) := by
  obtain ⟨t, ts, rfl, ht⟩ := exists_cons_of_isAt hat
  refine Or.inr ⟨[], [t], ts, repeated_of_isAt entry n hat, by simp, by simpa using htokens, ?_⟩
  rw [openLevels_concat, hopen, levelsAfter_of_close _ ht hclose, settled_of_ne hlevel,
    List.tail_cons]

/-- The loop over entries ends behind its closing mark, with the levels around it. -/
theorem stays_repeated (hclose : close = '\x7d' ∨ close = ']') (hlevel : level ≠ .sign)
    (hentry : ∀ before rest, before ++ rest = tokens → openLevels before = level :: outer →
      StartsEntry before → Stays tokens before (level :: outer) (entry rest))
    {rounds : Nat} (htokens : before ++ rest = tokens)
    (hopen : openLevels before = level :: outer) (hstart : StartsEntry before)
    (hrounds : rest.length < rounds) :
    Stays tokens before (settled outer) (Reader.repeated entry close rounds rest) := by
  induction rounds generalizing before rest with
  | zero => exact absurd hrounds (Nat.not_lt_zero _)
  | succ n ih =>
    by_cases hat : isAt close rest = true
    · exact stays_repeated_of_isAt hclose hlevel htokens hopen hat n
    · rw [repeated_of_not_isAt entry n (by simpa using hat)]
      rcases hentry before rest htokens hopen hstart with ⟨f, h⟩ | ⟨x, read, ts, h, hne, hts, hafter⟩
      · rw [h]
        exact Or.inl ⟨f, rfl⟩
      · have hlength : ts.length < n := by
          have hsum := congrArg List.length (hts.trans htokens.symm)
          have hpos := List.length_pos_of_ne_nil hne
          simp only [List.length_append] at hsum
          omega
        rw [h]
        show Stays _ _ _ (separator close ts >>= _)
        by_cases hat' : isAt close ts = true
        · obtain ⟨m, rfl⟩ : ∃ m, n = m + 1 := ⟨n - 1, by omega⟩
          have hrest : Stays tokens (before ++ read) (settled outer)
              (Reader.repeated entry close (m + 1) ts) :=
            stays_repeated_of_isAt hclose hlevel hts hafter hat' m
          rw [separator, if_pos hat']
          exact (hrest.map (x :: ·)).append
        · rw [separator, if_neg hat']
          rcases expect_cases ',' ts with ⟨f, h⟩ | ⟨comma, ts', rfl, hcomma, h⟩
          · rw [h]
            exact Or.inl ⟨f, rfl⟩
          · have hopen' : openLevels (before ++ read ++ [comma]) = level :: outer := by
              rw [openLevels_concat, hafter, levelsAfter_of_mark _ hcomma (Or.inl rfl),
                settled_of_ne hlevel]
            have hrest := ih (by simpa using hts) hopen'
              ⟨comma, by simp, Or.inr (Or.inr hcomma)⟩ (Nat.lt_of_succ_lt hlength)
            rw [h]
            exact (hrest.map (x :: ·)).append.append

end Repeated

theorem StartsEntry.of_mark {t : Token} (before : List Token)
    (h : t.isMark '\x7b' = true ∨ t.isMark '[' = true) : StartsEntry (before ++ [t]) := by
  refine ⟨t, by simp, ?_⟩
  rcases h with h | h
  · exact Or.inl h
  · exact Or.inr (Or.inl h)

section

variable [Runtime]

/-- A key in range is a key or a fault of syntax, and completes no level. -/
theorem key_cases (hrange : InRange tokens) {t : Token} {rest : List Token}
    (htokens : before ++ t :: rest = tokens) (hkey : StartsKey before) :
    (∃ f, key t = .error (.literal f)) ∨
      ∃ k, key t = .ok k ∧ ∀ levels, levelsAfter levels t = settled levels := by
  have hmem : t ∈ tokens := by simp [← htokens]
  have hkind : ∀ {kind : TokenKind}, t.kind = kind → kind ≠ .mark →
      ∀ levels, levelsAfter levels t = settled levels :=
    fun h hne levels => levelsAfter_of_kind levels h hne
  cases hk : t.kind with
  | identifier => exact Or.inr ⟨t.text, by simp [key, hk], hkind hk (by simp)⟩
  | quoted =>
    obtain ⟨x, hx⟩ := hrange.quoted t hmem hk
    exact Or.inr ⟨x, by simp [key, hk, hx], hkind hk (by simp)⟩
  | number =>
    have hprefix : before ++ [t] <+: tokens := ⟨rest, by simpa using htokens⟩
    obtain ⟨k, hk'⟩ := hrange.key before t hprefix hk hkey
    exact Or.inr ⟨k, hk', hkind hk (by simp)⟩
  | mark => exact Or.inl ⟨.invalidKey t.text t.position, by simp only [key, hk]⟩
  | finish => exact Or.inl ⟨.invalidKey t.text t.position, by simp only [key, hk]⟩

theorem stays_pair (hrange : InRange tokens) {value : Reader Value} {outer : List Level}
    (hvalue : ∀ before rest, before ++ rest = tokens → openLevels before = .object :: outer →
      Stays tokens before (.object :: outer) (value rest))
    {rest : List Token} (htokens : before ++ rest = tokens)
    (hopen : openLevels before = .object :: outer) (hstart : StartsEntry before) :
    Stays tokens before (.object :: outer) (pair value rest) := by
  cases rest with
  | nil => exact Or.inl ⟨_, rfl⟩
  | cons t ts =>
    have hkey : StartsKey before := ⟨by rw [hopen]; rfl, hstart⟩
    show Stays tokens before (.object :: outer) (key t >>= fun k => expect ':' ts >>= fun ts' =>
      value ts' >>= fun p => .ok ((Scalar.text k, p.1), p.2))
    rcases key_cases hrange htokens hkey with ⟨f, h⟩ | ⟨k, h, hlevels⟩
    · rw [h]
      exact Or.inl ⟨f, rfl⟩
    · rw [h]
      show Stays tokens before (.object :: outer) (expect ':' ts >>= _)
      rcases expect_cases ':' ts with ⟨f, h⟩ | ⟨colon, more, rfl, hcolon, h⟩
      · rw [h]
        exact Or.inl ⟨f, rfl⟩
      · rw [h]
        have hafter : openLevels (before ++ [t] ++ [colon]) = .object :: outer := by
          rw [openLevels_concat, openLevels_concat, hopen, hlevels,
            levelsAfter_of_mark _ hcolon (Or.inr rfl)]
          rfl
        have hv := hvalue (before ++ [t] ++ [colon]) more (by simpa using htokens) hafter
        rcases hv with ⟨f, h⟩ | ⟨v, read, after, h, -, hread, hopen'⟩
        · exact Or.inl ⟨f, by show (value more >>= _) = _; rw [h]; rfl⟩
        · refine Or.inr ⟨(Scalar.text k, v), t :: colon :: read, after, ?_, by simp, ?_, ?_⟩
          · show (value more >>= _) = _
            rw [h]
            rfl
          · simpa using hread
          · simpa using hopen'

theorem atom_cases (hrange : InRange tokens) {t : Token} (hmem : t ∈ tokens) :
    (∃ f, atom t = .error (.literal f)) ∨
      ∃ v, atom t = .ok v ∧ ∀ levels, levelsAfter levels t = settled levels := by
  have hkind : ∀ {kind : TokenKind}, t.kind = kind → kind ≠ .mark →
      ∀ levels, levelsAfter levels t = settled levels :=
    fun h hne levels => levelsAfter_of_kind levels h hne
  cases hk : t.kind with
  | identifier =>
    cases hc : constant? t.text with
    | some s => exact Or.inr ⟨.scalar s, by simp only [atom, hk, hc], hkind hk (by simp)⟩
    | none => exact Or.inl ⟨.unexpected t.text t.position, by simp only [atom, hk, hc]⟩
  | quoted =>
    obtain ⟨x, hx⟩ := hrange.quoted t hmem hk
    exact Or.inr ⟨.text x, by simp only [atom, hk, hx]; rfl, hkind hk (by simp)⟩
  | number =>
    obtain ⟨n, hn⟩ := hrange.number t hmem hk
    exact Or.inr ⟨.scalar n, by simp only [atom, hk, hn]; rfl, hkind hk (by simp)⟩
  | mark => exact Or.inl ⟨.unexpected t.text t.position, by simp only [atom, hk]⟩
  | finish => exact Or.inl ⟨.unexpected t.text t.position, by simp only [atom, hk]⟩

end

theorem signed_cases (minus : Bool) (position : Nat) (v : Value) :
    (∃ f, signed minus position v = .error (.literal f)) ∨
      ∃ w, signed minus position v = .ok w := by
  unfold signed
  split
  · exact Or.inr ⟨_, rfl⟩
  · exact Or.inr ⟨_, rfl⟩
  · exact Or.inl ⟨_, rfl⟩

section Enclosed

variable {t : Token} {depth : Nat} {outer : List Level} {rest : List Token}

variable [Runtime]

theorem stays_object (hrange : InRange tokens)
    (hvalue : ∀ before rest, before ++ rest = tokens →
      maxDepth < (openLevels before).length + depth →
      Stays tokens before (settled (openLevels before)) (value depth rest))
    (htokens : before ++ rest = tokens) (hopen : openLevels before = .object :: outer)
    (hstart : StartsEntry before) (hdepth : maxDepth < outer.length + 1 + depth) :
    Stays tokens before (settled outer) (object (value depth) rest) := by
  apply Stays.map (g := fun pairs => Value.dict (Entries.ofList pairs))
  refine stays_repeated (Or.inl rfl) (by simp) ?_ htokens hopen hstart (Nat.lt_succ_self _)
  intro before' rest' htokens' hopen' hstart'
  apply stays_pair hrange ?_ htokens' hopen' hstart'
  intro before'' rest'' htokens'' hopen''
  have h := hvalue before'' rest'' htokens'' (by rwa [hopen''])
  rwa [hopen'', settled_of_ne (by simp)] at h

theorem stays_array
    (hvalue : ∀ before rest, before ++ rest = tokens →
      maxDepth < (openLevels before).length + depth →
      Stays tokens before (settled (openLevels before)) (value depth rest))
    (htokens : before ++ rest = tokens) (hopen : openLevels before = .array :: outer)
    (hstart : StartsEntry before) (hdepth : maxDepth < outer.length + 1 + depth) :
    Stays tokens before (settled outer) (array (value depth) rest) := by
  apply Stays.map (g := Value.list)
  refine stays_repeated (Or.inr rfl) (by simp) ?_ htokens hopen hstart (Nat.lt_succ_self _)
  intro before' rest' htokens' hopen' hstart'
  have h := hvalue before' rest' htokens' (by rwa [hopen'])
  rwa [hopen', settled_of_ne (by simp)] at h

omit [Runtime] in
/-- A sign is done with when its value is complete. -/
theorem stays_sign {minus : Bool} (hsign : t.isMark (signMark minus) = true)
    (hvalue : Stays tokens (before ++ [t]) (settled (openLevels (before ++ [t])))
      (value depth rest)) :
    Stays tokens before (settled (openLevels before)) (value (depth + 1) (t :: rest)) := by
  rw [openLevels_concat, levelsAfter_of_sign _ hsign, settled_sign] at hvalue
  rw [value_of_sign hsign]
  exact hvalue.append.bind (signed_cases minus t.position)

theorem stays_atom (hrange : InRange tokens) (htokens : before ++ [t] ++ rest = tokens) :
    Stays tokens before (settled (openLevels before)) ((atom t).map (fun v => (v, rest))) := by
  rcases atom_cases hrange (t := t) (by simp [← htokens]) with ⟨f, h⟩ | ⟨v, h, hlevels⟩
  · rw [h]
    exact Or.inl ⟨f, rfl⟩
  · rw [h]
    refine Or.inr ⟨v, [t], rest, rfl, by simp, htokens, ?_⟩
    rw [openLevels_concat, hlevels]

end Enclosed

section

variable [Runtime]

/-- **A value ends with the levels that it began with**, but for the signs in front of it. -/
theorem stays_value (hrange : InRange tokens) (depth : Nat) (before rest : List Token)
    (htokens : before ++ rest = tokens) (hdepth : maxDepth < (openLevels before).length + depth) :
    Stays tokens before (settled (openLevels before)) (value depth rest) := by
  induction depth generalizing before rest with
  | zero =>
    have hle := hrange.nesting before ⟨rest, htokens⟩
    omega
  | succ depth ih =>
    cases rest with
    | nil => exact Or.inl ⟨_, rfl⟩
    | cons t ts =>
      have hts : before ++ [t] ++ ts = tokens := by simpa using htokens
      have hinner : maxDepth < (openLevels before).length + 1 + depth := by omega
      by_cases hbrace : t.isMark '\x7b' = true
      · have hopen : openLevels (before ++ [t]) = .object :: openLevels before := by
          rw [openLevels_concat, levelsAfter_of_brace _ hbrace]
        rw [value_of_brace hbrace]
        exact (stays_object hrange ih hts hopen (.of_mark before (Or.inl hbrace)) hinner).append
      · by_cases hbracket : t.isMark '[' = true
        · have hopen : openLevels (before ++ [t]) = .array :: openLevels before := by
            rw [openLevels_concat, levelsAfter_of_bracket _ hbracket]
          rw [value_of_bracket hbracket]
          exact (stays_array ih hts hopen (.of_mark before (Or.inr hbracket)) hinner).append
        · by_cases hsign : ∃ minus, t.isMark (signMark minus) = true
          · obtain ⟨minus, hsign⟩ := hsign
            apply stays_sign hsign
            apply ih (before ++ [t]) ts hts
            rwa [openLevels_concat, levelsAfter_of_sign _ hsign]
          · have hnone : ∀ minus, t.isMark (signMark minus) = false := by simpa using hsign
            rw [value_of_atom (by simpa using hbrace) (by simpa using hbracket) hnone]
            exact stays_atom hrange hts

/-! ### Literals in range -/

/-- A literal denotes arguments: its tokens in front of the end derive an object. -/
def Denotes (raw : Text) (arguments : Value) : Prop :=
  ∃ tokens finish v, scan (braced raw) = .ok (tokens ++ [finish]) ∧ finish.kind = .finish ∧
    IsObject IsValue tokens v ∧ arguments = Arguments.ofValue v

omit [Runtime] in
theorem kind_of_lexeme? {t : Text} {kind : TokenKind} {n : Nat}
    (h : lexeme? t = some (some kind, n)) : kind ≠ .finish := by
  rintro rfl
  cases t with
  | nil => cases h
  | cons c rest =>
    unfold lexeme? at h
    dsimp only at h
    repeat' split at h
    all_goals cases h

omit [Runtime] in
/-- The end comes last among the tokens of a text, and nowhere else. -/
theorem finish_of_scanFrom {position skip : Nat} {t : Text} {ts : List Token}
    (h : scanFrom position skip t = .ok ts) :
    ∃ body finish, ts = body ++ [finish] ∧ finish.kind = .finish ∧
      ∀ k ∈ body, k.kind ≠ .finish := by
  induction t generalizing position skip ts with
  | nil =>
    have hts : ts = [⟨.finish, [], position⟩] := by
      cases skip <;> exact (Except.ok.inj h).symm
    exact ⟨[], _, hts, rfl, by simp⟩
  | cons c rest ih =>
    cases skip with
    | succ skip => exact ih h
    | zero =>
      rw [scanFrom] at h
      split at h
      · cases h
      · exact ih h
      · next kind n hlexeme =>
        obtain ⟨more, hmore, h⟩ := Outcome.bind_eq_ok.1 h
        cases h
        obtain ⟨body, finish, rfl, hfinish, hbody⟩ := ih hmore
        refine ⟨_ :: body, finish, rfl, hfinish, ?_⟩
        exact List.forall_mem_cons.2 ⟨kind_of_lexeme? hlexeme, hbody⟩

omit [Runtime] in
theorem IsObject.getLast?_kind {value : List Token → Value → Prop} {ts : List Token} {v : Value}
    (h : IsObject value ts v) : ∃ t, ts.getLast? = some t ∧ t.kind = .mark := by
  obtain ⟨-, @⟨_, _, last, -, hlast⟩, -⟩ := h
  have hmark : last.kind = .mark ∧ last.text = [.scalar '\x7d'] := by
    simpa [Token.isMark] using hlast
  exact ⟨last, by simp [List.getLast?_cons], hmark.1⟩

/-- The object of a document takes all tokens but the end. -/
theorem sound_document {body : List Token} {finish : Token} {v : Value}
    (hfinish : finish.kind = .finish) (hbody : ∀ k ∈ body, k.kind ≠ .finish)
    (h : document (body ++ [finish]) = .ok v) : IsObject IsValue body v := by
  obtain ⟨ts, hts, h⟩ := Outcome.bind_eq_ok.1 h
  obtain ⟨⟨w, after⟩, hw, h⟩ := Outcome.bind_eq_ok.1 h
  obtain ⟨first, hfirst, hbrace⟩ := exists_cons_of_expect hts
  obtain ⟨read, rfl, pairs, entries, hpairs, hentries, rfl⟩ :=
    (follows_object (follows_value maxDepth)).sound hw
  have hobject : IsObject IsValue (first :: read) (Value.dict entries) :=
    .intro hbrace hpairs hentries
  dsimp only at h
  split at h
  · next hend =>
    cases h
    rcases List.eq_nil_or_concat after with rfl | ⟨init, last, rfl⟩
    · -- the last token would be both the closing brace and the end
      obtain ⟨t, ht, hkind⟩ := hobject.getLast?_kind
      rw [List.append_nil] at hfirst
      rw [← hfirst, List.getLast?_concat] at ht
      obtain rfl := Option.some.inj ht
      rw [hfinish] at hkind
      cases hkind
    · rw [List.concat_eq_append, ← List.cons_append, ← List.append_assoc] at hfirst
      obtain ⟨hinit, hlast⟩ := List.append_inj' hfirst rfl
      cases init with
      | nil =>
        rw [List.append_nil] at hinit
        rwa [hinit]
      | cons t more =>
        exfalso
        exact hbody t (by simp [hinit]) hend
  · cases h

theorem complete_document {body : List Token} {finish : Token} {v : Value}
    (hfinish : finish.kind = .finish) (h : IsObject IsValue body v) :
    Yields (document (body ++ [finish])) v := by
  obtain ⟨hfirst, hpairs, hentries⟩ := h
  apply Yields.bind (Or.inl (expect_cons hfirst _))
  apply ((follows_object (follows_value maxDepth)).complete
    ⟨_, _, hpairs, hentries, rfl⟩ [finish]).bind
  exact Or.inl (if_pos hfinish)

/-- Tokens in range are an object, or their syntax is at fault. -/
theorem document_cases (hrange : InRange tokens) :
    (∃ f, document tokens = .error (.literal f)) ∨ ∃ v, document tokens = .ok v := by
  unfold document
  rcases expect_cases '\x7b' tokens with ⟨f, h⟩ | ⟨first, ts, rfl, hfirst, h⟩
  · rw [h]
    exact Or.inl ⟨f, rfl⟩
  · have hopen : openLevels [first] = [.object] := levelsAfter_of_brace [] hfirst
    have hobject : Stays (first :: ts) [first] (settled []) (object (value maxDepth) ts) :=
      stays_object hrange (stays_value hrange maxDepth) rfl hopen (.of_mark [] (Or.inl hfirst))
        (by simp)
    rw [h]
    show (∃ f, (object (value maxDepth) ts >>= _) = _) ∨
      ∃ v, (object (value maxDepth) ts >>= _) = _
    rcases hobject with ⟨f, h⟩ | ⟨v, read, after, h, -⟩
    · rw [h]
      exact Or.inl ⟨f, rfl⟩
    · rw [h]
      by_cases hend : (current after).kind = .finish
      · exact Or.inr ⟨v, if_pos hend⟩
      · exact Or.inl ⟨_, if_neg hend⟩

theorem denotes_of_parse {raw : Text} {arguments : Value} (h : parse raw = .ok arguments) :
    Denotes raw arguments := by
  obtain ⟨tokens, v, hscan, hdocument, rfl⟩ := tokens_of_parse h
  obtain ⟨body, finish, rfl, hfinish, hbody⟩ := finish_of_scanFrom hscan
  exact ⟨body, finish, v, hscan, hfinish, sound_document hfinish hbody hdocument, rfl⟩

/-- **The reader accepts the grammar and nothing else.**  A literal in range is read if and only
    if its tokens in front of the end derive an object, with the value of the derivation; any
    other literal in range is refused for its syntax. -/
theorem parse_iff_denotes {raw : Text}
    (hrange : ∀ tokens, scan (braced raw) = .ok tokens → InRange tokens) :
    (∀ arguments, parse raw = .ok arguments ↔ Denotes raw arguments) ∧
      ((∃ f, parse raw = .error f ∧ f.kindName = Text.of "ArgumentSyntaxError") ↔
        ¬ ∃ arguments, Denotes raw arguments) := by
  have hcases : (∃ f, parse raw = .error (.literal f)) ∨ ∃ arguments, parse raw = .ok arguments := by
    unfold parse
    cases hscan : scan (braced raw) with
    | error f =>
      obtain ⟨c, p, rfl⟩ := scanFrom_eq_error hscan
      exact Or.inl ⟨_, rfl⟩
    | ok tokens =>
      rcases document_cases (hrange tokens hscan) with ⟨f, h⟩ | ⟨v, h⟩
      · exact Or.inl ⟨f, by show (document tokens >>= _) = _; rw [h]; rfl⟩
      · exact Or.inr ⟨_, by show (document tokens >>= _) = _; rw [h]; rfl⟩
  have hparse : ∀ arguments, Denotes raw arguments → parse raw = .ok arguments := by
    rintro _ ⟨body, finish, v, hscan, hfinish, hobject, rfl⟩
    have hyields : Yields (parse raw) (Arguments.ofValue v) := by
      unfold parse
      apply Yields.bind (Or.inl hscan)
      exact (complete_document hfinish hobject).bind (Or.inl rfl)
    rcases hyields with h | h
    · exact h
    · -- in range the nesting is never too deep
      rw [h] at hcases
      rcases hcases with ⟨f, hf⟩ | ⟨arguments, ha⟩
      · cases hf
      · cases ha
  refine ⟨fun arguments => ⟨denotes_of_parse, hparse arguments⟩, ?_⟩
  constructor
  · rintro ⟨f, hf, -⟩ ⟨arguments, ha⟩
    rw [hparse arguments ha] at hf
    cases hf
  · intro hno
    rcases hcases with ⟨f, h⟩ | ⟨arguments, h⟩
    · exact ⟨_, h, rfl⟩
    · exact absurd ⟨arguments, denotes_of_parse h⟩ hno

/-- What can be checked of given tokens to see that they are in range. -/
def isInRange (tokens : List Token) : Bool :=
  tokens.all (fun t => t.kind != .quoted || (decodeQuoted t.text).isOk) &&
    tokens.all (fun t => t.kind != .number || (decodeNumber t.text).isOk && (key t).isOk) &&
    tokens.inits.all (fun before => (openLevels before).length ≤ maxDepth)

omit [Runtime] in
theorem exists_of_isOk {o : Outcome α} (h : o.isOk = true) : ∃ x, o = .ok x := by
  cases o with
  | ok x => exact ⟨x, rfl⟩
  | error f => cases h

theorem inRange_of_isInRange (h : isInRange tokens = true) : InRange tokens := by
  simp only [isInRange, Bool.and_eq_true, List.all_eq_true, Bool.or_eq_true, bne_iff_ne,
    decide_eq_true_eq, List.mem_inits] at h
  obtain ⟨⟨hquoted, hnumber⟩, hnesting⟩ := h
  have hno : ∀ {t : Token}, t ∈ tokens → t.kind = .number →
      (decodeNumber t.text).isOk = true ∧ (key t).isOk = true := by
    intro t ht hkind
    exact (hnumber t ht).resolve_left (fun hne => hne hkind)
  constructor
  · intro t ht hkind
    exact exists_of_isOk ((hquoted t ht).resolve_left (fun hne => hne hkind))
  · intro t ht hkind
    exact exists_of_isOk (hno ht hkind).1
  · intro before t hbefore hkind _
    exact exists_of_isOk (hno (hbefore.mem (by simp)) hkind).2
  · exact hnesting

end

attribute [local instance] Runtime.usual

/-- A literal with a key twice, signs, an array and an object in it, and commas after rows. -/
def rowsLiteral : Text := Text.of "n: [1, -+2,], 'm': null, n: \x7b3: -Infinity\x7d,"

theorem parse_iff_denotes_rows :
    (∃ tokens, scan (braced rowsLiteral) = .ok tokens ∧ InRange tokens) ∧
      ∃ arguments, parse rowsLiteral = .ok arguments ∧ Denotes rowsLiteral arguments := by
  have hscan : ((scan (braced rowsLiteral)).toOption.map isInRange) = some true := by
    decide +kernel
  have hparse : (parse rowsLiteral).isOk = true := by decide +kernel
  obtain ⟨tokens, htokens, hcheck⟩ := Option.map_eq_some_iff.1 hscan
  have hscan' := Outcome.eq_ok_of_toOption htokens
  obtain ⟨arguments, h⟩ := exists_of_isOk hparse
  have hrange : InRange tokens := inRange_of_isInRange hcheck
  have hall : ∀ ts, scan (braced rowsLiteral) = .ok ts → InRange ts := by
    intro ts hts
    obtain rfl := Except.ok.inj (hscan'.symm.trans hts)
    exact hrange
  have hdenotes := (parse_iff_denotes hall).1 arguments
  exact ⟨⟨tokens, hscan', hrange⟩, arguments, h, hdenotes.1 h⟩

end TemplatedNotes.Literal
