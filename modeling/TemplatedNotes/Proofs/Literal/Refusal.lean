/-
  TemplatedNotes/Proofs/Literal/Refusal.lean
  ==========================================
  **Why an argument literal is refused.**

  A literal is refused for a fault of its syntax, a number that is not read or written, too deep
  nesting, or an escape that spells a number beyond the code space; there is no other way
  (`refusal_of_parse_eq_error`).  The last one comes from `\u{…}` alone, since two or four digits
  stay below the end of the code space, and the literal holds the escape with its digits
  (`Spells`).

  The readers of the parts of a literal are taken together in one notion: a reader is sound for a
  text when from tokens cut from it, it fails with a refusal or gives the tokens behind what it
  read (`Reader.IsSound`).  Soundness passes from the entries to the loop and from the loop to
  arrays and objects, so that nested values follow by induction on their depth.

  All refusals but the greatest numbers are taken for a literal without arguments
  (`evaluate_eq_error_iff`).
-/
import Mathlib.Algebra.Group.Nat.Defs
import Mathlib.Data.List.Infix
import Mathlib.Data.List.TakeWhile
import TemplatedNotes.Proofs.Literal.Parser

namespace TemplatedNotes

/-! ### Numbers beyond the code space -/

theorem CodePoint.ofNat?_eq_none_iff {n : Nat} : CodePoint.ofNat? n = none ↔ 0x110000 ≤ n := by
  unfold ofNat?
  by_cases hv : n.isValidChar
  · rw [dif_pos hv]
    rw [Nat.isValidChar] at hv
    exact ⟨fun h => absurd h (Option.some_ne_none _), fun h => by omega⟩
  · rw [dif_neg hv]
    rw [Nat.isValidChar] at hv
    by_cases hs : 0xD800 ≤ n ∧ n < 0xE000
    · rw [dif_pos hs]
      exact ⟨fun h => absurd h (Option.some_ne_none _), fun h => by omega⟩
    · rw [dif_neg hs]
      exact ⟨fun _ => by omega, fun _ => rfl⟩

theorem CodePoint.hexValue?_lt {c : CodePoint} {d : Nat} (h : c.hexValue? = some d) : d < 16 := by
  unfold hexValue? at h
  split at h
  · cases h
    omega
  · split at h
    · cases h
      omega
    · split at h
      · cases h
        omega
      · cases h

namespace Literal

/-- Hexadecimal digits denote a number below the power of sixteen that their count gives. -/
theorem hexValue_lt (digits : Text) : hexValue digits < 16 ^ digits.length := by
  have hfold : ∀ (t : Text) (n : Nat),
      t.foldl (fun n c => n * 16 + c.hexValue?.getD 0) n < (n + 1) * 16 ^ t.length := by
    intro t
    induction t with
    | nil =>
      intro n
      simp
    | cons c rest ih =>
      intro n
      have hdigit : c.hexValue?.getD 0 < 16 := by
        cases hc : c.hexValue? with
        | none => simp
        | some d => exact CodePoint.hexValue?_lt hc
      have hstep : n * 16 + c.hexValue?.getD 0 + 1 ≤ (n + 1) * 16 := by omega
      calc (c :: rest).foldl (fun n c => n * 16 + c.hexValue?.getD 0) n
          < (n * 16 + c.hexValue?.getD 0 + 1) * 16 ^ rest.length := ih _
        _ ≤ (n + 1) * 16 * 16 ^ rest.length := Nat.mul_le_mul_right _ hstep
        _ = (n + 1) * 16 ^ (c :: rest).length := by
          rw [List.length_cons, Nat.pow_succ, Nat.mul_assoc, Nat.mul_comm 16]
  have h := hfold digits 0
  rwa [Nat.zero_add, Nat.one_mul] at h

/-- The escape of a code point by hexadecimal digits in braces. -/
def bracedEscape (digits : Text) : Text := Text.of "\\u\x7b" ++ digits ++ Text.of "\x7d"

/-- A text holds an escape in braces whose digits denote a number. -/
def Spells (t : Text) (n : Nat) : Prop :=
  ∃ digits, bracedEscape digits <:+: t ∧ (∀ c ∈ digits, c.isHexDigit = true) ∧
    hexValue digits = n

theorem Spells.of_isInfix {s t : Text} {n : Nat} (h : Spells s n) (hst : s <:+: t) :
    Spells t n := by
  obtain ⟨digits, hd, hhex, hn⟩ := h
  exact ⟨digits, hd.trans hst, hhex, hn⟩

/-! ### Escapes -/

theorem codePointText_eq_error {n : Nat} {f : Failure} (h : codePointText n = .error f) :
    0x110000 ≤ n ∧ f = .codePoint n := by
  unfold codePointText at h
  cases hn : CodePoint.ofNat? n with
  | some c =>
    rw [hn] at h
    cases h
  | none =>
    rw [hn] at h
    cases h
    exact ⟨CodePoint.ofNat?_eq_none_iff.1 hn, rfl⟩

/-- A text whose digits are followed by a code point starts with both. -/
theorem isPrefix_of_head?_drop {p : CodePoint → Bool} {t : Text} {c : CodePoint}
    (h : (t.drop (t.takeWhile p).length).head? = some c) : t.takeWhile p ++ [c] <+: t := by
  obtain ⟨more, he⟩ := List.takeWhile_prefix p (l := t)
  generalize t.takeWhile p = digits at h he ⊢
  subst he
  rw [List.drop_left] at h
  cases more with
  | nil => cases h
  | cons d more =>
    cases h
    exact ⟨more, by rw [List.append_assoc, List.singleton_append]⟩

/-- An escape of a number has its digits in braces, or as many of them as its letter asks for. -/
theorem numberEscape?_eq_some {braces : Bool} {width n : Nat} {t digits : Text}
    (h : numberEscape? braces width t = some (digits, n)) :
    (∀ c ∈ digits, c.isHexDigit = true) ∧
      (digits.length = width ∨
        braces = true ∧ .scalar '\x7b' :: (digits ++ [.scalar '\x7d']) <+: t) := by
  have hfixed : (if (t.take width).length = width ∧ (t.take width).all CodePoint.isHexDigit then
      some (t.take width, width + 1) else none) = some (digits, n) →
      (∀ c ∈ digits, c.isHexDigit = true) ∧ digits.length = width := by
    intro hr
    split at hr
    · next hd =>
      cases hr
      exact ⟨fun c hc => List.all_eq_true.1 hd.2 c hc, hd.1⟩
    · cases hr
  unfold numberEscape? at h
  dsimp only at h
  split at h
  · next r hr =>
    cases h
    split at hr
    · next rest =>
      split at hr
      · next hd =>
        cases hr
        obtain ⟨hbraces, -, hclose⟩ := hd
        refine ⟨fun c hc => List.mem_takeWhile_imp hc, Or.inr ⟨hbraces, ?_⟩⟩
        have hsplit := isPrefix_of_head?_drop hclose
        exact (List.prefix_cons_inj _).2 hsplit
      · cases hr
    · cases hr
  · obtain ⟨hhex, hlen⟩ := hfixed h
    exact ⟨hhex, Or.inl hlen⟩

/-- An escape fails only for a number in braces beyond the code space. -/
theorem escape_eq_error {t : Text} {f : Failure} (h : escape t = .error f) :
    ∃ n, 0x110000 ≤ n ∧ f = .codePoint n ∧ Spells (.scalar '\\' :: t) n := by
  cases t with
  | nil => cases h
  | cons c rest =>
    unfold escape at h
    dsimp only at h
    split at h
    · next digits n hnumber =>
      obtain ⟨hlarge, rfl⟩ := codePointText_eq_error (Outcome.map_eq_error.1 h)
      refine ⟨hexValue digits, hlarge, rfl, ?_⟩
      have hlt := hexValue_lt digits
      split at hnumber
      · next hu =>
        subst hu
        obtain ⟨hhex, hlen | ⟨-, hbraces⟩⟩ := numberEscape?_eq_some hnumber
        · rw [hlen] at hlt
          omega
        · refine ⟨digits, List.IsPrefix.isInfix ?_, hhex, rfl⟩
          obtain ⟨more, rfl⟩ := hbraces
          exact ⟨more, rfl⟩
      · split at hnumber
        · obtain ⟨-, hlen | ⟨hbraces, -⟩⟩ := numberEscape?_eq_some hnumber
          · rw [hlen] at hlt
            omega
          · cases hbraces
        · cases hnumber
    · split at h
      · cases h
      · split at h
        · cases h
        · cases h

theorem unescapeFrom_eq_error {skip : Nat} {t : Text} {f : Failure}
    (h : unescapeFrom skip t = .error f) :
    ∃ n, 0x110000 ≤ n ∧ f = .codePoint n ∧ Spells t n := by
  have hlater : ∀ {c : CodePoint} {rest : Text},
      (∃ n, 0x110000 ≤ n ∧ f = .codePoint n ∧ Spells rest n) →
      ∃ n, 0x110000 ≤ n ∧ f = .codePoint n ∧ Spells (c :: rest) n := by
    rintro c rest ⟨n, hn, hf, hs⟩
    exact ⟨n, hn, hf, hs.of_isInfix (List.suffix_cons c rest).isInfix⟩
  induction t generalizing skip with
  | nil => cases skip <;> cases h
  | cons c rest ih =>
    cases skip with
    | succ skip => exact hlater (ih h)
    | zero =>
      rw [unescapeFrom] at h
      split at h
      · next hc =>
        subst hc
        rcases Outcome.bind_eq_error.1 h with h | ⟨⟨t, n⟩, -, h⟩
        · exact escape_eq_error h
        · rcases Outcome.bind_eq_error.1 h with h | ⟨after, -, h⟩
          · exact hlater (ih h)
          · cases h
      · exact hlater (ih (Outcome.map_eq_error.1 h))

/-! ### Refusals -/

/-- Why a literal in a text is refused. -/
inductive Refusal (raw : Text) : Failure → Prop where
  | syntaxFault (f : LiteralFault) : Refusal raw (.literal f)
  | integer (f : Integer.Fault) : Refusal raw (.integer f)
  | fraction (t : Text) : Refusal raw (.fraction t)
  | nesting : Refusal raw .nesting
  | codePoint {n : Nat} (beyond : 0x110000 ≤ n) (spelled : Spells raw n) :
    Refusal raw (.codePoint n)

/-- What a token encloses stands in a text. -/
def IsInside (raw : Text) (t : Token) : Prop := (t.text.drop 1).dropLast <:+: raw

theorem refusal_of_decodeQuoted {raw t : Text} {f : Failure}
    (ht : (t.drop 1).dropLast <:+: raw) (h : decodeQuoted t = .error f) : Refusal raw f := by
  obtain ⟨n, hn, rfl, hs⟩ := unescapeFrom_eq_error h
  exact .codePoint hn (hs.of_isInfix ht)

theorem refusal_of_decodeNumber {raw t : Text} {f : Failure} (h : decodeNumber t = .error f) :
    Refusal raw f := by
  unfold decodeNumber at h
  split at h
  · split at h
    · cases h
    · cases h
      exact .integer _
  · split at h
    · split at h
      · cases h
      · cases h
        exact .fraction _
    · split at h
      · cases h
      · cases h
        exact .integer _

theorem refusal_of_key {raw : Text} {t : Token} {f : Failure} (ht : IsInside raw t)
    (h : key t = .error f) : Refusal raw f := by
  unfold key at h
  split at h
  · cases h
  · exact refusal_of_decodeQuoted ht h
  · rcases Outcome.bind_eq_error.1 h with h | ⟨n, -, h⟩
    · exact refusal_of_decodeNumber h
    · split at h
      · cases h
      · cases h
        exact .integer _
  · cases h
    exact .syntaxFault _

theorem refusal_of_atom {raw : Text} {t : Token} {f : Failure} (ht : IsInside raw t)
    (h : atom t = .error f) : Refusal raw f := by
  unfold atom at h
  dsimp only at h
  split at h
  · exact refusal_of_decodeQuoted ht (Outcome.map_eq_error.1 h)
  · exact refusal_of_decodeNumber (Outcome.map_eq_error.1 h)
  · split at h
    · cases h
    · cases h
      exact .syntaxFault _
  · cases h
    exact .syntaxFault _

theorem refusal_of_signed {raw : Text} {minus : Bool} {position : Nat} {v : Value} {f : Failure}
    (h : signed minus position v = .error f) : Refusal raw f := by
  unfold signed at h
  split at h
  · cases h
  · cases h
  · cases h
    exact .syntaxFault _

/-! ### Sound readers -/

/-- From tokens cut from a text, the reader fails with a refusal of the text or gives the tokens
    behind what it read. -/
def Reader.IsSound {α : Type} (raw : Text) (r : Reader α) : Prop :=
  ∀ tokens : List Token, (∀ t ∈ tokens, IsInside raw t) →
    (∀ f, r tokens = .error f → Refusal raw f) ∧
      ∀ a rest, r tokens = .ok (a, rest) → rest <:+ tokens

variable {raw : Text} {tokens rest : List Token}

theorem isInside_current (h : ∀ t ∈ tokens, IsInside raw t) : IsInside raw (current tokens) := by
  cases tokens with
  | nil => exact List.nil_infix
  | cons t more => exact h t List.mem_cons_self

theorem isInside_of_isSuffix (h : ∀ t ∈ tokens, IsInside raw t) (hrest : rest <:+ tokens) :
    ∀ t ∈ rest, IsInside raw t := by
  intro t ht
  exact h t (hrest.mem ht)

theorem refusal_of_expect {mark : Char} {f : Failure} (h : expect mark tokens = .error f) :
    Refusal raw f := by
  unfold expect at h
  split at h
  · cases h
  · cases h
    exact .syntaxFault _

theorem isSuffix_of_expect {mark : Char} (h : expect mark tokens = .ok rest) :
    rest <:+ tokens := by
  unfold expect at h
  split at h
  · cases h
    exact List.tail_suffix tokens
  · cases h

theorem repeated_of_isAt {α : Type} (entry : Reader α) {close : Char} (rounds : Nat)
    (h : isAt close tokens = true) :
    Reader.repeated entry close (rounds + 1) tokens = .ok ([], tokens.tail) := by
  simp only [Reader.repeated, h, if_true]

/-- Goes on to the next entry or stays at the closing mark. -/
def separator (close : Char) (tokens : List Token) : Outcome (List Token) :=
  if isAt close tokens then .ok tokens else expect ',' tokens

theorem repeated_of_not_isAt {α : Type} (entry : Reader α) {close : Char} (rounds : Nat)
    (h : isAt close tokens = false) :
    Reader.repeated entry close (rounds + 1) tokens =
      entry tokens >>= fun p => separator close p.2 >>= fun ts =>
        Reader.repeated entry close rounds ts >>= fun q => .ok (p.1 :: q.1, q.2) := by
  simp only [Reader.repeated, h, Bool.false_eq_true, if_false]
  cases entry tokens with
  | error f => rfl
  | ok p =>
    obtain ⟨x, ts⟩ := p
    show (if isAt close ts then _ else _) = separator close ts >>= _
    unfold separator
    cases isAt close ts <;> rfl

theorem refusal_of_separator {close : Char} {f : Failure} (h : separator close tokens = .error f) :
    Refusal raw f := by
  unfold separator at h
  split at h
  · cases h
  · exact refusal_of_expect h

theorem isSuffix_of_separator {close : Char} (h : separator close tokens = .ok rest) :
    rest <:+ tokens := by
  unfold separator at h
  split at h
  · cases h
    exact List.suffix_refl tokens
  · exact isSuffix_of_expect h

theorem isSound_repeated {α : Type} {entry : Reader α} {close : Char}
    (hentry : Reader.IsSound raw entry) (rounds : Nat) :
    Reader.IsSound raw (Reader.repeated entry close rounds) := by
  induction rounds with
  | zero =>
    intro tokens _
    refine ⟨fun f h => ?_, fun a rest h => ?_⟩
    · cases h
      exact .nesting
    · cases h
  | succ rounds ih =>
    intro tokens htokens
    cases hclose : isAt close tokens with
    | true =>
      rw [repeated_of_isAt entry rounds hclose]
      refine ⟨fun f h => ?_, fun a rest h => ?_⟩
      · cases h
      · cases h
        exact List.tail_suffix tokens
    | false =>
      obtain ⟨hfails, hgives⟩ := hentry tokens htokens
      rw [repeated_of_not_isAt entry rounds hclose]
      refine ⟨fun f h => ?_, fun a rest h => ?_⟩
      · rcases Outcome.bind_eq_error.1 h with h | ⟨⟨x, ts⟩, hx, h⟩
        · exact hfails f h
        · have hts := isInside_of_isSuffix htokens (hgives x ts hx)
          rcases Outcome.bind_eq_error.1 h with h | ⟨ts', hts', h⟩
          · exact refusal_of_separator h
          · have hnext := isInside_of_isSuffix hts (isSuffix_of_separator hts')
            rcases Outcome.bind_eq_error.1 h with h | ⟨q, -, h⟩
            · exact (ih ts' hnext).1 f h
            · cases h
      · obtain ⟨⟨x, ts⟩, hx, h⟩ := Outcome.bind_eq_ok.1 h
        have hfirst : ts <:+ tokens := hgives x ts hx
        obtain ⟨ts', hts', h⟩ := Outcome.bind_eq_ok.1 h
        have hsecond : ts' <:+ tokens := (isSuffix_of_separator hts').trans hfirst
        obtain ⟨⟨xs, after⟩, hxs, h⟩ := Outcome.bind_eq_ok.1 h
        cases h
        exact ((ih ts' (isInside_of_isSuffix htokens hsecond)).2 xs after hxs).trans hsecond

theorem isSound_pair {value : Reader Value} (hvalue : Reader.IsSound raw value) :
    Reader.IsSound raw (pair value) := by
  intro tokens htokens
  have htail := isInside_of_isSuffix htokens (List.tail_suffix tokens)
  refine ⟨fun f h => ?_, fun a rest h => ?_⟩
  · rcases Outcome.bind_eq_error.1 h with h | ⟨k, -, h⟩
    · exact refusal_of_key (isInside_current htokens) h
    · rcases Outcome.bind_eq_error.1 h with h | ⟨ts, hts, h⟩
      · exact refusal_of_expect h
      · have hts' := isInside_of_isSuffix htail (isSuffix_of_expect hts)
        rcases Outcome.bind_eq_error.1 h with h | ⟨⟨v, after⟩, -, h⟩
        · exact (hvalue ts hts').1 f h
        · cases h
  · obtain ⟨k, -, h⟩ := Outcome.bind_eq_ok.1 h
    obtain ⟨ts, hts, h⟩ := Outcome.bind_eq_ok.1 h
    have hcolon := isSuffix_of_expect hts
    obtain ⟨⟨v, after⟩, hv, h⟩ := Outcome.bind_eq_ok.1 h
    cases h
    have hlast := (hvalue ts (isInside_of_isSuffix htail hcolon)).2 v rest hv
    exact (hlast.trans hcolon).trans (List.tail_suffix tokens)

/-- Soundness passes through what is made of the result of a reader. -/
theorem Reader.IsSound.map {α β : Type} {r : Reader α} (hr : Reader.IsSound raw r) (g : α → β) :
    Reader.IsSound raw (fun tokens => do
      let (a, rest) ← r tokens
      return (g a, rest)) := by
  intro tokens htokens
  refine ⟨fun f h => ?_, fun b rest h => ?_⟩
  · rcases Outcome.bind_eq_error.1 h with h | ⟨⟨a, after⟩, -, h⟩
    · exact (hr tokens htokens).1 f h
    · cases h
  · obtain ⟨⟨a, after⟩, ha, h⟩ := Outcome.bind_eq_ok.1 h
    cases h
    exact (hr tokens htokens).2 a rest ha

theorem isSound_object [Runtime] {value : Reader Value} (hvalue : Reader.IsSound raw value) :
    Reader.IsSound raw (object value) := by
  intro tokens
  exact ((isSound_repeated (isSound_pair hvalue) (tokens.length + 1)).map
    (fun pairs => Value.dict (Entries.ofList pairs))) tokens

theorem isSound_array {value : Reader Value} (hvalue : Reader.IsSound raw value) :
    Reader.IsSound raw (array value) := by
  intro tokens
  exact ((isSound_repeated hvalue (tokens.length + 1)).map Value.list) tokens

theorem Reader.IsSound.tail {α : Type} {r : Reader α} (hr : Reader.IsSound raw r)
    (htokens : ∀ t ∈ tokens, IsInside raw t) :
    (∀ f, r tokens.tail = .error f → Refusal raw f) ∧
      ∀ a rest, r tokens.tail = .ok (a, rest) → rest <:+ tokens := by
  obtain ⟨herror, hok⟩ := hr tokens.tail
    (isInside_of_isSuffix htokens (List.tail_suffix tokens))
  exact ⟨herror, fun a rest h => (hok a rest h).trans (List.tail_suffix tokens)⟩

theorem isSound_value [Runtime] (depth : Nat) : Reader.IsSound raw (value depth) := by
  induction depth with
  | zero =>
    intro tokens _
    refine ⟨fun f h => ?_, fun a rest h => ?_⟩
    · cases h
      exact .nesting
    · cases h
  | succ depth ih =>
    intro tokens htokens
    unfold value
    by_cases hbrace : isAt '\x7b' tokens = true
    · simp only [hbrace, if_true]
      exact (isSound_object ih).tail htokens
    · by_cases hbracket : isAt '[' tokens = true
      · simp only [hbrace, hbracket, Bool.false_eq_true, if_false, if_true]
        exact (isSound_array ih).tail htokens
      · by_cases hsign : (isAt '+' tokens || isAt '-' tokens) = true
        · simp only [hbrace, hbracket, hsign, Bool.false_eq_true, if_false, if_true]
          refine ⟨fun f h => ?_, fun a rest h => ?_⟩
          · rcases Outcome.bind_eq_error.1 h with h | ⟨⟨v, after⟩, -, h⟩
            · exact (ih.tail htokens).1 f h
            · rcases Outcome.bind_eq_error.1 h with h | ⟨v', -, h⟩
              · exact refusal_of_signed h
              · cases h
          · obtain ⟨⟨v, after⟩, hv, h⟩ := Outcome.bind_eq_ok.1 h
            obtain ⟨v', -, h⟩ := Outcome.bind_eq_ok.1 h
            cases h
            exact (ih.tail htokens).2 v after hv
        · simp only [hbrace, hbracket, hsign, Bool.false_eq_true, if_false]
          cases ha : atom (current tokens) with
          | error g =>
            refine ⟨fun f h => ?_, fun a rest h => ?_⟩
            · cases h
              exact refusal_of_atom (isInside_current htokens) ha
            · cases h
          | ok v =>
            refine ⟨fun f h => ?_, fun a rest h => ?_⟩
            · cases h
            · cases h
              exact List.tail_suffix tokens

theorem refusal_of_document [Runtime] {f : Failure} (htokens : ∀ t ∈ tokens, IsInside raw t)
    (h : document tokens = .error f) : Refusal raw f := by
  rcases Outcome.bind_eq_error.1 h with h | ⟨ts, hts, h⟩
  · exact refusal_of_expect h
  · have hts' := isInside_of_isSuffix htokens (isSuffix_of_expect hts)
    rcases Outcome.bind_eq_error.1 h with h | ⟨⟨v, after⟩, -, h⟩
    · exact (isSound_object (isSound_value maxDepth) ts hts').1 f h
    · dsimp only at h
      split at h
      · cases h
      · cases h
        exact .syntaxFault _

/-! ### Tokens of a text -/

/-- The tokens of a text are parts of it. -/
theorem text_isInfix_of_mem_scanFrom {position skip : Nat} {t : Text} {tokens : List Token}
    (h : scanFrom position skip t = .ok tokens) : ∀ k ∈ tokens, k.text <:+: t := by
  induction t generalizing position skip tokens with
  | nil =>
    have htokens : tokens = [⟨.finish, [], position⟩] := by
      cases skip <;> exact (Except.ok.inj h).symm
    intro k hk
    rw [htokens] at hk
    obtain rfl := List.mem_singleton.1 hk
    exact List.nil_infix
  | cons c rest ih =>
    have hlater : ∀ {position skip : Nat} {tokens : List Token},
        scanFrom position skip rest = .ok tokens → ∀ k ∈ tokens, k.text <:+: c :: rest := by
      intro position skip tokens h k hk
      exact (ih h k hk).trans (List.suffix_cons c rest).isInfix
    cases skip with
    | succ skip => exact hlater h
    | zero =>
      rw [scanFrom] at h
      split at h
      · cases h
      · exact hlater h
      · obtain ⟨ts, hts, h⟩ := Outcome.bind_eq_ok.1 h
        cases h
        intro k hk
        rcases List.mem_cons.1 hk with rfl | hk
        · exact (List.take_prefix _ _).isInfix
        · exact hlater hts k hk

/-- What stands between the ends of a part stands between the ends of the whole. -/
theorem isInfix_of_isInfix_enclosed {s t : Text} {x y : CodePoint}
    (h : s <:+: x :: (t ++ [y])) : (s.drop 1).dropLast <:+: t := by
  rcases s with _ | ⟨a, more⟩
  · exact List.nil_infix
  · rw [List.drop_succ_cons, List.drop_zero]
    rcases List.eq_nil_or_concat more with rfl | ⟨inner, b, rfl⟩
    · exact List.nil_infix
    · obtain ⟨before, after, he⟩ := h
      have hhead : (before ++ [a]).tail ++ (inner ++ ([b] ++ after)) = t ++ [y] := by
        have htail := congrArg List.tail he
        cases before with
        | nil => simpa using htail
        | cons d ds => simpa using htail
      have hlast := congrArg List.dropLast hhead
      rw [List.dropLast_concat, ← List.append_assoc,
        List.dropLast_append_of_ne_nil (by simp)] at hlast
      rw [List.concat_eq_append, List.dropLast_concat]
      exact ⟨_, _, hlast⟩

theorem trim_isInfix (t : Text) : Text.trim t <:+: t := by
  have hright : ∀ s : Text, Text.trimRight s <+: s := by
    intro s
    have hsuffix := List.dropWhile_suffix CodePoint.isBlank (l := s.reverse)
    have hprefix := List.reverse_prefix.2 hsuffix
    rwa [List.reverse_reverse] at hprefix
  exact (hright _).isInfix.trans (List.dropWhile_suffix _).isInfix

/-- A part of a literal in braces encloses a part of the literal. -/
theorem isInfix_of_isInfix_braced {s raw : Text} (h : s <:+: braced raw) :
    (s.drop 1).dropLast <:+: raw := by
  unfold braced at h
  dsimp only at h
  split at h
  · have hinner : (s.drop 1).dropLast <:+: s :=
      (List.dropLast_prefix _).isInfix.trans (List.drop_suffix 1 s).isInfix
    exact (hinner.trans h).trans (trim_isInfix raw)
  · exact (isInfix_of_isInfix_enclosed h).trans (trim_isInfix raw)

/-! ### Literals that are refused -/

/-- **Every failure to read a literal is a refusal.** -/
theorem refusal_of_parse_eq_error [Runtime] {f : Failure} (h : parse raw = .error f) :
    Refusal raw f := by
  rcases Outcome.bind_eq_error.1 h with h | ⟨tokens, htokens, h⟩
  · obtain ⟨c, p, rfl⟩ := scanFrom_eq_error h
    exact .syntaxFault _
  · rcases Outcome.bind_eq_error.1 h with h | ⟨v, -, h⟩
    · refine refusal_of_document (fun t ht => ?_) h
      exact isInfix_of_isInfix_braced (text_isInfix_of_mem_scanFrom htokens t ht)
    · cases h

/-- The kinds of failures that are taken for a literal without arguments. -/
def ignoredKinds : List Text := ["ArgumentSyntaxError", "ValueError", "RecursionError"].map Text.of

/-- The least number too large even for the check that a number is a code point. -/
def overflow : Nat := 0x80000000

theorem kindName_codePoint_of_lt {n : Nat} (h : n < overflow) :
    (Failure.codePoint n).kindName = Text.of "ValueError" := congrArg Text.of (if_pos h)

theorem kindName_codePoint_of_le {n : Nat} (h : overflow ≤ n) :
    (Failure.codePoint n).kindName = Text.of "OverflowError" :=
  congrArg Text.of (if_neg (Nat.not_lt.2 h))

theorem isIgnored_of_mem {f : Failure} (h : f.kindName ∈ ignoredKinds) : isIgnored f = true := by
  have hne : ∀ k ∈ ignoredKinds, (k != Text.of "OverflowError") = true := by decide
  exact hne _ h

theorem isIgnored_codePoint {n : Nat} (h : overflow ≤ n) :
    isIgnored (.codePoint n) = false := by
  rw [isIgnored, kindName_codePoint_of_le h]
  exact bne_self_eq_false _

theorem Refusal.ignored_or_overflow {f : Failure} (h : Refusal raw f) :
    f.kindName ∈ ignoredKinds ∨ ∃ n, overflow ≤ n ∧ Spells raw n ∧ f = .codePoint n := by
  have hsyntax : Text.of "ArgumentSyntaxError" ∈ ignoredKinds := by decide
  have hvalue : Text.of "ValueError" ∈ ignoredKinds := by decide
  have hnesting : Text.of "RecursionError" ∈ ignoredKinds := by decide
  cases h with
  | syntaxFault f => exact Or.inl hsyntax
  | integer f => exact Or.inl hvalue
  | fraction t => exact Or.inl hvalue
  | nesting => exact Or.inl hnesting
  | @codePoint n beyond spelled =>
    by_cases hn : n < overflow
    · rw [kindName_codePoint_of_lt hn]
      exact Or.inl hvalue
    · exact Or.inr ⟨n, Nat.not_lt.1 hn, spelled, rfl⟩

/-- **The evaluation of a literal** gives arguments, none for a refused literal, unless the
    refusal is for a number that is too large even to be checked; then it fails with it. -/
theorem evaluate_cases [Runtime] (raw : Text) :
    (∃ arguments, parse raw = .ok arguments ∧ evaluate raw = .ok arguments) ∨
    (∃ f, parse raw = .error f ∧ f.kindName ∈ ignoredKinds ∧
      evaluate raw = .ok Arguments.empty) ∨
    ∃ n, overflow ≤ n ∧ Spells raw n ∧ parse raw = .error (.codePoint n) ∧
      evaluate raw = .error (.codePoint n) := by
  unfold evaluate
  cases hp : parse raw with
  | ok arguments => exact Or.inl ⟨arguments, rfl, rfl⟩
  | error f =>
    rcases (refusal_of_parse_eq_error hp).ignored_or_overflow with hkind | ⟨n, hn, hs, rfl⟩
    · exact Or.inr (Or.inl ⟨f, rfl, hkind, if_pos (isIgnored_of_mem hkind)⟩)
    · refine Or.inr (Or.inr ⟨n, hn, hs, rfl, if_neg ?_⟩)
      rw [isIgnored_codePoint hn]
      exact Bool.false_ne_true

theorem evaluate_eq_error_iff [Runtime] {f : Failure} :
    evaluate raw = .error f ↔
      ∃ n, overflow ≤ n ∧ parse raw = .error (.codePoint n) ∧ f = .codePoint n := by
  constructor
  · intro h
    rcases evaluate_cases raw with ⟨a, -, ha⟩ | ⟨g, -, -, ha⟩ | ⟨n, hn, -, hp, ha⟩
    · rw [h] at ha
      cases ha
    · rw [h] at ha
      cases ha
    · rw [h] at ha
      cases ha
      exact ⟨n, hn, hp, rfl⟩
  · rintro ⟨n, hn, hp, rfl⟩
    rcases evaluate_cases raw with ⟨a, ha, -⟩ | ⟨g, hg, hkind, -⟩ | ⟨m, -, -, hp', ha⟩
    · rw [hp] at ha
      cases ha
    · rw [hp] at hg
      cases hg
      have hignored := isIgnored_of_mem hkind
      rw [isIgnored_codePoint hn] at hignored
      cases hignored
    · rw [hp] at hp'
      cases hp'
      exact ha

end Literal

end TemplatedNotes
