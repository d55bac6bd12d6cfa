/-
  TemplatedNotes/Proofs/Literal/Cursor.lean
  =========================================
  **Reading a literal by a place in its tokens, with every call counted.**

  A `Reading` walks over the tokens of a literal by the place of the next one and stops with a
  `Stop`: for a token asked for behind the last one (`pastEnd`), for a call or a round of a loop
  that took no token (`idle`), or for a failure of the literal.  Every call of a production or of
  one of the four accesses to the tokens is counted.

  A reading meets an outcome (`Meets`) when it gives the same result or failure, stays inside the
  tokens and has made at most seven calls for a token.  The productions meet the readers of the
  same names, each from the productions that it calls; what carries the counts is how many calls
  are to spare behind each of them.  Since the token at the end is of no use to any production, a
  reading that has not failed is always in front of it.

    * `reading_safe` — reading ends by itself, inside the tokens, after few calls, and fails only
      for the literal's own faults.
-/
import TemplatedNotes.Proofs.Literal.Tiling
import TemplatedNotes.Proofs.Literal.Number
import TemplatedNotes.Proofs.Literal.Nesting

namespace TemplatedNotes.Literal

/-! ### Readings -/

/-- Why a reading stops without a result. -/
inductive Stop where
  /-- A token behind the last one was asked for. -/
  | pastEnd
  /-- A call or a round of a loop took no token, or there were more rounds than tokens. -/
  | idle
  | failure (f : Failure)

/-- The place of the next token and the number of calls so far. -/
structure Cursor where
  place : Nat
  calls : Nat

/-- A way through the tokens. -/
abbrev Reading (α : Type) := ExceptT Stop (StateM Cursor) α

namespace Reading

variable {α β : Type} (tokens : List Token)

/-- What a reading comes to from a cursor. -/
def runFrom (r : Reading α) (s : Cursor) : Except Stop α × Cursor := r.run.run s

def call : Reading Unit := modify (fun s => ⟨s.place, s.calls + 1⟩)

def failing (o : Outcome α) : Reading α :=
  match o with
  | .ok a => return a
  | .error f => throw (.failure f)

/-- The next token, which stays the next one. -/
def next : Reading Token := do
  match tokens[(← get).place]? with
  | some t => return t
  | none => throw .pastEnd

def peek : Reading Token := do
  call
  next tokens

/-- Takes the next token, whatever it is. -/
def advance : Reading Token := do
  call
  let t ← next tokens
  modify (fun s => ⟨s.place + 1, s.calls⟩)
  return t

def expect (mark : Char) : Reading Unit := do
  call
  let t ← advance tokens
  if t.isMark mark then return () else
    throw (.failure (.literal (.expected mark t.position t.text)))

def isAt (mark : Char) : Reading Bool := do
  call
  let t ← peek tokens
  return t.isMark mark

/-- A reading that has to take a token. -/
def taking (r : Reading α) : Reading α := do
  let before ← get
  let a ← r
  let after ← get
  if before.place < after.place then return a else throw .idle

/-- The call of a production. -/
def production (r : Reading α) : Reading α := do
  call
  taking r

/-- A round of the loop over entries. -/
def round (entry : Reading α) (close : Char) : Reading α := do
  let x ← entry
  if ← isAt tokens close then return x else do
    expect tokens ','
    return x

/-- Entries up to and with a closing mark, in at most `rounds` rounds. -/
def repeated (entry : Reading α) (close : Char) : Nat → Reading (List α)
  | 0 => throw .idle
  | rounds + 1 => do
    if ← isAt tokens close then do
      expect tokens close
      return []
    else do
      let x ← taking (round tokens entry close)
      let xs ← repeated entry close rounds
      return x :: xs

/-- Entries between two marks; there are as many rounds as tokens are left. -/
def enclosed (first : Char) (entry : Reading α) (close : Char) : Reading (List α) :=
  production do
    expect tokens first
    let s ← get
    repeated tokens entry close (tokens.length - s.place + 1)

def key : Reading Text :=
  production do
    let t ← advance tokens
    failing (Literal.key t)

def afterColon (value : Reading Value) : Reading Value :=
  production do
    expect tokens ':'
    value

def pair (value : Reading Value) : Reading (Scalar × Value) := do
  let k ← key tokens
  let v ← afterColon tokens value
  return (.text k, v)

def object (value : Reading Value) : Reading Value := do
  let pairs ← enclosed tokens '\x7b' (pair tokens value) '\x7d'
  return Value.dict (Entries.ofList pairs)

def array (value : Reading Value) : Reading Value := do
  let items ← enclosed tokens '[' value ']'
  return .list items

/-- A value nested up to a depth. -/
def value : Nat → Reading Value
  | 0 => production (throw (.failure .nesting))
  | depth + 1 =>
    production do
      let t ← peek tokens
      if t.isMark '\x7b' then object tokens (value depth)
      else if t.isMark '[' then array tokens (value depth)
      else if t.isMark '+' || t.isMark '-' then do
        let _ ← advance tokens
        let v ← value depth
        failing (signed (t.isMark '-') t.position v)
      else do
        let t ← advance tokens
        failing (atom t)

/-- An object with values nested up to a depth, and nothing after it. -/
def document (depth : Nat) : Reading Value := do
  call
  let v ← object tokens (value tokens depth)
  let t ← peek tokens
  if t.kind = .finish then return v
  else do
    let t ← peek tokens
    throw (.failure (.literal (.trailing t.position)))

/-! ### Runs -/

variable {tokens} {place calls : Nat}

theorem runFrom_bind (r : Reading α) (k : α → Reading β) (s : Cursor) :
    (r >>= k).runFrom s =
      match r.runFrom s with
      | (.ok a, s₁) => (k a).runFrom s₁
      | (.error stop, s₁) => (.error stop, s₁) := by
  show (match r.run.run s with
    | (o, s₁) => (ExceptT.bindCont k o).run s₁) = _
  unfold runFrom
  rcases r.run.run s with ⟨o, s₁⟩
  cases o <;> rfl

@[simp] theorem runFrom_pure (a : α) (s : Cursor) :
    (pure a : Reading α).runFrom s = (.ok a, s) := rfl

@[simp] theorem runFrom_get (s : Cursor) : (get : Reading Cursor).runFrom s = (.ok s, s) := rfl

theorem runFrom_call_bind (k : Unit → Reading α) :
    (call >>= k).runFrom ⟨place, calls⟩ = (k ()).runFrom ⟨place, calls + 1⟩ := rfl

theorem runFrom_failing (o : Outcome α) (s : Cursor) :
    (failing o).runFrom s = (o.mapError .failure, s) := by
  cases o <;> rfl

theorem current_drop (h : place < tokens.length) : current (tokens.drop place) = tokens[place] := by
  rw [List.drop_eq_getElem_cons h]
  rfl

theorem runFrom_next (h : place < tokens.length) :
    (next tokens).runFrom ⟨place, calls⟩ = (.ok (current (tokens.drop place)), ⟨place, calls⟩) := by
  rw [current_drop h, next, runFrom_bind, runFrom_get]
  simp only [List.getElem?_eq_getElem h, runFrom_pure]

theorem runFrom_peek (h : place < tokens.length) :
    (peek tokens).runFrom ⟨place, calls⟩ =
      (.ok (current (tokens.drop place)), ⟨place, calls + 1⟩) := by
  rw [peek, runFrom_call_bind, runFrom_next h]

theorem runFrom_advance (h : place < tokens.length) :
    (advance tokens).runFrom ⟨place, calls⟩ =
      (.ok (current (tokens.drop place)), ⟨place + 1, calls + 1⟩) := by
  rw [advance, runFrom_call_bind, runFrom_bind, runFrom_next h]
  rfl

theorem runFrom_isAt (c : Char) (h : place < tokens.length) :
    (isAt tokens c).runFrom ⟨place, calls⟩ =
      (.ok (Literal.isAt c (tokens.drop place)), ⟨place, calls + 2⟩) := by
  rw [isAt, runFrom_call_bind, runFrom_bind, runFrom_peek h]
  rfl

theorem runFrom_expect (c : Char) (h : place < tokens.length) :
    (expect tokens c).runFrom ⟨place, calls⟩ =
      (((Literal.expect c (tokens.drop place)).map (fun _ => ())).mapError .failure,
        ⟨place + 1, calls + 2⟩) := by
  rw [expect, runFrom_call_bind, runFrom_bind, runFrom_advance h, Literal.expect]
  have hmark : (current (tokens.drop place)).isMark c = Literal.isAt c (tokens.drop place) := rfl
  cases hat : Literal.isAt c (tokens.drop place) with
  | true => simp only [hmark, hat, if_true]; rfl
  | false => simp only [hmark, hat, Bool.false_eq_true, if_false]; rfl

end Reading

/-! ### Faults of tokens -/

/-- How reading so many tokens may fail where values are nested up to a depth. -/
inductive IsFault (depth count : Nat) : Failure → Prop where
  | syntaxFault (f : LiteralFault) : IsFault depth count (.literal f)
  | tooManyDigits {n : Nat} (h : Integer.maxDigits < n) :
      IsFault depth count (.integer (.tooManyDigits n))
  | tooLong : IsFault depth count (.integer .tooLong)
  | codePoint {n : Nat} (beyond : 0x110000 ≤ n) : IsFault depth count (.codePoint n)
  | nesting (deep : depth < count) : IsFault depth count .nesting

/-- Tokens as they are cut from a text: the end comes last, and numbers are words of numbers. -/
structure AreCut (tokens : List Token) : Prop where
  length_pos : 0 < tokens.length
  kind_last : ∀ place, place + 1 = tokens.length → (current (tokens.drop place)).kind = .finish
  isNumber : ∀ t ∈ tokens, t.kind = .number → IsNumber t.text

theorem areCut_of_scan {t : Text} {tokens : List Token} (h : scan t = .ok tokens) :
    AreCut tokens := by
  rcases ends_or_stuck 0 t with ⟨body, htiles, hends⟩ | ⟨before, c, after, ts, -, -, -, hstuck⟩
  · obtain rfl := Except.ok.inj (h.symm.trans hends)
    constructor
    · simp
    · intro place hplace
      rw [List.length_append, List.length_singleton, Nat.add_right_cancel_iff] at hplace
      rw [hplace, List.drop_left]
      rfl
    · intro k hk hkind
      rcases List.mem_append.1 hk with hk | hk
      · have hlexeme := htiles.isLexeme k hk
        rwa [hkind] at hlexeme
      · obtain rfl := List.mem_singleton.1 hk
        cases hkind
  · cases h.symm.trans hstuck

section Faults

variable {depth count : Nat} {t : Token} {f : Failure}

theorem isFault_of_decodeQuoted {w : Text} (h : decodeQuoted w = .error f) :
    IsFault depth count f := by
  obtain ⟨n, hn, rfl, -⟩ := unescapeFrom_eq_error h
  exact .codePoint hn

theorem isFault_of_decodeNumber {w : Text} (hw : IsNumber w) (h : decodeNumber w = .error f) :
    IsFault depth count f := by
  rcases decodeNumber_cases hw with ⟨n, hn⟩ | ⟨x, hx⟩ | ⟨hlong, -, hf⟩
  · cases h.symm.trans hn
  · cases h.symm.trans hx
  · cases h.symm.trans hf
    exact .tooManyDigits hlong

/-- The value of a number has no text only if it is a whole number with too many digits. -/
theorem eq_tooLong_of_display {w : Text} {n : Scalar} {f : Integer.Fault} (hw : IsNumber w)
    (hn : decodeNumber w = .ok n) (h : n.display = .error f) : f = .tooLong := by
  rcases decodeNumber_cases hw with ⟨m, hm⟩ | ⟨x, hx⟩ | ⟨-, -, hf⟩
  · cases hn.symm.trans hm
    have hwrite : Integer.write m = .error f := h
    unfold Integer.write at hwrite
    split at hwrite
    · cases hwrite
    · cases hwrite
      rfl
  · cases hn.symm.trans hx
    cases h
  · cases hn.symm.trans hf

theorem isFault_of_key (hnumber : t.kind = .number → IsNumber t.text) (h : key t = .error f) :
    IsFault depth count f := by
  unfold key at h
  split at h
  · cases h
  · exact isFault_of_decodeQuoted h
  · next hkind =>
    have hw := hnumber hkind
    rcases Outcome.bind_eq_error.1 h with h | ⟨n, hn, h⟩
    · exact isFault_of_decodeNumber hw h
    · split at h
      · cases h
      · next hdisplay =>
        cases h
        rw [eq_tooLong_of_display hw hn hdisplay]
        exact .tooLong
  · cases h
    exact .syntaxFault _

theorem isFault_of_atom (hnumber : t.kind = .number → IsNumber t.text) (h : atom t = .error f) :
    IsFault depth count f := by
  unfold atom at h
  dsimp only at h
  split at h
  · exact isFault_of_decodeQuoted (Outcome.map_eq_error.1 h)
  · next hkind => exact isFault_of_decodeNumber (hnumber hkind) (Outcome.map_eq_error.1 h)
  · split at h
    · cases h
    · cases h
      exact .syntaxFault _
  · cases h
    exact .syntaxFault _

theorem kind_ne_of_key {k : Text} (h : key t = .ok k) : t.kind ≠ .finish := by
  intro hkind
  unfold key at h
  rw [hkind] at h
  cases h

theorem kind_ne_of_atom {v : Value} (h : atom t = .ok v) : t.kind ≠ .finish := by
  intro hkind
  unfold atom at h
  rw [hkind] at h
  cases h

theorem kind_ne_of_isMark {c : Char} (h : t.isMark c = true) : t.kind ≠ .finish := by
  intro hkind
  rw [isMark_of_kind hkind (by decide)] at h
  cases h

end Faults

/-! ### Readers in steps -/

section Readers

variable {α : Type} {ts : List Token}

/-- Reads an entry and what separates it from the next one. -/
def Reader.round (reader : Reader α) (close : Char) : Reader α := fun ts =>
  reader ts >>= fun p => separator close p.2 >>= fun ts => .ok (p.1, ts)

/-- Reads entries between two marks. -/
def Reader.enclosed (first : Char) (reader : Reader α) (close : Char) : Reader (List α) :=
  fun ts => expect first ts >>= fun ts => Reader.repeated reader close (ts.length + 1) ts

/-- A value that nothing comes after. -/
def ending (p : Value × List Token) : Outcome Value :=
  if (current p.2).kind = .finish then .ok p.1
  else .error (.literal (.trailing (current p.2).position))

/-- An object with values nested up to a depth, and nothing after it. -/
def documentWithin (depth : Nat) (tokens : List Token) : Outcome Value :=
  expect '\x7b' tokens >>= object (value depth) >>= ending

theorem document_eq_documentWithin [Runtime] (tokens : List Token) :
    document tokens = documentWithin maxDepth tokens := by
  rw [documentWithin, bind_assoc]
  rfl

theorem repeated_eq_round (reader : Reader α) {close : Char} (rounds : Nat)
    (h : isAt close ts = false) :
    Reader.repeated reader close (rounds + 1) ts =
      Reader.round reader close ts >>= fun p =>
        Reader.repeated reader close rounds p.2 >>= fun q => .ok (p.1 :: q.1, q.2) := by
  rw [repeated_of_not_isAt reader rounds h, Reader.round]
  simp only [bind_assoc]
  rfl

theorem pair_eq_bind (reader : Reader Value) (ts : List Token) :
    pair reader ts =
      (key (current ts)).map (fun k => (k, ts.tail)) >>= fun p =>
        (expect ':' p.2 >>= reader) >>= fun q => .ok ((.text p.1, q.1), q.2) := by
  unfold pair
  cases key (current ts) with
  | error f => rfl
  | ok k =>
    show (expect ':' ts.tail >>= _) = (expect ':' ts.tail >>= reader) >>= _
    rw [bind_assoc]
    rfl

theorem object_eq_enclosed (reader : Reader Value) (ts : List Token) :
    expect '\x7b' ts >>= object reader =
      Reader.enclosed '\x7b' (pair reader) '\x7d' ts >>= fun p =>
        .ok (Value.dict (Entries.ofList p.1), p.2) := by
  rw [Reader.enclosed, bind_assoc]
  rfl

theorem array_eq_enclosed (reader : Reader Value) (ts : List Token) :
    expect '[' ts >>= array reader =
      Reader.enclosed '[' reader ']' ts >>= fun p => .ok (.list p.1, p.2) := by
  rw [Reader.enclosed, bind_assoc]
  rfl

theorem value_of_isAt_brace (h : isAt '\x7b' ts = true) (depth : Nat) :
    value (depth + 1) ts = expect '\x7b' ts >>= object (value depth) := by
  obtain ⟨t, rest, rfl, ht⟩ := exists_cons_of_isAt h
  rw [value_of_brace ht, expect_cons ht]
  rfl

theorem value_of_isAt_bracket (h : isAt '[' ts = true) (depth : Nat) :
    value (depth + 1) ts = expect '[' ts >>= array (value depth) := by
  obtain ⟨t, rest, rfl, ht⟩ := exists_cons_of_isAt h
  rw [value_of_bracket ht, expect_cons ht]
  rfl

theorem value_of_isAt_sign {minus : Bool} (h : isAt (signMark minus) ts = true) (depth : Nat) :
    value (depth + 1) ts = value depth ts.tail >>= fun p =>
      signed minus (current ts).position p.1 >>= fun v => .ok (v, p.2) := by
  obtain ⟨t, rest, rfl, ht⟩ := exists_cons_of_isAt h
  exact value_of_sign ht depth rest

theorem value_of_not_isAt (hne : ts ≠ []) (hbrace : isAt '\x7b' ts = false)
    (hbracket : isAt '[' ts = false) (hsign : (isAt '+' ts || isAt '-' ts) = false) (depth : Nat) :
    value (depth + 1) ts = (atom (current ts)).map (fun v => (v, ts.tail)) := by
  obtain ⟨t, rest, rfl⟩ := List.exists_cons_of_ne_nil hne
  apply value_of_atom hbrace hbracket
  intro minus
  obtain ⟨hplus, hminus⟩ := Bool.or_eq_false_iff.1 hsign
  cases minus with
  | true => exact hminus
  | false => exact hplus

/-- At one of the signs, being at the minus sign tells which. -/
theorem isAt_signMark (h : (isAt '+' ts || isAt '-' ts) = true) :
    isAt (signMark (isAt '-' ts)) ts = true := by
  cases hminus : isAt '-' ts with
  | true => exact hminus
  | false =>
    rw [hminus, Bool.or_false] at h
    exact h

end Readers

/-! ### Readings that meet an outcome -/

namespace Reading

variable {α β : Type} {tokens : List Token} {depth start place calls spare : Nat}

/-- A run has come to an outcome: to a place in front of the last token and behind the one that it
    started from, with some calls to spare, or to a fault. -/
inductive Meets (tokens : List Token) (depth start spare : Nat) :
    Outcome (α × List Token) → Except Stop α × Cursor → Prop where
  | gives {a : α} {place calls : Nat} (hstart : start < place) (hplace : place < tokens.length)
      (hcalls : calls + spare ≤ 7 * place) :
      Meets tokens depth start spare (.ok (a, tokens.drop place)) (.ok a, ⟨place, calls⟩)
  | fails {f : Failure} {place calls : Nat} (hfault : IsFault depth tokens.length f)
      (hplace : place ≤ tokens.length) (hcalls : calls ≤ 7 * tokens.length) :
      Meets tokens depth start spare (.error f) (.error (.failure f), ⟨place, calls⟩)

/-- A sequence of readings, the second one from wherever the first may come to. -/
theorem Meets.bind {r : Reading α} {k : α → Reading β} {s : Cursor} {start' spare' : Nat}
    {o : Outcome (α × List Token)} {g : α × List Token → Outcome (β × List Token)}
    (h : Meets tokens depth start spare o (r.runFrom s))
    (hk : ∀ a place calls, start < place → place < tokens.length → calls + spare ≤ 7 * place →
      Meets tokens depth start' spare' (g (a, tokens.drop place)) ((k a).runFrom ⟨place, calls⟩)) :
    Meets tokens depth start' spare' (o >>= g) ((r >>= k).runFrom s) := by
  rw [runFrom_bind]
  generalize r.runFrom s = result at h
  cases h with
  | gives hstart hplace hcalls => exact hk _ _ _ hstart hplace hcalls
  | fails hfault hplace hcalls => exact .fails hfault hplace hcalls

theorem Meets.map {r : Reading α} {s : Cursor} {o : Outcome (α × List Token)} (g : α → β)
    (h : Meets tokens depth start spare o (r.runFrom s)) :
    Meets tokens depth start spare (o >>= fun p => .ok (g p.1, p.2))
      ((r >>= fun a => return g a).runFrom s) := by
  apply h.bind
  intro a place calls hstart hplace hcalls
  exact .gives hstart hplace hcalls

theorem Meets.mono {o : Outcome (α × List Token)} {result : Except Stop α × Cursor}
    {start' spare' : Nat} (h : Meets tokens depth start spare o result) (hstart : start' ≤ start)
    (hspare : spare' ≤ spare) : Meets tokens depth start' spare' o result := by
  cases h with
  | gives hlt hplace hcalls => exact .gives (by omega) hplace (by omega)
  | fails hfault hplace hcalls => exact .fails hfault hplace hcalls

/-- A reading that has come further has taken a token. -/
theorem Meets.taking {r : Reading α} {o : Outcome (α × List Token)}
    (h : Meets tokens depth place spare o (r.runFrom ⟨place, calls⟩)) :
    Meets tokens depth place spare o ((Reading.taking r).runFrom ⟨place, calls⟩) := by
  rw [Reading.taking, runFrom_bind, runFrom_get]
  dsimp only
  rw [runFrom_bind]
  generalize r.runFrom ⟨place, calls⟩ = result at h
  cases h with
  | gives hstart hplace hcalls =>
    dsimp only
    rw [runFrom_bind, runFrom_get]
    simp only [hstart, if_true]
    exact .gives hstart hplace hcalls
  | fails hfault hplace hcalls => exact .fails hfault hplace hcalls

theorem Meets.production {r : Reading α} {o : Outcome (α × List Token)}
    (h : Meets tokens depth place spare o (r.runFrom ⟨place, calls + 1⟩)) :
    Meets tokens depth place spare o ((Reading.production r).runFrom ⟨place, calls⟩) := by
  rw [Reading.production, runFrom_call_bind]
  exact h.taking

section Steps

variable (hcut : AreCut tokens) (hplace : place < tokens.length)
include hcut hplace

/-- A token that is not the end has another one behind it. -/
theorem succ_lt_of_kind (h : (current (tokens.drop place)).kind ≠ .finish) :
    place + 1 < tokens.length := by
  by_contra hend
  exact h (hcut.kind_last place (by omega))

theorem isNumber_current :
    (current (tokens.drop place)).kind = .number → IsNumber (current (tokens.drop place)).text := by
  rw [current_drop hplace]
  exact hcut.isNumber _ (List.getElem_mem hplace)

/-- Taking a token and making something of it. -/
theorem meets_advance {read : Token → Outcome α}
    (hok : ∀ t a, read t = .ok a → t.kind ≠ .finish)
    (herror : ∀ t f, (t.kind = .number → IsNumber t.text) → read t = .error f →
      IsFault depth tokens.length f) (hcalls : calls + spare ≤ 7 * place + 6) :
    Meets tokens depth place spare
      ((read (current (tokens.drop place))).map (fun a => (a, (tokens.drop place).tail)))
      ((advance tokens >>= fun t => failing (read t)).runFrom ⟨place, calls⟩) := by
  rw [runFrom_bind, runFrom_advance hplace]
  dsimp only
  rw [runFrom_failing, List.tail_drop]
  cases hread : read (current (tokens.drop place)) with
  | ok a =>
    have hend := succ_lt_of_kind hcut hplace (hok _ a hread)
    exact .gives (Nat.lt_succ_self place) hend (by omega)
  | error f =>
    have hfault := herror _ f (isNumber_current hcut hplace) hread
    exact .fails hfault hplace (by omega)

/-- Taking a mark and going on behind it. -/
theorem Meets.expect {k : Unit → Reading β} {g : List Token → Outcome (β × List Token)}
    {start' spare' : Nat} (c : Char) (hcalls : calls + spare ≤ 7 * place + 5)
    (hk : ∀ next calls, place < next → next < tokens.length → calls + spare ≤ 7 * next →
      Meets tokens depth start' spare' (g (tokens.drop next)) ((k ()).runFrom ⟨next, calls⟩)) :
    Meets tokens depth start' spare' (Literal.expect c (tokens.drop place) >>= g)
      ((Reading.expect tokens c >>= k).runFrom ⟨place, calls⟩) := by
  rw [runFrom_bind, runFrom_expect c hplace]
  unfold Literal.expect
  cases hat : Literal.isAt c (tokens.drop place) with
  | true =>
    have hend := succ_lt_of_kind hcut hplace (kind_ne_of_isMark hat)
    rw [if_pos rfl, List.tail_drop]
    exact hk _ _ (Nat.lt_succ_self place) hend (by omega)
  | false => exact .fails (.syntaxFault _) hplace (by omega)

end Steps

/-! ### Entries

An entry leaves four calls to spare behind it, of which the look for the closing mark takes two; the
loop goes on with the other two, and its look at the next token takes them. -/

/-- From a place on, a reading meets what a reader gives, with four calls to spare. -/
def Tracks (tokens : List Token) (depth base : Nat) (r : Reading α) (reader : Reader α) : Prop :=
  ∀ place calls, base ≤ place → place < tokens.length → calls ≤ 7 * place →
    Meets tokens depth place 4 (reader (tokens.drop place)) (r.runFrom ⟨place, calls⟩)

section Entries

variable {base : Nat} {entry : Reading α} {reader : Reader α} {close : Char}

variable (hcut : AreCut tokens)
include hcut

theorem meets_round (hentry : Tracks tokens depth base entry reader) (hbase : base ≤ place)
    (hplace : place < tokens.length) (hcalls : calls ≤ 7 * place) :
    Meets tokens depth place 2 (Reader.round reader close (tokens.drop place))
      ((round tokens entry close).runFrom ⟨place, calls⟩) := by
  apply (hentry place calls hbase hplace hcalls).bind
  intro x next calls hstart hnext hcalls
  dsimp only
  rw [runFrom_bind, runFrom_isAt close hnext, separator]
  dsimp only
  cases hat : Literal.isAt close (tokens.drop next) with
  | true => exact .gives hstart hnext (by omega)
  | false =>
    apply Meets.expect hcut hnext ',' (by omega : calls + 2 + 2 ≤ 7 * next + 5)
    intro last calls hlast hend hcalls
    exact .gives (hstart.trans hlast) hend (by omega)

/-- **The loop over entries**: each round takes a token, so the rounds do not run out. -/
theorem meets_repeated (hentry : Tracks tokens depth base entry reader) (rounds : Nat)
    (hbase : base ≤ place) (hplace : place < tokens.length)
    (hrounds : tokens.length - place < rounds) (hcalls : calls + 2 ≤ 7 * place) :
    Meets tokens depth place 5 (Reader.repeated reader close rounds (tokens.drop place))
      ((repeated tokens entry close rounds).runFrom ⟨place, calls⟩) := by
  induction rounds generalizing place calls with
  | zero => omega
  | succ rounds ih =>
    rw [repeated, runFrom_bind, runFrom_isAt close hplace]
    dsimp only
    -- at the closing mark the loop ends with it; anywhere else, the end included, an entry is read
    cases hat : Literal.isAt close (tokens.drop place) with
    | true =>
      rw [repeated_of_isAt reader rounds hat]
      have hexpect : Literal.expect close (tokens.drop place) = .ok (tokens.drop place).tail :=
        if_pos hat
      have hend : Meets tokens depth place 5
          (Literal.expect close (tokens.drop place) >>= fun ts => .ok (([] : List α), ts))
          ((Reading.expect tokens close >>= fun _ => return []).runFrom ⟨place, calls + 2⟩) := by
        apply Meets.expect hcut hplace close (by omega : calls + 2 + 5 ≤ 7 * place + 5)
        intro next calls hstart hnext hcalls
        exact .gives hstart hnext hcalls
      rwa [hexpect] at hend
    | false =>
      rw [repeated_eq_round reader rounds hat]
      apply (meets_round hcut hentry hbase hplace (by omega)).taking.bind
      intro x next calls hstart hnext hcalls
      apply Meets.mono ?_ hstart.le (Nat.le_refl 5)
      exact (ih (by omega) hnext (by omega) hcalls).map (x :: ·)

theorem meets_enclosed {first : Char} (hentry : Tracks tokens depth (place + 1) entry reader)
    (hplace : place < tokens.length) (hcalls : calls ≤ 7 * place + 2) :
    Meets tokens depth place 5 (Reader.enclosed first reader close (tokens.drop place))
      ((enclosed tokens first entry close).runFrom ⟨place, calls⟩) := by
  apply Meets.production
  apply Meets.expect hcut hplace first (by omega : calls + 1 + 2 ≤ 7 * place + 5)
  intro next calls hstart hnext hcalls
  rw [runFrom_bind, runFrom_get, List.length_drop]
  apply Meets.mono ?_ hstart.le (Nat.le_refl 5)
  exact meets_repeated hcut hentry _ hstart hnext (by omega) hcalls

end Entries

/-! ### Productions -/

section Productions

variable {v : Reading Value} {reader : Reader Value} {base : Nat} (hcut : AreCut tokens)
include hcut

theorem meets_key (hplace : place < tokens.length) (hcalls : calls ≤ 7 * place) :
    Meets tokens depth place 5
      ((Literal.key (current (tokens.drop place))).map (fun k => (k, (tokens.drop place).tail)))
      ((key tokens).runFrom ⟨place, calls⟩) := by
  apply Meets.production
  apply meets_advance hcut hplace
  · intro t k hk
    exact kind_ne_of_key hk
  · intro t f ht hf
    exact isFault_of_key ht hf
  · omega

theorem tracks_pair (hv : Tracks tokens depth base v reader) :
    Tracks tokens depth base (pair tokens v) (Literal.pair reader) := by
  intro place calls hbase hplace hcalls
  rw [pair_eq_bind]
  apply (meets_key hcut hplace hcalls).bind
  intro k next calls hstart hnext hcalls
  apply Meets.mono ?_ hstart.le (Nat.le_refl 4)
  apply Meets.map
  apply Meets.production
  apply Meets.expect hcut hnext ':' (by omega : calls + 1 + 9 ≤ 7 * next + 5)
  intro last calls hlast hend hcalls
  exact (hv last calls (by omega) hend (by omega)).mono hlast.le (Nat.le_refl 4)

theorem meets_object (hv : Tracks tokens depth (place + 1) v reader)
    (hplace : place < tokens.length) (hcalls : calls ≤ 7 * place + 2) :
    Meets tokens depth place 5 (Literal.expect '\x7b' (tokens.drop place) >>= Literal.object reader)
      ((object tokens v).runFrom ⟨place, calls⟩) := by
  rw [object_eq_enclosed]
  exact (meets_enclosed hcut (tracks_pair hcut hv) hplace hcalls).map
    (fun pairs => Value.dict (Entries.ofList pairs))

theorem meets_array (hv : Tracks tokens depth (place + 1) v reader)
    (hplace : place < tokens.length) (hcalls : calls ≤ 7 * place + 2) :
    Meets tokens depth place 5 (Literal.expect '[' (tokens.drop place) >>= Literal.array reader)
      ((array tokens v).runFrom ⟨place, calls⟩) := by
  rw [array_eq_enclosed]
  exact (meets_enclosed hcut hv hplace hcalls).map Value.list

/-- A sign and the value behind it. -/
theorem meets_signed {minus : Bool} {position : Nat} (hv : Tracks tokens depth (place + 1) v reader)
    (hplace : place < tokens.length) (hcalls : calls ≤ 7 * place + 6)
    (hsign : Literal.isAt (signMark minus) (tokens.drop place) = true) :
    Meets tokens depth place 4
      (reader (tokens.drop place).tail >>= fun p =>
        signed minus position p.1 >>= fun w => .ok (w, p.2))
      ((advance tokens >>= fun _ => v >>= fun w =>
        failing (signed minus position w)).runFrom ⟨place, calls⟩) := by
  have hend := succ_lt_of_kind hcut hplace (kind_ne_of_isMark hsign)
  rw [runFrom_bind, runFrom_advance hplace, List.tail_drop]
  apply (hv (place + 1) (calls + 1) (Nat.le_refl _) hend (by omega)).bind
  intro w next calls hstart hnext hcalls
  rw [runFrom_failing]
  rcases signed_cases minus position w with ⟨f, hf⟩ | ⟨u, hu⟩
  · rw [hf]
    exact .fails (.syntaxFault f) hnext.le (by omega)
  · rw [hu]
    exact .gives (by omega) hnext hcalls

theorem meets_atom (hplace : place < tokens.length) (hcalls : calls ≤ 7 * place + 2) :
    Meets tokens depth place 4
      ((atom (current (tokens.drop place))).map (fun v => (v, (tokens.drop place).tail)))
      ((advance tokens >>= fun t => failing (atom t)).runFrom ⟨place, calls⟩) := by
  apply meets_advance hcut hplace
  · intro t v hv
    exact kind_ne_of_atom hv
  · intro t f ht hf
    exact isFault_of_atom ht hf
  · omega

/-- **A value**, by induction on how deep it may be nested; each level starts a token behind the
    one around it, so more levels than there are tokens are never needed. -/
theorem tracks_value [Runtime] (d : Nat) (hbase : depth + 1 ≤ d + base) :
    Tracks tokens depth base (value tokens d) (Literal.value d) := by
  induction d generalizing base with
  | zero =>
    -- every level above this one stands in front of a token of its own
    intro place calls hle hplace hcalls
    apply Meets.production
    exact .fails (.nesting (by omega)) hplace.le (by omega)
  | succ d ih =>
    intro place calls hle hplace hcalls
    have hv : Tracks tokens depth (place + 1) (value tokens d) (Literal.value d) := ih (by omega)
    apply Meets.production
    rw [runFrom_bind, runFrom_peek hplace]
    dsimp only
    -- what the token is by itself, the reader asks of the tokens from it on
    change Meets _ _ _ _ _ (Reading.runFrom
      (if Literal.isAt '\x7b' (tokens.drop place) then _
      else if Literal.isAt '[' (tokens.drop place) then _
      else if Literal.isAt '+' (tokens.drop place) || Literal.isAt '-' (tokens.drop place) then _
      else _) _)
    split
    · next hbrace =>
      rw [value_of_isAt_brace hbrace]
      exact (meets_object hcut hv hplace (by omega)).mono (Nat.le_refl _) (by omega)
    · next hbrace =>
      split
      · next hbracket =>
        rw [value_of_isAt_bracket hbracket]
        exact (meets_array hcut hv hplace (by omega)).mono (Nat.le_refl _) (by omega)
      · next hbracket =>
        split
        · next hsign =>
          rw [value_of_isAt_sign (isAt_signMark hsign)]
          exact meets_signed hcut hv hplace (by omega) (isAt_signMark hsign)
        · next hsign =>
          have hne : tokens.drop place ≠ [] := by simpa using hplace
          rw [value_of_not_isAt hne (by simpa using hbrace) (by simpa using hbracket)
            (by simpa using hsign)]
          exact meets_atom hcut hplace (by omega)

/-- Reading a literal comes to the outcome of its tokens, inside them and after few calls. -/
theorem runFrom_document [Runtime] (depth : Nat) :
    ∃ place calls, (document tokens depth).runFrom ⟨0, 0⟩ =
        ((documentWithin depth tokens).mapError .failure, ⟨place, calls⟩) ∧
      place ≤ tokens.length ∧ calls ≤ 7 * tokens.length ∧
      ∀ f, documentWithin depth tokens = .error f → IsFault depth tokens.length f := by
  have hv : Tracks tokens depth (0 + 1) (value tokens depth) (Literal.value depth) :=
    tracks_value hcut depth (by omega)
  have hobject := meets_object hcut hv hcut.length_pos (by omega : 1 ≤ 7 * 0 + 2)
  rw [List.drop_zero] at hobject
  rw [document, runFrom_call_bind, runFrom_bind, documentWithin]
  generalize (object tokens (value tokens depth)).runFrom ⟨0, 0 + 1⟩ = result at hobject
  generalize Literal.expect '\x7b' tokens >>= Literal.object (Literal.value depth) = o at hobject
  cases hobject with
  | @gives v place calls hstart hplace hcalls =>
    dsimp only
    rw [runFrom_bind, runFrom_peek hplace]
    dsimp only
    by_cases hfinish : (current (tokens.drop place)).kind = .finish
    · have hend : (.ok (v, tokens.drop place) >>= ending : Outcome Value) = .ok v := if_pos hfinish
      rw [hend, if_pos hfinish]
      exact ⟨place, calls + 1, rfl, hplace.le, by omega, fun f hf => by cases hf⟩
    · have hend : (.ok (v, tokens.drop place) >>= ending : Outcome Value) =
          .error (.literal (.trailing (current (tokens.drop place)).position)) := if_neg hfinish
      rw [hend, if_neg hfinish, runFrom_bind, runFrom_peek hplace]
      refine ⟨place, calls + 1 + 1, rfl, hplace.le, by omega, ?_⟩
      intro f hf
      cases hf
      exact .syntaxFault _
  | @fails f place calls hfault hplace hcalls =>
    refine ⟨place, calls, rfl, hplace, hcalls, ?_⟩
    intro g hg
    cases hg
    exact hfault

end Productions

end Reading

/-! ### Literals -/

/-- A literal is read, or it is at fault in its words or in its tokens. -/
theorem fault_of_parse [Runtime] {raw : Text} {f : Failure} (h : parse raw = .error f) :
    (∃ g, f = .literal g) ∨
      ∃ tokens, scan (braced raw) = .ok tokens ∧ IsFault maxDepth tokens.length f := by
  rcases Outcome.bind_eq_error.1 h with h | ⟨tokens, hscan, h⟩
  · left
    obtain ⟨c, p, rfl⟩ := scanFrom_eq_error h
    exact ⟨_, rfl⟩
  · right
    rcases Outcome.bind_eq_error.1 h with h | ⟨v, -, h⟩
    · obtain ⟨place, calls, -, -, -, hfault⟩ :=
        Reading.runFrom_document (areCut_of_scan hscan) maxDepth
      rw [document_eq_documentWithin] at h
      exact ⟨tokens, hscan, hfault f h⟩
    · cases h

/-- **Reading a literal is safe and ends soon.**  The words of a source are at fault, or reading
    its tokens, with values nested up to any depth, comes to the outcome of the reader: so it never
    asks for a token behind the last one, and every call and every round of a loop that does not
    fail takes a token.  It stays inside the tokens and makes at most seven calls for each of them,
    and what fails is the syntax, a number with too many digits to be read or written, a code point
    out of range, or the nesting, which is then deeper than allowed.  The same goes for what a
    literal denotes. -/
theorem reading_safe [Runtime] (source raw : Text) (depth : Nat) :
    ((∃ f, scan source = .error (.literal f)) ∨
      ∃ tokens place calls, scan source = .ok tokens ∧
        (Reading.document tokens depth).runFrom ⟨0, 0⟩ =
          ((documentWithin depth tokens).mapError .failure, ⟨place, calls⟩) ∧
        document tokens = documentWithin maxDepth tokens ∧
        place ≤ tokens.length ∧ calls ≤ 7 * tokens.length ∧
        ∀ f, documentWithin depth tokens = .error f → IsFault depth tokens.length f) ∧
    ((∃ arguments, parse raw = .ok arguments) ∨
      ∃ f, parse raw = .error f ∧ ((∃ g, f = .literal g) ∨
        ∃ tokens, scan (braced raw) = .ok tokens ∧ IsFault maxDepth tokens.length f)) := by
  constructor
  · cases hscan : scan source with
    | error f =>
      obtain ⟨c, p, rfl⟩ := scanFrom_eq_error hscan
      exact Or.inl ⟨_, rfl⟩
    | ok tokens =>
      obtain ⟨place, calls, hrun, hplace, hcalls, hfault⟩ :=
        Reading.runFrom_document (areCut_of_scan hscan) depth
      exact Or.inr ⟨tokens, place, calls, rfl, hrun, document_eq_documentWithin tokens, hplace,
        hcalls, hfault⟩
  · cases hparse : parse raw with
    | error f => exact Or.inr ⟨f, rfl, fault_of_parse hparse⟩
    | ok arguments => exact Or.inl ⟨arguments, rfl⟩

end TemplatedNotes.Literal
