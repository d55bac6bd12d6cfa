/-
  TemplatedNotes/Proofs/Literal/Grammar.lean
  ==========================================
  **The grammar of argument literals, and that the reader follows it.**

      object ::= '{' row(pair) '}'            pair ::= (identifier | quoted | number) ':' value
      array  ::= '[' row(value) ']'           row(e) ::= [e {',' e} [',']]
      value  ::= object | array | quoted | number | constant | ('+' | '-') value

  `IsValue tokens v` says that tokens derive from `value` and denote `v`; a sign stands in front
  of tokens that denote a number only.  In an object the last value of a key counts, at the place
  of the key's first occurrence (`LastWins`).

  A reader follows a relation between tokens and values when what it reads is related to its
  result, and related tokens are read with that result whatever stands behind them, unless the
  nesting ends the reading (`Reader.Follows`).  Following passes from the entries to the loop over
  them, to objects and arrays, and so to values by induction on the depth.
-/
import TemplatedNotes.Proofs.Literal.Pairs

namespace TemplatedNotes.Literal

variable {α : Type}

/-! ### The grammar -/

def Token.isMark (t : Token) (c : Char) : Bool := t.kind == .mark && t.text == [.scalar c]

/-- Entries with a comma between each two and perhaps after the last. -/
inductive Row (entry : List Token → α → Prop) : List Token → List α → Prop where
  | nil : Row entry [] []
  | last {ts : List Token} {x : α} (hx : entry ts x) : Row entry ts [x]
  | cons {ts rest : List Token} {x : α} {xs : List α} {comma : Token} (hx : entry ts x)
      (hcomma : comma.isMark ',' = true) (hrest : Row entry rest xs) :
      Row entry (ts ++ comma :: rest) (x :: xs)

/-- A row and its closing mark. -/
inductive Enclosed (entry : List Token → α → Prop) (close : Char) :
    List Token → List α → Prop where
  | intro {ts : List Token} {xs : List α} {last : Token} (hrow : Row entry ts xs)
      (hlast : last.isMark close = true) : Enclosed entry close (ts ++ [last]) xs

inductive IsKey : Token → Text → Prop where
  | identifier {t : Token} (hkind : t.kind = .identifier) : IsKey t t.text
  | quoted {t : Token} {k : Text} (hkind : t.kind = .quoted) (hk : decodeQuoted t.text = .ok k) :
      IsKey t k
  | number {t : Token} {n : Scalar} {k : Text} (hkind : t.kind = .number)
      (hn : decodeNumber t.text = .ok n) (hk : n.display = .ok k) : IsKey t k

inductive IsPair (value : List Token → Value → Prop) : List Token → Scalar × Value → Prop where
  | intro {t colon : Token} {k : Text} {ts : List Token} {v : Value} (hk : IsKey t k)
      (hcolon : colon.isMark ':' = true) (hv : value ts v) :
      IsPair value (t :: colon :: ts) (.text k, v)

/-- Entries with the keys of some pairs in the order of their first occurrences, each entry the
    last pair with its key. -/
structure LastWins (pairs entries : List (Scalar × Value)) : Prop where
  keys_eq : entries.map Prod.fst = (pairs.map Prod.fst).eraseDups
  last : ∀ e ∈ entries, pairs.reverse.find? (fun p => p.1 == e.1) = some e

inductive IsObject (value : List Token → Value → Prop) : List Token → Value → Prop where
  | intro {first : Token} {ts : List Token} {pairs entries : List (Scalar × Value)}
      (hfirst : first.isMark '\x7b' = true) (hpairs : Enclosed (IsPair value) '\x7d' ts pairs)
      (hentries : LastWins pairs entries) : IsObject value (first :: ts) (Value.dict entries)

/-- A number that is no truth value, with its opposite. -/
inductive Opposite : Scalar → Scalar → Prop where
  | int (n : Int) : Opposite (.int n) (.int (-n))
  | float (x : Binary64) : Opposite (.float x) (.float x.neg)

/-- Tokens that derive from `value`, with the value that they denote. -/
inductive IsValue : List Token → Value → Prop where
  | object {ts : List Token} {v : Value} (h : IsObject IsValue ts v) : IsValue ts v
  | array {first : Token} {ts : List Token} {vs : List Value} (hfirst : first.isMark '[' = true)
      (hitems : Enclosed IsValue ']' ts vs) : IsValue (first :: ts) (.list vs)
  | quoted {t : Token} {x : Text} (hkind : t.kind = .quoted) (hx : decodeQuoted t.text = .ok x) :
      IsValue [t] (.text x)
  | number {t : Token} {n : Scalar} (hkind : t.kind = .number)
      (hn : decodeNumber t.text = .ok n) : IsValue [t] (.scalar n)
  | constant {t : Token} {s : Scalar} (hkind : t.kind = .identifier)
      (hs : constant? t.text = some s) : IsValue [t] (.scalar s)
  | plus {sign : Token} {ts : List Token} {n m : Scalar} (hsign : sign.isMark '+' = true)
      (h : IsValue ts (.scalar n)) (hn : Opposite n m) : IsValue (sign :: ts) (.scalar n)
  | minus {sign : Token} {ts : List Token} {n m : Scalar} (hsign : sign.isMark '-' = true)
      (h : IsValue ts (.scalar n)) (hn : Opposite n m) : IsValue (sign :: ts) (.scalar m)

/-! ### The entries of an object -/

theorem eraseDups_concat {β : Type} [BEq β] [LawfulBEq β] (xs : List β) (x : β) :
    (xs ++ [x]).eraseDups = xs.eraseDups ++ if xs.contains x then [] else [x] := by
  rw [List.eraseDups_append]
  cases hx : xs.contains x with
  | true => simp_all [List.removeAll]
  | false => simp_all [List.removeAll, List.eraseDups_cons]

theorem nodup_eraseDups {β : Type} [BEq β] [LawfulBEq β] (xs : List β) : xs.eraseDups.Nodup := by
  induction xs using List.reverseRecOn with
  | nil => simp
  | append_singleton xs x ih =>
    rw [eraseDups_concat]
    cases hx : xs.contains x with
    | true => simpa using ih
    | false =>
      have hnot : x ∉ xs := by simpa using hx
      refine List.nodup_append.2 ⟨ih, by simp, ?_⟩
      intro y hy z hz
      obtain rfl : z = x := by simpa using hz
      rintro rfl
      exact hnot (List.mem_eraseDups.1 hy)

theorem same_text (a : Scalar) (k : Text) : a.same (.text k) = (a == .text k) := by
  cases a <;> simp [Scalar.same, Scalar.int?]

/-- Setting a text key changes its entry alone, or adds one at the end. -/
theorem map_fst_set (es : Entries Value) (k : Text) (v : Value) :
    (es.set (.text k) v).map Prod.fst =
      es.map Prod.fst ++ if (es.map Prod.fst).contains (.text k) then [] else [.text k] := by
  induction es with
  | nil => simp [Entries.set]
  | cons e rest ih =>
    rw [Entries.set, same_text]
    by_cases he : e.1 = .text k
    · simp [he]
    · have hne : (e.1 == Scalar.text k) = false := by simpa using he
      have hne' : (Scalar.text k == e.1) = false := by simpa using Ne.symm he
      simp only [hne, Bool.false_eq_true, if_false, List.map_cons, ih, List.cons_append,
        List.contains_cons, hne', Bool.false_or]

theorem mem_set {es : Entries Value} (hnodup : (es.map Prod.fst).Nodup) {k : Text} {v : Value}
    {e : Scalar × Value} (he : e ∈ es.set (.text k) v) :
    e = (.text k, v) ∨ e ∈ es ∧ e.1 ≠ .text k := by
  induction es with
  | nil => exact Or.inl (by simpa [Entries.set] using he)
  | cons first rest ih =>
    obtain ⟨hfirst, hrest⟩ := List.nodup_cons.1 hnodup
    rw [Entries.set, same_text] at he
    by_cases hk : first.1 = .text k
    · simp only [hk, beq_self_eq_true, if_true, List.mem_cons] at he
      rcases he with rfl | he
      · exact Or.inl rfl
      · refine Or.inr ⟨List.mem_cons_of_mem _ he, fun hek => hfirst ?_⟩
        rw [hk, ← hek]
        exact List.mem_map_of_mem he
    · have hne : (first.1 == Scalar.text k) = false := by simpa using hk
      simp only [hne, Bool.false_eq_true, if_false, List.mem_cons] at he
      rcases he with rfl | he
      · exact Or.inr ⟨List.mem_cons_self, hk⟩
      · rcases ih hrest he with h | ⟨h, hek⟩
        · exact Or.inl h
        · exact Or.inr ⟨List.mem_cons_of_mem _ h, hek⟩

theorem LastWins.unique {pairs es fs : List (Scalar × Value)} (he : LastWins pairs es)
    (hf : LastWins pairs fs) : es = fs := by
  have hkeys : es.map Prod.fst = fs.map Prod.fst := he.keys_eq.trans hf.keys_eq.symm
  have hlength : es.length = fs.length := by simpa using congrArg List.length hkeys
  apply List.ext_getElem hlength
  intro i hi hi'
  have hkey : es[i].1 = fs[i].1 := by
    have h := List.getElem_of_eq hkeys (i := i) (by simpa using hi)
    simpa using h
  have hlast := he.last es[i] (List.getElem_mem hi)
  rw [hkey, hf.last fs[i] (List.getElem_mem hi')] at hlast
  exact (Option.some.inj hlast).symm

/-- **The entries that assignments leave**: the last one to a key wins, in the key's first
    place. -/
theorem lastWins_ofList {pairs : List (Scalar × Value)} (h : ∀ p ∈ pairs, ∃ k, p.1 = .text k) :
    LastWins pairs (Entries.ofList pairs) := by
  induction pairs using List.reverseRecOn with
  | nil => exact ⟨rfl, by simp [Entries.ofList]⟩
  | append_singleton pairs p ih =>
    obtain ⟨hpairs, hp⟩ := List.forall_mem_append.1 h
    obtain ⟨k, hk⟩ := hp p (List.mem_singleton_self p)
    obtain ⟨key, v⟩ := p
    obtain rfl : key = .text k := hk
    have hwins := ih hpairs
    have hset : Entries.ofList (pairs ++ [(.text k, v)]) =
        (Entries.ofList pairs).set (.text k) v := by simp [Entries.ofList]
    have hmem : ((Entries.ofList pairs).map Prod.fst).contains (Scalar.text k) =
        (pairs.map Prod.fst).contains (.text k) := by
      rw [hwins.keys_eq, Bool.eq_iff_iff]
      simp only [List.contains_iff_mem, List.mem_eraseDups]
    rw [hset]
    refine ⟨?_, fun e he => ?_⟩
    · rw [map_fst_set, hmem, hwins.keys_eq, List.map_append, List.map_singleton,
        eraseDups_concat]
    · rw [List.reverse_append, List.reverse_singleton, List.singleton_append, List.find?_cons]
      have hnodup : ((Entries.ofList pairs).map Prod.fst).Nodup := by
        rw [hwins.keys_eq]
        exact nodup_eraseDups _
      rcases mem_set hnodup he with rfl | ⟨he, hne⟩
      · simp
      · have hno : (Scalar.text k == e.1) = false := by simpa using Ne.symm hne
        simp only [hno]
        exact hwins.last e he

/-! ### Readers that follow the grammar -/

/-- A result, unless the nesting is too deep to get there. -/
def Yields {β : Type} (o : Outcome β) (b : β) : Prop := o = .ok b ∨ o = .error .nesting

theorem Yields.bind {β γ : Type} {o : Outcome β} {k : β → Outcome γ} {b : β} {c : γ}
    (h : Yields o b) (hk : Yields (k b) c) : Yields (o >>= k) c := by
  rcases h with rfl | rfl
  · exact hk
  · exact Or.inr rfl

/-- What is read derives its result, and what derives a result is read with it. -/
structure Reader.Follows (r : Reader α) (derives : List Token → α → Prop) : Prop where
  sound : ∀ {tokens : List Token} {x : α} {rest : List Token}, r tokens = .ok (x, rest) →
    ∃ read, tokens = read ++ rest ∧ derives read x
  complete : ∀ {read : List Token} {x : α}, derives read x → ∀ rest,
    Yields (r (read ++ rest)) (x, rest)

variable {entry : Reader α} {derives : List Token → α → Prop} {close : Char}

theorem isAt_cons (c : Char) (t : Token) (rest : List Token) : isAt c (t :: rest) = t.isMark c :=
  rfl

theorem exists_cons_of_isAt {c : Char} {tokens : List Token} (h : isAt c tokens = true) :
    ∃ t rest, tokens = t :: rest ∧ t.isMark c = true := by
  cases tokens with
  | nil => simp [isAt, current] at h
  | cons t rest => exact ⟨t, rest, rfl, h⟩

theorem expect_cons {c : Char} {t : Token} (h : t.isMark c = true) (rest : List Token) :
    expect c (t :: rest) = .ok rest := if_pos h

theorem exists_cons_of_expect {c : Char} {tokens rest : List Token}
    (h : expect c tokens = .ok rest) : ∃ t, tokens = t :: rest ∧ t.isMark c = true := by
  obtain ⟨t, ts, rfl, ht⟩ := exists_cons_of_isAt (isAt_of_expect h)
  rw [expect_cons ht] at h
  cases h
  exact ⟨t, rfl, ht⟩

theorem isMark_of_ne {t : Token} {c d : Char} (h : t.isMark c = true) (hne : c ≠ d) :
    t.isMark d = false := by
  have ht : t.kind = .mark ∧ t.text = [.scalar c] := by simpa [Token.isMark] using h
  simp [Token.isMark, ht, hne]

theorem isMark_of_kind {t : Token} {kind : TokenKind} (h : t.kind = kind) (hne : kind ≠ .mark)
    (c : Char) : t.isMark c = false := by
  simp [Token.isMark, h, hne]

theorem separator_of_isMark {t : Token} (h : t.isMark close = true) (rest : List Token) :
    separator close (t :: rest) = .ok (t :: rest) := if_pos h

theorem separator_of_comma {t : Token} (h : t.isMark ',' = true) (hclose : close ≠ ',')
    (rest : List Token) : separator close (t :: rest) = .ok rest := by
  have hno : ¬ isAt close (t :: rest) = true := by
    rw [isAt_cons, isMark_of_ne h hclose.symm]
    exact Bool.false_ne_true
  rw [separator, if_neg hno]
  exact expect_cons h rest

/-- No tokens that derive an entry start with the closing mark. -/
def NeverAt (close : Char) (derives : List Token → α → Prop) : Prop :=
  ∀ {read : List Token} {x : α}, derives read x → ∀ rest, isAt close (read ++ rest) = false

theorem Row.eq_nil_of_isAt (hstart : NeverAt close derives) {row rest : List Token} {xs : List α}
    (h : Row derives row xs) (hclose : isAt close (row ++ rest) = true) : row = [] ∧ xs = [] := by
  cases h with
  | nil => exact ⟨rfl, rfl⟩
  | last hx =>
    rw [hstart hx] at hclose
    cases hclose
  | cons hx hcomma hrest =>
    rw [List.append_assoc, hstart hx] at hclose
    cases hclose

theorem sound_repeated (hentry : entry.Follows derives) (hstart : NeverAt close derives)
    {rounds : Nat} {tokens rest : List Token} {xs : List α}
    (h : Reader.repeated entry close rounds tokens = .ok (xs, rest)) :
    ∃ read, tokens = read ++ rest ∧ Enclosed derives close read xs := by
  induction rounds generalizing tokens xs with
  | zero => cases h
  | succ n ih =>
    by_cases hclose : isAt close tokens = true
    · rw [repeated_of_isAt entry n hclose] at h
      cases h
      obtain ⟨t, ts, rfl, ht⟩ := exists_cons_of_isAt hclose
      exact ⟨[t], rfl, .intro .nil ht⟩
    · rw [repeated_of_not_isAt entry n (by simpa using hclose)] at h
      obtain ⟨⟨x, ts⟩, hx, h⟩ := Outcome.bind_eq_ok.1 h
      obtain ⟨ts', hts', h⟩ := Outcome.bind_eq_ok.1 h
      obtain ⟨⟨more, after⟩, hmore, h⟩ := Outcome.bind_eq_ok.1 h
      cases h
      obtain ⟨first, rfl, hfirst⟩ := hentry.sound hx
      obtain ⟨_, rfl, @⟨row, _, last, hrow, hlast⟩⟩ := ih hmore
      by_cases hend : isAt close ts = true
      · -- at the closing mark nothing else is read
        rw [separator, if_pos hend] at hts'
        obtain rfl := Except.ok.inj hts'
        rw [List.append_assoc] at hend
        obtain ⟨rfl, rfl⟩ := hrow.eq_nil_of_isAt hstart hend
        exact ⟨first ++ [last], by simp, .intro (.last hfirst) hlast⟩
      · rw [separator, if_neg hend] at hts'
        obtain ⟨comma, rfl, hcomma⟩ := exists_cons_of_expect hts'
        exact ⟨first ++ comma :: row ++ [last], by simp, .intro (.cons hfirst hcomma hrow) hlast⟩

theorem complete_repeated (hentry : entry.Follows derives) (hstart : NeverAt close derives)
    (hclose : close ≠ ',') {row : List Token} {xs : List α} (hrow : Row derives row xs)
    {last : Token} (hlast : last.isMark close = true) (rounds : Nat) (rest : List Token) :
    Yields (Reader.repeated entry close rounds (row ++ last :: rest)) (xs, rest) := by
  have hend : ∀ n, Yields (Reader.repeated entry close n (last :: rest)) ([], rest) := by
    intro n
    cases n with
    | zero => exact Or.inr rfl
    | succ n => exact Or.inl (repeated_of_isAt entry n hlast)
  induction hrow generalizing rounds with
  | nil => exact hend rounds
  | @last ts x hx =>
    cases rounds with
    | zero => exact Or.inr rfl
    | succ n =>
      rw [repeated_of_not_isAt entry n (hstart hx _)]
      apply (hentry.complete hx (last :: rest)).bind
      apply Yields.bind (Or.inl (separator_of_isMark hlast rest))
      exact (hend n).bind (Or.inl rfl)
  | @cons ts more x xs comma hx hcomma hrest ih =>
    cases rounds with
    | zero => exact Or.inr rfl
    | succ n =>
      rw [List.append_assoc, List.cons_append, repeated_of_not_isAt entry n (hstart hx _)]
      apply (hentry.complete hx (comma :: (more ++ last :: rest))).bind
      apply Yields.bind (Or.inl (separator_of_comma hcomma hclose _))
      exact (ih n).bind (Or.inl rfl)

theorem follows_repeated (hentry : entry.Follows derives) (hstart : NeverAt close derives)
    (hclose : close ≠ ',') (rounds : Nat) :
    (Reader.repeated entry close rounds).Follows (Enclosed derives close) := by
  constructor
  · exact sound_repeated hentry hstart
  · intro read xs h rest
    obtain ⟨hrow, hlast⟩ := h
    rw [List.append_assoc]
    exact complete_repeated hentry hstart hclose hrow hlast rounds rest

/-! ### Pairs and values -/

theorem key_eq_ok_iff {t : Token} {k : Text} : key t = .ok k ↔ IsKey t k := by
  unfold key
  constructor
  · intro h
    split at h
    · next hkind =>
      cases h
      exact .identifier hkind
    · next hkind => exact .quoted hkind h
    · next hkind =>
      obtain ⟨n, hn, h⟩ := Outcome.bind_eq_ok.1 h
      split at h
      · next k' hk =>
        cases h
        exact .number hkind hn hk
      · cases h
    · cases h
  · intro h
    cases h with
    | identifier hkind => simp only [hkind]
    | quoted hkind hk => simp only [hkind, hk]
    | number hkind hn hk =>
      simp only [hkind]
      exact Outcome.bind_eq_ok.2 ⟨_, hn, by rw [hk]⟩

theorem IsKey.kind_ne {t : Token} {k : Text} (h : IsKey t k) : t.kind ≠ .mark := by
  cases h with
  | identifier hkind => simp [hkind]
  | quoted hkind => simp [hkind]
  | number hkind => simp [hkind]

theorem neverAt_isPair {value : List Token → Value → Prop} : NeverAt close (IsPair value) := by
  intro read p h rest
  cases h with
  | intro hk => exact isMark_of_kind rfl hk.kind_ne close

variable {reader : Reader Value} {denotes : List Token → Value → Prop}

theorem follows_pair (hreader : reader.Follows denotes) :
    (pair reader).Follows (IsPair denotes) := by
  constructor
  · intro tokens p rest h
    obtain ⟨k, hk, h⟩ := Outcome.bind_eq_ok.1 h
    obtain ⟨ts, hts, h⟩ := Outcome.bind_eq_ok.1 h
    obtain ⟨⟨v, after⟩, hv, h⟩ := Outcome.bind_eq_ok.1 h
    cases h
    obtain ⟨colon, htail, hcolon⟩ := exists_cons_of_expect hts
    obtain ⟨read, rfl, hread⟩ := hreader.sound hv
    cases tokens with
    | nil => cases htail
    | cons t more =>
      obtain rfl : more = colon :: (read ++ rest) := htail
      exact ⟨t :: colon :: read, rfl, .intro (key_eq_ok_iff.1 hk) hcolon hread⟩
  · intro read p h rest
    cases h with
    | @intro t colon k ts v hk hcolon hv =>
      apply Yields.bind (Or.inl (key_eq_ok_iff.2 hk))
      apply Yields.bind (Or.inl (expect_cons hcolon (ts ++ rest)))
      exact (hreader.complete hv rest).bind (Or.inl rfl)

theorem Row.forall_of_entry {P : α → Prop} (hentry : ∀ ts x, derives ts x → P x)
    {row : List Token} {xs : List α} (h : Row derives row xs) : ∀ x ∈ xs, P x := by
  induction h with
  | nil => simp
  | last hx => simpa using hentry _ _ hx
  | cons hx _ _ ih => exact List.forall_mem_cons.2 ⟨hentry _ _ hx, ih⟩

/-- Behind its brace an object is a row of pairs with the closing brace. -/
theorem follows_object (hreader : reader.Follows denotes) :
    (object reader).Follows (fun ts v => ∃ pairs entries,
      Enclosed (IsPair denotes) '\x7d' ts pairs ∧ LastWins pairs entries ∧
        v = Value.dict entries) := by
  have hkeys : ∀ {ts pairs}, Enclosed (IsPair denotes) '\x7d' ts pairs →
      LastWins pairs (Entries.ofList pairs) := by
    intro ts pairs h
    obtain ⟨hrow, -⟩ := h
    apply lastWins_ofList
    refine hrow.forall_of_entry (P := fun p => ∃ k, p.1 = .text k) ?_
    intro ts p hp
    cases hp with
    | @intro t colon k => exact ⟨k, rfl⟩
  have hrow : ∀ rounds, (Reader.repeated (pair reader) '\x7d' rounds).Follows _ :=
    follows_repeated (follows_pair hreader) neverAt_isPair (by decide)
  constructor
  · intro tokens v rest h
    obtain ⟨⟨pairs, after⟩, hpairs, h⟩ := Outcome.bind_eq_ok.1 h
    cases h
    obtain ⟨read, rfl, hread⟩ := (hrow _).sound hpairs
    exact ⟨read, rfl, pairs, _, hread, hkeys hread, rfl⟩
  · rintro read _ ⟨pairs, entries, hread, hentries, rfl⟩ rest
    rw [hentries.unique (hkeys hread)]
    exact ((hrow _).complete hread rest).bind (Or.inl rfl)

theorem follows_array (hreader : reader.Follows denotes) (hstart : NeverAt ']' denotes) :
    (array reader).Follows (fun ts v => ∃ vs, Enclosed denotes ']' ts vs ∧ v = .list vs) := by
  have hrow : ∀ rounds, (Reader.repeated reader ']' rounds).Follows _ :=
    follows_repeated hreader hstart (by decide)
  constructor
  · intro tokens v rest h
    obtain ⟨⟨vs, after⟩, hvs, h⟩ := Outcome.bind_eq_ok.1 h
    cases h
    obtain ⟨read, rfl, hread⟩ := (hrow _).sound hvs
    exact ⟨read, rfl, vs, hread, rfl⟩
  · rintro read _ ⟨vs, hread, rfl⟩ rest
    exact ((hrow _).complete hread rest).bind (Or.inl rfl)

theorem neverAt_isValue : NeverAt ']' IsValue := by
  intro read v h rest
  cases h with
  | object h =>
    cases h with
    | intro hfirst => exact isMark_of_ne hfirst (by decide)
  | array hfirst => exact isMark_of_ne hfirst (by decide)
  | quoted hkind => exact isMark_of_kind hkind (by simp) _
  | number hkind => exact isMark_of_kind hkind (by simp) _
  | constant hkind => exact isMark_of_kind hkind (by simp) _
  | plus hsign => exact isMark_of_ne hsign (by decide)
  | minus hsign => exact isMark_of_ne hsign (by decide)

section Values

variable {t : Token}

theorem value_of_brace (h : t.isMark '\x7b' = true) (depth : Nat) (rest : List Token) :
    value (depth + 1) (t :: rest) = object (value depth) rest := if_pos h

theorem value_of_bracket (h : t.isMark '[' = true) (depth : Nat) (rest : List Token) :
    value (depth + 1) (t :: rest) = array (value depth) rest := by
  have hbrace : t.isMark '\x7b' = false := isMark_of_ne h (by decide)
  simp only [value, isAt_cons, hbrace, h, Bool.false_eq_true, if_false, if_true,
    List.tail_cons]

/-- The mark of a sign. -/
def signMark (minus : Bool) : Char := if minus then '-' else '+'

theorem value_of_sign {minus : Bool} (h : t.isMark (signMark minus) = true) (depth : Nat)
    (rest : List Token) :
    value (depth + 1) (t :: rest) = value depth rest >>= fun p =>
      signed minus t.position p.1 >>= fun v => .ok (v, p.2) := by
  have hbrace : t.isMark '\x7b' = false := isMark_of_ne h (by cases minus <;> decide)
  have hbracket : t.isMark '[' = false := isMark_of_ne h (by cases minus <;> decide)
  cases minus with
  | true =>
    simp only [value, isAt_cons, hbrace, hbracket, show t.isMark '-' = true from h,
      Bool.or_true, Bool.false_eq_true, if_false, if_true]
    rfl
  | false =>
    have hplus : t.isMark '+' = true := h
    have hminus : t.isMark '-' = false := isMark_of_ne hplus (by decide)
    simp only [value, isAt_cons, hbrace, hbracket, hplus, hminus, Bool.true_or,
      Bool.false_eq_true, if_false, if_true]
    rfl

theorem value_of_atom (hbrace : t.isMark '\x7b' = false) (hbracket : t.isMark '[' = false)
    (hsign : ∀ minus, t.isMark (signMark minus) = false) (depth : Nat) (rest : List Token) :
    value (depth + 1) (t :: rest) = (atom t).map (fun v => (v, rest)) := by
  have hplus : t.isMark '+' = false := hsign false
  have hminus : t.isMark '-' = false := hsign true
  simp only [value, isAt_cons, hbrace, hbracket, hplus, hminus, Bool.or_self,
    Bool.false_eq_true, if_false]
  rfl

theorem signed_eq_ok_iff {minus : Bool} {position : Nat} {v w : Value} :
    signed minus position v = .ok w ↔
      ∃ n m, Opposite n m ∧ v = .scalar n ∧ w = .scalar (if minus then m else n) := by
  constructor
  · intro h
    unfold signed at h
    split at h
    · next n =>
      cases h
      exact ⟨_, _, .int n, rfl, by cases minus <;> rfl⟩
    · next x =>
      cases h
      exact ⟨_, _, .float x, rfl, by cases minus <;> rfl⟩
    · cases h
  · rintro ⟨n, m, hn, rfl, rfl⟩
    cases hn with
    | int n => cases minus <;> rfl
    | float x => cases minus <;> rfl

theorem isValue_of_atom {v : Value} (h : atom t = .ok v) : IsValue [t] v := by
  unfold atom at h
  dsimp only at h
  split at h
  · next hkind =>
    obtain ⟨x, hx, rfl⟩ := Outcome.map_eq_ok.1 h
    exact .quoted hkind hx
  · next hkind =>
    obtain ⟨n, hn, rfl⟩ := Outcome.map_eq_ok.1 h
    exact .number hkind hn
  · next hkind =>
    split at h
    · next s hs =>
      cases h
      exact .constant hkind hs
    · cases h
  · cases h

/-- A token that is no mark of its own is a value by itself or none. -/
theorem value_of_kind {kind : TokenKind} (h : t.kind = kind) (hne : kind ≠ .mark) (depth : Nat)
    (rest : List Token) :
    value (depth + 1) (t :: rest) = (atom t).map (fun v => (v, rest)) :=
  value_of_atom (isMark_of_kind h hne _) (isMark_of_kind h hne _)
    (fun _ => isMark_of_kind h hne _) depth rest

theorem sound_value {depth : Nat} (ih : (value depth).Follows IsValue)
    {rest : List Token} {v : Value} {after : List Token}
    (h : value (depth + 1) (t :: rest) = .ok (v, after)) :
    ∃ read, t :: rest = read ++ after ∧ IsValue read v := by
  by_cases hbrace : t.isMark '\x7b' = true
  · rw [value_of_brace hbrace] at h
    obtain ⟨read, rfl, pairs, entries, hpairs, hentries, rfl⟩ := (follows_object ih).sound h
    exact ⟨t :: read, rfl, .object (.intro hbrace hpairs hentries)⟩
  · by_cases hbracket : t.isMark '[' = true
    · rw [value_of_bracket hbracket] at h
      obtain ⟨read, rfl, vs, hvs, rfl⟩ := (follows_array ih neverAt_isValue).sound h
      exact ⟨t :: read, rfl, .array hbracket hvs⟩
    · by_cases hsign : ∃ minus, t.isMark (signMark minus) = true
      · obtain ⟨minus, hsign⟩ := hsign
        rw [value_of_sign hsign] at h
        obtain ⟨⟨w, more⟩, hw, h⟩ := Outcome.bind_eq_ok.1 h
        obtain ⟨u, hu, h⟩ := Outcome.bind_eq_ok.1 h
        cases h
        obtain ⟨read, rfl, hread⟩ := ih.sound hw
        obtain ⟨n, m, hn, rfl, rfl⟩ := signed_eq_ok_iff.1 hu
        refine ⟨t :: read, rfl, ?_⟩
        cases minus with
        | true => exact .minus hsign hread hn
        | false => exact .plus hsign hread hn
      · have hnone : ∀ minus, t.isMark (signMark minus) = false := by simpa using hsign
        rw [value_of_atom (by simpa using hbrace) (by simpa using hbracket) hnone] at h
        obtain ⟨w, hw, h⟩ := Outcome.map_eq_ok.1 h
        cases h
        exact ⟨[t], rfl, isValue_of_atom hw⟩

theorem complete_value {depth : Nat} (ih : (value depth).Follows IsValue)
    {read : List Token} {v : Value} (h : IsValue read v) (rest : List Token) :
    Yields (value (depth + 1) (read ++ rest)) (v, rest) := by
  have hatom : ∀ {t : Token} {kind : TokenKind} {w : Value}, t.kind = kind → kind ≠ .mark →
      atom t = .ok w → Yields (value (depth + 1) ([t] ++ rest)) (w, rest) := by
    intro t kind w hkind hne hw
    left
    rw [List.singleton_append, value_of_kind hkind hne, hw]
    rfl
  have hsigned : ∀ {sign : Token} {ts : List Token} {n m : Scalar} (minus : Bool),
      sign.isMark (signMark minus) = true → IsValue ts (.scalar n) → Opposite n m →
      Yields (value (depth + 1) (sign :: ts ++ rest))
        (.scalar (if minus then m else n), rest) := by
    intro sign ts n m minus hsign hts hn
    rw [List.cons_append, value_of_sign hsign]
    apply (ih.complete hts rest).bind
    exact Yields.bind (Or.inl (signed_eq_ok_iff.2 ⟨n, m, hn, rfl, rfl⟩)) (Or.inl rfl)
  cases h with
  | object h =>
    cases h with
    | intro hfirst hpairs hentries =>
      rw [List.cons_append, value_of_brace hfirst]
      exact (follows_object ih).complete ⟨_, _, hpairs, hentries, rfl⟩ rest
  | array hfirst hitems =>
    rw [List.cons_append, value_of_bracket hfirst]
    exact (follows_array ih neverAt_isValue).complete ⟨_, hitems, rfl⟩ rest
  | quoted hkind hx => exact hatom hkind (by simp) (by simp only [atom, hkind, hx]; rfl)
  | number hkind hn => exact hatom hkind (by simp) (by simp only [atom, hkind, hn]; rfl)
  | constant hkind hs => exact hatom hkind (by simp) (by simp only [atom, hkind, hs])
  | plus hsign h hn => exact hsigned false hsign h hn
  | minus hsign h hn => exact hsigned true hsign h hn

/-- **Values are read as the grammar derives them.** -/
theorem follows_value (depth : Nat) : (value depth).Follows IsValue := by
  induction depth with
  | zero =>
    constructor
    · intro tokens v rest h
      cases h
    · intro read v _ rest
      exact Or.inr rfl
  | succ depth ih =>
    constructor
    · intro tokens v rest h
      cases tokens with
      | nil => cases h
      | cons t ts => exact sound_value ih h
    · exact fun h => complete_value ih h

end Values

end TemplatedNotes.Literal
