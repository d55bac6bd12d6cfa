/-
  TemplatedNotes/Proofs/Text/Pattern.lean
  =======================================
  **Patterns that are tried from left to right.**

  A pattern is a row of parts, and each part may take several starts of what is left of a text.
  They are tried in their order, and a choice is taken back when the parts behind it do not fit
  (`first?`).  Such a search finds something exactly where the parts fit in some way
  (`fits_of_first?`, `exists_first?`), so the order of the trials decides only which of several ways
  is found: for a part that takes as few code points as will do, the shortest one
  (`first?_fewest`).
-/
import TemplatedNotes.Text.CodePoint

namespace TemplatedNotes

namespace Pattern

/-- A part of a pattern: a fixed text, one code point of a class, as many of a class as there are,
    as few of a class as will do, and a test of what is left. -/
inductive Part where
  | exactly (v : Text)
  | one (p : CodePoint → Bool)
  | most (p : CodePoint → Bool)
  | fewest (p : CodePoint → Bool)
  | test (ok : Text → Bool)

namespace Part

/-! ### One part -/

/-- The starts of a text that hold nothing but a class, each with what is left, shortest first. -/
def starts (p : CodePoint → Bool) : Text → List (Text × Text)
  | [] => [([], [])]
  | c :: rest =>
    ([], c :: rest) :: if p c then (starts p rest).map (fun s => (c :: s.1, s.2)) else []

/-- What a part may take off a text, each with what is left, in the order of the trials. -/
def ways : Part → Text → List (Text × Text)
  | .exactly v, t => if v.isPrefixOf t then [(v, t.drop v.length)] else []
  | .one _, [] => []
  | .one p, c :: rest => if p c then [([c], rest)] else []
  | .most p, t => (starts p t).reverse
  | .fewest p, t => starts p t
  | .test ok, t => if ok t then [([], t)] else []

/-- A part takes a text in front of what is left. -/
def Takes : Part → Text → Text → Prop
  | .exactly v, w, _ => w = v
  | .one p, w, _ => ∃ c, p c = true ∧ w = [c]
  | .most p, w, _ => ∀ c ∈ w, p c = true
  | .fewest p, w, _ => ∀ c ∈ w, p c = true
  | .test ok, w, rest => w = [] ∧ ok rest = true

theorem mem_starts {p : CodePoint → Bool} {t w rest : Text} :
    (w, rest) ∈ starts p t ↔ t = w ++ rest ∧ ∀ c ∈ w, p c = true := by
  induction t generalizing w with
  | nil =>
    simp only [starts, List.mem_singleton, Prod.mk.injEq]
    constructor
    · rintro ⟨rfl, rfl⟩
      exact ⟨rfl, by simp⟩
    · rintro ⟨ht, -⟩
      exact List.append_eq_nil_iff.1 ht.symm
  | cons c more ih =>
    cases w with
    | nil =>
      have hlong : ([], rest) ∉
          if p c then (starts p more).map (fun s => (c :: s.1, s.2)) else [] := by
        split <;> simp
      rw [starts, List.mem_cons, or_iff_left hlong, Prod.mk.injEq]
      constructor
      · rintro ⟨-, rfl⟩
        exact ⟨rfl, by simp⟩
      · rintro ⟨ht, -⟩
        exact ⟨rfl, ht.symm⟩
    | cons d v =>
      by_cases hc : p c = true
      · simp only [starts, hc, if_true, List.mem_cons, List.mem_map, Prod.exists, Prod.mk.injEq,
          List.cons.injEq, List.cons_append]
        constructor
        · rintro (⟨hnil, -⟩ | ⟨v', rest', hmem, ⟨rfl, rfl⟩, rfl⟩)
          · cases hnil
          · obtain ⟨hmore, hv⟩ := ih.1 hmem
            exact ⟨⟨rfl, hmore⟩, by simpa [hc] using hv⟩
        · rintro ⟨⟨rfl, hmore⟩, hv⟩
          refine Or.inr ⟨v, rest, ih.2 ⟨hmore, ?_⟩, ⟨rfl, rfl⟩, rfl⟩
          exact fun e he => hv e (Or.inr he)
      · have hne : ¬ (c :: more = d :: v ++ rest ∧ ∀ e ∈ d :: v, p e = true) := by
          rintro ⟨heq, hv⟩
          obtain ⟨rfl, -⟩ := List.cons.inj heq
          exact hc (hv _ List.mem_cons_self)
        simp only [iff_false_intro hne, iff_false]
        simp [starts, hc]

/-- Shorter starts are tried first. -/
theorem pairwise_starts (p : CodePoint → Bool) (t : Text) :
    (starts p t).Pairwise (fun a b => a.1.length < b.1.length) := by
  induction t with
  | nil => exact List.pairwise_singleton _ _
  | cons c rest ih =>
    rw [starts]
    split
    · refine List.pairwise_cons.2 ⟨?_, ?_⟩
      · intro s hs
        obtain ⟨s', -, rfl⟩ := List.mem_map.1 hs
        exact Nat.succ_pos _
      · exact ih.map _ (fun a b hab => Nat.succ_lt_succ hab)
    · exact List.pairwise_singleton _ _

theorem mem_ways {part : Part} {t w rest : Text} :
    (w, rest) ∈ part.ways t ↔ t = w ++ rest ∧ part.Takes w rest := by
  cases part with
  | exactly v =>
    simp only [ways, Takes]
    split
    · next h =>
      obtain ⟨after, rfl⟩ := List.isPrefixOf_iff_prefix.1 h
      simp only [List.drop_left, List.mem_singleton, Prod.mk.injEq]
      constructor
      · rintro ⟨rfl, rfl⟩
        exact ⟨rfl, rfl⟩
      · rintro ⟨ht, rfl⟩
        exact ⟨rfl, (List.append_cancel_left ht).symm⟩
    · next h =>
      refine iff_of_false (by simp) ?_
      rintro ⟨rfl, rfl⟩
      exact h (List.isPrefixOf_iff_prefix.2 (List.prefix_append _ _))
  | one p =>
    cases t with
    | nil =>
      refine iff_of_false (by simp [ways]) ?_
      rintro ⟨ht, c, -, rfl⟩
      cases ht
    | cons d more =>
      simp only [ways, Takes]
      constructor
      · intro h
        split at h
        · next hd =>
          obtain ⟨rfl, rfl⟩ := Prod.mk.inj (List.mem_singleton.1 h)
          exact ⟨rfl, d, hd, rfl⟩
        · cases h
      · rintro ⟨ht, c, hc, rfl⟩
        obtain ⟨rfl, rfl⟩ := List.cons.inj ht
        simp [hc]
  | most p => rw [ways, List.mem_reverse, mem_starts, Takes]
  | fewest p => rw [ways, mem_starts, Takes]
  | test ok =>
    simp only [ways, Takes]
    constructor
    · intro h
      split at h
      · next hok =>
        obtain ⟨rfl, rfl⟩ := Prod.mk.inj (List.mem_singleton.1 h)
        exact ⟨rfl, rfl, hok⟩
      · cases h
    · rintro ⟨rfl, rfl, hok⟩
      simp [hok]

end Part

/-! ### A row of parts -/

/-- A text starts with pieces that the parts take, one behind the other. -/
def Fits : List Part → Text → Prop
  | [], _ => True
  | part :: parts, t => ∃ w rest, t = w ++ rest ∧ part.Takes w rest ∧ Fits parts rest

/-- The first pieces that fit, in the order of the trials. -/
def first? : List Part → Text → Option (List Text)
  | [], _ => some []
  | part :: parts, t => (part.ways t).findSome? (fun s => (first? parts s.2).map (s.1 :: ·))

variable {part : Part} {parts : List Part} {t w : Text} {ws : List Text}

theorem exists_of_first?_cons (h : first? (part :: parts) t = some ws) :
    ∃ w rest ws', ws = w :: ws' ∧ t = w ++ rest ∧ part.Takes w rest ∧
      first? parts rest = some ws' := by
  obtain ⟨⟨w, rest⟩, hmem, hfound⟩ := List.exists_of_findSome?_eq_some h
  obtain ⟨ws', hws, rfl⟩ := Option.map_eq_some_iff.1 hfound
  obtain ⟨ht, htakes⟩ := Part.mem_ways.1 hmem
  exact ⟨w, rest, ws', rfl, ht, htakes, hws⟩

/-- **Where something is found the parts fit.** -/
theorem fits_of_first? (h : first? parts t = some ws) : Fits parts t := by
  induction parts generalizing t ws with
  | nil => trivial
  | cons part parts ih =>
    obtain ⟨w, rest, ws', rfl, rfl, htakes, hrest⟩ := exists_of_first?_cons h
    exact ⟨w, rest, rfl, htakes, ih hrest⟩

/-- **Where the parts fit something is found.** -/
theorem exists_first? (h : Fits parts t) : ∃ ws, first? parts t = some ws := by
  induction parts generalizing t with
  | nil => exact ⟨[], rfl⟩
  | cons part parts ih =>
    obtain ⟨w, rest, rfl, htakes, hrest⟩ := h
    obtain ⟨ws, hws⟩ := ih hrest
    have hmem : (w, rest) ∈ part.ways (w ++ rest) := Part.mem_ways.2 ⟨rfl, htakes⟩
    apply Option.isSome_iff_exists.1
    apply List.findSome?_isSome_iff.2
    exact ⟨(w, rest), hmem, by simp [hws]⟩

theorem first?_eq_none_iff : first? parts t = none ↔ ¬ Fits parts t := by
  constructor
  · intro h hfits
    obtain ⟨ws, hws⟩ := exists_first? hfits
    rw [h] at hws
    cases hws
  · intro h
    cases hfound : first? parts t with
    | none => rfl
    | some ws => exact absurd (fits_of_first? hfound) h

/-- **A part that takes as few as will do** takes the shortest start that the parts behind it fit
    to. -/
theorem first?_fewest {p : CodePoint → Bool} {v rest : Text}
    (h : first? (.fewest p :: parts) t = some (w :: ws)) (ht : t = v ++ rest)
    (hv : ∀ c ∈ v, p c = true) (hless : v.length < w.length) : first? parts rest = none := by
  obtain ⟨before, ⟨w', rest'⟩, after, hways, hfound, hnone⟩ := List.findSome?_eq_some_iff.1 h
  obtain ⟨ws', -, hws⟩ := Option.map_eq_some_iff.1 hfound
  obtain ⟨rfl, -⟩ := List.cons.inj hws
  have hmem : (v, rest) ∈ before ++ (w', rest') :: after := by
    rw [← hways]
    exact Part.mem_ways.2 ⟨ht, hv⟩
  have hsorted := Part.pairwise_starts p t
  rw [show Part.starts p t = before ++ (w', rest') :: after from hways] at hsorted
  rcases List.mem_append.1 hmem with hbefore | hafter
  · simpa using hnone _ hbefore
  · exfalso
    rcases List.mem_cons.1 hafter with heq | hafter
    · obtain ⟨rfl, -⟩ := Prod.mk.inj heq
      exact Nat.lt_irrefl _ hless
    · have hlonger := (List.pairwise_cons.1 (List.pairwise_append.1 hsorted).2.1).1 _ hafter
      exact Nat.lt_asymm hless hlonger

/-- The parts behind it do not fit to what it has taken last and what is left. -/
theorem not_fits_of_fewest {p : CodePoint → Bool} {v rest : Text} {c : CodePoint}
    (h : first? (.fewest p :: parts) (v ++ [c] ++ rest) = some ((v ++ [c]) :: ws)) :
    ¬ Fits parts (c :: rest) := by
  obtain ⟨w, rest', ws', hws, -, htakes, -⟩ := exists_of_first?_cons h
  obtain ⟨rfl, -⟩ := List.cons.inj hws
  apply first?_eq_none_iff.1
  apply first?_fewest h (List.append_cons v c rest).symm
  · exact fun d hd => htakes d (List.mem_append_left _ hd)
  · simp

end Pattern

/-! ### Patterns with a group -/

/-- A pattern: what comes before a group of its parts, the group, and what comes behind it. -/
structure Pattern where
  before : List Pattern.Part
  group : List Pattern.Part
  after : List Pattern.Part

namespace Pattern

/-- All parts of a pattern. -/
def parts (P : Pattern) : List Part := P.before ++ (P.group ++ P.after)

/-- What the group takes of a text that the pattern fits. -/
def captured? (P : Pattern) (t : Text) : Option Text :=
  (first? P.parts t).map
    (fun ws => ((ws.drop P.before.length).take P.group.length).flatten)

theorem captured?_eq_none_iff {P : Pattern} {t : Text} :
    P.captured? t = none ↔ ¬ Fits P.parts t := by
  rw [captured?, Option.map_eq_none_iff, first?_eq_none_iff]

/-- Of two patterns that do not both fit a text, one finds nothing in it. -/
theorem captured?_eq_none_or {P Q : Pattern} {t : Text} (h : Fits P.parts t → ¬ Fits Q.parts t) :
    P.captured? t = none ∨ Q.captured? t = none := by
  by_cases hfits : Fits P.parts t
  · exact Or.inr (captured?_eq_none_iff.2 (h hfits))
  · exact Or.inl (captured?_eq_none_iff.2 hfits)

theorem isSome_captured?_iff {P : Pattern} {t : Text} :
    (P.captured? t).isSome = true ↔ Fits P.parts t := by
  rw [captured?, Option.isSome_map, Option.isSome_iff_exists]
  constructor
  · rintro ⟨ws, hws⟩
    exact fits_of_first? hws
  · exact exists_first?

end Pattern

end TemplatedNotes
