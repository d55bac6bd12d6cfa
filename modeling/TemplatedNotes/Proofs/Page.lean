/-
  TemplatedNotes/Proofs/Page.lean
  ===============================
  **Which notes have pages, and what one without does to the index.**

  A note that cannot be read as text is left out of the index.  A note that can has a page unless
  its frontmatter has a flaw: the block is refused for something that is not its YAML, as for a
  date that does not exist; its tags are a number, a date or another value that is no list; one of
  them is a number too long to write; or a key is no text (`Page.Flaw`).  A block of malformed YAML,
  and one that is no mapping, counts as empty and has no flaw (`exists_make_of_hasNoMapping`).
  Nothing here depends on how YAML is read.

    * `make_eq_error_iff` — the failures to make a page are the flaws;
    * `pages_spec` — one flawed note is enough for the whole index to fail.
-/
import TemplatedNotes.Proofs.Template
import TemplatedNotes.Runtime.Usual

namespace TemplatedNotes

/-! ### Runs over lists -/

namespace Outcome

variable {α β : Type} {g : α → Outcome β}

theorem mapM_eq_ok_iff {xs : List α} {ys : List β} :
    xs.mapM g = .ok ys ↔ List.Forall₂ (fun x y => g x = .ok y) xs ys := by
  induction xs generalizing ys with
  | nil =>
    rw [List.mapM_nil, List.forall₂_nil_left_iff]
    exact ⟨fun h => (Except.ok.inj h).symm, fun h => congrArg Except.ok h.symm⟩
  | cons x xs ih =>
    rw [List.mapM_cons, Outcome.bind_eq_ok, List.forall₂_cons_left_iff]
    constructor
    · rintro ⟨y, hy, h⟩
      obtain ⟨more, hmore, h⟩ := Outcome.bind_eq_ok.1 h
      exact ⟨y, more, hy, ih.1 hmore, (Except.ok.inj h).symm⟩
    · rintro ⟨y, more, hy, hmore, rfl⟩
      exact ⟨y, hy, Outcome.bind_eq_ok.2 ⟨more, ih.2 hmore, rfl⟩⟩

/-- A run over a list fails with the first failure. -/
theorem mapM_eq_error_iff {xs : List α} {f : Failure} :
    xs.mapM g = .error f ↔
      ∃ before x after, xs = before ++ x :: after ∧ g x = .error f ∧
        ∀ y ∈ before, ∃ b, g y = .ok b := by
  induction xs with
  | nil =>
    rw [List.mapM_nil]
    constructor
    · intro h
      cases h
    · rintro ⟨before, x, after, h, -⟩
      exact absurd h.symm (by simp)
  | cons first xs ih =>
    rw [List.mapM_cons, Outcome.bind_eq_error]
    constructor
    · rintro (h | ⟨y, hy, h⟩)
      · exact ⟨[], first, xs, rfl, h, by simp⟩
      · rcases Outcome.bind_eq_error.1 h with h | ⟨_, -, h⟩
        · obtain ⟨before, x, after, rfl, hx, hbefore⟩ := ih.1 h
          exact ⟨first :: before, x, after, rfl, hx, List.forall_mem_cons.2 ⟨⟨y, hy⟩, hbefore⟩⟩
        · cases h
    · rintro ⟨before, x, after, he, hx, hbefore⟩
      cases before with
      | nil =>
        obtain ⟨rfl, -⟩ := List.cons.inj he
        exact Or.inl hx
      | cons y before =>
        obtain ⟨rfl, rfl⟩ := List.cons.inj he
        obtain ⟨⟨b, hb⟩, hbefore⟩ := List.forall_mem_cons.1 hbefore
        refine Or.inr ⟨b, hb, Outcome.bind_eq_error.2 (Or.inl ?_)⟩
        exact ih.2 ⟨before, x, after, rfl, hx, hbefore⟩

end Outcome

/-! ### Tags -/

namespace Frontmatter

variable {es : Entries Value} {f : Failure}

/-- The key of the tags in a frontmatter. -/
def tagsKey : Scalar := .text (Text.of "tags")

/-- The items that count as tags, of a value with items. -/
def items? : Value → Option (List Value)
  | .list items => some items
  | .mapping _ es => some (es.map (fun e => .scalar e.1))
  | .scalar _ => none

/-- One of some items, the first one, is a number too long to be written. -/
def HasLong (items : List Value) (f : Failure) : Prop :=
  ∃ before item after g, items = before ++ item :: after ∧ item.display = .error g ∧
    f = .integer g ∧ ∀ x ∈ before, ∃ t, x.display = .ok t

theorem tagTexts_eq_error_iff {vs : List Value} : tagTexts vs = .error f ↔ HasLong vs f := by
  unfold tagTexts HasLong
  rw [Outcome.mapM_eq_error_iff]
  constructor
  · rintro ⟨before, item, after, he, hitem, hbefore⟩
    refine ⟨before, item, after, ?_⟩
    split at hitem
    · cases hitem
    · next g hg =>
      refine ⟨g, he, hg, (Except.error.inj hitem).symm, fun x hx => ?_⟩
      obtain ⟨b, hb⟩ := hbefore x hx
      split at hb
      · next t ht => exact ⟨t, ht⟩
      · cases hb
  · rintro ⟨before, item, after, g, he, hitem, rfl, hbefore⟩
    refine ⟨before, item, after, he, by rw [hitem], fun x hx => ?_⟩
    obtain ⟨t, ht⟩ := hbefore x hx
    exact ⟨bare t, by rw [ht]⟩

theorem display_byte (x : UInt8) : ∃ t, Value.display (.scalar (.int x.toNat)) = .ok t := by
  have hpow : ∀ n, 3 ≤ n → x.toNat < Nat.pow 10 n := by
    intro n hn
    calc x.toNat < 10 ^ 3 := lt_trans x.toNat_lt (by decide)
      _ ≤ 10 ^ n := Nat.pow_le_pow_right (by decide) hn
  have hwrite : ∀ n, x.toNat < Nat.pow 10 n →
      ∃ t, (if (x.toNat : Int).natAbs < Nat.pow 10 n then .ok (Integer.signedText x.toNat)
        else .error .tooLong : Except Integer.Fault Text) = .ok t := by
    intro n hn
    exact ⟨_, if_pos hn⟩
  exact hwrite Integer.maxDigits (hpow _ (by decide))

/-- The numbers of bytes are short enough to be written. -/
theorem not_hasLong_bytes (b : List UInt8) :
    ¬ HasLong (b.map (fun x => .scalar (.int x.toNat))) f := by
  rintro ⟨before, item, after, g, he, hitem, -⟩
  have hmem : item ∈ b.map (fun x => Value.scalar (.int x.toNat)) := by simp [he]
  obtain ⟨x, -, rfl⟩ := List.mem_map.1 hmem
  obtain ⟨t, ht⟩ := display_byte x
  rw [ht] at hitem
  cases hitem

/-- **The tags of a frontmatter fail** where they are a value without items, or at the first item
    that is a number too long to be written. -/
theorem ownTags_eq_error_iff :
    ownTags es = .error f ↔
      (∃ s, Entries.get? es tagsKey = some (.scalar s) ∧ s.isTrue = true ∧ (∀ t, s ≠ .text t) ∧
        (∀ b, s ≠ .bytes b) ∧ f = .kind (.notIterable s.kindName)) ∨
      ∃ v items, Entries.get? es tagsKey = some v ∧ items? v = some items ∧ HasLong items f := by
  have hempty : ¬ HasLong [] f := by
    rintro ⟨before, item, after, g, he, -⟩
    exact absurd he.symm (by simp)
  have hkey : Entries.get? es (.text (Text.of "tags")) = Entries.get? es tagsKey := rfl
  unfold ownTags
  rw [hkey]
  cases hv : Entries.get? es tagsKey with
  | none => simp
  | some v =>
    dsimp only
    cases htrue : v.isTrue with
    | false =>
      simp only [Bool.not_false, if_true]
      constructor
      · intro h
        cases h
      · rintro (⟨s, hs, hstrue, -⟩ | ⟨w, items, hw, hitems, hlong⟩)
        · obtain rfl := Option.some.inj hs
          exact absurd (htrue.symm.trans hstrue) Bool.false_ne_true
        · obtain rfl := Option.some.inj hw
          have hnil : items = [] := by
            cases v with
            | scalar s => cases hitems
            | list xs =>
              obtain rfl := Option.some.inj hitems
              simpa [Value.isTrue] using htrue
            | mapping kind entries =>
              obtain rfl := Option.some.inj hitems
              simpa [Value.isTrue] using htrue
          exact absurd (hnil ▸ hlong) hempty
    | true =>
      simp only [Bool.not_true, Bool.false_eq_true, if_false, Option.some.injEq]
      cases v with
      | list xs =>
        rw [tagTexts_eq_error_iff]
        simp [items?]
      | mapping kind entries =>
        rw [tagTexts_eq_error_iff]
        simp [items?]
      | scalar s =>
        have hno : ¬ ∃ v items, Value.scalar s = v ∧ items? v = some items ∧ HasLong items f := by
          rintro ⟨_, items, rfl, h, -⟩
          cases h
        simp only [Value.scalar.injEq, exists_eq_left', hno, or_false]
        have hkind : s.isTrue = true := htrue
        cases s with
        | text t => simp
        | bytes b =>
          have hbytes : tagTexts (b.map (fun x => .scalar (.int x.toNat))) ≠ .error f :=
            fun h => not_hasLong_bytes b (tagTexts_eq_error_iff.1 h)
          simp [hbytes]
        | null => cases hkind
        | bool b => simp [hkind, eq_comm]
        | int n => simp [hkind, eq_comm]
        | float x => simp [hkind, eq_comm]
        | date d => simp [hkind, eq_comm]
        | dateTime t => simp [hkind, eq_comm]

variable [Runtime]

theorem split_eq_error_iff {t : Text} :
    split t = .error f ↔
      ∃ block body, cut? t = some (block, body) ∧ Runtime.loadYaml block = .error (.failure f) := by
  have hentries : ∀ block, entries block = .error f ↔
      Runtime.loadYaml block = .error (.failure f) := by
    intro block
    unfold entries
    split
    · next h => simp [h]
    · next h => simp [h]
    · next h => simp [h]
    · next h => simp [h]
  unfold split
  cases cut? t with
  | none => simp
  | some p =>
    obtain ⟨block, body⟩ := p
    simp only [Option.some.injEq, Prod.mk.injEq]
    constructor
    · intro h
      exact ⟨block, body, ⟨rfl, rfl⟩, (hentries block).1 (Outcome.map_eq_error.1 h)⟩
    · rintro ⟨_, _, ⟨rfl, rfl⟩, h⟩
      exact Outcome.map_eq_error.2 ((hentries block).2 h)

omit [Runtime] in
theorem tags_eq_error_iff {body : Text} : tags es body = .error f ↔ ownTags es = .error f := by
  unfold tags
  rw [Outcome.bind_eq_error]
  constructor
  · rintro (h | ⟨own, -, h⟩)
    · exact h
    · cases h
  · exact Or.inl

end Frontmatter

/-! ### Pages that cannot be made -/

namespace Page

variable {place : Path} {t : Text} {f : Failure} {es : Entries Value}

variable [Runtime]

/-- Why a note with some text has no page. -/
inductive Flaw (t : Text) : Failure → Prop where
  | load {block body : Text} {f : Failure} (hcut : Frontmatter.cut? t = some (block, body))
      (hload : Runtime.loadYaml block = .error (.failure f)) : Flaw t f
  | tags {es : Entries Value} {body : Text} {s : Scalar}
      (hsplit : Frontmatter.split t = .ok (es, body))
      (hs : Entries.get? es Frontmatter.tagsKey = some (.scalar s)) (htrue : s.isTrue = true)
      (htext : ∀ x, s ≠ .text x) (hbytes : ∀ b, s ≠ .bytes b) :
      Flaw t (.kind (.notIterable s.kindName))
  | tag {es : Entries Value} {body : Text} {v : Value} {items : List Value} {f : Failure}
      (hsplit : Frontmatter.split t = .ok (es, body))
      (hv : Entries.get? es Frontmatter.tagsKey = some v)
      (hitems : Frontmatter.items? v = some items) (hlong : Frontmatter.HasLong items f) : Flaw t f
  | key {es : Entries Value} {body : Text} {ts : List Text}
      (hsplit : Frontmatter.split t = .ok (es, body)) (hts : Frontmatter.tags es body = .ok ts)
      (h : ∃ e ∈ es, keyText? e.1 = none) : Flaw t (.validation [Text.of "frontmatter"])

omit [Runtime] in
theorem textKeyed?_eq_none_iff : textKeyed? es = none ↔ ∃ e ∈ es, keyText? e.1 = none := by
  unfold textKeyed?
  rw [Option.map_eq_none_iff]
  induction es with
  | nil => simp
  | cons e rest ih =>
    rw [List.mapM_cons, List.exists_mem_cons_iff, ← ih]
    cases keyText? e.1 with
    | none => simp
    | some k =>
      cases List.mapM (fun e => (keyText? e.1).map fun k => (Scalar.text k, e.2)) rest <;> simp

/-- The page of a frontmatter and a body that are there. -/
def ofParts (place : Path) (es : Entries Value) (ts : List Text) (body : Text) : Outcome Page :=
  match textKeyed? es with
  | some frontmatter =>
    .ok ⟨Path.relativeText place, Path.stem (place.getLast?.getD []), Path.text place.dropLast,
      frontmatter, ts, body⟩
  | none => .error (.validation [Text.of "frontmatter"])

theorem make_eq (place : Path) (t : Text) :
    make place t = Frontmatter.split t >>= fun p => Frontmatter.tags p.1 p.2 >>= fun ts =>
      ofParts place p.1 ts p.2 := rfl

omit [Runtime] in
theorem ofParts_eq_error_iff {ts : List Text} {body : Text} :
    ofParts place es ts body = .error f ↔
      (∃ e ∈ es, keyText? e.1 = none) ∧ f = .validation [Text.of "frontmatter"] := by
  rw [← textKeyed?_eq_none_iff]
  unfold ofParts
  cases textKeyed? es with
  | none => simp [eq_comm]
  | some frontmatter => simp

/-- **The failures to make a page are the flaws of its text.** -/
theorem make_eq_error_iff : make place t = .error f ↔ Flaw t f := by
  rw [make_eq, Outcome.bind_eq_error]
  constructor
  · rintro (h | ⟨⟨es, body⟩, hsplit, h⟩)
    · obtain ⟨block, body, hcut, hload⟩ := Frontmatter.split_eq_error_iff.1 h
      exact .load hcut hload
    · rcases Outcome.bind_eq_error.1 h with h | ⟨ts, hts, h⟩
      · rcases Frontmatter.ownTags_eq_error_iff.1 (Frontmatter.tags_eq_error_iff.1 h) with
          ⟨s, hs, htrue, htext, hbytes, rfl⟩ | ⟨v, items, hv, hitems, hlong⟩
        · exact .tags hsplit hs htrue htext hbytes
        · exact .tag hsplit hv hitems hlong
      · obtain ⟨hkey, rfl⟩ := ofParts_eq_error_iff.1 h
        exact .key hsplit hts hkey
  · intro h
    have hown : ∀ {es body f}, Frontmatter.split t = .ok (es, body) →
        Frontmatter.ownTags es = .error f →
        ∃ p, Frontmatter.split t = .ok p ∧ (Frontmatter.tags p.1 p.2 >>= fun ts =>
          ofParts place p.1 ts p.2) = .error f := by
      intro es body f hsplit h
      exact ⟨_, hsplit, Outcome.bind_eq_error.2 (Or.inl (Frontmatter.tags_eq_error_iff.2 h))⟩
    cases h with
    | load hcut hload => exact Or.inl (Frontmatter.split_eq_error_iff.2 ⟨_, _, hcut, hload⟩)
    | tags hsplit hs htrue htext hbytes =>
      exact Or.inr (hown hsplit (Frontmatter.ownTags_eq_error_iff.2
        (Or.inl ⟨_, hs, htrue, htext, hbytes, rfl⟩)))
    | tag hsplit hv hitems hlong =>
      exact Or.inr (hown hsplit (Frontmatter.ownTags_eq_error_iff.2
        (Or.inr ⟨_, _, hv, hitems, hlong⟩)))
    | key hsplit hts hkey =>
      exact Or.inr ⟨_, hsplit, Outcome.bind_eq_error.2
        (Or.inr ⟨_, hts, ofParts_eq_error_iff.2 ⟨hkey, rfl⟩⟩)⟩

theorem exists_make_iff : (∃ page, make place t = .ok page) ↔ ∀ f, ¬ Flaw t f := by
  constructor
  · rintro ⟨page, h⟩ f hf
    rw [make_eq_error_iff.2 hf] at h
    cases h
  · intro h
    cases hmake : make place t with
    | ok page => exact ⟨page, rfl⟩
    | error f => exact absurd (make_eq_error_iff.1 hmake) (h f)

/-! ### Notes without a usable frontmatter -/

/-- The block of a note, if it has one, is malformed YAML or no mapping. -/
def HasNoMapping (t : Text) : Prop :=
  ∀ block body, Frontmatter.cut? t = some (block, body) →
    Runtime.loadYaml block = .error .malformed ∨
      ∃ v, Runtime.loadYaml block = .ok v ∧ ∀ k es, v ≠ .mapping k es

/-- **A frontmatter that is no mapping** counts as empty, and its note has a page. -/
theorem exists_make_of_hasNoMapping (h : HasNoMapping t) (place : Path) :
    ∃ page, make place t = .ok page ∧ page.frontmatter = [] := by
  have hsplit : ∃ body, Frontmatter.split t = .ok ([], body) := by
    unfold Frontmatter.split
    cases hcut : Frontmatter.cut? t with
    | none => exact ⟨t, rfl⟩
    | some p =>
      obtain ⟨block, body⟩ := p
      refine ⟨body, Outcome.map_eq_ok.2 ⟨[], ?_, rfl⟩⟩
      unfold Frontmatter.entries
      rcases h block body hcut with hload | ⟨v, hload, hno⟩
      · rw [hload]
      · rw [hload]
        cases v with
        | mapping k es => exact absurd rfl (hno k es)
        | scalar s => rfl
        | list items => rfl
  obtain ⟨body, hsplit⟩ := hsplit
  rw [make_eq, hsplit]
  exact ⟨_, rfl, rfl⟩

end Page

/-! ### The index -/

namespace Vault

variable {v : Vault} {folder link text : Text} {p : Path} {f : Failure} {ps : List Page}

/-- The paths of the notes of a folder, an empty text being all folders. -/
def notesIn (v : Vault) (folder : Text) : List Text :=
  v.notes.filter (fun path => (folderStart folder).isPrefixOf path)

/-- Those of some notes that can be read as text, with their texts. -/
def legible (v : Vault) (paths : List Text) : List (Text × Text) :=
  paths.filterMap (fun path =>
    (v.resourceAt (v.root ++ Path.ofText path)).toOption.map (fun t => (path, t)))

section

variable [Runtime]

theorem pageAt_eq (h : v.resourceAt p = .ok text) :
    v.pageAt p = (Page.make (p.drop v.root.length) text).map some := by
  unfold pageAt
  rw [h]

theorem pageAt_of_error (h : v.resourceAt p = .error f) : v.pageAt p = .ok none := by
  unfold pageAt
  rw [h]
  exact if_pos (isUnreadable_of_resourceAt h)

/-- The index is a run over the notes that can be read. -/
theorem pagesOf_eq (v : Vault) (paths : List Text) :
    v.pagesOf paths = (v.legible paths).mapM (fun n => Page.make (Path.ofText n.1) n.2) := by
  induction paths with
  | nil => rfl
  | cons path rest ih =>
    unfold pagesOf
    rw [ih]
    cases h : v.resourceAt (v.root ++ Path.ofText path) with
    | error g =>
      have hlegible : v.legible (path :: rest) = v.legible rest := by
        simp [legible, h, Except.toOption]
      rw [pageAt_of_error h, hlegible]
      cases (v.legible rest).mapM (fun n => Page.make (Path.ofText n.1) n.2) <;> rfl
    | ok t =>
      have hlegible : v.legible (path :: rest) = (path, t) :: v.legible rest := by
        simp [legible, h, Except.toOption]
      rw [pageAt_eq h, hlegible, List.mapM_cons, List.drop_left]
      cases Page.make (Path.ofText path) t with
      | error g => rfl
      | ok page =>
        cases (v.legible rest).mapM (fun n => Page.make (Path.ofText n.1) n.2) <;> rfl

theorem pages_eq_ok_iff :
    v.pages folder = .ok ps ↔
      List.Forall₂ (fun n page => Page.make (Path.ofText n.1) n.2 = .ok page)
        (v.legible (v.notesIn folder)) ps := by
  unfold pages
  rw [pagesOf_eq, Outcome.mapM_eq_ok_iff]
  rfl

theorem pages_eq_error_iff :
    v.pages folder = .error f ↔
      ∃ before n after, v.legible (v.notesIn folder) = before ++ n :: after ∧ Page.Flaw n.2 f ∧
        ∀ m ∈ before, ∀ g, ¬ Page.Flaw m.2 g := by
  unfold pages
  rw [pagesOf_eq, Outcome.mapM_eq_error_iff]
  simp only [Page.make_eq_error_iff, Page.exists_make_iff]
  rfl

theorem exists_pages_iff :
    (∃ ps, v.pages folder = .ok ps) ↔
      ∀ n ∈ v.legible (v.notesIn folder), ∀ f, ¬ Page.Flaw n.2 f := by
  constructor
  · rintro ⟨ps, h⟩ n hn
    obtain ⟨hlength, hmake⟩ := List.forall₂_iff_get.1 (pages_eq_ok_iff.1 h)
    obtain ⟨i, hi, rfl⟩ := List.getElem_of_mem hn
    exact Page.exists_make_iff.1 ⟨_, hmake i hi (hlength ▸ hi)⟩
  · intro h
    cases hp : v.pages folder with
    | ok ps => exact ⟨ps, rfl⟩
    | error f =>
      obtain ⟨before, n, after, he, hflaw, -⟩ := pages_eq_error_iff.1 hp
      exact absurd hflaw (h n (by simp [he]) f)

omit [Runtime] in
/-- The text of a path of plain names is read back from its own text. -/
theorem IsSound.relativeText_ofText (hv : v.IsSound) {path : Text} (h : path ∈ v.notes) :
    Path.relativeText (Path.ofText path) = path := by
  obtain ⟨rest, e, hmem, rfl⟩ := exists_of_mem_notes h
  obtain ⟨hne, hentry⟩ := Disk.mem_below_iff.1 hmem
  have hplain : ∀ name ∈ rest, Path.IsPlain name := by
    intro name hname
    exact hv.tree.plain _ _ hentry name (List.mem_append_right _ hname)
  rw [Path.ofText_text hplain, Path.relativeText, if_neg (by simpa using hne)]

theorem path_of_make {place : Path} {page : Page} (h : Page.make place text = .ok page) :
    page.path = Path.relativeText place := by
  rw [Page.make_eq] at h
  obtain ⟨⟨es, body⟩, -, h⟩ := Outcome.bind_eq_ok.1 h
  obtain ⟨ts, -, h⟩ := Outcome.bind_eq_ok.1 h
  dsimp only at h
  unfold Page.ofParts at h
  split at h
  · cases h
    rfl
  · cases h

theorem IsSound.paths_of_pages (hv : v.IsSound) (h : v.pages folder = .ok ps) :
    ps.map (·.path) = (v.legible (v.notesIn folder)).map Prod.fst := by
  have hnotes : ∀ n ∈ v.legible (v.notesIn folder), n.1 ∈ v.notes := by
    intro n hn
    obtain ⟨path, hpath, h⟩ := List.mem_filterMap.1 hn
    obtain ⟨t, -, rfl⟩ := Option.map_eq_some_iff.1 h
    exact (List.mem_filter.1 hpath).1
  have hpages := pages_eq_ok_iff.1 h
  clear h
  revert hnotes hpages
  generalize v.legible (v.notesIn folder) = ns
  intro hnotes hpages
  induction hpages with
  | nil => rfl
  | cons hmake _ ih =>
    obtain ⟨hfirst, hrest⟩ := List.forall_mem_cons.1 hnotes
    rw [List.map_cons, List.map_cons, ih hrest, path_of_make hmake, hv.relativeText_ofText hfirst]

theorem page_of_locate (hp : v.locate link = .ok (some p)) (ht : v.resourceAt p = .ok text) :
    v.page link = (Page.make (p.drop v.root.length) text).map some := by
  unfold page
  rw [hp]
  exact pageAt_eq ht

/-- **The index.**  It gives one page for every note that can be read as text, in the order of
    their paths, if none of these notes has a flaw; else it fails with the first flaw.  A note that
    is looked up by itself has a page under the same condition.  A frontmatter that is malformed
    YAML, or no mapping, is no flaw and counts as empty. -/
theorem pages_spec (v : Vault) :
    (∀ folder, (∃ ps, v.pages folder = .ok ps) ↔
      ∀ n ∈ v.legible (v.notesIn folder), ∀ f, ¬ Page.Flaw n.2 f) ∧
    (∀ folder ps, v.pages folder = .ok ps →
      List.Forall₂ (fun n page => Page.make (Path.ofText n.1) n.2 = .ok page)
        (v.legible (v.notesIn folder)) ps ∧
      (v.IsSound → ps.map (·.path) = (v.legible (v.notesIn folder)).map Prod.fst)) ∧
    (∀ folder f, v.pages folder = .error f ↔
      ∃ before n after, v.legible (v.notesIn folder) = before ++ n :: after ∧ Page.Flaw n.2 f ∧
        ∀ m ∈ before, ∀ g, ¬ Page.Flaw m.2 g) ∧
    (∀ link p text, v.locate link = .ok (some p) → v.resourceAt p = .ok text →
      ((∃ page, v.page link = .ok (some page)) ↔ ∀ f, ¬ Page.Flaw text f) ∧
      ∀ f, v.page link = .error f ↔ Page.Flaw text f) ∧
    ∀ text, Page.HasNoMapping text → ∀ place, ∃ page, Page.make place text = .ok page ∧
      page.frontmatter = [] := by
  refine ⟨fun folder => exists_pages_iff, fun folder ps h => ?_, fun folder f => pages_eq_error_iff,
    fun link p text hp ht => ?_, fun text h place => Page.exists_make_of_hasNoMapping h place⟩
  · exact ⟨pages_eq_ok_iff.1 h, fun hv => hv.paths_of_pages h⟩
  · have hmake : (∃ page, Page.make (p.drop v.root.length) text = .ok page) ↔
        ∀ f, ¬ Page.Flaw text f := Page.exists_make_iff
    have hfail : ∀ f, Page.make (p.drop v.root.length) text = .error f ↔ Page.Flaw text f :=
      fun f => Page.make_eq_error_iff
    rw [page_of_locate hp ht, ← hmake]
    constructor
    · constructor
      · rintro ⟨page, h⟩
        obtain ⟨made, hmade, -⟩ := Outcome.map_eq_ok.1 h
        exact ⟨made, hmade⟩
      · rintro ⟨page, h⟩
        exact ⟨page, Outcome.map_eq_ok.2 ⟨page, h, rfl⟩⟩
    · intro f
      rw [← hfail]
      exact ⟨Outcome.map_eq_error.1, Outcome.map_eq_error.2⟩

/-- A vault with nothing but some notes in its folder. -/
def ofNotes (notes : List (String × String)) : Vault :=
  ⟨[], [], ⟨notes.map (fun n =>
    ([Text.of n.1], .file ((Utf8.encode? (Text.of n.2)).getD [])))⟩, []⟩

/-- The pages of notes that are found in order. -/
theorem pages_of_found {paths : List Text}
    (hfound : ((v.disk.below v.root).filter (fun e =>
      e.1.getLast?.any isNoteName && !v.isExcluded e.1)).map (fun e => Path.text e.1) = paths)
    (hsorted : paths.Pairwise (fun a b => Text.le a b = true)) : v.pages [] = v.pagesOf paths := by
  have hnotes : v.notes = paths := by
    unfold notes
    dsimp only
    rw [hfound, List.mergeSort_of_pairwise hsorted]
  unfold pages
  rw [hnotes]
  have hall : paths.filter (fun path => (folderStart []).isPrefixOf path) = paths := by
    simp [folderStart]
  rw [hall]

end

attribute [local instance] Runtime.usual

/-- A note with tags and one whose block is malformed YAML. -/
def taggedNotes : Vault :=
  ofNotes [("a.md", "---\ntags: [x, '#y']\n---\nA #z"), ("b.md", "---\nk: [\n---\nB")]

theorem pages_spec_tagged :
    ∃ ps, taggedNotes.pages [] = .ok ps ∧ ps.map (·.path) = [Text.of "a.md", Text.of "b.md"] ∧
      ∀ n ∈ taggedNotes.legible (taggedNotes.notesIn []), ∀ f, ¬ Page.Flaw n.2 f := by
  have hpaths : (taggedNotes.pages []).toOption.map (List.map (·.path)) =
      some [Text.of "a.md", Text.of "b.md"] := by
    have hfound : taggedNotes.pages [] = taggedNotes.pagesOf [Text.of "a.md", Text.of "b.md"] :=
      pages_of_found (by decide +kernel) (by decide)
    rw [hfound]
    decide +kernel
  obtain ⟨ps, h, hps⟩ := Option.map_eq_some_iff.1 hpaths
  have hpages := Outcome.eq_ok_of_toOption h
  exact ⟨ps, hpages, hps, ((pages_spec taggedNotes).1 []).1 ⟨ps, hpages⟩⟩

/-- The kind of a failure. -/
def failedKind {α : Type} : Outcome α → Option Text
  | .ok _ => none
  | .error f => some f.kindName

/-- **A date that does not exist** makes the index fail, and so do tags that are a number and a key
    that is no text, although the other note of the vault is in order. -/
theorem pages_of_flawed :
    failedKind ((ofNotes [("a.md", "A"), ("b.md", "---\ndue: 2024-02-30\n---\nB")]).pages []) =
        some (Text.of "ValueError") ∧
      failedKind ((ofNotes [("a.md", "A"), ("b.md", "---\ntags: 5\n---\nB")]).pages []) =
        some (Text.of "TypeError") ∧
      failedKind ((ofNotes [("a.md", "A"), ("b.md", "---\n1: x\n---\nB")]).pages []) =
        some (Text.of "ValidationError") := by
  have hsorted : [Text.of "a.md", Text.of "b.md"].Pairwise (fun a b => Text.le a b = true) := by
    decide
  refine ⟨?_, ?_, ?_⟩
  · rw [pages_of_found (by decide +kernel) hsorted]
    decide +kernel
  · rw [pages_of_found (by decide +kernel) hsorted]
    decide +kernel
  · rw [pages_of_found (by decide +kernel) hsorted]
    decide +kernel

end Vault

end TemplatedNotes
