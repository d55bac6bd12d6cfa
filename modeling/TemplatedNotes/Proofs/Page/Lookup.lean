/-
  TemplatedNotes/Proofs/Page/Lookup.lean
  ======================================
  **Looking a note up by its own path.**

  A path that is looked up is a link first: blanks around it do not count.  So the path of a note
  leads back to the note if it does not start with a blank, whatever other notes have the same name;
  if it does, what is found is never the note itself, since the names that are left lead elsewhere
  or are fewer (`not_resolveLink_of_blank`).  `current()` in a script is that lookup, with the path
  of the script's note (`run_current`).

    * `HasPage.page_text` and `HasPage.trim_of_page` — when a note is found by its path;
    * `HasPage.mem_pages` — its one entry in a list of pages;
    * `page_spec` — both, and what `current()` gives.
-/
import TemplatedNotes.Proofs.Page
import TemplatedNotes.Proofs.Script.Missing
import TemplatedNotes.Proofs.Vault.Resolution
import TemplatedNotes.Proofs.Vault.Saved
import TemplatedNotes.Runtime.Usual

namespace TemplatedNotes

open TemplatedNotes.Action

/-! ### Blanks in front of a path -/

namespace Text

/-- The blanks in front of a text end at a character that is none. -/
theorem trimLeft_append_solid (t : Text) {c : CodePoint} (hc : c.isBlank = false) (rest : Text) :
    trimLeft (t ++ c :: rest) = trimLeft t ++ c :: rest := by
  unfold trimLeft
  induction t with
  | nil => simp [hc]
  | cons d more ih =>
    rw [List.cons_append, List.dropWhile_cons, List.dropWhile_cons]
    split
    · exact ih
    · rfl

/-- A text that ends with no blank has blank ends in front only. -/
theorem trim_eq_trimLeft {t : Text} (h : ∀ c, t.getLast? = some c → c.isBlank = false) :
    trim t = trimLeft t := by
  refine trimRight_eq_self fun c hc => h c ?_
  obtain ⟨blank, hblank⟩ : trimLeft t <:+ t := List.dropWhile_suffix _
  rw [← hblank, List.getLast?_append, hc, Option.some_or]

end Text

namespace Path

theorem text_cons_cons (first next : Text) (more : Path) :
    text (first :: next :: more) = first ++ .scalar '/' :: text (next :: more) := by
  simp [text, Text.join]

/-- The last name of a path is the end of its text. -/
theorem suffix_text {p : Path} {name : Text} (h : p.getLast? = some name) : name <:+ text p := by
  induction p with
  | nil => cases h
  | cons first more ih =>
    cases more with
    | nil =>
      obtain rfl : first = name := Option.some.inj h
      exact List.suffix_refl _
    | cons next more =>
      rw [List.getLast?_cons_cons] at h
      rw [text_cons_cons]
      exact (ih h).trans ((List.suffix_cons _ _).trans (List.suffix_append _ _))

/-- The blanks in front of a path are those of its first name. -/
theorem trimLeft_text (first : Text) (more : Path) :
    Text.trimLeft (text (first :: more)) = text (Text.trimLeft first :: more) := by
  cases more with
  | nil => rfl
  | cons next more =>
    rw [text_cons_cons, text_cons_cons, Text.trimLeft_append_solid first (by decide) _]

/-- A first name that is empty or a dot is not read back. -/
theorem ofText_text_cons {name : Text} {more : Path} (hname : CodePoint.scalar '/' ∉ name)
    (hmore : ∀ n ∈ more, IsPlain n) :
    ofText (text (name :: more)) = if name = [] ∨ name = dot then more else name :: more := by
  have hkept : [name].filter (fun p => !p.isEmpty && p != dot) =
      if name = [] ∨ name = dot then [] else [name] := by
    split
    · next h => rcases h with rfl | rfl <;> rfl
    · next h =>
      rw [not_or] at h
      have hsolid : (!name.isEmpty && name != dot) = true := by simp [h.1, h.2]
      rw [List.filter_cons, if_pos hsolid, List.filter_nil]
  have hpieces : ofText (text (name :: more)) =
      [name].filter (fun p => !p.isEmpty && p != dot) ++ more := by
    cases more with
    | nil =>
      show (pieces name).filter _ = _
      rw [pieces_of_not_mem hname, List.append_nil]
    | cons next more =>
      rw [text_cons_cons, ofText, pieces_append_slash hname, ← List.singleton_append,
        List.filter_append]
      exact congrArg _ (ofText_text hmore)
  rw [hpieces, hkept]
  split <;> rfl

/-- A walk along a path with another first name ends elsewhere. -/
theorem foldl_climb_ne_of_ne (root : Path) {name first : Text} {more : Path} (hne : name ≠ first)
    (hslash : CodePoint.scalar '/' ∉ name) (hmore : ∀ n ∈ more, IsPlain n) :
    (ofText (text (name :: more))).foldl climb root ≠ root ++ first :: more := by
  have hdots : ∀ n ∈ more, n ≠ dots := fun n hn => (hmore n hn).ne_dots
  intro hend
  rw [ofText_text_cons hslash hmore] at hend
  split at hend
  · -- the first name is dropped, and the walk is one folder short
    rw [foldl_climb_of_ne_dots hdots] at hend
    simpa using congrArg List.length hend
  · rw [List.foldl_cons, foldl_climb_of_ne_dots hdots, climb] at hend
    split at hend
    · -- a step up, and the walk is two folders short
      have hlength := congrArg List.length hend
      simp at hlength
      omega
    · rw [List.append_assoc] at hend
      exact hne (List.cons.inj (List.append_cancel_left hend)).1

end Path

namespace Vault

variable {v : Vault} {rest p : Path} {first link text : Text} {more : Path} {pg : Page}

/-! ### The lookup of a path -/

/-- A link that is in no note is looked up from the vault's folder. -/
theorem mem_candidates_nil {names : Path} (h : names ∈ candidates link []) :
    names = Path.ofText link := by
  unfold candidates at h
  have hnil : (Path.ofText []).dropLast = [] := rfl
  rw [hnil] at h
  split at h
  · exact List.mem_singleton.1 h
  · split at h
    · exact List.mem_singleton.1 h
    · simpa using h

theorem candidates_nil_ne_nil (link : Text) : candidates link [] ≠ [] := by
  obtain ⟨names, hnames⟩ := exists_mem_candidates link []
  exact List.ne_nil_of_mem hnames

/-- **The path of a file leads to it**, if it has no blanks around it. -/
theorem resolveLink_text {b : List UInt8} (hne : rest ≠ [])
    (hplain : ∀ name ∈ rest, Path.IsPlain name) (husable : ∀ name ∈ rest, Path.IsUsable name)
    (hlook : v.disk.look (v.root ++ rest) = .ok (.file b))
    (htrim : Text.trim (Path.text rest) = Path.text rest) :
    v.resolveLink (Path.text rest) [] = .ok (some (v.root ++ rest)) := by
  have hnames := Path.ofText_text hplain
  have htext : Path.text rest ≠ [] := by
    intro h
    rw [h] at hnames
    exact hne hnames.symm
  have hresolve : Path.resolve v.root rest = .ok (v.root ++ rest) :=
    Path.resolve_eq_ok_iff.2 ⟨husable, (Path.foldl_climb_of_ne_dots
      fun name hname => (hplain name hname).ne_dots).symm⟩
  have hfile : v.disk.isFile (v.root ++ rest) = .ok true := by
    unfold Disk.isFile
    rw [hlook]
  have hfirst : v.firstFile (candidates (Path.text rest) []) = .ok (some (v.root ++ rest)) := by
    obtain ⟨names, others, hsplit⟩ :=
      List.exists_cons_of_ne_nil (candidates_nil_ne_nil (Path.text rest))
    obtain rfl : names = rest :=
      (mem_candidates_nil (hsplit ▸ List.mem_cons_self)).trans hnames
    rw [hsplit, firstFile_cons, hresolve]
    show (if (v.inside? (v.root ++ names)).isSome then _ else _) = _
    rw [inside?_eq_some_iff.2 rfl, hfile]
    rfl
  rw [resolveLink_eq, htrim, if_neg (fun h => htext (List.isEmpty_iff.1 h)), hfirst]
  rfl

/-- The search for a path with another first name does not find the path. -/
theorem not_search_of_ne (hv : v.IsSound) {name : Text} (hname : name ≠ first)
    (hslash : CodePoint.scalar '/' ∉ name) (hmore : ∀ n ∈ more, Path.IsPlain n)
    (hanchor : ¬ isAnchored (Path.text (name :: more))) :
    v.search (Path.text (name :: more)) ≠ .ok (some (v.root ++ first :: more)) := by
  intro h
  have hnames := Path.ofText_text_cons hslash hmore
  obtain ⟨found, hfound, heq⟩ := of_search_eq_some h
  obtain rfl := List.append_cancel_left heq
  have hsuffix := (hv.mem_endingWith_iff.1 hfound).suffix
  rw [hnames] at hsuffix
  split at hsuffix
  · next hgone =>
    -- with names after it, an empty name or a dot says where the link starts
    cases more with
    | nil =>
      rw [if_pos hgone] at hnames
      simp [search, hnames] at h
    | cons next more =>
      refine hanchor ?_
      rw [Path.text_cons_cons]
      rcases hgone with rfl | rfl <;> rfl
  · exact hname (List.cons.inj (hsuffix.eq_of_length rfl)).1

/-- A path with blanks in front leads elsewhere or nowhere. -/
theorem not_resolveLink_of_blank (hv : v.IsSound)
    (hplain : ∀ name ∈ first :: more, Path.IsPlain name)
    (hlast : ∀ c, (Path.text (first :: more)).getLast? = some c → c.isBlank = false)
    (htrim : Text.trim (Path.text (first :: more)) ≠ Path.text (first :: more)) :
    v.resolveLink (Path.text (first :: more)) [] ≠ .ok (some (v.root ++ first :: more)) := by
  intro h
  rw [Text.trim_eq_trimLeft hlast, Path.trimLeft_text] at htrim
  rw [resolveLink_eq, Text.trim_eq_trimLeft hlast, Path.trimLeft_text] at h
  have hname : Text.trimLeft first ≠ first := fun heq => htrim (by rw [heq])
  obtain ⟨hfirst, hmore⟩ := List.forall_mem_cons.1 hplain
  have hslash : CodePoint.scalar '/' ∉ Text.trimLeft first := fun hmem =>
    hfirst.no_slash ((List.dropWhile_suffix _).subset hmem)
  split at h
  · cases h
  · obtain ⟨found, hfound, h⟩ := Outcome.bind_eq_ok.1 h
    cases found with
    | some q =>
      cases h
      obtain ⟨names, hmem, hend, -⟩ := of_firstFile_eq_some hfound
      rw [mem_candidates_nil hmem] at hend
      exact Path.foldl_climb_ne_of_ne v.root hname hslash hmore hend.symm
    | none =>
      dsimp only at h
      split at h
      · cases h
      · next hanchor => exact not_search_of_ne hv hname hslash hmore hanchor h

/-! ### The page of a note -/

variable [Runtime]

/-- A note in the vault whose text can be read and makes a page, by its path from the vault's
    folder. -/
structure HasPage (v : Vault) (rest : Path) (pg : Page) : Prop where
  name : ∃ name ∈ rest.getLast?, extension <:+ name
  usable : ∀ name ∈ rest, Path.IsUsable name
  page : ∃ text, v.resourceAt (v.root ++ rest) = .ok text ∧ Page.make rest text = .ok pg

omit [Runtime] in
theorem exists_look_of_resourceAt (h : v.resourceAt p = .ok text) :
    ∃ b, v.disk.look p = .ok (.file b) := by
  obtain ⟨t, ht, -⟩ := Outcome.map_eq_ok.1 h
  obtain ⟨b, hb, -⟩ := textAt_eq_ok_iff.1 ht
  exact ⟨b, Disk.bytes_eq_ok_iff.1 hb⟩

theorem HasPage.ne_nil (h : v.HasPage rest pg) : rest ≠ [] := by
  rintro rfl
  obtain ⟨name, hname, -⟩ := h.name
  cases hname

theorem HasPage.isPlain (h : v.HasPage rest pg) (hv : v.IsSound) :
    ∀ name ∈ rest, Path.IsPlain name := by
  obtain ⟨text, htext, -⟩ := h.page
  obtain ⟨b, hb⟩ := exists_look_of_resourceAt htext
  have hentry := Disk.mem_of_find? (by simp [h.ne_nil]) (Disk.find?_of_look hb)
  exact fun name hname => hv.tree.plain _ _ hentry name (List.mem_append_right _ hname)

/-- The path of a note ends with the extension of notes. -/
theorem HasPage.suffix_text (h : v.HasPage rest pg) : extension <:+ Path.text rest := by
  obtain ⟨name, hname, hends⟩ := h.name
  exact hends.trans (Path.suffix_text hname)

theorem HasPage.path_eq (h : v.HasPage rest pg) : pg.path = Path.text rest := by
  obtain ⟨text, -, hmake⟩ := h.page
  rw [path_of_make hmake, Path.relativeText, if_neg (by simp [h.ne_nil])]

/-- **The path of a note leads to its page**, if it does not start with a blank. -/
theorem HasPage.page_text (h : v.HasPage rest pg) (hv : v.IsSound)
    (htrim : Text.trim (Path.text rest) = Path.text rest) :
    v.page (Path.text rest) = .ok (some pg) := by
  obtain ⟨text, htext, hmake⟩ := h.page
  obtain ⟨b, hb⟩ := exists_look_of_resourceAt htext
  have hlocate : v.locate (Path.text rest) = .ok (some (v.root ++ rest)) := by
    unfold locate
    rw [resolveLink_text h.ne_nil (h.isPlain hv) h.usable hb htrim]
    rfl
  rw [page_of_locate hlocate htext, List.drop_left, hmake]
  rfl

theorem of_page_eq_some (h : v.page link = .ok (some pg)) :
    ∃ p text, v.locate link = .ok (some p) ∧ v.resourceAt p = .ok text ∧
      Page.make (p.drop v.root.length) text = .ok pg := by
  obtain ⟨found, hfound, h⟩ := Outcome.bind_eq_ok.1 h
  cases found with
  | none => cases h
  | some p =>
    dsimp only at h
    cases htext : v.resourceAt p with
    | error f =>
      rw [pageAt_of_error htext] at h
      cases h
    | ok text =>
      rw [pageAt_eq htext] at h
      obtain ⟨made, hmade, hsome⟩ := Outcome.map_eq_ok.1 h
      obtain rfl := Option.some.inj hsome
      exact ⟨p, text, hfound, htext, hmade⟩

omit [Runtime] in
/-- A link with the extension of notes is looked up as it is. -/
theorem resolveLink_of_locate (hends : extension <:+ link) (h : v.locate link = .ok (some p)) :
    v.resolveLink link [] = .ok (some p) := by
  obtain ⟨found, hfound, h⟩ := Outcome.bind_eq_ok.1 h
  cases found with
  | some q =>
    cases h
    exact hfound
  | none =>
    dsimp only at h
    rw [if_pos (List.isSuffixOf_iff_suffix.2 hends)] at h
    cases h

/-- A page that is found by a note's path, and has that path, is found because the path does not
    start with a blank. -/
theorem HasPage.trim_of_page (h : v.HasPage rest pg) (hv : v.IsSound) {other : Page}
    (hpage : v.page (Path.text rest) = .ok (some other)) (hpath : other.path = Path.text rest) :
    Text.trim (Path.text rest) = Path.text rest := by
  obtain ⟨p, text, hlocate, -, hmake⟩ := of_page_eq_some hpage
  have hlink := resolveLink_of_locate h.suffix_text hlocate
  obtain ⟨⟨found, hne, rfl, hfound⟩, -⟩ := hv.isBelow_of_resolveLink hlink
  have hrest : found = rest := by
    rw [path_of_make hmake, List.drop_left, Path.relativeText, if_neg (by simp [hne])] at hpath
    exact Path.eq_of_text_eq hfound (h.isPlain hv) hpath
  obtain ⟨first, more, rfl⟩ := List.exists_cons_of_ne_nil h.ne_nil
  obtain rfl := hrest
  by_contra htrim
  refine not_resolveLink_of_blank hv hfound (fun c hc => ?_) htrim hlink
  obtain ⟨before, hbefore⟩ := h.suffix_text
  rw [← hbefore, List.getLast?_append] at hc
  obtain rfl : CodePoint.scalar 'd' = c := Option.some.inj hc
  decide

/-- The entry of a note in a list of pages is its page. -/
theorem HasPage.mem_pages (h : v.HasPage rest pg) (hv : v.IsSound) {folder : Text} {ps : List Page}
    (hps : v.pages folder = .ok ps) (hlisted : Path.text rest ∈ v.notesIn folder) :
    pg ∈ ps ∧ ∀ other ∈ ps, other.path = Path.text rest → other = pg := by
  obtain ⟨text, htext, hmake⟩ := h.page
  have hnames := Path.ofText_text (h.isPlain hv)
  obtain ⟨hlength, hpages⟩ := List.forall₂_iff_get.1 (pages_eq_ok_iff.1 hps)
  constructor
  · have hlegible : (Path.text rest, text) ∈ v.legible (v.notesIn folder) := by
      refine List.mem_filterMap.2 ⟨_, hlisted, ?_⟩
      rw [hnames, htext]
      rfl
    obtain ⟨i, hi, hn⟩ := List.getElem_of_mem hlegible
    have hpage := hpages i hi (hlength ▸ hi)
    rw [List.get_eq_getElem, hn, hnames, hmake] at hpage
    rw [Except.ok.inj hpage]
    exact List.get_mem _ _
  · intro other hother hpath
    obtain ⟨i, hi, rfl⟩ := List.getElem_of_mem hother
    have hpage := hpages i (hlength ▸ hi) hi
    obtain ⟨path, hnote, hn⟩ := List.mem_filterMap.1 (List.get_mem (v.legible (v.notesIn folder))
      ⟨i, hlength ▸ hi⟩)
    obtain ⟨text', htext', hn⟩ := Option.map_eq_some_iff.1 hn
    rw [← hn] at hpage
    have hsame : path = Path.text rest := by
      rw [← hpath, ← hv.relativeText_ofText (List.mem_filter.1 hnote).1]
      exact (path_of_make hpage).symm
    subst hsame
    rw [hnames] at hpage htext'
    obtain rfl : text = text' := Except.ok.inj (htext.symm.trans (Outcome.eq_ok_of_toOption htext'))
    exact Except.ok.inj (hpage.symm.trans hmake)

end Vault

/-! ### The page of the note whose script runs -/

namespace Script.Run

variable {w : Host} {m : Machine} {scope : List Nat} {source link : Text} {μ μ' : Memory}
  {h : Handle} {pg : Page}

/-- No script has given the index another lookup, or put anything in the place of what the lookup
    works with. -/
def KeepsLookup (μ : Memory) : Prop :=
  ∀ n ∈ Text.of "page" :: lookupParts, μ.attribute? .index n = none

variable [Runtime]

/-- In a scope the name of the index stands for the index of a note, and that has its own lookup. -/
structure KnowsIndex (scope : List Nat) (source : Text) (μ : Memory) : Prop where
  name : Gives (findName indexName true scope) μ (.builtin (.index source)) μ
  lookup : KeepsLookup μ

/-- The names that a script starts with know the index of its note. -/
theorem knowsIndex_start (hindexed : w.indexed = true) {locals input : Nat} {globals : List Nat}
    {f : Frame} (hframe : μ.cell locals = .frame f) (hnames : f.names = scriptNames w source input)
    (hlookup : KeepsLookup μ) :
    KnowsIndex (locals :: globals) source μ := by
  refine ⟨?_, hlookup⟩
  have hfound : f.names.lookup indexName = some (.builtin (.index source)) := by
    rw [hnames, scriptNames, hindexed]
    rfl
  have hframeAt : Gives (frameAt locals) μ f μ := by
    refine gives_bind.2 ⟨.frame f, μ, ?_, gives_pure.2 ⟨rfl, rfl⟩⟩
    exact gives_get_bind.2 (gives_pure.2 ⟨hframe.symm, rfl⟩)
  rw [findName]
  refine gives_bind.2 ⟨f, μ, hframeAt, ?_⟩
  rw [hfound]
  rfl

omit [Runtime] in
theorem KeepsLookup.gives_ownParts (hμ : KeepsLookup μ) : Gives (ownParts lookupParts) μ () μ := by
  have hnone : lookupParts.find? (fun n => (μ.attribute? .index n).isSome) = none :=
    List.find?_eq_none.2 (fun n hn => by simp [hμ n (List.mem_cons_of_mem _ hn)])
  refine gives_get_bind.2 ?_
  rw [hnone]
  exact gives_pure.2 ⟨rfl, rfl⟩

/-- A lookup makes the object of the page that is found, or gives nothing. -/
theorem run_indexPage (hμ : KeepsLookup μ) (w : Host) (link : Text) :
    (indexPage w (.text link)).run.run μ =
      (Action.lift (w.vault.page link) >>= fun found =>
        found.elim (pure .null) makePage).run.run μ := by
  rw [indexPage, run_bind, hμ.gives_ownParts]
  show (Action.lift (w.vault.page link) >>= _ : Run Handle).run.run μ = _
  rw [run_bind, run_bind, run_lift]
  rcases w.vault.page link with f | _ | pg <;> rfl

theorem run_indexPage_of_page (hμ : KeepsLookup μ) (h : w.vault.page link = .ok (some pg)) :
    (indexPage w (.text link)).run.run μ = (makePage pg).run.run μ := by
  rw [run_indexPage hμ, run_bind, run_lift, h]
  rfl

/-- **`current()` is the lookup of the script's note** by its path. -/
theorem run_current (hμ : KnowsIndex scope source μ) :
    (eval w m scope (indexCall "current" [])).run.run μ =
      (indexPage w (.text source)).run.run μ := by
  have hmember : Gives (eval w m scope (.member (.name indexName) (Text.of "current"))) μ
      (.builtin (.current source)) μ := by
    rw [eval]
    refine gives_bind.2 ⟨.builtin (.index source), μ, ?_, rfl⟩
    rw [eval]
    exact hμ.name
  have hlookup : Gives (indexMember (Text.of "page")) μ (.builtin .page) μ := by
    refine gives_get_bind.2 ?_
    rw [hμ.lookup _ List.mem_cons_self]
    rfl
  rw [indexCall, eval, run_bind, hmember, evalAll]
  show (indexMember (Text.of "page") >>= _).run.run μ = _
  rw [run_bind, hlookup]

omit [Runtime] in
/-- A cell that was made holds what it was made of. -/
theorem cell_of_gives_make {c : Cell} (hmake : Gives (make c) μ h μ') :
    ∃ n, h = .ref n ∧ μ'.cell n = c := by
  obtain ⟨n, μ₁, halloc, hmake⟩ := gives_bind.1 hmake
  obtain ⟨rfl, rfl⟩ := gives_pure.1 hmake
  have hrun : (alloc c).run.run μ = (.ok μ.cells.size, { μ with cells := μ.cells.push c }) := rfl
  rw [Gives, hrun] at halloc
  injection halloc with hn hμ
  injection hn with hn
  refine ⟨n, rfl, ?_⟩
  rw [← hμ, ← hn, Memory.cell, Array.getElem?_push_size, Option.getD_some]

omit [Runtime] in
/-- The path of a page object is that of the page. -/
theorem gives_path_of_makePage (hpage : Gives (makePage pg) μ h μ') :
    Gives (member h (Text.of "path")) μ' (.text pg.path) μ' := by
  obtain ⟨frontmatter, μ₁, -, hpage⟩ := gives_bind.1 hpage
  obtain ⟨tags, μ₂, -, hpage⟩ := gives_bind.1 hpage
  obtain ⟨n, rfl, hcell⟩ := cell_of_gives_make hpage
  refine gives_bind.2 ⟨_, μ', gives_get_bind.2 (gives_pure.2 ⟨hcell.symm, rfl⟩), ?_⟩
  rfl

omit [Runtime] in
theorem keeps_makePage (pg : Page) : Keeps (makePage pg) :=
  (keeps_store _).bind fun _ => (keeps_store _).bind fun _ => keeps_make _

/-- The path of what a lookup gives is that of the page that is found. -/
theorem gives_path_of_indexPage (hμ : KeepsLookup μ) :
    (∃ h μ', Gives (indexPage w (.text link)) μ h μ' ∧
      Gives (member h (Text.of "path")) μ' (.text source) μ') ↔
        ∃ pg, w.vault.page link = .ok (some pg) ∧ pg.path = source := by
  constructor
  · rintro ⟨h, μ', hgives, hpath⟩
    rw [Gives, run_indexPage hμ] at hgives
    obtain ⟨found, μ₁, hfound, hgives⟩ := gives_bind.1 hgives
    obtain ⟨hpage, rfl⟩ := gives_lift.1 hfound
    cases found with
    | none =>
      -- nothing has no path
      obtain ⟨rfl, -⟩ := gives_pure.1 hgives
      cases hpath
    | some pg =>
      obtain ⟨hsame, -⟩ := hpath.unique (gives_path_of_makePage hgives)
      refine ⟨pg, hpage, ?_⟩
      injection hsame with hsame
      injection hsame with hsame
      exact hsame.symm
  · rintro ⟨pg, hpage, rfl⟩
    obtain ⟨h, μ', hgives, -⟩ := keeps_makePage pg μ
    refine ⟨h, μ', ?_, gives_path_of_makePage hgives⟩
    rw [Gives, run_indexPage_of_page hμ hpage]
    exact hgives

end Script.Run

/-! ### Notes by their own paths -/

namespace Script.Host

section

variable [Runtime]

/-- **A note is found by its own path** exactly if the path does not start with a blank, whatever
    other notes have the same name: its page is found then, which is also its one entry in a list
    of pages that it is in, and `current()` gives that page in a script that runs for the note and
    whose name for the index is neither bound anew nor given another lookup or another part of the
    lookup.  If the path starts with a blank, neither the lookup nor `current()` gives a page with
    that path. -/
theorem page_spec (w : Host) (hv : w.vault.IsSound) {rest : Path} {pg : Page}
    (h : w.vault.HasPage rest pg) :
    pg.path = Path.text rest ∧
    (Text.trim (Path.text rest) = Path.text rest →
      w.vault.page (Path.text rest) = .ok (some pg)) ∧
    ((∃ other, w.vault.page (Path.text rest) = .ok (some other) ∧ other.path = Path.text rest) ↔
      Text.trim (Path.text rest) = Path.text rest) ∧
    (∀ folder ps, w.vault.pages folder = .ok ps → Path.text rest ∈ w.vault.notesIn folder →
      pg ∈ ps ∧ ∀ other ∈ ps, other.path = Path.text rest → other = pg) ∧
    (∀ m scope μ, Run.KnowsIndex scope (Path.text rest) μ →
      (Text.trim (Path.text rest) = Path.text rest →
        (Run.eval w m scope (indexCall "current" [])).run.run μ =
          (Run.makePage pg).run.run μ) ∧
      ((∃ page μ', Gives (Run.eval w m scope (indexCall "current" [])) μ page μ' ∧
          Gives (Run.member page (Text.of "path")) μ' (.text (Path.text rest)) μ') ↔
        Text.trim (Path.text rest) = Path.text rest)) ∧
    (∀ locals input globals (f : Frame) (μ : Memory), w.indexed = true →
      μ.cell locals = .frame f → f.names = Run.scriptNames w (Path.text rest) input →
      Run.KeepsLookup μ →
      Run.KnowsIndex (locals :: globals) (Path.text rest) μ) := by
  have hfound : (∃ other, w.vault.page (Path.text rest) = .ok (some other) ∧
      other.path = Path.text rest) ↔ Text.trim (Path.text rest) = Path.text rest :=
    ⟨fun ⟨_, hpage, hpath⟩ => h.trim_of_page hv hpage hpath,
      fun htrim => ⟨pg, h.page_text hv htrim, h.path_eq⟩⟩
  refine ⟨h.path_eq, h.page_text hv, hfound, fun folder ps => h.mem_pages hv,
    fun m scope μ hμ => ⟨fun htrim => ?_, ?_⟩, fun locals input globals f μ => ?_⟩
  · rw [Run.run_current hμ, Run.run_indexPage_of_page hμ.lookup (h.page_text hv htrim)]
  · rw [← hfound, ← Run.gives_path_of_indexPage hμ.lookup]
    simp only [Gives, Run.run_current hμ]
  · exact fun hindexed hframe => Run.knowsIndex_start hindexed hframe

end

attribute [local instance] Runtime.usual

/-- A vault with two notes of one name. -/
def namesakes : Host :=
  ⟨⟨[], [], ⟨[([Text.of "d"], .folder),
    (["d", "n.md"].map Text.of, .file ((Utf8.encode? (Text.of "mine")).getD [])),
    ([Text.of "n.md"], .file ((Utf8.encode? (Text.of "other")).getD []))]⟩, []⟩, true⟩

/-- The names that a script for the note in the folder starts with. -/
def namesakesMemory : Memory :=
  ⟨#[.mapping .arguments [],
    .frame ⟨[], false, [], Run.scriptNames namesakes (Text.of "d/n.md") 0⟩], []⟩

theorem page_spec_namesakes :
    ∃ pg ps, namesakes.vault.IsSound ∧ namesakes.vault.HasPage (["d", "n.md"].map Text.of) pg ∧
      pg.content = Text.of "mine" ∧
      namesakes.vault.page (Text.of "d/n.md") = .ok (some pg) ∧
      namesakes.vault.pages [] = .ok ps ∧ pg ∈ ps ∧
      ∀ m, (Run.eval namesakes m [1] (indexCall "current" [])).run.run namesakesMemory =
        (Run.makePage pg).run.run namesakesMemory := by
  have hv : namesakes.vault.IsSound := ⟨by decide +kernel, rfl⟩
  have htext : namesakes.vault.resourceAt (["d", "n.md"].map Text.of) = .ok (Text.of "mine") :=
    Outcome.eq_ok_of_toOption (by decide +kernel)
  have hmake : (Page.make (["d", "n.md"].map Text.of) (Text.of "mine")).toOption.map (·.content) =
      some (Text.of "mine") := by
    decide +kernel
  obtain ⟨pg, hpg, hcontent⟩ := Option.map_eq_some_iff.1 hmake
  have h : namesakes.vault.HasPage (["d", "n.md"].map Text.of) pg :=
    ⟨⟨Text.of "n.md", rfl, by decide⟩, by decide +kernel, _, htext, Outcome.eq_ok_of_toOption hpg⟩
  have hnotes : namesakes.vault.notes = ["d/n.md", "n.md"].map Text.of :=
    Vault.notes_eq_of_pairwise (by decide +kernel) (by decide +kernel)
  have hlisted : Text.of "d/n.md" ∈ namesakes.vault.notesIn [] := by
    rw [Vault.notesIn, hnotes]
    decide +kernel
  have hpages : (namesakes.vault.pages []).toOption.isSome = true := by
    have hfound : namesakes.vault.pages [] =
        namesakes.vault.pagesOf (["d/n.md", "n.md"].map Text.of) :=
      Vault.pages_of_found (by decide +kernel) (by decide +kernel)
    rw [hfound]
    decide +kernel
  obtain ⟨ps, hps⟩ := Option.isSome_iff_exists.1 hpages
  have hps := Outcome.eq_ok_of_toOption hps
  have htrim : Text.trim (Path.text (["d", "n.md"].map Text.of)) =
      Path.text (["d", "n.md"].map Text.of) := by
    decide +kernel
  obtain ⟨-, hpage, -, hentry, hcurrent, hstart⟩ := page_spec namesakes hv h
  have hμ := hstart 1 0 [] _ namesakesMemory rfl rfl rfl (by intro n _; rfl)
  exact ⟨pg, ps, hv, h, hcontent, hpage htrim, hps, (hentry [] ps hps hlisted).1,
    fun m => (hcurrent m [1] namesakesMemory hμ).1 htrim⟩

/-- A vault with a note whose name starts with a blank, and one without. -/
def blankNamed : Host :=
  ⟨.ofNotes [(" a.md", "mine"), ("a.md", "other")], true⟩

/-- **A note is found in the place of another one**: the path of the first starts with a blank,
    which does not count in a lookup; so a script for that note takes the other for its own. -/
theorem page_of_blankNamed :
    ∃ pg other, blankNamed.vault.HasPage [Text.of " a.md"] pg ∧ pg.content = Text.of "mine" ∧
      Text.of " a.md" ∈ blankNamed.vault.notes ∧
      blankNamed.vault.page (Text.of " a.md") = .ok (some other) ∧
      other.path = Text.of "a.md" ∧ other.content = Text.of "other" ∧
      ∃ i m', Gives (blankNamed.invoke ⟨Text.of "t.py", true,
          Text.of r#"[["return",["attr",["current"],"path"]]]"#⟩ (Text.of " a.md")
          (.mapping .arguments [])) .empty i m' ∧ i.rendered = some (Text.of "a.md") := by
  have htext : blankNamed.vault.resourceAt [Text.of " a.md"] = .ok (Text.of "mine") :=
    Outcome.eq_ok_of_toOption (by decide +kernel)
  have hmake : (Page.make [Text.of " a.md"] (Text.of "mine")).toOption.map (·.content) =
      some (Text.of "mine") := by
    decide +kernel
  obtain ⟨pg, hpg, hcontent⟩ := Option.map_eq_some_iff.1 hmake
  have h : blankNamed.vault.HasPage [Text.of " a.md"] pg :=
    ⟨⟨Text.of " a.md", rfl, by decide⟩, by decide +kernel, _, htext,
      Outcome.eq_ok_of_toOption hpg⟩
  have hnotes : blankNamed.vault.notes = [" a.md", "a.md"].map Text.of :=
    Vault.notes_eq_of_pairwise (by decide +kernel) (by decide +kernel)
  have hfound : (blankNamed.vault.page (Text.of " a.md")).toOption.map
      (Option.map fun other => (other.path, other.content)) =
        some (some (Text.of "a.md", Text.of "other")) := by
    decide +kernel
  obtain ⟨found, hpage, hsome⟩ := Option.map_eq_some_iff.1 hfound
  obtain ⟨other, rfl, hother⟩ := Option.map_eq_some_iff.1 hsome
  have hrun : ((blankNamed.invoke ⟨Text.of "t.py", true,
      Text.of r#"[["return",["attr",["current"],"path"]]]"#⟩ (Text.of " a.md")
      (.mapping .arguments [])).run.run .empty).1.toOption.map (·.rendered) =
        some (some (Text.of "a.md")) := by
    decide +kernel
  exact ⟨pg, other, h, hcontent, by simp [hnotes], Outcome.eq_ok_of_toOption hpage,
    congrArg Prod.fst hother, congrArg Prod.snd hother, exists_gives_of_run hrun⟩

end Script.Host

end TemplatedNotes
