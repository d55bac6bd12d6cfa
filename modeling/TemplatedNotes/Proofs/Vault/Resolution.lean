/-
  TemplatedNotes/Proofs/Vault/Resolution.lean
  ===========================================
  **The file that a link means.**

  A link is looked up at one or two places, and then among the ends of all paths in the vault.
  What it means is said here by the files that are there, and not by the order in which they are
  listed: the first of the places where a file stands (`IsFirstFile`), and else, if the link does
  not say where it starts, the file whose path ends with the names of the link and comes first by
  the number of its names and then by its text (`IsBestEnding`).

    * `comesBefore_iff` — paths are compared by a linear order (`rank`), so there is one best path;
    * `eq_some_of_firstFile_iff`, `eq_some_of_search_iff` — the two parts of the search;
    * `resolveLink_spec` — the whole of it.
-/
import Mathlib.Data.List.Lex
import Mathlib.Data.Prod.Lex
import TemplatedNotes.Proofs.Vault.Link

namespace TemplatedNotes

/-! ### The order of texts and paths -/

/-- Texts are ordered as the lists of their code points' numbers. -/
theorem Text.lt_iff {a b : Text} :
    Text.lt a b = true ↔ a.map CodePoint.value < b.map CodePoint.value := by
  induction a generalizing b with
  | nil => cases b <;> simp [Text.lt]
  | cons x xs ih =>
    cases b with
    | nil => simp [Text.lt]
    | cons y ys =>
      rw [Text.lt, List.map_cons, List.map_cons, List.cons_lt_cons_iff, Bool.or_eq_true,
        Bool.and_eq_true, ih, beq_iff_eq, CodePoint.lt, decide_eq_true_eq]
      have hvalue : x = y ↔ x.value = y.value :=
        ⟨congrArg CodePoint.value, CodePoint.value_injective⟩
      rw [hvalue]

theorem Text.map_value_injective : Function.Injective (List.map CodePoint.value) :=
  List.map_injective_iff.2 fun _ _ => CodePoint.value_injective

namespace Path

/-- What paths are ordered by: the number of names, and then the text, by its code points. -/
def rank (p : Path) : ℕ ×ₗ List ℕ := toLex (p.length, (text p).map CodePoint.value)

theorem eq_of_rank_eq {p q : Path} (hp : ∀ name ∈ p, IsPlain name) (hq : ∀ name ∈ q, IsPlain name)
    (h : rank p = rank q) : p = q := by
  have htext : text p = text q := Text.map_value_injective (congrArg (fun r => (ofLex r).2) h)
  exact eq_of_text_eq hp hq htext

theorem pieces_slash (rest : Text) : pieces (.scalar '/' :: rest) = [] :: pieces rest := by
  have hname : CodePoint.scalar '/' ∉ ([] : Text) := List.not_mem_nil
  exact pieces_append_slash hname rest

/-- Slashes in front do not count. -/
theorem ofText_dropWhile_slash (t : Text) :
    ofText (t.dropWhile (· == .scalar '/')) = ofText t := by
  induction t with
  | nil => rfl
  | cons c rest ih =>
    rw [List.dropWhile_cons]
    split
    · next hc =>
      obtain rfl := eq_of_beq hc
      rw [ih, ofText, ofText, pieces_slash]
      rfl
    · rfl

theorem isAbsolute_iff {t : Text} : isAbsolute t = true ↔ Text.of "/" <+: t := by
  cases t with
  | nil =>
    rw [List.prefix_nil]
    decide
  | cons c rest =>
    show (some c == some (CodePoint.scalar '/')) = true ↔ [CodePoint.scalar '/'] <+: c :: rest
    rw [beq_iff_eq, Option.some_inj, List.cons_prefix_cons, eq_comm]
    exact ⟨fun h => ⟨h, List.nil_prefix⟩, fun h => h.1⟩

end Path

namespace Vault

variable {v v' : Vault} {link source : Text} {names rest p : Path} {found : Option Path}

theorem comesBefore_iff {p q : Path} : comesBefore p q = true ↔ p.rank < q.rank := by
  unfold comesBefore Path.rank
  rw [Prod.Lex.toLex_lt_toLex, Bool.or_eq_true, Bool.and_eq_true, decide_eq_true_eq, beq_iff_eq,
    Text.lt_iff]

/-- The least path of a list is one of them that none comes before. -/
theorem of_least_eq_some {ps : List Path} (h : least ps = some p) :
    p ∈ ps ∧ ∀ q ∈ ps, p.rank ≤ q.rank := by
  induction ps generalizing p with
  | nil => cases h
  | cons first rest ih =>
    rw [least] at h
    split at h
    · next q hq =>
      obtain ⟨hmem, hle⟩ := ih hq
      split at h
      · next hbefore =>
        cases h
        have hlt := comesBefore_iff.1 hbefore
        exact ⟨List.mem_cons_of_mem first hmem, List.forall_mem_cons.2 ⟨hlt.le, hle⟩⟩
      · next hbefore =>
        cases h
        have hfirst : first.rank ≤ q.rank := not_lt.1 fun hlt => hbefore (comesBefore_iff.2 hlt)
        exact ⟨List.mem_cons_self, List.forall_mem_cons.2
          ⟨le_rfl, fun r hr => hfirst.trans (hle r hr)⟩⟩
    · next hnone =>
      cases h
      cases rest with
      | nil => exact ⟨List.mem_cons_self, by simp⟩
      | cons second more =>
        rw [least] at hnone
        split at hnone <;> cases hnone

theorem least_eq_none_iff {ps : List Path} : least ps = none ↔ ps = [] := by
  cases ps with
  | nil => simp [least]
  | cons first rest =>
    rw [least]
    split <;> simp

/-- **The least of some plain paths** is the one of them with the least rank. -/
theorem least_eq_some_iff {ps : List Path} (hplain : ∀ p ∈ ps, ∀ name ∈ p, Path.IsPlain name) :
    least ps = some p ↔ p ∈ ps ∧ ∀ q ∈ ps, p.rank ≤ q.rank := by
  constructor
  · exact of_least_eq_some
  · rintro ⟨hmem, hle⟩
    cases h : least ps with
    | none =>
      rw [least_eq_none_iff.1 h] at hmem
      cases hmem
    | some q =>
      obtain ⟨hq, hleq⟩ := of_least_eq_some h
      have hrank : q.rank = p.rank := le_antisymm (hleq p hmem) (hle q hq)
      rw [Path.eq_of_rank_eq (hplain q hq) (hplain p hmem) hrank]

/-! ### The places where a link is looked up -/

/-- A file of the vault stands where some names lead from its folder. -/
def HasFileAt (v : Vault) (names : Path) : Prop :=
  v.root <+: names.foldl Path.climb v.root ∧
    ∃ b, v.disk.look (names.foldl Path.climb v.root) = .ok (.file b)

/-- The first place of some where a file of the vault stands. -/
inductive IsFirstFile (v : Vault) : List Path → Path → Prop where
  | here {names : Path} {more : List Path} (file : v.HasFileAt names) :
      IsFirstFile v (names :: more) (names.foldl Path.climb v.root)
  | later {names : Path} {more : List Path} {p : Path} (missed : ¬ v.HasFileAt names)
      (first : IsFirstFile v more p) : IsFirstFile v (names :: more) p

/-- A link says where it starts: with a slash in front from the vault's folder, with one or two
    dots and a slash from the folder of its note. -/
def SaysStart (link : Text) : Prop :=
  Text.of "/" <+: link ∨ Text.of "./" <+: link ∨ Text.of "../" <+: link

instance (link : Text) : Decidable (SaysStart link) := by
  unfold SaysStart
  infer_instance

/-- Where a link is looked up: from the folder of its note, or, if it has slashes in front, from
    the vault's without them; and then from the vault's folder, unless it says where it starts. -/
def lookups (source link : Text) : List Path :=
  (if Text.of "/" <+: link then Path.ofText (link.dropWhile (· == .scalar '/'))
    else (Path.ofText source).dropLast ++ Path.ofText link) ::
  if SaysStart link then [] else [Path.ofText link]

theorem isAnchored_iff : isAnchored link = true ↔ SaysStart link := by
  rw [isAnchored, SaysStart, Bool.or_eq_true, Bool.or_eq_true, Path.isAbsolute_iff,
    List.isPrefixOf_iff_prefix, List.isPrefixOf_iff_prefix, or_assoc]

theorem candidates_eq_lookups (link source : Text) : candidates link source = lookups source link := by
  unfold candidates lookups
  rw [Path.ofText_dropWhile_slash]
  by_cases hslash : Text.of "/" <+: link
  · have hstart : SaysStart link := Or.inl hslash
    rw [if_pos (Path.isAbsolute_iff.2 hslash), if_pos hslash, if_pos hstart]
  · rw [if_neg (fun h => hslash (Path.isAbsolute_iff.1 h)), if_neg hslash]
    by_cases hstart : SaysStart link
    · rw [if_pos (isAnchored_iff.2 hstart), if_pos hstart]
    · rw [if_neg (fun h => hstart (isAnchored_iff.1 h)), if_neg hstart]

theorem eq_some_of_fileAt_iff (h : v.fileAt names = .ok found) :
    found = some p ↔ v.HasFileAt names ∧ p = names.foldl Path.climb v.root := by
  obtain ⟨q, hq, h⟩ := Outcome.bind_eq_ok.1 h
  obtain ⟨-, rfl⟩ := Path.resolve_eq_ok_iff.1 hq
  unfold HasFileAt
  split at h
  · next hinside =>
    obtain ⟨more, hmore⟩ := Option.isSome_iff_exists.1 hinside
    have hunder : v.root <+: names.foldl Path.climb v.root :=
      ⟨more, (inside?_eq_some_iff.1 hmore).symm⟩
    obtain ⟨there, hthere, h⟩ := Outcome.bind_eq_ok.1 h
    cases there with
    | true =>
      cases h
      simp [hunder, look_of_isFile hthere, eq_comm]
    | false =>
      cases h
      have hno : ¬ ∃ b, v.disk.look (names.foldl Path.climb v.root) = .ok (.file b) := by
        rintro ⟨b, hb⟩
        rw [Disk.isFile, hb] at hthere
        cases hthere
      simp [hno]
  · next hinside =>
    cases h
    have hunder : ¬ v.root <+: names.foldl Path.climb v.root := by
      rintro ⟨more, hmore⟩
      exact hinside (Option.isSome_iff_exists.2 ⟨more, inside?_eq_some_iff.2 hmore.symm⟩)
    simp [hunder]

/-- **The places are tried in order**, and the first where a file stands is taken. -/
theorem eq_some_of_firstFile_iff {tried : List Path} (h : v.firstFile tried = .ok found) :
    found = some p ↔ v.IsFirstFile tried p := by
  induction tried with
  | nil =>
    cases h
    constructor
    · intro h
      cases h
    · intro h
      cases h
  | cons names more ih =>
    rw [firstFile_cons_eq] at h
    obtain ⟨here, hhere, h⟩ := Outcome.bind_eq_ok.1 h
    cases here with
    | some q =>
      cases h
      obtain ⟨hfile, rfl⟩ := (eq_some_of_fileAt_iff hhere).1 rfl
      constructor
      · intro h
        cases h
        exact .here hfile
      · intro h
        cases h with
        | here => rfl
        | later missed => exact absurd hfile missed
    | none =>
      have hmissed : ¬ v.HasFileAt names := fun hfile => by
        cases (eq_some_of_fileAt_iff hhere).2 ⟨hfile, rfl⟩
      rw [ih h]
      constructor
      · exact .later hmissed
      · intro h
        cases h with
        | here file => exact absurd file hmissed
        | later _ first => exact first

theorem exists_isFirstFile_iff {tried : List Path} :
    (∃ p, v.IsFirstFile tried p) ↔ ∃ names ∈ tried, v.HasFileAt names := by
  induction tried with
  | nil =>
    constructor
    · rintro ⟨p, h⟩
      cases h
    · rintro ⟨names, h, -⟩
      cases h
  | cons names more ih =>
    rw [List.exists_mem_cons_iff, ← ih]
    constructor
    · rintro ⟨p, h⟩
      cases h with
      | here file => exact Or.inl file
      | later _ first => exact Or.inr ⟨p, first⟩
    · intro h
      by_cases hfile : v.HasFileAt names
      · exact ⟨_, .here hfile⟩
      · obtain ⟨p, first⟩ := h.resolve_left hfile
        exact ⟨p, .later hfile first⟩

/-! ### The ends of the paths in the vault -/

/-- A file of the vault whose path ends with some names and runs through no excluded folder. -/
structure EndsWith (v : Vault) (names rest : Path) : Prop where
  file : ∃ b, v.disk.look (v.root ++ rest) = .ok (.file b)
  suffix : names <:+ rest
  included : ∀ folder ∈ rest.dropLast, folder ∉ v.excluded

/-- The file whose path ends with some names and comes first in the order of paths. -/
structure IsBestEnding (v : Vault) (names rest : Path) : Prop where
  endsWith : v.EndsWith names rest
  rank_le : ∀ other, v.EndsWith names other → rest.rank ≤ other.rank

theorem isExcluded_eq_false_iff :
    v.isExcluded rest = false ↔ ∀ folder ∈ rest.dropLast, folder ∉ v.excluded := by
  simp [isExcluded]

theorem IsSound.mem_endingWith_iff (hv : v.IsSound) :
    rest ∈ v.endingWith names ↔ v.EndsWith names rest := by
  unfold endingWith
  rw [List.mem_filterMap]
  constructor
  · rintro ⟨⟨r, e⟩, hmem, h⟩
    dsimp only at h
    split at h
    · next b =>
      split at h
      · next hends =>
        cases h
        rw [Bool.and_eq_true, Bool.not_eq_true', List.isSuffixOf_iff_suffix] at hends
        obtain ⟨-, hentry⟩ := Disk.mem_below_iff.1 hmem
        exact ⟨⟨b, hv.tree.look_of_mem hentry⟩, hends.2, isExcluded_eq_false_iff.1 hends.1⟩
      · cases h
    · cases h
  · rintro ⟨⟨b, hlook⟩, hsuffix, hincluded⟩
    have hne : rest ≠ [] := by
      rintro rfl
      have hroot := Disk.find?_of_look hlook
      rw [List.append_nil, hv.root] at hroot
      cases hroot
    have hentry : (v.root ++ rest, Entry.file b) ∈ v.disk.entries :=
      Disk.mem_of_find? (by simp [hne]) (Disk.find?_of_look hlook)
    refine ⟨(rest, .file b), Disk.mem_below_iff.2 ⟨hne, hentry⟩, ?_⟩
    simp [isExcluded_eq_false_iff.2 hincluded, List.isSuffixOf_iff_suffix.2 hsuffix]

theorem IsSound.isPlain_of_mem_endingWith (hv : v.IsSound) (h : rest ∈ v.endingWith names) :
    ∀ name ∈ rest, Path.IsPlain name := by
  obtain ⟨b, hmem⟩ := mem_endingWith h
  exact hv.tree.isPlain_of_mem_below hmem

theorem IsSound.least_endingWith_iff (hv : v.IsSound) :
    least (v.endingWith names) = some rest ↔ v.IsBestEnding names rest := by
  rw [least_eq_some_iff fun _ => hv.isPlain_of_mem_endingWith]
  simp only [hv.mem_endingWith_iff]
  exact ⟨fun h => ⟨h.1, h.2⟩, fun h => ⟨h.endsWith, h.rank_le⟩⟩

theorem IsSound.least_endingWith_eq_none_iff (hv : v.IsSound) :
    least (v.endingWith names) = none ↔ ∀ rest, ¬ v.EndsWith names rest := by
  rw [least_eq_none_iff, List.eq_nil_iff_forall_not_mem]
  simp only [hv.mem_endingWith_iff]

theorem eq_of_search (h : v.search link = .ok found) :
    found = (least (v.endingWith (Path.ofText link))).map (v.root ++ ·) := by
  unfold search at h
  dsimp only at h
  split at h
  · cases h
  · split at h
    · cases h
    · exact (Except.ok.inj h).symm

/-- **The search takes the best end of a path**, if it comes to an end. -/
theorem IsSound.eq_some_of_search_iff (hv : v.IsSound) (h : v.search link = .ok found) :
    found = some p ↔ ∃ rest, v.IsBestEnding (Path.ofText link) rest ∧ p = v.root ++ rest := by
  rw [eq_of_search h, Option.map_eq_some_iff]
  simp only [hv.least_endingWith_iff, eq_comm]

theorem IsSound.eq_none_of_search_iff (hv : v.IsSound) (h : v.search link = .ok found) :
    found = none ↔ ∀ rest, ¬ v.EndsWith (Path.ofText link) rest := by
  rw [eq_of_search h, Option.map_eq_none_iff, hv.least_endingWith_eq_none_iff]

/-! ### The order of the entries -/

theorem endingWith_perm (hroot : v'.root = v.root) (hexcluded : v'.excluded = v.excluded)
    (h : v'.disk.entries.Perm v.disk.entries) :
    (v'.endingWith names).Perm (v.endingWith names) := by
  unfold endingWith isExcluded Disk.below
  rw [hroot, hexcluded]
  exact (h.filterMap _).filterMap _

theorem IsSound.least_endingWith_perm (hv : v.IsSound) (hroot : v'.root = v.root)
    (hexcluded : v'.excluded = v.excluded) (h : v'.disk.entries.Perm v.disk.entries) :
    least (v'.endingWith names) = least (v.endingWith names) := by
  have hperm : (v'.endingWith names).Perm (v.endingWith names) :=
    endingWith_perm hroot hexcluded h
  have hplain : ∀ p ∈ v'.endingWith names, ∀ name ∈ p, Path.IsPlain name :=
    fun p hp => hv.isPlain_of_mem_endingWith (hperm.mem_iff.1 hp)
  ext p
  rw [least_eq_some_iff hplain, least_eq_some_iff fun _ => hv.isPlain_of_mem_endingWith]
  simp only [hperm.mem_iff]

/-- **What a link means does not depend on the order** in which a disk lists its entries. -/
theorem IsSound.resolveLink_perm (hv : v.IsSound) (hroot : v'.root = v.root)
    (hexcluded : v'.excluded = v.excluded) (h : v'.disk.entries.Perm v.disk.entries) :
    v'.resolveLink link source = v.resolveLink link source := by
  have hinside : v'.inside? = v.inside? := by
    unfold inside?
    rw [hroot]
  have hisFile : v'.disk.isFile = v.disk.isFile := by
    funext p
    unfold Disk.isFile
    rw [hv.tree.look_perm h]
  have hfirst : ∀ tried, v'.firstFile tried = v.firstFile tried := by
    intro tried
    induction tried with
    | nil => rfl
    | cons names more ih => rw [firstFile_cons, firstFile_cons, hroot, hinside, hisFile, ih]
  have hsearch : ∀ link, v'.search link = v.search link := by
    intro link
    simp only [search, hroot, hv.least_endingWith_perm hroot hexcluded h]
  simp only [resolveLink, hfirst, hsearch]

/-! ### The whole search -/

/-- **The file that a link means**, blanks around it left out.  An empty link means none.  Any
    other means the first file of the vault among the places where it is looked up; and if there
    is none there and it does not say where it starts, the file whose path ends with its names,
    runs through no excluded folder and comes first, whatever characters the names are made of.
    No other order matters. -/
theorem resolveLink_spec (hv : v.IsSound) (h : v.resolveLink link source = .ok found) :
    (Text.trim link = [] → found = none) ∧
    (Text.trim link ≠ [] →
      (∀ p, found = some p ↔
        v.IsFirstFile (lookups source (Text.trim link)) p ∨
        (∀ names ∈ lookups source (Text.trim link), ¬ v.HasFileAt names) ∧
          ¬ SaysStart (Text.trim link) ∧
          ∃ rest, v.IsBestEnding (Path.ofText (Text.trim link)) rest ∧ p = v.root ++ rest) ∧
      (found = none ↔
        (∀ names ∈ lookups source (Text.trim link), ¬ v.HasFileAt names) ∧
          (SaysStart (Text.trim link) ∨
            ∀ rest, ¬ v.EndsWith (Path.ofText (Text.trim link)) rest))) ∧
    ∀ v' : Vault, v'.root = v.root → v'.excluded = v.excluded →
      v'.disk.entries.Perm v.disk.entries → v'.resolveLink link source = .ok found := by
  refine ⟨fun hempty => ?_, fun hne => ?_, fun v' hroot hexcluded hperm => ?_⟩
  · rw [resolveLink_eq, hempty] at h
    exact (Except.ok.inj h).symm
  · rw [resolveLink_eq, if_neg (fun hempty => hne (List.isEmpty_iff.1 hempty)),
      candidates_eq_lookups] at h
    generalize Text.trim link = link at hne h ⊢
    obtain ⟨first, hfirst, h⟩ := Outcome.bind_eq_ok.1 h
    cases first with
    | some q =>
      cases h
      have hq : v.IsFirstFile (lookups source link) q := (eq_some_of_firstFile_iff hfirst).1 rfl
      obtain ⟨names, hmem, hfile⟩ := exists_isFirstFile_iff.1 ⟨q, hq⟩
      refine ⟨fun p => ?_, ?_⟩
      · rw [← eq_some_of_firstFile_iff hfirst]
        exact ⟨Or.inl, fun h => h.resolve_right fun ⟨hnone, _⟩ => hnone names hmem hfile⟩
      · exact ⟨fun h => (by cases h), fun h => absurd hfile (h.1 names hmem)⟩
    | none =>
      have hmissed : ∀ names ∈ lookups source link, ¬ v.HasFileAt names := by
        intro names hmem hfile
        obtain ⟨p, hp⟩ := exists_isFirstFile_iff.2 ⟨names, hmem, hfile⟩
        cases (eq_some_of_firstFile_iff hfirst).2 hp
      have hno : ∀ p, ¬ v.IsFirstFile (lookups source link) p := fun p hp => by
        cases (eq_some_of_firstFile_iff hfirst).2 hp
      dsimp only at h
      split at h
      · next hstart =>
        cases h
        have hstart := isAnchored_iff.1 hstart
        refine ⟨fun p => ?_, ?_⟩
        · exact ⟨fun h => (by cases h),
            fun h => h.elim (fun hp => absurd hp (hno p)) fun h => absurd hstart h.2.1⟩
        · exact ⟨fun _ => ⟨hmissed, Or.inl hstart⟩, fun _ => rfl⟩
      · next hstart =>
        have hstart : ¬ SaysStart link := fun hsays => hstart (isAnchored_iff.2 hsays)
        refine ⟨fun p => ?_, ?_⟩
        · rw [hv.eq_some_of_search_iff h]
          exact ⟨fun hbest => Or.inr ⟨hmissed, hstart, hbest⟩,
            fun h => h.elim (fun hp => absurd hp (hno p)) fun h => h.2.2⟩
        · rw [hv.eq_none_of_search_iff h]
          exact ⟨fun hnone => ⟨hmissed, Or.inr hnone⟩, fun h => h.2.resolve_left hstart⟩
  · rw [hv.resolveLink_perm hroot hexcluded hperm, h]

/-- A vault with three files of one name, one of them in an excluded folder, and a file that the
    name would stand for if it were a pattern. -/
def bracketed : Vault :=
  { root := [Text.of "v"], excluded := usualExcluded, history := [],
    disk := ⟨[([Text.of "v"], .folder), ([Text.of "v", Text.of "a1.py"], .file []),
      ([Text.of "v", Text.of ".obsidian"], .folder),
      ([Text.of "v", Text.of ".obsidian", Text.of "a[1]*"], .file []),
      ([Text.of "v", Text.of "z"], .folder), ([Text.of "v", Text.of "z", Text.of "a[1]*"], .file []),
      ([Text.of "v", Text.of "x"], .folder),
      ([Text.of "v", Text.of "x", Text.of "a[1]*"], .file [])]⟩ }

theorem resolveLink_spec_bracketed :
    bracketed.IsSound ∧
    bracketed.resolveLink (Text.of " a[1]*") (Text.of "n.md") =
      .ok (some [Text.of "v", Text.of "x", Text.of "a[1]*"]) ∧
    bracketed.IsBestEnding [Text.of "a[1]*"] [Text.of "x", Text.of "a[1]*"] := by
  have hv : bracketed.IsSound := ⟨by decide +kernel, by decide +kernel⟩
  have hfound : bracketed.resolveLink (Text.of " a[1]*") (Text.of "n.md") =
      .ok (some [Text.of "v", Text.of "x", Text.of "a[1]*"]) :=
    Outcome.eq_ok_of_toOption (by decide +kernel)
  have htrim : Text.trim (Text.of " a[1]*") = Text.of "a[1]*" := by decide +kernel
  have hnames : Path.ofText (Text.of "a[1]*") = [Text.of "a[1]*"] := by decide +kernel
  have hnowhere : bracketed.firstFile (lookups (Text.of "n.md") (Text.of "a[1]*")) = .ok none :=
    Outcome.eq_ok_of_toOption (by decide +kernel)
  obtain ⟨-, hspec, -⟩ := resolveLink_spec hv hfound
  rw [htrim, hnames] at hspec
  obtain ⟨hsome, -⟩ := hspec (by decide)
  rcases (hsome _).1 rfl with hfirst | ⟨-, -, rest, hbest, hrest⟩
  · cases (eq_some_of_firstFile_iff hnowhere).2 hfirst
  · obtain rfl : rest = [Text.of "x", Text.of "a[1]*"] := (List.cons.inj hrest).2.symm
    exact ⟨hv, hfound, hbest⟩

end Vault

end TemplatedNotes
