/-
  TemplatedNotes/Proofs/Vault/Link.lean
  =====================================
  **When a link cannot be looked up.**

  A link is looked up at one place after the other.  A lookup that finds nothing goes on; one that
  fails ends the search, and only a place outside the vault counts as finding nothing.  So a link
  fails at the first place that cannot be looked at (`firstFile_eq_error_iff`), and one that was
  found nowhere may still fail in the last search, by the end of a path: a link of one dot has no
  last name there, and a last name may be too long to be asked for (`search_eq_error_iff`).

    * `IsBlocked`, `Obstacle` — what stands in the way of a place, and of a link;
    * `resolveLink_eq_error_iff` — a link fails exactly where there is an obstacle;
    * `exists_resolveLink` — names that files can have, and paths that are not too long, are none.
-/
import TemplatedNotes.Proofs.Vault.Inside

namespace TemplatedNotes.Vault

variable {v : Vault} {link source : Text} {names p : Path} {f : Failure}

/-! ### One place -/

/-- What stands in the way of a place: a name on the way that no file can have, or in the vault a
    name or a whole path that is too long. -/
inductive IsBlocked (v : Vault) (names : Path) : Failure → Prop where
  | name {pre : Path} {name : Text} {post : Path} {f : Failure} (split : names = pre ++ name :: post)
      (usable : ∀ n ∈ pre, Path.IsUsable n)
      (check : Path.checkName (pre.foldl Path.climb v.root) name = .error f) : IsBlocked v names f
  | length (usable : ∀ n ∈ names, Path.IsUsable n)
      (inside : v.root <+: names.foldl Path.climb v.root)
      (look : v.disk.look (names.foldl Path.climb v.root) = .error .nameTooLong) :
      IsBlocked v names
        (.file .nameTooLong (Path.absoluteText (names.foldl Path.climb v.root)))

/-- The file that stands in the vault where some names lead, if there is one. -/
def fileAt (v : Vault) (names : Path) : Outcome (Option Path) := do
  let p ← Path.resolve v.root names
  if (v.inside? p).isSome then
    if ← v.disk.isFile p then return some p else return none
  else return none

theorem firstFile_cons_eq (v : Vault) (names : Path) (rest : List Path) :
    v.firstFile (names :: rest) = v.fileAt names >>= fun found =>
      match found with
      | some p => .ok (some p)
      | none => v.firstFile rest := by
  rw [firstFile_cons, fileAt, bind_assoc]
  congr 1
  funext p
  split
  · rw [bind_assoc]
    congr 1
    funext b
    cases b <;> rfl
  · rfl

theorem isFile_eq_error_iff {d : Disk} :
    d.isFile p = .error f ↔
      d.look p = .error .nameTooLong ∧ f = .file .nameTooLong (Path.absoluteText p) := by
  unfold Disk.isFile
  constructor
  · intro h
    split at h
    · cases h
    · cases h
    · next hlook =>
      cases h
      exact ⟨hlook, rfl⟩
    · cases h
  · rintro ⟨hlook, rfl⟩
    rw [hlook]

/-- **A place fails exactly where something stands in its way.** -/
theorem fileAt_eq_error_iff : v.fileAt names = .error f ↔ v.IsBlocked names f := by
  unfold fileAt
  rw [Outcome.bind_eq_error]
  constructor
  · rintro (h | ⟨p, hp, h⟩)
    · obtain ⟨pre, name, post, hsplit, husable, hcheck⟩ := Path.resolve_eq_error_iff.1 h
      exact .name hsplit husable hcheck
    · obtain ⟨husable, rfl⟩ := Path.resolve_eq_ok_iff.1 hp
      split at h
      · next hinside =>
        obtain ⟨rest, hrest⟩ := Option.isSome_iff_exists.1 hinside
        rcases Outcome.bind_eq_error.1 h with h | ⟨b, -, h⟩
        · obtain ⟨hlook, rfl⟩ := isFile_eq_error_iff.1 h
          exact .length husable ⟨rest, (inside?_eq_some_iff.1 hrest).symm⟩ hlook
        · cases b <;> cases h
      · cases h
  · intro h
    cases h with
    | name hsplit husable hcheck =>
      exact Or.inl (Path.resolve_eq_error_iff.2 ⟨_, _, _, hsplit, husable, hcheck⟩)
    | length husable hinside hlook =>
      obtain ⟨rest, hrest⟩ := hinside
      refine Or.inr ⟨_, Path.resolve_eq_ok_iff.2 ⟨husable, rfl⟩, ?_⟩
      rw [if_pos (by rw [inside?_eq_some_iff.2 hrest.symm]; rfl)]
      exact Outcome.bind_eq_error.2 (Or.inl (isFile_eq_error_iff.2 ⟨hlook, rfl⟩))

/-! ### One place after the other -/

/-- The places tried fail with the first one that fails, if those before it find nothing. -/
theorem firstFile_eq_error_iff {tried : List Path} :
    v.firstFile tried = .error f ↔
      ∃ pre names post, tried = pre ++ names :: post ∧ (∀ n ∈ pre, v.fileAt n = .ok none) ∧
        v.IsBlocked names f := by
  induction tried with
  | nil =>
    constructor
    · intro h
      cases h
    · rintro ⟨pre, names, post, h, -⟩
      simp at h
  | cons first rest ih =>
    rw [firstFile_cons_eq, Outcome.bind_eq_error]
    constructor
    · rintro (h | ⟨found, hfirst, h⟩)
      · exact ⟨[], first, rest, rfl, by simp, fileAt_eq_error_iff.1 h⟩
      · cases found with
        | some p => cases h
        | none =>
          obtain ⟨pre, names, post, rfl, hpre, hnames⟩ := ih.1 h
          exact ⟨first :: pre, names, post, rfl, List.forall_mem_cons.2 ⟨hfirst, hpre⟩, hnames⟩
    · rintro ⟨pre, names, post, hsplit, hpre, hnames⟩
      cases pre with
      | nil =>
        cases hsplit
        exact Or.inl (fileAt_eq_error_iff.2 hnames)
      | cons n pre =>
        cases hsplit
        obtain ⟨hfirst, hpre⟩ := List.forall_mem_cons.1 hpre
        exact Or.inr ⟨none, hfirst, ih.2 ⟨pre, names, post, rfl, hpre, hnames⟩⟩

theorem firstFile_eq_none_iff {tried : List Path} :
    v.firstFile tried = .ok none ↔ ∀ names ∈ tried, v.fileAt names = .ok none := by
  induction tried with
  | nil => simp [firstFile]
  | cons first rest ih =>
    rw [firstFile_cons_eq, Outcome.bind_eq_ok, List.forall_mem_cons, ← ih]
    constructor
    · rintro ⟨found, hfirst, h⟩
      cases found with
      | some p => cases h
      | none => exact ⟨hfirst, h⟩
    · rintro ⟨hfirst, h⟩
      exact ⟨none, hfirst, h⟩

/-! ### The end of a path -/

/-- A link that may be searched for has a name, unless it is one dot. -/
theorem ofText_eq_nil_iff (hne : link ≠ []) (hanchor : isAnchored link = false) :
    Path.ofText link = [] ↔ link = Path.dot := by
  constructor
  · intro h
    have hpieces : ∀ piece ∈ Path.pieces link, piece = [] ∨ piece = Path.dot := by
      intro piece hpiece
      by_contra hno
      have hmem : piece ∈ Path.ofText link := by
        rw [Path.ofText, List.mem_filter]
        rw [not_or] at hno
        simpa using ⟨hpiece, hno⟩
      rw [h] at hmem
      cases hmem
    by_cases hslash : CodePoint.scalar '/' ∈ link
    · -- the first piece is empty or a dot, and the slash behind it anchors the link
      exfalso
      obtain ⟨first, rest, rfl, hfirst⟩ := List.eq_append_cons_of_mem hslash
      rw [Path.pieces_append_slash hfirst] at hpieces
      rcases hpieces first List.mem_cons_self with rfl | rfl
      · simp [isAnchored, Path.isAbsolute] at hanchor
      · simp [isAnchored, Path.dot, Text.of] at hanchor
    · rw [Path.pieces_of_not_mem hslash] at hpieces
      rcases hpieces link (List.mem_singleton_self link) with h | h
      · exact absurd h hne
      · exact h
  · rintro rfl
    decide

theorem search_eq_error_iff (hne : link ≠ []) (hanchor : isAnchored link = false) :
    v.search link = .error f ↔
      (link = Path.dot ∧ f = .emptyLink) ∨
      ∃ name, (Path.ofText link).getLast? = some name ∧ Disk.maxName < Path.byteLength name ∧
        name.any isPatternMark = false ∧
        f = .file .nameTooLong (Path.absoluteText (v.root ++ [name])) := by
  rw [← ofText_eq_nil_iff hne hanchor]
  unfold search
  dsimp only
  constructor
  · intro h
    split at h
    · next hlast =>
      cases h
      exact Or.inl ⟨List.getLast?_eq_none_iff.1 hlast, rfl⟩
    · next name hlast =>
      split at h
      · next hlong =>
        cases h
        rw [Bool.and_eq_true, decide_eq_true_eq, Bool.not_eq_true'] at hlong
        exact Or.inr ⟨name, hlast, hlong.1, hlong.2, rfl⟩
      · cases h
  · rintro (⟨hnil, rfl⟩ | ⟨name, hlast, hlong, hmark, rfl⟩)
    · rw [hnil]
      rfl
    · rw [hlast]
      dsimp only
      rw [if_pos]
      rw [Bool.and_eq_true, decide_eq_true_eq, Bool.not_eq_true']
      exact ⟨hlong, hmark⟩

/-! ### The whole search -/

/-- What stands in the way of a link: something in the way of a place where it is looked for
    before it is found; or, when it is found at none of them and may be searched for, that it is
    one dot, or that its last name is too long and is to be asked for as it is. -/
inductive Obstacle (v : Vault) (source link : Text) : Failure → Prop where
  | place {pre post : List Path} {names : Path} {f : Failure}
      (split : candidates link source = pre ++ names :: post)
      (missed : ∀ n ∈ pre, v.fileAt n = .ok none) (blocked : v.IsBlocked names f) :
      Obstacle v source link f
  | dot (missed : ∀ n ∈ candidates link source, v.fileAt n = .ok none)
      (eq_dot : link = Path.dot) : Obstacle v source link .emptyLink
  | lastName {name : Text} (missed : ∀ n ∈ candidates link source, v.fileAt n = .ok none)
      (searched : isAnchored link = false) (last : (Path.ofText link).getLast? = some name)
      (long : Disk.maxName < Path.byteLength name) (unmarked : name.any isPatternMark = false) :
      Obstacle v source link (.file .nameTooLong (Path.absoluteText (v.root ++ [name])))

/-- **A link fails exactly where there is an obstacle.** -/
theorem resolveLink_eq_error_iff :
    v.resolveLink link source = .error f ↔
      Text.trim link ≠ [] ∧ v.Obstacle source (Text.trim link) f := by
  rw [resolveLink_eq]
  by_cases hempty : Text.trim link = []
  · rw [hempty]
    constructor
    · intro h
      cases h
    · rintro ⟨h, -⟩
      exact absurd rfl h
  · rw [if_neg (fun h => hempty (List.isEmpty_iff.1 h)), Outcome.bind_eq_error]
    generalize Text.trim link = link at hempty ⊢
    constructor
    · intro h
      refine ⟨hempty, ?_⟩
      rcases h with h | ⟨found, hfirst, h⟩
      · obtain ⟨pre, names, post, hsplit, hpre, hnames⟩ := firstFile_eq_error_iff.1 h
        exact .place hsplit hpre hnames
      · cases found with
        | some p => cases h
        | none =>
          have hmissed := firstFile_eq_none_iff.1 hfirst
          dsimp only at h
          split at h
          · cases h
          · next hanchor =>
            rw [Bool.not_eq_true] at hanchor
            rcases (search_eq_error_iff hempty hanchor).1 h with
              ⟨hdot, rfl⟩ | ⟨name, hlast, hlong, hmark, rfl⟩
            · exact .dot hmissed hdot
            · exact .lastName hmissed hanchor hlast hlong hmark
    · rintro ⟨-, h⟩
      cases h with
      | place hsplit hpre hnames =>
        exact Or.inl (firstFile_eq_error_iff.2 ⟨_, _, _, hsplit, hpre, hnames⟩)
      | dot hmissed hdot =>
        have hanchor : isAnchored link = false := by
          rw [hdot]
          decide
        refine Or.inr ⟨none, firstFile_eq_none_iff.2 hmissed, ?_⟩
        dsimp only
        rw [hanchor]
        exact (search_eq_error_iff hempty hanchor).2 (Or.inl ⟨hdot, rfl⟩)
      | lastName hmissed hanchor hlast hlong hmark =>
        refine Or.inr ⟨none, firstFile_eq_none_iff.2 hmissed, ?_⟩
        dsimp only
        rw [hanchor]
        exact (search_eq_error_iff hempty hanchor).2
          (Or.inr ⟨_, hlast, hlong, hmark, rfl⟩)

/-! ### Links without obstacles -/

/-- Walking stops at a name that is too long only if there is one on the way. -/
theorem walk_ne_nameTooLong {d : Disk} {done rest : Path}
    (h : ∀ name ∈ rest, Path.byteLength name ≤ Disk.maxName) :
    d.walk done rest ≠ .error .nameTooLong := by
  induction rest generalizing done with
  | nil =>
    rw [Disk.walk_nil]
    cases d.find? done <;> simp
  | cons name rest ih =>
    obtain ⟨hname, hrest⟩ := List.forall_mem_cons.1 h
    rw [Disk.walk_cons]
    split
    · rw [if_neg (Nat.not_lt.2 hname)]
      exact ih hrest
    · simp
    · simp

theorem not_isBlocked (hroot : ∀ name ∈ v.root, Path.byteLength name ≤ Disk.maxName)
    (hnames : ∀ name ∈ names, Path.IsUsable name ∧ Path.byteLength name ≤ Disk.maxName)
    (hlength : Path.byteLength (Path.absoluteText (names.foldl Path.climb v.root)) < Disk.maxPath) :
    ¬ v.IsBlocked names f := by
  intro h
  cases h with
  | @name pre name post _ hsplit _ hcheck =>
    have hmem : name ∈ names := by
      rw [hsplit]
      simp
    rw [Path.checkName_eq_ok_iff.2 (hnames name hmem).1] at hcheck
    cases hcheck
  | length _ _ hlook =>
    rw [Disk.look, if_neg (Nat.not_le.2 hlength)] at hlook
    apply walk_ne_nameTooLong _ hlook
    intro name hname
    rcases Path.mem_drop_foldl_climb (k := 0) hname with hname | ⟨hname, -⟩
    · exact hroot name hname
    · exact (hnames name hname).2

/-- Every place where a link is looked for is named with the names of the link. -/
theorem mem_of_mem_candidates (hnames : names ∈ candidates link source) {name : Text}
    (hname : name ∈ Path.ofText link) : name ∈ names := by
  unfold candidates at hnames
  split at hnames
  · rwa [List.mem_singleton.1 hnames]
  · split at hnames
    · rw [List.mem_singleton.1 hnames]
      exact List.mem_append_right _ hname
    · rcases List.mem_cons.1 hnames with rfl | hnames
      · exact List.mem_append_right _ hname
      · rwa [List.mem_singleton.1 hnames]

theorem exists_mem_candidates (link source : Text) : ∃ names, names ∈ candidates link source := by
  unfold candidates
  split
  · exact ⟨_, List.mem_cons_self⟩
  · split
    · exact ⟨_, List.mem_cons_self⟩
    · exact ⟨_, List.mem_cons_self⟩

/-- **A link of names that files can have is looked up without a failure**, if it is not one dot
    and no path that it leads to is too long. -/
theorem exists_resolveLink (hroot : ∀ name ∈ v.root, Path.byteLength name ≤ Disk.maxName)
    (hplaces : ∀ names ∈ candidates (Text.trim link) source,
      (∀ name ∈ names, Path.IsUsable name ∧ Path.byteLength name ≤ Disk.maxName) ∧
        Path.byteLength (Path.absoluteText (names.foldl Path.climb v.root)) < Disk.maxPath)
    (hdot : Text.trim link ≠ Path.dot) : ∃ found, v.resolveLink link source = .ok found := by
  cases h : v.resolveLink link source with
  | ok found => exact ⟨found, rfl⟩
  | error f =>
    exfalso
    obtain ⟨-, hobstacle⟩ := resolveLink_eq_error_iff.1 h
    cases hobstacle with
    | @place pre post names _ hsplit _ hblocked =>
      have hmem : names ∈ candidates (Text.trim link) source := by
        rw [hsplit]
        simp
      exact not_isBlocked hroot (hplaces names hmem).1 (hplaces names hmem).2 hblocked
    | dot _ heq => exact hdot heq
    | @lastName name _ _ hlast hlong _ =>
      obtain ⟨names, hnames⟩ := exists_mem_candidates (Text.trim link) source
      have hmem := mem_of_mem_candidates hnames (List.mem_of_getLast? hlast)
      exact absurd ((hplaces names hnames).1 name hmem).2 (Nat.not_le.2 hlong)

end TemplatedNotes.Vault
