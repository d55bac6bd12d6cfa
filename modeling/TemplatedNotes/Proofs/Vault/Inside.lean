/-
  TemplatedNotes/Proofs/Vault/Inside.lean
  =======================================
  **Nothing outside the vault can be reached.**

  A path from the vault's folder is walked name by name and the place where it ends is compared
  with the folder, name by name too.  So a place that is found is the folder itself or lies below
  it under plain names (`absolute_eq_ok_iff`), whatever dots and slashes the path was written with;
  a folder beside the vault whose name begins like the vault's is outside
  (`absolute_of_sibling`).

    * `IsBelow` — a place below the vault's folder;
    * `AgreesInside` — two vaults with the same folder that cannot be told apart from inside;
    * `confined` — reading, writing and finding links touch nothing but places below the folder.
-/
import TemplatedNotes.Proofs.Vault.Tree
import TemplatedNotes.Proofs.Vault.Write
import TemplatedNotes.Vault.Link

namespace TemplatedNotes

/-! ### What lies below a folder -/

namespace Disk

variable {d : Disk} {folder rest : Path} {e : Entry}

theorem mem_below_iff :
    (rest, e) ∈ d.below folder ↔ rest ≠ [] ∧ (folder ++ rest, e) ∈ d.entries := by
  unfold below
  rw [List.mem_filterMap]
  constructor
  · rintro ⟨⟨p, e'⟩, hp, h⟩
    split at h
    · next hbelow =>
      cases h
      rw [Bool.and_eq_true, List.isPrefixOf_iff_prefix, decide_eq_true_eq] at hbelow
      obtain ⟨⟨rest, rfl⟩, hlength⟩ := hbelow
      rw [List.length_append] at hlength
      rw [List.drop_left]
      refine ⟨?_, hp⟩
      rintro rfl
      simp at hlength
    · cases h
  · rintro ⟨hne, h⟩
    refine ⟨_, h, ?_⟩
    have hlength := List.length_pos_iff.2 hne
    simp [hlength]

theorem IsTree.isPlain_of_mem_below (hd : d.IsTree) {x : Path × Entry} (h : x ∈ d.below folder) :
    ∀ name ∈ x.1, Path.IsPlain name := by
  intro name hname
  exact hd.plain _ _ (mem_below_iff.1 h).2 name (List.mem_append_right _ hname)

/-- What stands below a folder is listed there once, if it is on the disk. -/
theorem pairwise_below (h : (d.entries.map (·.1)).Nodup) (folder : Path) :
    (d.below folder).Pairwise (fun x y => x.1 ≠ y.1) := by
  refine List.Pairwise.filterMap _ (fun x y hne a ha b hb => ?_) (List.pairwise_map.1 h)
  simp only [Option.ite_none_right_eq_some, Bool.and_eq_true, List.isPrefixOf_iff_prefix,
    Option.some.injEq] at ha hb
  obtain ⟨⟨⟨rest, hrest⟩, -⟩, rfl⟩ := ha
  obtain ⟨⟨⟨rest', hrest'⟩, -⟩, rfl⟩ := hb
  rw [← hrest, ← hrest'] at hne ⊢
  simpa using hne

/-- What stands below a folder is found in the list of what is below it. -/
theorem find?_append (d : Disk) (folder : Path) (hne : rest ≠ []) :
    d.find? (folder ++ rest) = ((d.below folder).find? (fun x => x.1 == rest)).map (·.2) := by
  have hlength := List.length_pos_iff.2 hne
  have hempty : ¬ (folder ++ rest).isEmpty = true := by simp [hne]
  unfold find? below
  rw [if_neg hempty]
  induction d.entries with
  | nil => rfl
  | cons x more ih =>
    rw [List.find?_cons, List.filterMap_cons]
    by_cases hx : folder.isPrefixOf x.1 = true ∧ folder.length < x.1.length
    · obtain ⟨names, hnames⟩ := List.isPrefixOf_iff_prefix.1 hx.1
      have hsame : (x.1 == folder ++ rest) = (x.1.drop folder.length == rest) := by
        rw [Bool.eq_iff_iff, beq_iff_eq, beq_iff_eq, ← hnames, List.drop_left,
          List.append_cancel_left_eq]
      rw [if_pos (by simpa using hx), hsame, List.find?_cons]
      cases x.1.drop folder.length == rest with
      | true => rfl
      | false => exact ih
    · have hne : (x.1 == folder ++ rest) = false := by
        rw [beq_eq_false_iff_ne]
        intro he
        apply hx
        rw [he]
        simp [hlength]
      rw [if_neg (by simpa using hx), hne]
      exact ih

end Disk

namespace Vault

variable {v v' : Vault} {path link source text : Text} {p q : Path} {names : Path}

/-! ### Places in the vault -/

/-- A place below the vault's folder: some plain names further down. -/
def IsBelow (v : Vault) (p : Path) : Prop :=
  ∃ rest, rest ≠ [] ∧ p = v.root ++ rest ∧ ∀ name ∈ rest, Path.IsPlain name

/-- A vault on a disk whose entries hang together, in a folder that is there. -/
structure IsSound (v : Vault) : Prop where
  tree : v.disk.IsTree
  root : v.disk.find? v.root = some .folder

theorem inside?_eq_some_iff {rest : Path} : v.inside? p = some rest ↔ p = v.root ++ rest := by
  unfold inside?
  constructor
  · intro h
    split at h
    · next hprefix =>
      cases h
      obtain ⟨rest, rfl⟩ := List.isPrefixOf_iff_prefix.1 hprefix
      rw [List.drop_left]
    · cases h
  · rintro rfl
    rw [if_pos (List.isPrefixOf_iff_prefix.2 (List.prefix_append _ _)), List.drop_left]

/-- The end of a walk is taken if it is in the vault, and refused by the path walked otherwise. -/
theorem absolute_of_resolve (h : Path.resolve v.root (Path.ofText path) = .ok p) :
    v.absolute path = if v.root.isPrefixOf p then .ok p else .error (.path (.outside path)) := by
  unfold absolute inside?
  rw [h]
  dsimp only [bind, Except.bind]
  cases v.root.isPrefixOf p <;> rfl

/-- **The place of a path**: where its names lead, if that is in the vault. -/
theorem absolute_eq_ok_iff :
    v.absolute path = .ok p ↔
      (∀ name ∈ Path.ofText path, Path.IsUsable name) ∧
        p = (Path.ofText path).foldl Path.climb v.root ∧ v.root <+: p := by
  constructor
  · intro h
    obtain ⟨q, hq, -⟩ := Outcome.bind_eq_ok.1 h
    obtain ⟨husable, rfl⟩ := Path.resolve_eq_ok_iff.1 hq
    rw [absolute_of_resolve hq] at h
    split at h
    · next hprefix =>
      cases h
      exact ⟨husable, rfl, List.isPrefixOf_iff_prefix.1 hprefix⟩
    · cases h
  · rintro ⟨husable, rfl, hprefix⟩
    rw [absolute_of_resolve (Path.resolve_eq_ok_iff.2 ⟨husable, rfl⟩),
      if_pos (List.isPrefixOf_iff_prefix.2 hprefix)]

/-- A path that leads out of the vault is refused as such. -/
theorem absolute_of_not_prefix (husable : ∀ name ∈ Path.ofText path, Path.IsUsable name)
    (hout : ¬ v.root <+: (Path.ofText path).foldl Path.climb v.root) :
    v.absolute path = .error (.path (.outside path)) := by
  rw [absolute_of_resolve (Path.resolve_eq_ok_iff.2 ⟨husable, rfl⟩),
    if_neg (fun h => hout (List.isPrefixOf_iff_prefix.1 h))]

/-- A folder beside the vault is outside, also when its name begins like the vault's. -/
theorem absolute_of_sibling {parent : Path} {name suffix : Text} {rest : Path}
    (hroot : v.root = parent ++ [name]) (hsuffix : suffix ≠ [])
    (husable : ∀ n ∈ Path.ofText path, Path.IsUsable n)
    (hend : (Path.ofText path).foldl Path.climb v.root = parent ++ (name ++ suffix) :: rest) :
    v.absolute path = .error (.path (.outside path)) := by
  apply absolute_of_not_prefix husable
  rw [hend, hroot, List.prefix_append_right_inj, List.cons_prefix_cons]
  rintro ⟨hname, -⟩
  exact hsuffix (List.self_eq_append_right.1 hname)

/-- Where the names of texts lead in the vault, only plain names come behind its folder. -/
theorem isPlain_of_climb {rest : Path} (hnames : ∀ name ∈ names, name ≠ Path.dots → Path.IsPlain name)
    (h : names.foldl Path.climb v.root = v.root ++ rest) : ∀ name ∈ rest, Path.IsPlain name := by
  intro name hname
  have hdrop : name ∈ (names.foldl Path.climb v.root).drop v.root.length := by
    rwa [h, List.drop_left]
  rcases Path.mem_drop_foldl_climb hdrop with hroot | ⟨hmem, hne⟩
  · simp at hroot
  · exact hnames name hmem hne

/-- A place that is found by its path is the vault's folder or below it. -/
theorem eq_root_or_isBelow_of_absolute (h : v.absolute path = .ok p) : p = v.root ∨ v.IsBelow p := by
  obtain ⟨-, rfl, rest, hrest⟩ := absolute_eq_ok_iff.1 h
  by_cases hnil : rest = []
  · left
    rw [← hrest, hnil, List.append_nil]
  · exact Or.inr ⟨rest, hnil, hrest.symm, isPlain_of_climb
      (fun name hname => Path.isPlain_of_mem_ofText hname) hrest.symm⟩

/-- The vault's folder is no file, so a file in the vault is below it. -/
theorem IsSound.isBelow_of_find? (hv : v.IsSound) (hp : p = v.root ∨ v.IsBelow p)
    (hfile : v.disk.find? p ≠ some .folder) : v.IsBelow p := by
  rcases hp with rfl | hp
  · exact absurd hv.root hfile
  · exact hp

theorem IsSound.isPlain_of_isBelow (hv : v.IsSound) (hp : v.IsBelow p) :
    ∀ name ∈ p, Path.IsPlain name := by
  obtain ⟨rest, -, rfl, hrest⟩ := hp
  intro name hname
  rcases List.mem_append.1 hname with hname | hname
  · have hroot := Disk.mem_of_find? (List.ne_nil_of_mem hname) hv.root
    exact hv.tree.plain _ _ hroot name hname
  · exact hrest name hname

/-! ### Reading and writing -/

/-- A note that is read is a file below the vault's folder. -/
theorem IsSound.isBelow_of_read (hv : v.IsSound) (h : v.read path = .ok text) :
    ∃ p b, v.absolute path = .ok p ∧ v.IsBelow p ∧ v.disk.look p = .ok (.file b) := by
  obtain ⟨p, b, hp, hb⟩ := bytes_of_read h
  unfold Disk.bytes at hb
  split at hb
  · next b hlook =>
    have hfile : v.disk.find? p ≠ some .folder := by
      rw [Disk.find?_of_look hlook]
      simp
    exact ⟨p, b, hp, hv.isBelow_of_find? (eq_root_or_isBelow_of_absolute hp) hfile, hlook⟩
  · cases hb
  · cases hb

/-- **What a write changes**: nothing, or the file below the vault's folder that it is for. -/
theorem IsSound.disk_of_modify (hv : v.IsSound) {content : Text} {r : Outcome Unit}
    (h : (modify path content).run.run v = (r, v')) :
    v'.root = v.root ∧ v'.excluded = v.excluded ∧ (v'.disk = v.disk ∨ ∃ p b,
      v.absolute path = .ok p ∧ v.IsBelow p ∧ v.disk.openable p = .ok () ∧
        v'.disk = v.disk.put p (.file b)) := by
  rw [run_modify] at h
  split at h
  · cases h
    exact ⟨rfl, rfl, Or.inl rfl⟩
  · next p hp =>
    cases hopen : v.disk.openable p with
    | error g =>
      rw [Disk.writeText, hopen] at h
      cases h
      exact ⟨rfl, rfl, Or.inl rfl⟩
    | ok u =>
      obtain ⟨-, -, -, -, -, -, hfile⟩ := Disk.exists_of_openable hopen
      have hbelow := hv.isBelow_of_find? (eq_root_or_isBelow_of_absolute hp) hfile
      rw [Disk.writeText, hopen] at h
      cases hencode : Utf8.encode? content with
      | none =>
        simp only [hencode] at h
        cases h
        exact ⟨rfl, rfl, Or.inr ⟨p, [], hp, hbelow, hopen, rfl⟩⟩
      | some b =>
        simp only [hencode] at h
        cases h
        exact ⟨rfl, rfl, Or.inr ⟨p, b, hp, hbelow, hopen, rfl⟩⟩

/-- A write leaves a sound vault. -/
theorem IsSound.of_modify (hv : v.IsSound) {content : Text} {r : Outcome Unit}
    (h : (modify path content).run.run v = (r, v')) : v'.IsSound := by
  obtain ⟨hroot, -, hdisk | ⟨p, b, -, hbelow, hopen, hdisk⟩⟩ := hv.disk_of_modify h
  · exact ⟨hdisk ▸ hv.tree, by rw [hdisk, hroot, hv.root]⟩
  · have hne : v.root ≠ p := by
      obtain ⟨rest, hrest, rfl, -⟩ := hbelow
      intro he
      exact hrest (List.self_eq_append_right.1 he)
    refine ⟨?_, ?_⟩
    · rw [hdisk]
      exact hv.tree.put_file hopen (hv.isPlain_of_isBelow hbelow) b
    · rw [hdisk, hroot, Disk.find?_put_of_ne _ hne, hv.root]

/-- What a write has changed is a file below the vault's folder. -/
theorem IsSound.isBelow_of_find?_ne (hv : v.IsSound) {content : Text} {r : Outcome Unit}
    (h : (modify path content).run.run v = (r, v')) (hq : v'.disk.find? q ≠ v.disk.find? q) :
    v.absolute path = .ok q ∧ v.IsBelow q ∧ ∃ b, v'.disk.find? q = some (.file b) := by
  obtain ⟨-, -, hdisk | ⟨p, b, hp, hbelow, hopen, hdisk⟩⟩ := hv.disk_of_modify h
  · rw [hdisk] at hq
    exact absurd rfl hq
  · obtain rfl : q = p := by
      by_contra hne
      rw [hdisk, Disk.find?_put_of_ne _ hne] at hq
      exact hq rfl
    have hnil : q ≠ [] := by
      obtain ⟨rest, hrest, rfl, -⟩ := hbelow
      simp [hrest]
    refine ⟨hp, hbelow, b, ?_⟩
    rw [hdisk, Disk.find?_put _ hnil]

theorem absolute_congr (h : v'.root = v.root) (path : Text) :
    v'.absolute path = v.absolute path := by
  unfold absolute inside?
  rw [h]

theorem textAt_eq_ok_iff :
    v.textAt p = .ok text ↔ ∃ b, v.disk.bytes p = .ok b ∧ Utf8.decode b = .ok text := by
  unfold textAt
  rw [Outcome.bind_eq_ok]
  refine exists_congr (fun b => and_congr_right (fun _ => ?_))
  cases Utf8.decode b with
  | ok t =>
    constructor
    · rintro ⟨⟩
      rfl
    · rintro ⟨⟩
      rfl
  | error f =>
    constructor
    · rintro ⟨⟩
    · rintro ⟨⟩

/-- A note can be read if there are bytes at its place that are the text in UTF-8. -/
theorem read_eq_ok_iff :
    v.read path = .ok text ↔
      ∃ p b, v.absolute path = .ok p ∧ v.disk.bytes p = .ok b ∧ Utf8.decode b = .ok text := by
  unfold read
  rw [Outcome.bind_eq_ok]
  constructor
  · rintro ⟨p, hp, h⟩
    obtain ⟨b, hb, htext⟩ := textAt_eq_ok_iff.1 h
    exact ⟨p, b, hp, hb, htext⟩
  · rintro ⟨p, b, hp, hb, htext⟩
    exact ⟨p, hp, textAt_eq_ok_iff.2 ⟨b, hb, htext⟩⟩

/-- A write for one note leaves the text of every other one. -/
theorem IsSound.read_of_modify (hv : v.IsSound) {other content : Text} {r : Outcome Unit}
    (h : (modify other content).run.run v = (r, v')) (hne : v.absolute other ≠ v.absolute path)
    (hread : v.read path = .ok text) : v'.read path = .ok text := by
  obtain ⟨q, b, hq, hb, htext⟩ := read_eq_ok_iff.1 hread
  obtain ⟨hroot, -, hdisk | ⟨p, c, hp, -, hopen, hdisk⟩⟩ := hv.disk_of_modify h
  · exact read_eq_ok_iff.2 ⟨q, b, by rw [absolute_congr hroot, hq], by rw [hdisk, hb], htext⟩
  · have hqp : q ≠ p := by
      rintro rfl
      exact hne (hp.trans hq.symm)
    refine read_eq_ok_iff.2 ⟨q, b, by rw [absolute_congr hroot, hq], ?_, htext⟩
    rw [hdisk]
    exact (Disk.bytes_put_of_ne hopen hqp c b).2 hb

/-! ### Finding links -/

theorem look_of_isFile {d : Disk} (h : d.isFile p = .ok true) : ∃ b, d.look p = .ok (.file b) := by
  unfold Disk.isFile at h
  split at h
  · next b hlook => exact ⟨b, hlook⟩
  · cases h
  · cases h
  · cases h

theorem firstFile_cons (v : Vault) (names : Path) (rest : List Path) :
    v.firstFile (names :: rest) = Path.resolve v.root names >>= fun p =>
      if (v.inside? p).isSome then
        v.disk.isFile p >>= fun b => if b then .ok (some p) else v.firstFile rest
      else v.firstFile rest := rfl

/-- The file that is found first is one of the places tried, in the vault. -/
theorem of_firstFile_eq_some {tried : List Path} (h : v.firstFile tried = .ok (some p)) :
    ∃ names ∈ tried, p = names.foldl Path.climb v.root ∧ v.root <+: p ∧
      ∃ b, v.disk.look p = .ok (.file b) := by
  induction tried with
  | nil => cases h
  | cons names rest ih =>
    have hlater : v.firstFile rest = .ok (some p) → ∃ n ∈ names :: rest,
        p = n.foldl Path.climb v.root ∧ v.root <+: p ∧ ∃ b, v.disk.look p = .ok (.file b) := by
      intro hrest
      obtain ⟨n, hn, h⟩ := ih hrest
      exact ⟨n, List.mem_cons_of_mem _ hn, h⟩
    rw [firstFile_cons] at h
    obtain ⟨q, hq, h⟩ := Outcome.bind_eq_ok.1 h
    obtain ⟨-, rfl⟩ := Path.resolve_eq_ok_iff.1 hq
    split at h
    · next hinside =>
      obtain ⟨b, hfile, h⟩ := Outcome.bind_eq_ok.1 h
      cases b with
      | false => exact hlater h
      | true =>
        cases h
        obtain ⟨more, hmore⟩ := Option.isSome_iff_exists.1 hinside
        exact ⟨names, List.mem_cons_self, rfl, ⟨more, (inside?_eq_some_iff.1 hmore).symm⟩,
          look_of_isFile hfile⟩
    · exact hlater h

/-- The names tried for a link are names of the link and of the path of its note. -/
theorem isPlain_of_mem_candidates (hnames : names ∈ candidates link source) :
    ∀ name ∈ names, name ≠ Path.dots → Path.IsPlain name := by
  have hlink : ∀ name ∈ Path.ofText link, name ≠ Path.dots → Path.IsPlain name :=
    fun name hname => Path.isPlain_of_mem_ofText hname
  have hnearby : ∀ name ∈ (Path.ofText source).dropLast ++ Path.ofText link,
      name ≠ Path.dots → Path.IsPlain name := by
    intro name hname
    rcases List.mem_append.1 hname with hname | hname
    · exact Path.isPlain_of_mem_ofText ((List.dropLast_prefix _).subset hname)
    · exact hlink name hname
  unfold candidates at hnames
  split at hnames
  · obtain rfl := List.mem_singleton.1 hnames
    exact hlink
  · split at hnames
    · obtain rfl := List.mem_singleton.1 hnames
      exact hnearby
    · rcases List.mem_cons.1 hnames with rfl | hnames
      · exact hnearby
      · obtain rfl := List.mem_singleton.1 hnames
        exact hlink

theorem mem_of_least {ps : List Path} (h : least ps = some p) : p ∈ ps := by
  induction ps generalizing p with
  | nil => cases h
  | cons first rest ih =>
    rw [least] at h
    split at h
    · next q hq =>
      have hmem := ih hq
      split at h
      · cases h
        exact List.mem_cons_of_mem _ hmem
      · cases h
        exact List.mem_cons_self
    · cases h
      exact List.mem_cons_self

/-- A path that ends with some names is the path of a file below the vault's folder. -/
theorem mem_endingWith {rest : Path} (h : rest ∈ v.endingWith names) :
    ∃ b, (rest, .file b) ∈ v.disk.below v.root := by
  obtain ⟨⟨r, e⟩, hmem, h⟩ := List.mem_filterMap.1 h
  dsimp only at h
  split at h
  · next b =>
    split at h
    · cases h
      exact ⟨b, hmem⟩
    · cases h
  · cases h

theorem of_search_eq_some (h : v.search link = .ok (some p)) :
    ∃ rest ∈ v.endingWith (Path.ofText link), p = v.root ++ rest := by
  unfold search at h
  dsimp only at h
  split at h
  · cases h
  · split at h
    · cases h
    · obtain ⟨rest, hrest, rfl⟩ := Option.map_eq_some_iff.1 (Except.ok.inj h)
      exact ⟨rest, mem_of_least hrest, rfl⟩

theorem resolveLink_eq (v : Vault) (link source : Text) :
    v.resolveLink link source =
      if (Text.trim link).isEmpty then .ok none
      else v.firstFile (candidates (Text.trim link) source) >>= fun found =>
        match found with
        | some p => .ok (some p)
        | none => if isAnchored (Text.trim link) then .ok none else v.search (Text.trim link) := rfl

/-- **What a link means is a file below the vault's folder**, whether it was found from the folder
    of its note, from the vault's folder or by the end of its path. -/
theorem IsSound.isBelow_of_resolveLink (hv : v.IsSound)
    (h : v.resolveLink link source = .ok (some p)) :
    v.IsBelow p ∧ ∃ b, v.disk.look p = .ok (.file b) := by
  rw [resolveLink_eq] at h
  split at h
  · cases h
  · obtain ⟨found, hfound, h⟩ := Outcome.bind_eq_ok.1 h
    split at h
    · cases h
      obtain ⟨names, hnames, hp, ⟨rest, hrest⟩, b, hlook⟩ := of_firstFile_eq_some hfound
      have hplain := isPlain_of_climb (isPlain_of_mem_candidates hnames) (hp.symm.trans hrest.symm)
      have hplace : p = v.root ∨ v.IsBelow p := by
        by_cases hnil : rest = []
        · left
          rw [← hrest, hnil, List.append_nil]
        · exact Or.inr ⟨rest, hnil, hrest.symm, hplain⟩
      refine ⟨hv.isBelow_of_find? hplace ?_, b, hlook⟩
      rw [Disk.find?_of_look hlook]
      simp
    · split at h
      · cases h
      · obtain ⟨rest, hrest, rfl⟩ := of_search_eq_some h
        obtain ⟨b, hmem⟩ := mem_endingWith hrest
        obtain ⟨hnil, hentry⟩ := Disk.mem_below_iff.1 hmem
        refine ⟨⟨rest, hnil, rfl, ?_⟩, b, hv.tree.look_of_mem hentry⟩
        intro name hname
        exact hv.tree.plain _ _ hentry name (List.mem_append_right _ hname)

/-! ### The notes -/

theorem exists_of_mem_notes (h : path ∈ v.notes) :
    ∃ rest e, (rest, e) ∈ v.disk.below v.root ∧ path = Path.text rest := by
  unfold notes at h
  rw [List.mem_mergeSort] at h
  obtain ⟨⟨rest, e⟩, hmem, rfl⟩ := List.mem_map.1 h
  exact ⟨rest, e, (List.mem_filter.1 hmem).1, rfl⟩

/-- Different notes of the list are at different places. -/
theorem IsSound.absolute_ne_of_mem_notes (hv : v.IsSound) {other : Text} (hpath : path ∈ v.notes)
    (hother : other ∈ v.notes) (hne : other ≠ path) (hp : v.absolute path = .ok p) :
    v.absolute other ≠ v.absolute path := by
  have hplace : ∀ {t : Text} {q : Path}, t ∈ v.notes → v.absolute t = .ok q →
      ∃ rest, t = Path.text rest ∧ q = v.root ++ rest := by
    intro t q ht hq
    obtain ⟨rest, e, hmem, rfl⟩ := exists_of_mem_notes ht
    obtain ⟨-, hq, -⟩ := absolute_eq_ok_iff.1 hq
    rw [Path.foldl_climb_text (hv.tree.isPlain_of_mem_below hmem)] at hq
    exact ⟨rest, rfl, hq⟩
  rw [hp]
  intro ho
  obtain ⟨rest, htext, hrest⟩ := hplace hpath hp
  obtain ⟨rest', htext', hrest'⟩ := hplace hother ho
  rw [hrest] at hrest'
  rw [htext, htext', List.append_cancel_left hrest'] at hne
  exact hne rfl

/-- The notes are the ones that are found, if these are found in order. -/
theorem notes_eq_of_pairwise {found : List Text}
    (hfound : ((v.disk.below v.root).filter (fun e =>
      e.1.getLast?.any isNoteName && !v.isExcluded e.1)).map (fun e => Path.text e.1) = found)
    (hsorted : found.Pairwise (fun a b => Text.le a b = true)) : v.notes = found := by
  rw [notes, hfound, List.mergeSort_of_pairwise hsorted]

/-- No note is listed twice. -/
theorem IsSound.nodup_notes (hv : v.IsSound) : v.notes.Nodup := by
  unfold notes
  rw [(List.mergeSort_perm _ _).nodup_iff]
  refine List.pairwise_map.2 (List.Pairwise.imp_of_mem ?_
    ((Disk.pairwise_below hv.tree.distinct v.root).filter _))
  intro x y hx hy hne htext
  exact hne (Path.eq_of_text_eq (hv.tree.isPlain_of_mem_below (List.mem_filter.1 hx).1)
    (hv.tree.isPlain_of_mem_below (List.mem_filter.1 hy).1) htext)

/-! ### Vaults that look the same from inside -/

/-- Two vaults with the same folder, the same things below it and the same way to it. -/
structure AgreesInside (v v' : Vault) : Prop where
  root_eq : v'.root = v.root
  excluded_eq : v'.excluded = v.excluded
  below_eq : v'.disk.below v.root = v.disk.below v.root
  find?_eq : ∀ q, q <+: v.root → v'.disk.find? q = v.disk.find? q

namespace AgreesInside

variable (h : AgreesInside v v')

include h

/-- Every place on the way to one in the vault is on the way to its folder or below it. -/
theorem look_eq (hp : v.root <+: p) (hq : q <+: p) : v'.disk.look q = v.disk.look q := by
  apply Disk.look_congr
  intro r hr
  have hrp := hr.trans hq
  rcases Nat.le_total r.length v.root.length with hle | hle
  · exact h.find?_eq r (List.prefix_of_prefix_length_le hrp hp hle)
  · obtain ⟨rest, rfl⟩ := List.prefix_of_prefix_length_le hp hrp hle
    by_cases hnil : rest = []
    · subst hnil
      rw [List.append_nil]
      exact h.find?_eq _ (List.prefix_refl _)
    · rw [Disk.find?_append _ _ hnil, Disk.find?_append _ _ hnil, h.below_eq]

theorem read_eq (path : Text) : v'.read path = v.read path := by
  unfold read
  rw [absolute_congr h.root_eq]
  cases hp : v.absolute path with
  | error f => rfl
  | ok p =>
    obtain ⟨-, -, hprefix⟩ := absolute_eq_ok_iff.1 hp
    show v'.textAt p = v.textAt p
    rw [textAt, textAt, Disk.bytes, Disk.bytes, h.look_eq hprefix (List.prefix_refl p)]

theorem modify_eq (path content : Text) :
    ((modify path content).run.run v').1 = ((modify path content).run.run v).1 := by
  rw [run_modify, run_modify, absolute_congr h.root_eq]
  cases hp : v.absolute path with
  | error f => rfl
  | ok p =>
    obtain ⟨-, -, hprefix⟩ := absolute_eq_ok_iff.1 hp
    have hopen : v'.disk.openable p = v.disk.openable p := by
      unfold Disk.openable
      rw [h.look_eq hprefix (List.prefix_refl p), h.look_eq hprefix (List.dropLast_prefix p)]
    simp only [Disk.writeText, hopen]
    cases v.disk.openable p with
    | error g => rfl
    | ok u => cases Utf8.encode? content <;> rfl

theorem firstFile_eq (tried : List Path) : v'.firstFile tried = v.firstFile tried := by
  induction tried with
  | nil => rfl
  | cons names rest ih =>
    rw [firstFile_cons, firstFile_cons, h.root_eq, ih]
    congr 1
    funext p
    have hinside : v'.inside? p = v.inside? p := by rw [inside?, inside?, h.root_eq]
    rw [hinside]
    split
    · next hsome =>
      obtain ⟨more, hmore⟩ := Option.isSome_iff_exists.1 hsome
      have hprefix : v.root <+: p := ⟨more, (inside?_eq_some_iff.1 hmore).symm⟩
      rw [Disk.isFile, Disk.isFile, h.look_eq hprefix (List.prefix_refl p)]
    · rfl

theorem resolveLink_eq (link source : Text) :
    v'.resolveLink link source = v.resolveLink link source := by
  have hending : ∀ names, v'.endingWith names = v.endingWith names := by
    intro names
    unfold endingWith isExcluded
    rw [h.root_eq, h.below_eq, h.excluded_eq]
  have hsearch : v'.search (Text.trim link) = v.search (Text.trim link) := by
    unfold search
    simp only [h.root_eq, hending]
  rw [Vault.resolveLink_eq, Vault.resolveLink_eq, h.firstFile_eq, hsearch]

end AgreesInside

/-- **Nothing outside the vault can be reached.**  A path has a place exactly if its names can be
    walked and lead to the vault's folder or below it; one that leads elsewhere, as to a folder
    beside the vault with a longer name, is refused.  A note that is read, a file that is written
    and a file that a link means all lie below the folder, and none of the three depends on
    anything that is outside. -/
theorem confined (v : Vault) :
    (∀ path p, v.absolute path = .ok p ↔
      (∀ name ∈ Path.ofText path, Path.IsUsable name) ∧
        p = (Path.ofText path).foldl Path.climb v.root ∧ v.root <+: p) ∧
    (∀ path p, v.absolute path = .ok p → p = v.root ∨ v.IsBelow p) ∧
    (∀ path, (∀ name ∈ Path.ofText path, Path.IsUsable name) →
      ¬ v.root <+: (Path.ofText path).foldl Path.climb v.root →
        v.absolute path = .error (.path (.outside path))) ∧
    (∀ path parent name suffix rest, v.root = parent ++ [name] → suffix ≠ [] →
      (∀ n ∈ Path.ofText path, Path.IsUsable n) →
      (Path.ofText path).foldl Path.climb v.root = parent ++ (name ++ suffix) :: rest →
        v.absolute path = .error (.path (.outside path))) ∧
    (v.IsSound →
      (∀ path text, v.read path = .ok text →
        ∃ p b, v.absolute path = .ok p ∧ v.IsBelow p ∧ v.disk.look p = .ok (.file b)) ∧
      (∀ path content r v', (modify path content).run.run v = (r, v') →
        v'.IsSound ∧ ∀ q, v'.disk.find? q ≠ v.disk.find? q →
          v.absolute path = .ok q ∧ v.IsBelow q ∧ ∃ b, v'.disk.find? q = some (.file b)) ∧
      (∀ link source p, v.resolveLink link source = .ok (some p) →
        v.IsBelow p ∧ ∃ b, v.disk.look p = .ok (.file b))) ∧
    (∀ v', AgreesInside v v' →
      (∀ path, v'.read path = v.read path) ∧
      (∀ path content,
        ((modify path content).run.run v').1 = ((modify path content).run.run v).1) ∧
      (∀ link source, v'.resolveLink link source = v.resolveLink link source)) := by
  refine ⟨fun path p => absolute_eq_ok_iff, fun path p => eq_root_or_isBelow_of_absolute,
    fun path => absolute_of_not_prefix, ?_, ?_, ?_⟩
  · intro path parent name suffix rest hroot hsuffix husable hend
    exact absolute_of_sibling hroot hsuffix husable hend
  · intro hv
    refine ⟨fun path text h => hv.isBelow_of_read h, ?_,
      fun link source p h => hv.isBelow_of_resolveLink h⟩
    intro path content r v' h
    exact ⟨hv.of_modify h, fun q hq => hv.isBelow_of_find?_ne h hq⟩
  · intro v' h
    exact ⟨h.read_eq, h.modify_eq, h.resolveLink_eq⟩

/-- A vault beside a folder whose name begins like the vault's. -/
def besideVault : Vault :=
  { root := [Text.of "v"], excluded := [], history := [],
    disk := ⟨[([Text.of "v"], .folder), ([Text.of "v", Text.of "n.md"], .file [72, 105]),
      ([Text.of "v2"], .folder), ([Text.of "v2", Text.of "s.py"], .file [72, 111])]⟩ }

theorem confined_beside :
    besideVault.IsSound ∧
    besideVault.absolute (Text.of "../v2/s.py") =
      .error (.path (.outside (Text.of "../v2/s.py"))) ∧
    (∃ text p, besideVault.read (Text.of "/x/../n.md") = .ok text ∧
      besideVault.absolute (Text.of "/x/../n.md") = .ok p ∧ besideVault.IsBelow p) ∧
    ∃ p, besideVault.resolveLink (Text.of "../v2/../v/n.md") (Text.of "n.md") = .ok (some p) ∧
      besideVault.IsBelow p := by
  have hv : besideVault.IsSound := ⟨by decide +kernel, by decide +kernel⟩
  obtain ⟨-, -, -, hsibling, hsound, -⟩ := confined besideVault
  obtain ⟨hread, -, hlink⟩ := hsound hv
  have htext : besideVault.read (Text.of "/x/../n.md") = .ok (Text.of "Hi") :=
    Outcome.eq_ok_of_toOption (by decide +kernel)
  have hfound : besideVault.resolveLink (Text.of "../v2/../v/n.md") (Text.of "n.md") =
      .ok (some [Text.of "v", Text.of "n.md"]) :=
    Outcome.eq_ok_of_toOption (by decide +kernel)
  refine ⟨hv, ?_, ?_, _, hfound, (hlink _ _ _ hfound).1⟩
  · exact hsibling _ [] (Text.of "v") (Text.of "2") [Text.of "s.py"] rfl (by decide)
      (by decide +kernel) (by decide +kernel)
  · obtain ⟨p, b, hp, hbelow, -⟩ := hread _ _ htext
    exact ⟨_, p, htext, hp, hbelow⟩

end Vault

end TemplatedNotes
