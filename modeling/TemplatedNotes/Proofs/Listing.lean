/-
  TemplatedNotes/Proofs/Listing.lean
  ==================================
  **What stands in the list of notes.**

  The list of a vault's notes names everything below its folder that has a note's name and is in no
  excluded folder (`Listed`), each path once and in the order of texts.  Nothing asks whether it is
  a file, so a folder whose name ends like a note's is listed too; it is no note that is there, and
  an update of all notes cannot come past it.

    * `IsSound.mem_notes_iff` — what is listed;
    * `IsSound.pairwise_notes` — in which order;
    * `isThere_of_gives_updateAll` — an update of all notes has found every one to be there;
    * `notes_spec` — when the list holds the notes and nothing else.
-/
import TemplatedNotes.Proofs.Refresh
import TemplatedNotes.Proofs.UpdateAll
import TemplatedNotes.Proofs.Vault.Resolution
import TemplatedNotes.Runtime.Usual

namespace TemplatedNotes

open TemplatedNotes.Action

theorem Text.le_iff {a b : Text} :
    Text.le a b = true ↔ a.map CodePoint.value ≤ b.map CodePoint.value := by
  rw [Text.le, Bool.not_eq_true', ← Bool.not_eq_true, Text.lt_iff, not_lt]

/-- All names on a disk can be the names of files. -/
def Disk.IsNamed (d : Disk) : Prop :=
  ∀ p e, (p, e) ∈ d.entries → ∀ name ∈ p, Path.IsUsable name

namespace Vault

variable {v : Vault} {rest : Path} {e : Entry} {path : Text}

/-! ### What is listed -/

/-- Something in the vault, by its path from the vault's folder, whose name is a note's and that is
    in no excluded folder. -/
structure Listed (v : Vault) (rest : Path) (e : Entry) : Prop where
  look : v.disk.look (v.root ++ rest) = .ok e
  name : ∃ name ∈ rest.getLast?, Text.of ".md" <:+ name
  included : ∀ folder ∈ rest.dropLast, folder ∉ v.excluded

theorem Listed.ne_nil (h : v.Listed rest e) : rest ≠ [] := by
  rintro rfl
  obtain ⟨name, hname, -⟩ := h.name
  cases hname

theorem Listed.mem_below (h : v.Listed rest e) : (rest, e) ∈ v.disk.below v.root :=
  Disk.mem_below_iff.2 ⟨h.ne_nil,
    Disk.mem_of_find? (by simp [h.ne_nil]) (Disk.find?_of_look h.look)⟩

theorem IsSound.isPlain_of_listed (hv : v.IsSound) (h : v.Listed rest e) :
    ∀ name ∈ rest, Path.IsPlain name := hv.tree.isPlain_of_mem_below h.mem_below

/-- **What is in the list of notes**: the path of everything that has a note's name. -/
theorem IsSound.mem_notes_iff (hv : v.IsSound) :
    path ∈ v.notes ↔ ∃ rest e, v.Listed rest e ∧ path = Path.text rest := by
  have hnamed : ∀ rest : Path, rest.getLast?.any isNoteName = true ↔
      ∃ name ∈ rest.getLast?, Text.of ".md" <:+ name := by
    intro rest
    cases rest.getLast? <;> simp [isNoteName]
  unfold notes
  rw [List.mem_mergeSort, List.mem_map]
  constructor
  · rintro ⟨⟨rest, e⟩, hmem, rfl⟩
    obtain ⟨hmem, hlisted⟩ := List.mem_filter.1 hmem
    rw [Bool.and_eq_true, Bool.not_eq_true', hnamed, isExcluded_eq_false_iff] at hlisted
    obtain ⟨-, hentry⟩ := Disk.mem_below_iff.1 hmem
    exact ⟨rest, e, ⟨hv.tree.look_of_mem hentry, hlisted.1, hlisted.2⟩, rfl⟩
  · rintro ⟨rest, e, h, rfl⟩
    refine ⟨(rest, e), List.mem_filter.2 ⟨h.mem_below, ?_⟩, rfl⟩
    rw [Bool.and_eq_true, Bool.not_eq_true', hnamed, isExcluded_eq_false_iff]
    exact ⟨h.name, h.included⟩

/-- **The order of the list**: every path is before those that are greater, and none comes twice. -/
theorem IsSound.pairwise_notes (hv : v.IsSound) :
    v.notes.Pairwise (fun a b => Text.lt a b = true) := by
  have hsorted : v.notes.Pairwise (fun a b => Text.le a b = true) := by
    refine List.pairwise_mergeSort ?_ ?_ _
    · intro a b c hab hbc
      exact Text.le_iff.2 (le_trans (Text.le_iff.1 hab) (Text.le_iff.1 hbc))
    · intro a b
      rw [Bool.or_eq_true, Text.le_iff, Text.le_iff]
      exact le_total _ _
  refine hsorted.imp₂ (fun a b hle hne => ?_) hv.nodup_notes
  exact Text.lt_iff.2 (lt_of_le_of_ne (Text.le_iff.1 hle) (Text.map_value_injective.ne hne))

/-- A path from the vault's folder is found at its place, if its names can be those of files. -/
theorem absolute_text (hplain : ∀ name ∈ rest, Path.IsPlain name)
    (husable : ∀ name ∈ rest, Path.IsUsable name) :
    v.absolute (Path.text rest) = .ok (v.root ++ rest) := by
  rw [absolute_eq_ok_iff, Path.foldl_climb_text hplain, Path.ofText_text hplain]
  exact ⟨husable, rfl, List.prefix_append _ _⟩

/-- Whether what is listed is there, as a note, is whether it is a file. -/
theorem IsSound.exists?_of_listed (hv : v.IsSound) (hnamed : v.disk.IsNamed)
    (h : v.Listed rest e) :
    v.absolute (Path.text rest) = .ok (v.root ++ rest) ∧
      v.exists? (Path.text rest) = .ok (decide (e ≠ .folder)) := by
  obtain ⟨-, hentry⟩ := Disk.mem_below_iff.1 h.mem_below
  have hplace := absolute_text (v := v) (hv.isPlain_of_listed h) fun name hname =>
    hnamed _ _ hentry name (List.mem_append_right _ hname)
  refine ⟨hplace, ?_⟩
  have hfile : v.disk.isFile (v.root ++ rest) = .ok (decide (e ≠ .folder)) := by
    unfold Disk.isFile
    rw [h.look]
    cases e <;> rfl
  rw [exists?, hplace, ← hfile]

theorem IsSound.isThere_of_listed (hv : v.IsSound) (h : v.Listed rest .folder) :
    v.isThere (Path.text rest) = false := by
  rw [← Bool.not_eq_true, isThere_iff]
  rintro ⟨p, b, hp, hb⟩
  obtain ⟨-, rfl, -⟩ := absolute_eq_ok_iff.1 hp
  rw [Path.foldl_climb_text (hv.isPlain_of_listed h), Disk.bytes, h.look] at hb
  cases hb

end Vault

/-! ### An update of all notes -/

namespace Workspace

variable {w w' : Workspace} {v₀ : Vault} {es : List Expansion}

/-- An update of notes that gives a result has found every one to be there. -/
theorem isThere_of_gives_refreshMarked [Runtime] {paths : List Text}
    (hv : Vault.Refreshed v₀ w.vault)
    (h : Gives (refreshMarked paths) w es w') : ∀ path ∈ paths, v₀.isThere path = true := by
  induction paths generalizing w es with
  | nil => exact fun path hpath => absurd hpath List.not_mem_nil
  | cons path rest ih =>
    obtain ⟨text, x, w₁, es₁, hread, hx, hrest, -⟩ := gives_refreshMarked_cons.1 h
    have hthere : v₀.isThere path = true := by
      rw [← hv.isThere]
      exact Vault.isThere_of_read hread
    have hv₁ : Vault.Refreshed v₀ w₁.vault := by
      split at hx
      · exact (of_gives_refresh hv hx).1
      · obtain ⟨-, rfl⟩ := gives_pure.1 hx
        exact hv
    exact List.forall_mem_cons.2 ⟨hthere, ih hv₁ hrest⟩

theorem isThere_of_gives_updateAll [Runtime] (h : Gives updateAll w es w') :
    ∀ path ∈ w.vault.notes, w.vault.isThere path = true := by
  obtain ⟨w₁, hes⟩ := of_gives_updateAll h
  exact isThere_of_gives_refreshMarked (Vault.Refreshed.refl w.vault) hes

end Workspace

/-! ### The list of notes -/

namespace Vault

/-- **The list of a vault's notes.**  It is strictly ascending in the order of texts, and it holds
    the paths of everything in the vault whose name ends with `.md` and that is in no excluded
    folder.  So it holds the paths of such files and nothing else if and only if no folder outside
    the excluded ones has such a name.  Every file that is listed is there and can be read as bytes
    from its path; a folder that is listed is not there, and an update of all notes gives no result
    then. -/
theorem notes_spec [Runtime] {v : Vault} (hv : v.IsSound) :
    v.notes.Pairwise (fun a b => Text.lt a b = true) ∧
    (∀ path, path ∈ v.notes ↔ ∃ rest e, v.Listed rest e ∧ path = Path.text rest) ∧
    ((∀ path, path ∈ v.notes ↔ ∃ rest b, v.Listed rest (.file b) ∧ path = Path.text rest) ↔
      ∀ rest, ¬ v.Listed rest .folder) ∧
    (v.disk.IsNamed → ∀ rest,
      (∀ b, v.Listed rest (.file b) → v.exists? (Path.text rest) = .ok true ∧
        ∃ p, v.absolute (Path.text rest) = .ok p ∧ v.disk.bytes p = .ok b) ∧
      (v.Listed rest .folder → v.exists? (Path.text rest) = .ok false)) ∧
    (∀ (w w' : Workspace) es, w.vault = v → Gives Workspace.updateAll w es w' →
      ∀ rest, ¬ v.Listed rest .folder) := by
  refine ⟨hv.pairwise_notes, fun path => hv.mem_notes_iff, ⟨fun hfiles rest hfolder => ?_,
    fun hno path => ?_⟩, fun hnamed rest => ⟨fun b hb => ?_, fun hfolder => ?_⟩, ?_⟩
  · -- a folder with the path of a file would stand where the file stands
    obtain ⟨rest', b, hfile, htext⟩ := (hfiles _).1 (hv.mem_notes_iff.2 ⟨rest, _, hfolder, rfl⟩)
    obtain rfl := Path.eq_of_text_eq (hv.isPlain_of_listed hfolder) (hv.isPlain_of_listed hfile)
      htext
    cases hfolder.look.symm.trans hfile.look
  · rw [hv.mem_notes_iff]
    constructor
    · rintro ⟨rest, _ | _, h, rfl⟩
      · exact ⟨rest, _, h, rfl⟩
      · exact absurd h (hno rest)
    · rintro ⟨rest, b, h, rfl⟩
      exact ⟨rest, _, h, rfl⟩
  · obtain ⟨hplace, hexists⟩ := hv.exists?_of_listed hnamed hb
    exact ⟨hexists, _, hplace, Disk.bytes_eq_ok_iff.2 hb.look⟩
  · exact (hv.exists?_of_listed hnamed hfolder).2
  · rintro w w' es rfl h rest hfolder
    have hthere := Workspace.isThere_of_gives_updateAll h _
      (hv.mem_notes_iff.2 ⟨rest, _, hfolder, rfl⟩)
    exact Bool.false_ne_true ((hv.isThere_of_listed hfolder).symm.trans hthere)

attribute [local instance] Runtime.usual

/-- A vault with two folders that are left out, one of them named like a note that is there, a note
    that is nothing but the ending, and names that only look like notes. -/
def shelves : Vault :=
  { root := [Text.of "v"], excluded := ["x.md", "bin"].map Text.of, history := [],
    disk := ⟨[([Text.of "v"], .folder), (["v", "x.md"].map Text.of, .file []),
      (["v", "b"].map Text.of, .folder), (["v", "b", ".md"].map Text.of, .file [0xff]),
      (["v", "b", "bin"].map Text.of, .folder),
      (["v", "b", "bin", "n.md"].map Text.of, .file []), (["v", "n.MD"].map Text.of, .file []),
      (["v", "n.md.txt"].map Text.of, .file []), ([Text.of "n.md"], .file [])]⟩ }

theorem notes_spec_shelves :
    shelves.IsSound ∧ shelves.disk.IsNamed ∧
      (∀ path, path ∈ shelves.notes ↔
        ∃ rest b, shelves.Listed rest (.file b) ∧ path = Path.text rest) ∧
      shelves.Listed (["b", ".md"].map Text.of) (.file [0xff]) ∧
      Text.of "b/.md" ∈ shelves.notes ∧ shelves.exists? (Text.of "b/.md") = .ok true := by
  have hv : shelves.IsSound := ⟨by decide +kernel, by decide +kernel⟩
  have hnamed : shelves.disk.IsNamed := by
    have hall : ∀ x ∈ shelves.disk.entries, ∀ name ∈ x.1, Path.IsUsable name := by
      decide +kernel
    exact fun p e h => hall _ h
  obtain ⟨-, -, hfiles, hthere, -⟩ := notes_spec hv
  have hno : ∀ rest, ¬ shelves.Listed rest .folder := by
    have hall : ∀ x ∈ shelves.disk.below shelves.root, x.2 = .folder →
        x.1.getLast?.any isNoteName = false := by
      decide +kernel
    intro rest h
    obtain ⟨name, hname, hends⟩ := h.name
    have hnone := hall _ h.mem_below rfl
    rw [Option.mem_def.1 hname] at hnone
    exact Bool.false_ne_true (hnone.symm.trans (List.isSuffixOf_iff_suffix.2 hends))
  have hb : shelves.Listed (["b", ".md"].map Text.of) (.file [0xff]) :=
    ⟨by decide +kernel, ⟨Text.of ".md", rfl, List.suffix_refl _⟩, by decide +kernel⟩
  have hlist := hfiles.2 hno
  exact ⟨hv, hnamed, hlist, hb, (hlist _).2 ⟨_, _, hb, rfl⟩, ((hthere hnamed _).1 _ hb).1⟩

end Vault

namespace Workspace

attribute [local instance] Runtime.usual

/-- A vault with a note and a folder whose name is a note's. -/
def folderNamedNote : Workspace :=
  { vault :=
      { root := [], excluded := [], history := [],
        disk := ⟨[([Text.of "a.md"], .file ((Utf8.encode? (Text.of "A")).getD [])),
          ([Text.of "x.md"], .folder)]⟩ },
    indexed := false, policy := .marker, memory := .empty, store := none, known := .empty }

/-- **A folder is listed among the notes**: it is no file, so it is not there as a note, and an
    update of all notes fails at it. -/
theorem notes_of_folder :
    folderNamedNote.vault.notes = ["a.md", "x.md"].map Text.of ∧
      (¬ ∃ rest b, folderNamedNote.vault.Listed rest (.file b) ∧
        Text.of "x.md" = Path.text rest) ∧
      folderNamedNote.vault.exists? (Text.of "x.md") = .ok false ∧
      updateAll.run.run folderNamedNote =
        (.error (.file .isDirectory (Text.of "/x.md")), folderNamedNote) := by
  have hnotes : folderNamedNote.vault.notes = ["a.md", "x.md"].map Text.of :=
    Vault.notes_eq_of_pairwise (by decide +kernel) (by decide +kernel)
  have hall : updateAll.run.run folderNamedNote =
      (refreshMarked (["a.md", "x.md"].map Text.of) >>= fun es =>
        save >>= fun _ => pure es).run.run folderNamedNote := by
    rw [← hnotes]
    rfl
  refine ⟨hnotes, ?_, Outcome.eq_ok_of_toOption (by decide +kernel), ?_⟩
  · rintro ⟨rest, b, hlisted, htext⟩
    have hfiles : ∀ x ∈ folderNamedNote.vault.disk.below [], x.2 ≠ .folder →
        Text.of "x.md" ≠ Path.text x.1 := by
      decide +kernel
    exact hfiles _ hlisted.mem_below (by simp) htext
  · rw [hall]
    rfl

end Workspace

end TemplatedNotes
