/-
  TemplatedNotes/Proofs/UpdateEvery.lean
  ======================================
  **What the quick look saves, and what it leaves out.**

  An update of all notes passes over the notes in which a quick look finds no opening line.  Against
  an update that has no quick look (`updateEvery`), this changes no text, no script and no list of
  scripts: such a note has no section, and its update would change nothing.  But its update would
  have removed it from the known notes, and passing over it does not.  So the two commands end
  with the same vault, apart from the file of the known paths, and their lists of known notes are
  the same but for the notes that were passed over (`updateAll_spec`).
-/
import TemplatedNotes.Proofs.Keeps
import TemplatedNotes.Proofs.Refresh
import TemplatedNotes.Runtime.Usual

namespace TemplatedNotes

open TemplatedNotes.Action

/-- Whether a quick look finds no opening line in a note. -/
def Vault.looksPlain (v : Vault) (path : Text) : Bool :=
  match v.read path with
  | .ok text => !Section.mayOpen text
  | .error _ => false

theorem Vault.looksPlain_of_read {v : Vault} {path text : Text} (h : v.read path = .ok text) :
    v.looksPlain path = !Section.mayOpen text := by
  rw [looksPlain, h]

section

variable [Runtime]

/-- A note with a section does not look plain. -/
theorem Vault.hasSection_of_looksPlain {v : Vault} {path : Text} (h : v.looksPlain path = true) :
    v.hasSection path = false := by
  rw [Bool.eq_false_iff]
  intro hsection
  obtain ⟨text, hread, hopens⟩ := hasSection_iff.1 hsection
  obtain ⟨rs, hrs⟩ := hopens.exists_read path
  have hmay := Reference.mayOpen_of_read hrs ((Reference.opens_iff_of_read hrs).1 hopens)
  rw [looksPlain_of_read hread, hmay] at h
  cases h

end

namespace Workspace

section

variable [Runtime]

/-- Updates all notes of the vault, whether they may have sections or not. -/
def updateEvery : Action Workspace (List Expansion) := do
  let es ← refreshEach (← get).vault.notes
  save
  return es

/-- Whether an update of all notes passes over a note: it is listed and looks plain. -/
def isPassedOver (w : Workspace) (path : Text) : Bool :=
  w.vault.notes.contains path && w.vault.looksPlain path

variable {w w' w₁ w₂ f f' p p' : Workspace} {v₀ : Vault} {path : Text}

/-! ### Lists that some turns are left out of -/

omit [Runtime] in
theorem mem_settle {keep : Text → Bool} {notes : List Text} {q : Text} :
    q ∈ settle keep notes path ↔ if q = path then keep path = true else q ∈ notes := by
  unfold settle
  by_cases hq : q = path
  · subst hq
    cases hkeep : keep q <;> simp [Expansion.mem_addOnce, KnownPaths.mem_without]
  · cases hkeep : keep path <;> simp [Expansion.mem_addOnce, KnownPaths.mem_without, hq]

omit [Runtime] in
/-- What is listed after some turns: of the notes that had one those to be kept, and the others as
    before. -/
theorem mem_foldl_settle {keep : Text → Bool} {paths notes : List Text} {q : Text} :
    q ∈ paths.foldl (settle keep) notes ↔ if q ∈ paths then keep q = true else q ∈ notes := by
  induction paths generalizing notes with
  | nil => simp
  | cons path rest ih =>
    rw [List.foldl_cons, ih, mem_settle]
    by_cases hq : q = path
    · subst hq
      simp
    · simp [hq]

omit [Runtime] in
/-- A turn settles a list that lacks other notes in the same way. -/
theorem settle_filter {keep lists : Text → Bool} (h : lists path = true) (notes : List Text) :
    settle keep (notes.filter lists) path = (settle keep notes path).filter lists := by
  unfold settle
  split
  · unfold Expansion.addOnce
    have hmem : (notes.filter lists).contains path = notes.contains path := by
      rw [Bool.eq_iff_iff, List.contains_iff_mem, List.contains_iff_mem, List.mem_filter]
      exact and_iff_left h
    rw [hmem]
    split
    · rfl
    · simp [h]
  · unfold KnownPaths.without
    rw [List.filter_filter, List.filter_filter]
    exact List.filter_congr fun q _ => Bool.and_comm _ _

omit [Runtime] in
/-- Turns that only remove their notes can be left out, if the notes are removed at the end. -/
theorem foldl_settle_of_skipped {keep skipped : Text → Bool}
    (h : ∀ path, skipped path = true → keep path = false) (paths notes : List Text) :
    paths.foldl (settle keep) notes =
      ((paths.filter (!skipped ·)).foldl (settle keep) notes).filter
        (fun q => !(paths.contains q && skipped q)) := by
  induction paths using List.reverseRecOn with
  | nil => simp
  | append_singleton paths path ih =>
    rw [List.foldl_append, List.foldl_cons, List.foldl_nil, ih, List.filter_append,
      List.foldl_append]
    cases hskipped : skipped path with
    | true =>
      rw [settle, h path hskipped, if_neg Bool.false_ne_true, KnownPaths.without,
        List.filter_filter, List.filter_singleton, hskipped]
      refine List.filter_congr fun q _ => ?_
      by_cases hq : q = path
      · simp [hq, hskipped]
      · simp [hq]
    | false =>
      have hlists : (fun q => !((paths ++ [path]).contains q && skipped q)) =
          fun q => !(paths.contains q && skipped q) := by
        funext q
        by_cases hq : q = path
        · simp [hq, hskipped]
        · simp [hq]
      rw [hlists, settle_filter (by simp [hskipped]), List.filter_singleton, hskipped]
      rfl

/-- The known notes after an update of all notes: those that look plain have no turn. -/
def notesAfterAll (w : Workspace) : List Text :=
  (w.vault.notes.filter (!w.vault.looksPlain ·)).foldl (settle w.vault.hasSection) w.known.notes

/-- A note that looks plain stays in the list or out of it. -/
theorem mem_notesAfterAll_of_looksPlain (h : w.vault.looksPlain path = true) :
    path ∈ w.notesAfterAll ↔ path ∈ w.known.notes := by
  rw [notesAfterAll, mem_foldl_settle, if_neg]
  simp [h]

theorem mem_notesAfterAll_of_plain {text : Text} (hlisted : path ∈ w.vault.notes)
    (hread : w.vault.read path = .ok text) (hplain : Reference.read path text = .ok []) :
    path ∈ w.notesAfterAll ↔ path ∈ w.known.notes ∧ Section.mayOpen text = false := by
  have hlooks := Vault.looksPlain_of_read hread
  cases hmay : Section.mayOpen text with
  | false =>
    rw [hmay] at hlooks
    rw [mem_notesAfterAll_of_looksPlain hlooks]
    exact (and_iff_left rfl).symm
  | true =>
    rw [notesAfterAll, mem_foldl_settle, if_pos (by simp [hlisted, hlooks, hmay]),
      Vault.hasSection_of_read hread hplain]
    simp

/-- Without the notes that were passed over, the list is as it was exactly if none of them was in
    it. -/
theorem filter_notesAfterAll_eq_self :
    w.notesAfterAll.filter (!w.isPassedOver ·) = w.notesAfterAll ↔
      ∀ path ∈ w.known.notes, w.isPassedOver path = false := by
  rw [List.filter_eq_self]
  have hplain : ∀ path, w.isPassedOver path = true →
      (path ∈ w.notesAfterAll ↔ path ∈ w.known.notes) := fun path hpass =>
    mem_notesAfterAll_of_looksPlain (Bool.and_eq_true_iff.1 hpass).2
  refine forall_congr' fun path => ?_
  cases hpass : w.isPassedOver path with
  | false => simp
  | true => simp [hplain path hpass]

/-! ### The two commands side by side -/

/-- The second session differs from the first at most in its list of known notes. -/
def Alike (f p : Workspace) : Prop :=
  p = { f with known := ⟨p.known.notes, f.known.templates⟩ }

/-- The turn of a note without sections changes nothing but the list of known notes. -/
theorem of_gives_refresh_plain {text : Text} {x : Option Expansion}
    (hread : w.vault.read path = .ok text) (hplain : Section.mayOpen text = false)
    (h : Gives (refresh path) w x w') : w' = { w with known := w.known.removeNote path } := by
  obtain ⟨e, m, v, rfl, hexpand, hwritten, rfl⟩ := gives_refresh hread h
  obtain ⟨ms, hms, ⟨-, rfl, rfl⟩ | ⟨hsome, -⟩⟩ := Runner.gives_expand hexpand
  · rcases hwritten with ⟨-, rfl⟩ | ⟨hchanged, -⟩
    · rfl
    · cases hchanged
  · have hmay := Reference.mayOpen_of_read (Reference.readLines_eq_ok.2 ⟨ms, hms, rfl⟩) hsome
    rw [hplain] at hmay
    cases hmay

/-- Sessions that are alike are so after the turn of the same note. -/
theorem Alike.refresh {text : Text} {x x' : Option Expansion} (h : Alike f p)
    (hread : f.vault.read path = .ok text) (hf : Gives (refresh path) f x f')
    (hp : Gives (refresh path) p x' p') : Alike f' p' := by
  unfold Alike at h
  rw [h] at hp
  obtain ⟨e, m, v, -, hexpand, hwritten, rfl⟩ := gives_refresh hread hf
  obtain ⟨e', m', v', -, hexpand', hwritten', rfl⟩ :=
    gives_refresh (w := { f with known := ⟨p.known.notes, f.known.templates⟩ }) hread hp
  obtain ⟨rfl, rfl⟩ := hexpand.unique hexpand'
  have hvault : v' = v := by
    rcases hwritten with ⟨hsame, rfl⟩ | ⟨hchanged, hwrite⟩
    · rcases hwritten' with ⟨-, rfl⟩ | ⟨hchanged, -⟩
      · rfl
      · exact absurd (hsame.symm.trans hchanged) Bool.false_ne_true
    · rcases hwritten' with ⟨hsame, -⟩ | ⟨-, hwrite'⟩
      · exact absurd (hsame.symm.trans hchanged) Bool.false_ne_true
      · exact (hwrite'.unique hwrite).2
  rw [Alike, hvault, KnownPaths.record_eq, KnownPaths.record_eq]

/-- **With and without the quick look**, notes at different places have the same turns, but for the
    notes that look plain, which only lose their places in the list. -/
theorem alike_of_gives {paths : List Text} {es es' : List Expansion} (hv : f.vault.IsSound)
    (hfresh : Vault.Refreshed v₀ f.vault)
    (hne : paths.Pairwise (fun a b => ∀ q, v₀.absolute b = .ok q → v₀.absolute a ≠ .ok q))
    (hkept : ∀ q ∈ paths, ∀ text, v₀.read q = .ok text → f.vault.read q = .ok text)
    (h : Alike f p) (hf : Gives (refreshMarked paths) f es f')
    (hp : Gives (refreshEach paths) p es' p') :
    Alike f' p' ∧ Vault.Refreshed v₀ f'.vault ∧ f'.known.notes =
      (paths.filter (!v₀.looksPlain ·)).foldl (settle v₀.hasSection) f.known.notes := by
  induction paths generalizing f p es es' with
  | nil =>
    obtain ⟨-, rfl⟩ := gives_pure.1 hf
    obtain ⟨-, rfl⟩ := gives_pure.1 hp
    exact ⟨h, hfresh, rfl⟩
  | cons path rest ih =>
    obtain ⟨text, x, f₁, es₁, hread, hx, hrestf, -⟩ := gives_refreshMarked_cons.1 hf
    obtain ⟨x', p₁, es₁', hx', hrestp, -⟩ := gives_refreshEach_cons.1 hp
    obtain ⟨hfirst, hlater⟩ := List.pairwise_cons.1 hne
    obtain ⟨hkeptFirst, hkeptRest⟩ := List.forall_mem_cons.1 hkept
    -- the note holds what it held at the start
    obtain ⟨text₀, hread₀, -⟩ := hfresh.read hread
    obtain rfl := Except.ok.inj ((hkeptFirst text₀ hread₀).symm.trans hread)
    have hlooks := Vault.looksPlain_of_read hread₀
    cases hmay : Section.mayOpen text₀ with
    | false =>
      rw [hmay] at hx hlooks
      obtain ⟨-, rfl⟩ := gives_pure.1 hx
      have hreadp : p.vault.read path = .ok text₀ := by
        rw [h]
        exact hread
      have hp₁ := of_gives_refresh_plain hreadp hmay hx'
      have halike : Alike f₁ p₁ := by
        rw [Alike, hp₁, h]
        rfl
      rw [List.filter_cons_of_neg (by simp [hlooks])]
      exact ih hv hfresh hlater hkeptRest halike hrestf hrestp
    | true =>
      rw [hmay, if_pos rfl] at hx
      rw [hmay] at hlooks
      have hafter : ∀ q text, f₁.vault.IsSound ∧ f₁.vault.root = f.vault.root ∧
          (f.vault.absolute path ≠ f.vault.absolute q → f.vault.read q = .ok text →
            f₁.vault.read q = .ok text) :=
        fun _ _ => read_of_gives_refresh hv hread hx
      obtain ⟨hfresh₁, -, hnotes, -⟩ := of_gives_refresh hfresh hx
      have hkept₁ : ∀ q ∈ rest, ∀ text, v₀.read q = .ok text → f₁.vault.read q = .ok text := by
        intro q hq text hq₀
        obtain ⟨place, b, hplace, -⟩ := Vault.bytes_of_read hq₀
        refine (hafter q text).2.2 ?_ (hkeptRest q hq text hq₀)
        rw [Vault.absolute_congr hfresh.root, Vault.absolute_congr hfresh.root, hplace]
        exact hfirst q hq place hplace
      obtain ⟨halike, hfresh', hnotes'⟩ := ih (hafter path text₀).1 hfresh₁ hlater hkept₁
        (h.refresh hread hx hx') hrestf hrestp
      refine ⟨halike, hfresh', ?_⟩
      rw [hnotes', hnotes, List.filter_cons_of_pos (by simp [hlooks]), List.foldl_cons]

omit [Runtime] in
/-- Sessions that are alike save different lists, but leave the same notes. -/
theorem Alike.read_of_gives_save {u u' : Unit} (h : Alike f p) (hf : Gives save f u f')
    (hp : Gives save p u' p') {text : Text}
    (hstore : ∀ file ∈ f.store, f.vault.absolute path ≠ .ok file) :
    f'.vault.read path = .ok text ↔ p'.vault.read path = .ok text := by
  have hvault : p.vault = f.vault := by rw [h]
  have hsame : p.store = f.store := by rw [h]
  rcases gives_save_iff.1 hf with ⟨hnone, rfl⟩ | ⟨file, d, hfile, hsave, rfl⟩
  · rcases gives_save_iff.1 hp with ⟨-, rfl⟩ | ⟨file, d, hfile, -, -⟩
    · rw [hvault]
    · rw [hsame, hnone] at hfile
      cases hfile
  · rcases gives_save_iff.1 hp with ⟨hnone, -⟩ | ⟨file', d', hfile', hsave', rfl⟩
    · rw [hsame, hfile] at hnone
      cases hnone
    · rw [hsame, hfile] at hfile'
      cases hfile'
      obtain ⟨d₁, b, hmake, hopen, -, rfl⟩ := KnownPaths.exists_of_save hsave
      obtain ⟨d₁', b', hmake', hopen', -, rfl⟩ := KnownPaths.exists_of_save hsave'
      rw [hvault, hmake] at hmake'
      cases hmake'
      rw [hvault, Vault.read_eq_ok_iff, Vault.read_eq_ok_iff]
      refine exists_congr fun q => exists_congr fun c => and_congr_right fun hq => ?_
      have hne : q ≠ file := fun he => hstore file hfile (he ▸ hq)
      simp only [Disk.bytes_put_iff hopen, hne, false_and, false_or, ne_eq, not_false_eq_true,
        true_and]

/-- The two commands end in saving sessions that are alike. -/
theorem of_gives_updateAll_updateEvery {es es' : List Expansion} (hv : w.vault.IsSound)
    (h₁ : Gives updateAll w es w₁) (h₂ : Gives updateEvery w es' w₂) :
    ∃ f p, Alike f p ∧ Gives save f ⟨⟩ w₁ ∧ Gives save p ⟨⟩ w₂ ∧
      f.store = w.store ∧ Vault.Refreshed w.vault f.vault ∧
      f.known.notes = w.notesAfterAll ∧
      p.known.notes = w.notesAfterAll.filter (!w.isPassedOver ·) := by
  obtain ⟨f, hf, hsavef⟩ := of_gives_saved (gives_get_bind.1 h₁)
  obtain ⟨p, hp, hsavep⟩ := of_gives_saved (gives_get_bind.1 h₂)
  have hne : w.vault.notes.Pairwise
      (fun a b => ∀ q, w.vault.absolute b = .ok q → w.vault.absolute a ≠ .ok q) := by
    refine hv.nodup_notes.imp_of_mem fun ha hb hne q hq => ?_
    rw [← hq]
    exact hv.absolute_ne_of_mem_notes hb ha hne hq
  obtain ⟨halike, hfresh, hnotes⟩ := alike_of_gives hv (Vault.Refreshed.refl w.vault) hne
    (fun _ _ _ hread => hread) (show Alike w w from rfl) hf hp
  obtain ⟨-, -, hevery, -⟩ := of_gives_refreshEach (Vault.Refreshed.refl w.vault) hp
  rw [foldl_settle_of_skipped fun _ => Vault.hasSection_of_looksPlain] at hevery
  have hstore := ((stable_store w.store).keeps_refreshMarked w.vault.notes).of_gives hf rfl
  exact ⟨f, p, halike, hsavef, hsavep, hstore, hfresh, hnotes, hevery⟩

/-- **The quick look of an update of all notes** changes no text and no list of scripts.  It leaves
    the notes that are passed over in the list of known notes, if they are there; without it the
    list is the same without these notes.  So after an update of all notes a listed note that has
    no section is known exactly if it was known and looks plain. -/
theorem updateAll_spec {es es' : List Expansion} (hv : w.vault.IsSound)
    (h₁ : Gives updateAll w es w₁) (h₂ : Gives updateEvery w es' w₂) :
    (∀ path text, (∀ file ∈ w.store, w.vault.absolute path ≠ .ok file) →
      (w₁.vault.read path = .ok text ↔ w₂.vault.read path = .ok text)) ∧
    w₂.known.templates = w₁.known.templates ∧
    w₂.known.notes = w₁.known.notes.filter (!w.isPassedOver ·) ∧
    (w₂.known = w₁.known ↔ ∀ path ∈ w.known.notes, w.isPassedOver path = false) ∧
    ∀ path ∈ w.vault.notes, ∀ text, w.vault.read path = .ok text →
      Reference.read path text = .ok [] →
      ((∀ file ∈ w.store, w.vault.absolute path ≠ .ok file) → w₁.vault.read path = .ok text) ∧
      (path ∈ w₁.known.notes ↔ path ∈ w.known.notes ∧ Section.mayOpen text = false) := by
  obtain ⟨f, p, halike, hsavef, hsavep, hstore, hfresh, hnotes, hevery⟩ :=
    of_gives_updateAll_updateEvery hv h₁ h₂
  have hplace : ∀ path, f.vault.absolute path = w.vault.absolute path :=
    Vault.absolute_congr hfresh.root
  have htemplates : p.known.templates = f.known.templates := by rw [halike]
  rw [known_of_gives_save hsavef, known_of_gives_save hsavep, KnownPaths.eq_iff, hnotes, hevery,
    and_iff_left htemplates]
  refine ⟨fun path text hfile => ?_, htemplates, rfl, filter_notesAfterAll_eq_self,
    fun path hlisted text hread hplain => ⟨fun hfile => ?_,
      mem_notesAfterAll_of_plain hlisted hread hplain⟩⟩
  · refine halike.read_of_gives_save hsavef hsavep ?_
    rw [hstore, hplace]
    exact hfile
  · have hno : ¬ Reference.Opens text := fun h => (Reference.opens_iff_of_read hplain).1 h rfl
    refine read_of_gives_save hsavef ?_ (hfresh.plain hread hno)
    rw [hstore, hplace]
    exact hfile

end

attribute [local instance] Runtime.usual

/-- A vault with a script, a note with a section, one that looks plain and one that only looks as if
    it had a section; the last two are listed as known. -/
def recorded : Workspace :=
  { vault :=
      { root := [], excluded := [], history := [],
        disk := ⟨[([Text.of "t.py"], .file ((Utf8.encode? (Text.of
            "[[\"return\", [\"lit\", \"hi\"]]]")).getD [])),
          ([Text.of "a.md"], .file ((Utf8.encode? (Text.of "%% template: 't.py' %%")).getD [])),
          ([Text.of "plain.md"], .file ((Utf8.encode? (Text.of "plain")).getD [])),
          ([Text.of "remark.md"], .file ((Utf8.encode? (Text.of "%% x: 1 %%")).getD []))]⟩ },
    indexed := false, policy := .marker, memory := .empty, store := some [Text.of "known.json"],
    known := ⟨["plain.md", "remark.md"].map Text.of, []⟩ }

theorem notes_recorded :
    recorded.vault.notes = ["a.md", "plain.md", "remark.md"].map Text.of :=
  Vault.notes_eq_of_pairwise (by decide +kernel) (by decide +kernel)

theorem exists_gives_recorded : ∃ es w₁ es' w₂, Gives updateAll recorded es w₁ ∧
    Gives updateEvery recorded es' w₂ ∧
    w₁.known.notes = ["plain.md", "a.md"].map Text.of ∧ w₂.known.notes = ["a.md"].map Text.of := by
  have hall : updateAll.run.run recorded =
      (refreshMarked (["a.md", "plain.md", "remark.md"].map Text.of) >>= fun es =>
        save >>= fun _ => pure es).run.run recorded := by
    rw [← notes_recorded]
    rfl
  have hevery : updateEvery.run.run recorded =
      (refreshEach (["a.md", "plain.md", "remark.md"].map Text.of) >>= fun es =>
        save >>= fun _ => pure es).run.run recorded := by
    rw [← notes_recorded]
    rfl
  have hrun : (updateAll.run.run recorded).1.toOption.isSome = true ∧
      (updateAll.run.run recorded).2.known.notes = ["plain.md", "a.md"].map Text.of := by
    rw [hall]
    decide +kernel
  have hrun' : (updateEvery.run.run recorded).1.toOption.isSome = true ∧
      (updateEvery.run.run recorded).2.known.notes = ["a.md"].map Text.of := by
    rw [hevery]
    decide +kernel
  obtain ⟨es, hes⟩ := Option.isSome_iff_exists.1 hrun.1
  obtain ⟨es', hes'⟩ := Option.isSome_iff_exists.1 hrun'.1
  exact ⟨es, _, es', _, gives_of_run hes, gives_of_run hes', hrun.2, hrun'.2⟩

section

variable [Runtime]

variable {w w' w₁ w₂ f f' p p' : Workspace} {v₀ : Vault} {path : Text}

theorem read_plain_recorded : recorded.vault.read (Text.of "plain.md") = .ok (Text.of "plain") ∧
    Reference.read (Text.of "plain.md") (Text.of "plain") = .ok [] :=
  ⟨Outcome.eq_ok_of_toOption (by decide +kernel), rfl⟩

end

theorem updateAll_spec_recorded : ∃ es w₁ es' w₂, recorded.vault.IsSound ∧
    Gives updateAll recorded es w₁ ∧ Gives updateEvery recorded es' w₂ ∧
    w₂.known.notes = w₁.known.notes.filter (!recorded.isPassedOver ·) ∧
    w₁.vault.read (Text.of "plain.md") = .ok (Text.of "plain") ∧
    Text.of "plain.md" ∈ w₁.known.notes ∧ w₂.known.notes = ["a.md"].map Text.of := by
  obtain ⟨es, w₁, es', w₂, h₁, h₂, -, hevery⟩ := exists_gives_recorded
  obtain ⟨hread, hplain⟩ := read_plain_recorded
  have hv : recorded.vault.IsSound := ⟨by decide +kernel, rfl⟩
  obtain ⟨-, -, hfilter, -, hlisted⟩ := updateAll_spec hv h₁ h₂
  obtain ⟨htext, hmem⟩ :=
    hlisted (Text.of "plain.md") (by simp [notes_recorded]) _ hread hplain
  have hplace : recorded.vault.absolute (Text.of "plain.md") = .ok [Text.of "plain.md"] :=
    Outcome.eq_ok_of_toOption (by decide +kernel)
  refine ⟨es, w₁, es', w₂, hv, h₁, h₂, hfilter, htext ?_, hmem.2 ⟨by decide, by decide⟩, hevery⟩
  intro file hfile heq
  obtain rfl : [Text.of "known.json"] = file := Option.mem_some_iff.1 hfile
  exact absurd (Except.ok.inj (hplace.symm.trans heq)) (by decide)

/-- **The quick look is not only a shortcut**: a listed note without sections stays known, where
    its update would have removed it. -/
theorem updateAll_keeps_plain_note : ∃ es w₁ es' w₂, Gives updateAll recorded es w₁ ∧
    Gives updateEvery recorded es' w₂ ∧ w₁.known.notes ≠ w₂.known.notes ∧
    ∃ path ∈ recorded.vault.notes, ∃ text, recorded.vault.read path = .ok text ∧
      Reference.read path text = .ok [] ∧ path ∈ w₁.known.notes := by
  obtain ⟨es, w₁, es', w₂, h₁, h₂, hall, hevery⟩ := exists_gives_recorded
  obtain ⟨hread, hplain⟩ := read_plain_recorded
  refine ⟨es, w₁, es', w₂, h₁, h₂, ?_, Text.of "plain.md", by simp [notes_recorded], _, hread,
    hplain, ?_⟩
  · rw [hall, hevery]
    decide
  · rw [hall]
    decide

end Workspace

end TemplatedNotes
