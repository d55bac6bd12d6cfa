/-
  TemplatedNotes/Proofs/Session.lean
  ==================================
  **Whole sessions.**

  A session is a sequence of commands, changes to the known paths, loads and saves, with anything
  done to the disk in between; each of them may fail and the session goes on from what it left
  (`after`).

    * `load_after` — a command or a save that works leaves a file from which the known paths are
      loaded exactly as they are;
    * `isSet_after_iff` — the known paths list nothing twice as long as no file that is loaded
      does, because every other event keeps them so.
-/
import TemplatedNotes.Proofs.Inserted
import TemplatedNotes.Proofs.Keeps
import TemplatedNotes.Proofs.Refresh
import TemplatedNotes.Runtime.Usual

namespace TemplatedNotes.Workspace

open TemplatedNotes.Action

/-- What happens in a session; `edit` is whatever is done to the disk by others. -/
inductive Event where
  | update (path : Text)
  | updateAll
  | updateKnown
  | insert (path : Text) (line : Int) (link : Text)
  | change (c : KnownPaths.Change)
  | record (e : Expansion)
  | load
  | save
  | edit (disk : Disk)

namespace Event

variable [Runtime]

/-- What an event does. -/
def action : Event → Action Workspace Unit
  | update path => Workspace.update path >>= fun _ => pure ()
  | updateAll => Workspace.updateAll >>= fun _ => pure ()
  | updateKnown => Workspace.updateKnown >>= fun _ => pure ()
  | insert path line link => Workspace.insert path line link >>= fun _ => pure ()
  | change c => onKnown (·.change c)
  | record e => onKnown (·.record e)
  | load => Workspace.load
  | save => Workspace.save
  | edit disk => modifyThe Workspace (fun w => { w with vault := { w.vault with disk := disk } })

/-- The events that save the known paths at their end. -/
def saves : Event → Bool
  | update _ | updateAll | updateKnown | insert _ _ _ | save => true
  | change _ | record _ | load | edit _ => false

end Event

section

variable [Runtime]

/-- The session after some events, whether they worked or failed. -/
def after (w : Workspace) (events : List Event) : Workspace :=
  events.foldl (fun w e => (e.action.run.run w).2) w

variable {w w' : Workspace}

theorem after_concat (w : Workspace) (events : List Event) (e : Event) :
    w.after (events ++ [e]) = (e.action.run.run (w.after events)).2 := by
  rw [after, List.foldl_append]
  rfl

/-! ### What events keep -/

/-- Every event but a load keeps what no step of a command breaks. -/
theorem Stable.keeps_event {P : Workspace → Prop} (hP : Stable P) {e : Event} (he : e ≠ .load) :
    Keeps e.action P := by
  cases e with
  | update path => exact keeps_bind (hP.keeps_update path) fun _ => keeps_pure _
  | updateAll => exact keeps_bind hP.keeps_updateAll fun _ => keeps_pure _
  | updateKnown => exact keeps_bind hP.keeps_updateKnown fun _ => keeps_pure _
  | insert path line link => exact keeps_bind (hP.keeps_insert path line link) fun _ => keeps_pure _
  | change c => exact hP.keeps_onKnown c
  | record e => exact hP.keeps_recordPaths e.source e.hadReferences e.used e.removed
  | load => exact absurd rfl he
  | save => exact hP.keeps_save
  | edit disk => exact keeps_modifyThe fun w hw => hP.vault w { w.vault with disk := disk } hw

theorem run_load (w : Workspace) : Workspace.load.run.run w = (.ok ⟨⟩, match w.store with
    | some file => { w with known := KnownPaths.load w.vault.disk file }
    | none => w) := rfl

theorem keeps_load_store (store : Option Path) : Keeps Workspace.load (·.store = store) := by
  intro w hw
  rw [run_load]
  dsimp only
  split
  · exact hw
  · exact hw

/-- The file of the known paths is the same at all times. -/
theorem store_after (w : Workspace) (events : List Event) : (w.after events).store = w.store := by
  induction events using List.reverseRecOn with
  | nil => rfl
  | append_singleton events e ih =>
    rw [after_concat]
    by_cases he : e = .load
    · rw [he]
      exact keeps_load_store w.store (w.after events) ih
    · exact (stable_store w.store).keeps_event he (w.after events) ih

/-! ### The file holds the known paths -/

omit [Runtime] in
/-- A command whose result is not looked at. -/
theorem gives_ignored {α : Type} {x : Action Workspace α} :
    Gives (x >>= fun _ => pure ()) w ⟨⟩ w' ↔ ∃ a, Gives x w a w' := by
  constructor
  · intro h
    obtain ⟨a, w₁, hx, h⟩ := gives_bind.1 h
    obtain ⟨-, rfl⟩ := gives_pure.1 h
    exact ⟨a, hx⟩
  · rintro ⟨a, hx⟩
    exact gives_bind.2 ⟨a, w', hx, gives_pure.2 ⟨rfl, rfl⟩⟩

/-- An event that saves and works comes to its end by saving. -/
theorem Event.exists_gives_save {e : Event} (hsaves : e.saves = true)
    (h : Gives e.action w ⟨⟩ w') : ∃ w₁, w₁.store = w.store ∧ Gives Workspace.save w₁ ⟨⟩ w' := by
  have hstore := stable_store w.store
  cases e with
  | update path =>
    obtain ⟨x, hx⟩ := gives_ignored.1 h
    obtain ⟨w₁, hrefresh, hsave⟩ := of_gives_saved hx
    exact ⟨w₁, (hstore.keeps_refresh path).of_gives hrefresh rfl, hsave⟩
  | updateAll =>
    obtain ⟨es, hes⟩ := gives_ignored.1 h
    obtain ⟨w₁, hrefresh, hsave⟩ := of_gives_saved (gives_get_bind.1 hes)
    exact ⟨w₁, (hstore.keeps_refreshMarked _).of_gives hrefresh rfl, hsave⟩
  | updateKnown =>
    obtain ⟨es, hes⟩ := gives_ignored.1 h
    obtain ⟨w₁, hrefresh, hsave⟩ := of_gives_saved (gives_get_bind.1 hes)
    exact ⟨w₁, (hstore.keeps_refreshEach _).of_gives hrefresh rfl, hsave⟩
  | insert path line link =>
    obtain ⟨block, hblock⟩ := gives_ignored.1 h
    obtain ⟨script, i, m, text, v, known, -, -, -, -, -, hsave⟩ := of_gives_insert hblock
    exact ⟨{ w with vault := v, memory := m, known := known }, rfl, hsave⟩
  | save => exact ⟨w, rfl, h⟩
  | change c => cases hsaves
  | record e => cases hsaves
  | load => cases hsaves
  | edit disk => cases hsaves

/-- After a save that works the known paths are loaded as they are. -/
theorem load_of_gives_save {file : Path} (hstore : w.store = some file)
    (h : Gives Workspace.save w ⟨⟩ w') :
    w'.store = some file ∧ KnownPaths.load w'.vault.disk file = w'.known := by
  rcases gives_save_iff.1 h with ⟨hnone, -⟩ | ⟨file', d, hfile, hsave, rfl⟩
  · rw [hstore] at hnone
    cases hnone
  · rw [hstore] at hfile
    cases hfile
    exact ⟨hstore, KnownPaths.load_of_save hsave⟩

/-- **The file is the known paths.**  Whatever has happened in a session: when a command or a save
    has worked, what is loaded from the file is what is known, the same paths in the same order,
    and to load it into whatever is known leaves the session as it is. -/
theorem load_after (w : Workspace) (events : List Event) {e : Event} {file : Path}
    (hsaves : e.saves = true) (hstore : w.store = some file)
    (h : Gives e.action (w.after events) ⟨⟩ w') :
    w'.store = some file ∧ KnownPaths.load w'.vault.disk file = w'.known ∧
      ∀ known, Gives Workspace.load { w' with known := known } ⟨⟩ w' := by
  obtain ⟨w₁, hsame, hsave⟩ := e.exists_gives_save hsaves h
  rw [store_after, hstore] at hsame
  obtain ⟨hstore', hload⟩ := load_of_gives_save hsame hsave
  refine ⟨hstore', hload, fun known => ?_⟩
  rw [Gives, run_load]
  split
  · next file' hfile =>
    obtain rfl : file = file' := Option.some.inj (hstore'.symm.trans hfile)
    rw [hload]
  · next hnone => exact absurd (hstore'.symm.trans hnone) (Option.some_ne_none file)

end

attribute [local instance] Runtime.usual

/-- A path with quotes, backslashes, control characters, separators of lines and a code point
    beyond the first plane. -/
def crookedPath : Text :=
  Text.of "it's \"so\"\\n\r\n\t\x01\x7f\u0085\u2028" ++ [.scalar (Char.ofNat 0x1f600)]

/-- A vault with a script and two notes, and a list with a crooked path twice. -/
def crookedNames : Workspace :=
  { vault :=
      { root := [], excluded := [], history := [],
        disk := ⟨[([Text.of "t.py"], .file ((Utf8.encode? (Text.of
            "[[\"return\", [\"lit\", \"hi\"]]]")).getD [])),
          ([Text.of "a.md"], .file ((Utf8.encode? (Text.of "%% template: 't.py' %%")).getD [])),
          ([Text.of "b.md"], .file [])]⟩ },
    indexed := false, policy := .marker, memory := .empty,
    store := some [Text.of "plugin", Text.of "known.json"],
    known := ⟨[crookedPath, crookedPath], []⟩ }

/-- A script is added, a section is inserted, and an update fails. -/
def crookedEvents : List Event :=
  [.change (.addTemplate (crookedPath ++ crookedPath)), .insert (Text.of "b.md") 0 (Text.of "t.py"),
    .update (Text.of "a\x00.md")]

theorem load_after_crookedEvents :
    ∃ w', Gives (Event.update (Text.of "a.md")).action (crookedNames.after crookedEvents) ⟨⟩ w' ∧
      w'.known = ⟨[crookedPath, crookedPath, Text.of "b.md", Text.of "a.md"],
        [crookedPath ++ crookedPath, Text.of "t.py"]⟩ ∧
      KnownPaths.load w'.vault.disk [Text.of "plugin", Text.of "known.json"] = w'.known ∧
      Gives Workspace.load { w' with known := .empty } ⟨⟩ w' := by
  have hrun : ((Event.update (Text.of "a.md")).action.run.run
        (crookedNames.after crookedEvents)).1.toOption = some () ∧
      ((Event.update (Text.of "a.md")).action.run.run
        (crookedNames.after crookedEvents)).2.known =
          ⟨[crookedPath, crookedPath, Text.of "b.md", Text.of "a.md"],
            [crookedPath ++ crookedPath, Text.of "t.py"]⟩ := by
    decide +kernel
  have h := gives_of_run hrun.1
  obtain ⟨-, hload, hfresh⟩ := load_after crookedNames crookedEvents rfl rfl h
  exact ⟨_, h, hrun.2, hload, hfresh .empty⟩

/-! ### No path is listed twice -/

theorem stable_isSet : Stable (·.known.IsSet) :=
  ⟨fun _ _ h => h, fun _ _ h => h, fun _ c h => h.change c⟩

section

variable [Runtime]

variable {w w' : Workspace}

/-- Paths that are listed once have one turn and are suggested once. -/
theorem nodup_of_isSet (h : w.known.IsSet) :
    (∀ es w', Gives updateKnown w es w' → (es.map (·.source)).Nodup) ∧
      ∀ query, (w.known.suggest query).Nodup := by
  refine ⟨fun es w' hes => ?_, fun query => h.templates.filter _⟩
  obtain ⟨hsources, -⟩ := of_gives_updateKnown hes
  rw [hsources]
  exact h.notes.filter _

/-- After a load the known paths are those of the file. -/
theorem known_after_load {events : List Event} {file : Path} (hstore : w.store = some file) :
    (w.after (events ++ [.load])).known = KnownPaths.load (w.after events).vault.disk file := by
  have hfile : (w.after events).store = some file := (store_after w events).trans hstore
  rw [after_concat, Event.action, run_load]
  simp only [hfile]

theorem known_after_load_of_none {events : List Event} (hstore : w.store = none) :
    (w.after (events ++ [.load])).known = (w.after events).known := by
  have hfile : (w.after events).store = none := (store_after w events).trans hstore
  rw [after_concat, Event.action, run_load]
  simp only [hfile]

/-- **When nothing is listed twice.**  At all times of a session the known paths list no path
    twice, an update of the known notes has one turn for a note, and no script is suggested twice:
    exactly if they listed none twice at the start and no file that was loaded does. -/
theorem isSet_after_iff (w : Workspace) (events : List Event) :
    (∀ pre, pre <+: events → (w.after pre).known.IsSet ∧
      (∀ es w', Gives updateKnown (w.after pre) es w' → (es.map (·.source)).Nodup) ∧
      ∀ query, ((w.after pre).known.suggest query).Nodup) ↔
    w.known.IsSet ∧ ∀ pre file, pre ++ [.load] <+: events → w.store = some file →
      (KnownPaths.load (w.after pre).vault.disk file).IsSet := by
  constructor
  · intro h
    refine ⟨(h [] List.nil_prefix).1, fun pre file hpre hstore => ?_⟩
    rw [← known_after_load hstore]
    exact (h _ hpre).1
  · rintro ⟨hstart, hloads⟩ pre hpre
    suffices hset : (w.after pre).known.IsSet from ⟨hset, nodup_of_isSet hset⟩
    induction pre using List.reverseRecOn with
    | nil => exact hstart
    | append_singleton pre e ih =>
      have hset := ih ((List.prefix_append pre [e]).trans hpre)
      by_cases he : e = .load
      · subst he
        cases hstore : w.store with
        | some file =>
          rw [known_after_load hstore]
          exact hloads pre file hpre hstore
        | none =>
          rw [known_after_load_of_none hstore]
          exact hset
      · rw [after_concat]
        exact stable_isSet.keeps_event he (w.after pre) hset

end

/-- A vault whose file of known paths lists a note twice and a script twice. -/
def repeating : Workspace :=
  { vault :=
      { root := [], excluded := [], history := [],
        disk := ⟨[([Text.of "a.md"], .file ((Utf8.encode? (Text.of "a")).getD [])),
          ([Text.of "known.json"], .file ((Utf8.encode? (Text.of (
            "\x7b\"knownTemplatedFilePaths\": [\"a.md\", \"a.md\"], " ++
              "\"knownTemplatePaths\": [\"t.py\", \"t.py\"]\x7d"))).getD []))]⟩ },
    indexed := false, policy := .marker, memory := .empty, store := some [Text.of "known.json"],
    known := .empty }

/-- **A load may bring repetitions**: the note has two turns and the script is suggested twice. -/
theorem load_repeats : repeating.known.IsSet ∧ ¬ (repeating.after [.load]).known.IsSet ∧
    (∃ es w', Gives updateKnown (repeating.after [.load]) es w' ∧
      es.map (·.source) = ["a.md", "a.md"].map Text.of) ∧
    (repeating.after [.load]).known.suggest [] = ["t.py", "t.py"].map Text.of := by
  have hrun : ((updateKnown.run.run (repeating.after [.load])).1.toOption.map
      (List.map (·.source))) = some (["a.md", "a.md"].map Text.of) := by
    decide +kernel
  exact ⟨by decide, by decide +kernel, exists_gives_of_run hrun, by decide +kernel⟩

end TemplatedNotes.Workspace
