/-
  TemplatedNotes/Proofs/Batch/Turns.lean
  ======================================
  **A command that updates notes, turn by turn.**

  A command gives each of its notes a turn, one after the other, and then saves the known paths; a
  turn that fails is the last one, and nothing is saved.  A turn ends in one of six ways (`Ends`)
  and the turns of a command are a chain of such ends (`Chain`).  So what a command does is said of
  one turn, by the ways it can end, and then of all of them by going along the chain.  A script
  that gets hold of a part of the engine ends the turn of its note as `unexpanded`, and the command
  with it.

    * `ends_of_run_refresh` — the turn of a note comes to one of these ends;
    * `Command.isRun_of_run` — a command is a chain of turns that is stopped by the last of them, or
      is followed by a save that works or fails.
-/
import TemplatedNotes.Proofs.Refresh

namespace TemplatedNotes.Workspace

open TemplatedNotes.Action

variable {w w' w₁ : Workspace} {path : Text} {r : Outcome (Option Expansion)}

/-! ### One turn -/

variable [Runtime]

/-- A note of a session is read and expanded. -/
structure Expands (w : Workspace) (path text : Text) (e : Expansion) (m : Script.Memory) : Prop where
  read : w.vault.read path = .ok text
  expand : Gives (w.host.runner.expand w.policy text path) w.memory e m

/-- How the turn of a note ends: it looks plain and is passed over; it is not there and is
    forgotten; it cannot be looked for, read or expanded; it is recorded and its text stays; it is
    recorded and written; or it is recorded and its writing fails. -/
inductive Ends (w : Workspace) (path : Text) : Outcome (Option Expansion) → Workspace → Prop where
  | passed {text : Text} (read : w.vault.read path = .ok text)
      (plain : Section.mayOpen text = false) : Ends w path (.ok none) w
  | absent (gone : w.vault.isThere path = false) :
      Ends w path (.ok none) { w with known := w.known.removeNote path }
  | unexpanded (f : Failure) (m : Script.Memory) (never : ∀ text e m, ¬ w.Expands path text e m) :
      Ends w path (.error f) { w with memory := m }
  | kept {text : Text} {e : Expansion} {m : Script.Memory} (expands : w.Expands path text e m)
      (same : e.changed = false) :
      Ends w path (.ok (some e)) { w with memory := m, known := w.known.record e }
  | written {text : Text} {e : Expansion} {m : Script.Memory} {v : Vault}
      (expands : w.Expands path text e m) (changed : e.changed = true)
      (write : Gives (Vault.modify path e.text) w.vault ⟨⟩ v) :
      Ends w path (.ok (some e)) { w with vault := v, memory := m, known := w.known.record e }
  | unwritten {text : Text} {e : Expansion} {m : Script.Memory} {f : Failure} {v : Vault}
      (expands : w.Expands path text e m) (changed : e.changed = true)
      (write : Fails (Vault.modify path e.text) w.vault f v) :
      Ends w path (.error f) { w with vault := v, memory := m, known := w.known.record e }

theorem Expands.unique {text text' : Text} {e e' : Expansion} {m m' : Script.Memory}
    (h : w.Expands path text e m) (h' : w.Expands path text' e' m') :
    text = text' ∧ e = e' ∧ m = m' := by
  obtain rfl := Except.ok.inj (h.read.symm.trans h'.read)
  exact ⟨rfl, h.expand.unique h'.expand⟩

/-- A turn that fails has not expanded its note, or has recorded it and failed to write it. -/
theorem ends_of_fails_refresh {f : Failure} (h : Fails (refresh path) w f w') :
    Ends w path (.error f) w' := by
  have hsteps := fails_get_bind.1 h
  clear h
  rcases fails_bind.1 hsteps with hexists | ⟨there, w₁, hthere, hread⟩
  · obtain ⟨hexists, rfl⟩ := fails_lift.1 hexists
    refine .unexpanded f w'.memory fun text e m hexpands => ?_
    rw [Vault.exists?_of_read hexpands.read] at hexists
    cases hexists
  obtain ⟨-, rfl⟩ := gives_lift.1 hthere
  cases there with
  | false =>
    rcases fails_bind.1 hread with hknown | ⟨u, w₂, -, hpure⟩
    · exact absurd hknown not_fails_modifyThe
    · exact absurd hpure not_fails_pure
  | true =>
    rcases fails_bind.1 hread with htext | ⟨text, w₂, htext, hexpand⟩
    · obtain ⟨hunread, rfl⟩ := fails_lift.1 htext
      refine .unexpanded f w'.memory fun text e m hexpands => ?_
      rw [hexpands.read] at hunread
      cases hunread
    obtain ⟨htext, rfl⟩ := gives_lift.1 htext
    rcases fails_bind.1 hexpand with he | ⟨e, w₃, he, hrecord⟩
    · obtain ⟨m, hm, rfl⟩ := of_fails_onMemory (fails_get_bind.1 he)
      refine .unexpanded f m fun text' e m' hexpands => ?_
      obtain rfl := Except.ok.inj (htext.symm.trans hexpands.read)
      have hboth := hm.symm.trans hexpands.expand
      injection hboth with hboth
      cases hboth
    obtain ⟨m, hm, rfl⟩ := of_gives_onMemory (gives_get_bind.1 he)
    rcases fails_bind.1 hrecord with hknown | ⟨u, w₄, hknown, hwrite⟩
    · exact absurd hknown not_fails_modifyThe
    obtain rfl := gives_modifyThe.1 hknown
    cases hchanged : e.changed with
    | false =>
      rw [hchanged] at hwrite
      exact absurd hwrite not_fails_pure
    | true =>
      rw [hchanged] at hwrite
      rcases fails_bind.1 hwrite with hmodify | ⟨u, w₅, -, hpure⟩
      · obtain ⟨v, hv, rfl⟩ := of_fails_onVault hmodify
        exact .unwritten ⟨htext, hm⟩ hchanged hv
      · exact absurd hpure not_fails_pure

/-- **The turn of a note comes to one of its ends.** -/
theorem ends_of_run_refresh (h : (refresh path).run.run w = (r, w')) : Ends w path r w' := by
  cases r with
  | error f => exact ends_of_fails_refresh h
  | ok x =>
    rcases cases_of_gives_refresh h with ⟨hgone, rfl, rfl⟩ |
      ⟨text, e, m, v, hread, rfl, hexpand, ⟨hsame, rfl⟩ | ⟨hchanged, hwrite⟩, rfl⟩
    · exact .absent hgone
    · exact .kept ⟨hread, hexpand⟩ hsame
    · exact .written ⟨hread, hexpand⟩ hchanged hwrite

/-- The turn of a note among all: its update, if a quick look finds that it may have sections. -/
def refreshIfMarked (path : Text) : Action Workspace (Option Expansion) := do
  let text ← Action.lift ((← get).vault.read path)
  if Section.mayOpen text then refresh path else return none

theorem ends_of_run_refreshIfMarked (h : (refreshIfMarked path).run.run w = (r, w')) :
    Ends w path r w' := by
  have hrun : (refreshIfMarked path).run.run w =
      (Action.lift (w.vault.read path) >>= fun text =>
        if Section.mayOpen text then refresh path else pure none).run.run w := rfl
  rw [hrun, run_bind, run_lift] at h
  cases hread : w.vault.read path with
  | error f =>
    rw [hread] at h
    cases h
    refine .unexpanded f w.memory fun text e m hexpands => ?_
    rw [hexpands.read] at hread
    cases hread
  | ok text =>
    rw [hread] at h
    dsimp only at h
    cases hmay : Section.mayOpen text with
    | true =>
      rw [hmay] at h
      exact ends_of_run_refresh h
    | false =>
      rw [hmay] at h
      cases h
      exact .passed hread hmay

/-! ### Turns one after the other -/

/-- Gives notes their turns. -/
def each (turn : Text → Action Workspace (Option Expansion)) :
    List Text → Action Workspace (List Expansion)
  | [] => return []
  | path :: rest => do
    let e ← turn path
    let es ← each turn rest
    return e.toList ++ es

theorem refreshEach_eq_each (paths : List Text) : refreshEach paths = each refresh paths := by
  induction paths with
  | nil => rfl
  | cons path rest ih => rw [refreshEach, each, ih]

theorem refreshMarked_eq_each (paths : List Text) :
    refreshMarked paths = each refreshIfMarked paths := by
  induction paths with
  | nil => rfl
  | cons path rest ih =>
    simp only [refreshMarked, each, refreshIfMarked, ih, bind_assoc]
    refine bind_congr fun w => bind_congr fun text => ?_
    cases Section.mayOpen text <;> rfl

/-- A turn: its note, the session before it, what came of it and the session after it. -/
structure Turn where
  path : Text
  before : Workspace
  result : Outcome (Option Expansion)
  after : Workspace

/-- The expansion that a turn gives. -/
def Turn.expansion? (t : Turn) : Option Expansion :=
  match t.result with
  | .ok x => x
  | .error _ => none

/-- The turns that some notes have; there is none after one that fails. -/
def turns (turn : Text → Action Workspace (Option Expansion)) : List Text → Workspace → List Turn
  | [], _ => []
  | path :: rest, w =>
    match (turn path).run.run w with
    | (.ok x, w₁) => ⟨path, w, .ok x, w₁⟩ :: turns turn rest w₁
    | (.error f, w₁) => [⟨path, w, .error f, w₁⟩]

/-- Turns that lead from one session to another, each from where the one before has left off, and
    what they give together. -/
inductive Chain : Workspace → List Turn → Outcome (List Expansion) → Workspace → Prop where
  | nil (w : Workspace) : Chain w [] (.ok []) w
  | stop {w w' : Workspace} {path : Text} {f : Failure} (ends : Ends w path (.error f) w') :
      Chain w [⟨path, w, .error f, w'⟩] (.error f) w'
  | next {w w₁ w' : Workspace} {path : Text} {x : Option Expansion} {ts : List Turn}
      {r : Outcome (List Expansion)} (ends : Ends w path (.ok x) w₁) (rest : Chain w₁ ts r w') :
      Chain w (⟨path, w, .ok x, w₁⟩ :: ts) (r.map (x.toList ++ ·)) w'

/-- **The turns of some notes are a chain.** -/
theorem chain_turns {turn : Text → Action Workspace (Option Expansion)}
    (hturn : ∀ {path w r w'}, (turn path).run.run w = (r, w') → Ends w path r w')
    {paths : List Text} {r : Outcome (List Expansion)}
    (h : (each turn paths).run.run w = (r, w')) : Chain w (turns turn paths w) r w' := by
  induction paths generalizing w r with
  | nil =>
    cases h
    exact .nil _
  | cons path rest ih =>
    rw [each, run_bind] at h
    rw [turns]
    rcases hfirst : (turn path).run.run w with ⟨f | x, w₁⟩
    · rw [hfirst] at h
      cases h
      exact .stop (hturn hfirst)
    · rw [hfirst] at h
      dsimp only at h ⊢
      rw [run_bind] at h
      rcases hrest : (each turn rest).run.run w₁ with ⟨f | es, w₂⟩
      · rw [hrest] at h
        cases h
        exact .next (hturn hfirst) (ih hrest)
      · rw [hrest] at h
        cases h
        exact .next (hturn hfirst) (ih hrest)

omit [Runtime] in
/-- Notes have their turns in order, up to the one whose turn fails. -/
theorem map_path_turns (turn : Text → Action Workspace (Option Expansion)) (paths : List Text)
    (w : Workspace) : (turns turn paths w).map (·.path) <+: paths := by
  induction paths generalizing w with
  | nil => exact List.nil_prefix
  | cons path rest ih =>
    rw [turns]
    split
    · exact List.cons_prefix_cons.2 ⟨rfl, ih _⟩
    · exact List.cons_prefix_cons.2 ⟨rfl, List.nil_prefix⟩

theorem Chain.eq_filterMap {ts : List Turn} {es : List Expansion} (h : Chain w ts (.ok es) w') :
    es = ts.filterMap Turn.expansion? := by
  generalize hr : Except.ok es = r at h
  induction h generalizing es with
  | nil =>
    cases hr
    rfl
  | stop => cases hr
  | @next w w₁ w' path x ts r ends rest ih =>
    obtain ⟨es₁, rfl, rfl⟩ := Outcome.map_eq_ok.1 hr.symm
    rw [ih rfl, List.filterMap_cons]
    cases x <;> rfl

theorem Chain.result_eq_ok {ts : List Turn} {es : List Expansion} (h : Chain w ts (.ok es) w') :
    ∀ t ∈ ts, ∃ x, t.result = .ok x := by
  generalize hr : Except.ok es = r at h
  induction h generalizing es with
  | nil => simp
  | stop => cases hr
  | next ends rest ih =>
    obtain ⟨es₁, rfl, -⟩ := Outcome.map_eq_ok.1 hr.symm
    exact List.forall_mem_cons.2 ⟨⟨_, rfl⟩, ih rfl⟩

/-- Every turn of a chain comes to one of its ends, the turns behind it are a chain too, and there
    is none behind one that fails. -/
theorem Chain.of_append {pre post : List Turn} {t : Turn} {r : Outcome (List Expansion)}
    (h : Chain w (pre ++ t :: post) r w') :
    (∃ es, Chain w pre (.ok es) t.before) ∧ Ends t.before t.path t.result t.after ∧
      (∃ r₁, Chain t.after post r₁ w') ∧ ∀ f, t.result = .error f → r = .error f ∧ w' = t.after := by
  generalize hts : pre ++ t :: post = ts at h
  induction h generalizing pre with
  | nil => simp at hts
  | stop ends =>
    cases pre with
    | nil =>
      cases hts
      refine ⟨⟨_, .nil _⟩, ends, ⟨_, .nil _⟩, fun f hf => ?_⟩
      cases hf
      exact ⟨rfl, rfl⟩
    | cons first more => simp at hts
  | next ends rest ih =>
    cases pre with
    | nil =>
      cases hts
      exact ⟨⟨_, .nil _⟩, ends, ⟨_, rest⟩, fun f hf => by cases hf⟩
    | cons first more =>
      rw [List.cons_append] at hts
      injection hts with hfirst hmore
      obtain ⟨⟨es, hpre⟩, hends, hpost, hlast⟩ := ih hmore
      subst hfirst
      refine ⟨⟨_, .next ends hpre⟩, hends, hpost, fun f hf => ?_⟩
      obtain ⟨rfl, hw⟩ := hlast f hf
      exact ⟨rfl, hw⟩

theorem Ends.exists_expands {e : Expansion} (h : Ends w path r w')
    (he : (Turn.mk path w r w').expansion? = some e) : ∃ text m, w.Expands path text e m := by
  cases h with
  | kept expands =>
    cases he
    exact ⟨_, _, expands⟩
  | written expands =>
    cases he
    exact ⟨_, _, expands⟩
  | _ => cases he

theorem Chain.exists_expands {ts : List Turn} {es : List Expansion} (h : Chain w ts (.ok es) w')
    {e : Expansion} (he : e ∈ es) : ∃ t ∈ ts, ∃ text m, t.before.Expands t.path text e m := by
  rw [h.eq_filterMap] at he
  obtain ⟨t, ht, hexpansion⟩ := List.mem_filterMap.1 he
  obtain ⟨pre, post, rfl⟩ := List.append_of_mem ht
  obtain ⟨-, hends, -⟩ := h.of_append
  exact ⟨t, ht, hends.exists_expands hexpansion⟩

theorem Ends.store (h : Ends w path r w') : w'.store = w.store := by
  cases h <;> rfl

theorem Ends.root (h : Ends w path r w') : w'.vault.root = w.vault.root := by
  cases h with
  | written _ _ write => exact (Vault.read_of_gives_modify write).1
  | unwritten _ _ write =>
    rcases Vault.fails_modify_iff.1 write with ⟨-, rfl⟩ | ⟨p, -, ⟨g, -, -, rfl⟩ | ⟨-, -, -, rfl⟩⟩
    · rfl
    · rfl
    · rfl
  | _ => rfl

/-- The turns of a command leave the vault in its folder and the file of the known paths where it
    is. -/
theorem Chain.frame {ts : List Turn} {r : Outcome (List Expansion)} (h : Chain w ts r w') :
    w'.store = w.store ∧ w'.vault.root = w.vault.root := by
  induction h with
  | nil => exact ⟨rfl, rfl⟩
  | stop ends => exact ⟨ends.store, ends.root⟩
  | next ends rest ih => exact ⟨ih.1.trans ends.store, ih.2.trans ends.root⟩

/-! ### The commands -/

/-- The commands that update notes. -/
inductive Command where
  | update (path : Text)
  | updateAll
  | updateKnown

namespace Command

/-- What a command does; an update of one note gives one expansion or none. -/
def action : Command → Action Workspace (List Expansion)
  | update path => do return (← Workspace.update path).toList
  | updateAll => Workspace.updateAll
  | updateKnown => Workspace.updateKnown

/-- The notes that a command gives a turn. -/
def notes (w : Workspace) : Command → List Text
  | update path => [path]
  | updateAll => w.vault.notes
  | updateKnown => w.known.notes

/-- The turn that a command gives a note. -/
def turn : Command → Text → Action Workspace (Option Expansion)
  | updateAll => refreshIfMarked
  | update _ | updateKnown => refresh

/-- The turns of a command. -/
def turns (c : Command) (w : Workspace) : List Turn := Workspace.turns c.turn (c.notes w) w

/-- What comes of a command: a turn fails; or all turns have their ends, and the known paths cannot
    be saved, or are saved. -/
inductive IsRun (c : Command) (w : Workspace) : Outcome (List Expansion) → Workspace → Prop where
  | stopped {f : Failure} {w' : Workspace} (chain : Chain w (c.turns w) (.error f) w') :
      IsRun c w (.error f) w'
  | unsaved {es : List Expansion} {f : Failure} {w₁ w' : Workspace}
      (chain : Chain w (c.turns w) (.ok es) w₁) (save : Fails save w₁ f w') : IsRun c w (.error f) w'
  | saved {es : List Expansion} {w₁ w' : Workspace} (chain : Chain w (c.turns w) (.ok es) w₁)
      (save : Gives save w₁ ⟨⟩ w') : IsRun c w (.ok es) w'

theorem action_eq (c : Command) :
    c.action = do
      let es ← each c.turn (c.notes (← get))
      save
      return es := by
  cases c with
  | update path =>
    simp only [action, Workspace.update, notes, turn, each, bind_assoc, pure_bind, List.append_nil]
    rfl
  | updateAll =>
    unfold action Workspace.updateAll
    simp only [refreshMarked_eq_each]
    rfl
  | updateKnown =>
    unfold action Workspace.updateKnown
    simp only [refreshEach_eq_each]
    rfl

/-- **Every run of a command** is a chain of its turns, and then a save if no turn has failed. -/
theorem isRun_of_run {c : Command} {r : Outcome (List Expansion)}
    (h : c.action.run.run w = (r, w')) : c.IsRun w r w' := by
  have hrun : c.action.run.run w = (each c.turn (c.notes w) >>= fun es =>
      save >>= fun _ => pure es).run.run w := by
    rw [action_eq]
    rfl
  have hturn : ∀ {path w r w'}, (c.turn path).run.run w = (r, w') → Ends w path r w' := by
    cases c with
    | updateAll => exact ends_of_run_refreshIfMarked
    | update => exact ends_of_run_refresh
    | updateKnown => exact ends_of_run_refresh
  rw [hrun, run_bind] at h
  rcases heach : (each c.turn (c.notes w)).run.run w with ⟨f | es, w₁⟩
  · rw [heach] at h
    cases h
    exact .stopped (chain_turns hturn heach)
  · rw [heach] at h
    dsimp only at h
    rw [run_bind] at h
    rcases hsave : save.run.run w₁ with ⟨f | u, w₂⟩
    · rw [hsave] at h
      cases h
      exact .unsaved (chain_turns hturn heach) hsave
    · rw [hsave] at h
      cases h
      exact .saved (chain_turns hturn heach) hsave

/-- A turn that fails is the last thing that a command does. -/
theorem IsRun.stopped_of_result {c : Command} {r : Outcome (List Expansion)} {t : Turn}
    {f : Failure} (h : c.IsRun w r w') (ht : t ∈ c.turns w) (hresult : t.result = .error f) :
    r = .error f ∧ Chain w (c.turns w) (.error f) w' := by
  have hnot : ∀ {es w₁}, ¬ Chain w (c.turns w) (.ok es) w₁ := by
    intro es w₁ chain
    obtain ⟨x, hx⟩ := chain.result_eq_ok t ht
    rw [hresult] at hx
    cases hx
  cases h with
  | stopped chain =>
    obtain ⟨pre, post, hsplit⟩ := List.append_of_mem ht
    have hchain := chain
    rw [hsplit] at hchain
    obtain ⟨-, -, -, hlast⟩ := hchain.of_append
    obtain ⟨hf, -⟩ := hlast f hresult
    cases hf
    exact ⟨rfl, chain⟩
  | unsaved chain => exact absurd chain hnot
  | saved chain => exact absurd chain hnot

end Command

end TemplatedNotes.Workspace
