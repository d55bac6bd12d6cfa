/-
  TemplatedNotes/Proofs/Refresh.lean
  ==================================
  **Notes brought up to date one after the other.**

  Several paths may lead to one note, so a note may be read again after it was written, with
  whatever its scripts rendered.  What a vault is after some updates is said by `Refreshed`: the
  same notes are there, and a note holds what it held before, or it had a section and still has
  one if it can be read at all.  So each turn finds the note to be there, and to have a section,
  exactly as it was at the start (`of_gives_refresh`), and the list of known notes goes through
  steps that depend on nothing but the start (`of_gives_refreshEach`).
-/
import TemplatedNotes.Proofs.Expansion.Persistence
import TemplatedNotes.Proofs.KnownPaths

namespace TemplatedNotes

open TemplatedNotes.Action

/-- What a command comes to where no script has got hold of a part of the engine.  With the vault
    in its hands a script can read and write what it likes, and that is not followed here. -/
structure Workspace.IsFollowed {α : Type} (x : Action Workspace α) (w : Workspace) (r : Outcome α)
    (w' : Workspace) : Prop where
  run : x.run.run w = (r, w')
  engineKept : w'.memory.EngineKept

/-- That a command works and keeps the engine can be checked by evaluation. -/
theorem Workspace.exists_isFollowed_of_run {α : Type} {x : Action Workspace α} {w : Workspace}
    (h : (x.run.run w).1.toOption.isSome = true) (hengine : (x.run.run w).2.memory.EngineKept) :
    ∃ a, Workspace.IsFollowed x w (.ok a) (x.run.run w).2 := by
  obtain ⟨a, ha⟩ := Option.isSome_iff_exists.1 h
  exact ⟨a, gives_of_run ha, hengine⟩

variable [Runtime]

namespace Vault

variable {v v' v'' : Vault} {path text : Text}

/-- Whether a note is there, as a file in the vault. -/
def isThere (v : Vault) (path : Text) : Bool :=
  match v.exists? path with
  | .ok there => there
  | .error _ => false

/-- Whether a note is there and its text has a section. -/
def hasSection (v : Vault) (path : Text) : Bool :=
  match v.read path with
  | .ok text =>
    match Reference.read path text with
    | .ok rs => !rs.isEmpty
    | .error _ => false
  | .error _ => false

omit [Runtime] in
theorem isThere_iff :
    v.isThere path = true ↔ ∃ p b, v.absolute path = .ok p ∧ v.disk.bytes p = .ok b := by
  have hfile : ∀ p, v.disk.isFile p = .ok true ↔ ∃ b, v.disk.bytes p = .ok b := by
    intro p
    constructor
    · intro h
      obtain ⟨b, hb⟩ := look_of_isFile h
      exact ⟨b, Disk.bytes_eq_ok_iff.2 hb⟩
    · rintro ⟨b, hb⟩
      rw [Disk.isFile, Disk.bytes_eq_ok_iff.1 hb]
  have hthere : v.isThere path = true ↔ v.exists? path = .ok true := by
    unfold isThere
    cases v.exists? path <;> simp
  rw [hthere, exists?]
  split
  · next p hp => simp [hp, hfile]
  · next hp => simp [hp]
  · next f _ hp => simp [hp]

omit [Runtime] in
theorem isThere_of_read (h : v.read path = .ok text) : v.isThere path = true := by
  rw [isThere, exists?_of_read h]

theorem hasSection_iff :
    v.hasSection path = true ↔ ∃ text, v.read path = .ok text ∧ Reference.Opens text := by
  unfold hasSection
  cases v.read path with
  | error f => simp
  | ok text =>
    cases hrs : Reference.read path text with
    | error f => simp [hrs, Reference.not_opens_of_read hrs]
    | ok rs => simp [hrs, Reference.opens_iff_of_read hrs]

theorem hasSection_of_read {rs : List Reference} (hread : v.read path = .ok text)
    (hrs : Reference.read path text = .ok rs) : v.hasSection path = !rs.isEmpty := by
  simp only [hasSection, hread, hrs]

theorem isThere_of_hasSection (h : v.hasSection path = true) : v.isThere path = true := by
  obtain ⟨text, hread, -⟩ := hasSection_iff.1 h
  exact isThere_of_read hread

/-! ### A vault after some updates -/

/-- The same notes are there, and each holds what it held, or has kept a section; a note that could
    be read and has no section holds what it held. -/
structure Refreshed (v v' : Vault) : Prop where
  root : v'.root = v.root
  isThere : ∀ path, v'.isThere path = v.isThere path
  read : ∀ {path text'}, v'.read path = .ok text' → ∃ text, v.read path = .ok text ∧
    (text' = text ∨ Reference.Opens text ∧
      ∀ {other rs}, Reference.read other text' = .ok rs → Reference.Opens text')
  plain : ∀ {path text}, v.read path = .ok text → ¬ Reference.Opens text →
    v'.read path = .ok text

theorem Refreshed.refl (v : Vault) : Refreshed v v :=
  ⟨rfl, fun _ => rfl, fun h => ⟨_, h, Or.inl rfl⟩, fun h _ => h⟩

theorem Refreshed.trans (h : Refreshed v v') (h' : Refreshed v' v'') : Refreshed v v'' := by
  refine ⟨h'.root.trans h.root, fun path => (h'.isThere path).trans (h.isThere path),
    fun hread => ?_, fun hread hplain => h'.plain (h.plain hread hplain) hplain⟩
  obtain ⟨text', hread', rfl | ⟨hopens', hkept'⟩⟩ := h'.read hread
  · exact h.read hread'
  · obtain ⟨text, hread, rfl | ⟨hopens, -⟩⟩ := h.read hread'
    · exact ⟨_, hread, Or.inr ⟨hopens', hkept'⟩⟩
    · exact ⟨text, hread, Or.inr ⟨hopens, hkept'⟩⟩

/-- A note with a section is given a text that keeps one. -/
theorem refreshed_of_gives_modify {content : Text} {u : Unit} (hread : v.read path = .ok text)
    (hopens : Reference.Opens text)
    (hkept : ∀ {other rs}, Reference.read other content = .ok rs → Reference.Opens content)
    (h : Gives (modify path content) v u v') : Refreshed v v' := by
  obtain ⟨p, b, hp, hopen, hencode, rfl⟩ := exists_of_gives_modify h
  obtain ⟨p', b₀, hp', hb₀, htext⟩ := read_eq_ok_iff.1 hread
  obtain rfl : p' = p := Except.ok.inj (hp'.symm.trans hp)
  refine ⟨rfl, ?_, ?_, ?_⟩
  · intro other
    rw [Bool.eq_iff_iff, isThere_iff, isThere_iff]
    constructor
    · rintro ⟨q, c, hq, hc⟩
      rcases (Disk.bytes_put_iff hopen).1 hc with ⟨rfl, -⟩ | ⟨-, hc⟩
      · exact ⟨q, b₀, hq, hb₀⟩
      · exact ⟨q, c, hq, hc⟩
    · rintro ⟨q, c, hq, hc⟩
      by_cases hqp : q = p'
      · exact ⟨q, b, hq, (Disk.bytes_put_iff hopen).2 (Or.inl ⟨hqp, rfl⟩)⟩
      · exact ⟨q, c, hq, (Disk.bytes_put_iff hopen).2 (Or.inr ⟨hqp, hc⟩)⟩
  · intro other text' hother
    obtain ⟨q, c, hq, hc, hdecode⟩ := read_eq_ok_iff.1 hother
    rcases (Disk.bytes_put_iff hopen).1 hc with ⟨rfl, rfl⟩ | ⟨-, hc⟩
    · obtain rfl := Except.ok.inj ((Utf8.decode_of_encode? hencode).symm.trans hdecode)
      exact ⟨text, read_eq_ok_iff.2 ⟨q, b₀, hq, hb₀, htext⟩, Or.inr ⟨hopens, hkept⟩⟩
    · exact ⟨text', read_eq_ok_iff.2 ⟨q, c, hq, hc, hdecode⟩, Or.inl rfl⟩
  · intro other text' hother hplain
    obtain ⟨q, c, hq, hc, hdecode⟩ := read_eq_ok_iff.1 hother
    have hqp : q ≠ p' := by
      rintro rfl
      have hread' : v.read other = .ok text := read_eq_ok_iff.2 ⟨q, b₀, hq, hb₀, htext⟩
      obtain rfl := Except.ok.inj (hread'.symm.trans hother)
      exact hplain hopens
    exact read_eq_ok_iff.2 ⟨q, c, hq, (Disk.bytes_put_iff hopen).2 (Or.inr ⟨hqp, hc⟩), hdecode⟩

end Vault

namespace Workspace

variable {w w' : Workspace} {v₀ : Vault} {path : Text}

/-! ### One note -/

/-- **The turn of a note**: it is not there and is forgotten, or it is read, expanded and recorded,
    and written back if its text has changed. -/
theorem cases_of_gives_refresh {x : Option Expansion} (h : Gives (refresh path) w x w') :
    (w.vault.isThere path = false ∧ x = none ∧ w' = { w with known := w.known.removeNote path }) ∨
      ∃ text e m v, w.vault.read path = .ok text ∧ x = some e ∧
        Gives (w.host.runner.expand w.policy text path) w.memory e m ∧
        (e.changed = false ∧ v = w.vault ∨
          e.changed = true ∧ Gives (Vault.modify path e.text) w.vault ⟨⟩ v) ∧
        w' = { w with vault := v, memory := m, known := w.known.record e } := by
  have hsteps := gives_get_bind.1 h
  obtain ⟨there, w₁, hthere, hsteps⟩ := gives_bind.1 hsteps
  obtain ⟨hexists, rfl⟩ := gives_lift.1 hthere
  cases there with
  | false =>
    obtain ⟨u, w₂, hknown, hsteps⟩ := gives_bind.1 hsteps
    obtain rfl := gives_modifyThe.1 hknown
    obtain ⟨rfl, rfl⟩ := gives_pure.1 hsteps
    exact Or.inl ⟨by rw [Vault.isThere, hexists], rfl, rfl⟩
  | true =>
    obtain ⟨text, w₂, htext, -⟩ := gives_bind.1 hsteps
    obtain ⟨hread, -⟩ := gives_lift.1 htext
    obtain ⟨e, m, v, hx, hexpand, hwritten, hw'⟩ := gives_refresh hread h
    exact Or.inr ⟨text, e, m, v, hread, hx, hexpand, hwritten, hw'⟩

/-- The known notes after the turn of one that is to be kept or not. -/
def settle (keep : Text → Bool) (notes : List Text) (path : Text) : List Text :=
  if keep path then Expansion.addOnce notes path else KnownPaths.without notes path

/-- A note whose section an earlier turn may have filled is reported to have one as at the start,
    and it could be read then. -/
theorem hasSection_of_gives_expand {text : Text} {e : Expansion} {m : Script.Memory}
    (hv : Vault.Refreshed v₀ w.vault) (hread : w.vault.read path = .ok text)
    (hexpand : Gives (w.host.runner.expand w.policy text path) w.memory e m) :
    v₀.hasSection path = e.hadReferences ∧
      ∃ text₀ rs, v₀.read path = .ok text₀ ∧ Reference.read path text₀ = .ok rs := by
  obtain ⟨-, hhad, -⟩ := Runner.report_of_gives_expand hexpand
  obtain ⟨ms, hms, -⟩ := Runner.gives_expand hexpand
  have hrs : Reference.read path text = .ok _ := Reference.readLines_eq_ok.2 ⟨ms, hms, rfl⟩
  obtain ⟨text₀, hread₀, hcase⟩ := hv.read hread
  -- an earlier turn of the same note has changed its text, but not whether it has a section
  have hsame : (Reference.Opens text₀ ↔ Reference.Opens text) ∧
      ∃ rs, Reference.read path text₀ = .ok rs := by
    rcases hcase with rfl | ⟨hopens, hkept⟩
    · exact ⟨Iff.rfl, _, hrs⟩
    · exact ⟨iff_of_true hopens (hkept hrs), hopens.exists_read path⟩
  obtain ⟨hopens, rs, hrs₀⟩ := hsame
  refine ⟨?_, text₀, rs, hread₀, hrs₀⟩
  rw [Bool.eq_iff_iff, hhad, ← hopens, Vault.hasSection_iff]
  simp [hread₀]

/-- A note that is written with its expansion keeps its section. -/
theorem refreshed_of_write {text : Text} {e : Expansion} {m : Script.Memory} {v : Vault}
    (hread : w.vault.read path = .ok text)
    (hexpand : Gives (w.host.runner.expand w.policy text path) w.memory e m)
    (hchanged : e.changed = true) (hwrite : Gives (Vault.modify path e.text) w.vault ⟨⟩ v) :
    Vault.Refreshed w.vault v := by
  obtain ⟨-, hhad, hchange⟩ := Runner.report_of_gives_expand hexpand
  have hopens := hhad.1 (hchange hchanged)
  exact Vault.refreshed_of_gives_modify hread hopens (Runner.opens_of_gives_expand hexpand hopens)
    hwrite

/-- **A turn goes by the start**: whether a note is there, has a section and can be read is what it
    was before the updates. -/
theorem of_gives_refresh {x : Option Expansion} (hv : Vault.Refreshed v₀ w.vault)
    (h : Gives (refresh path) w x w') :
    Vault.Refreshed v₀ w'.vault ∧
      x.toList.map (·.source) = [path].filter v₀.isThere ∧
      w'.known.notes = settle v₀.hasSection w.known.notes path ∧
      (v₀.isThere path = true → ∃ text rs, v₀.read path = .ok text ∧
        Reference.read path text = .ok rs) := by
  rcases cases_of_gives_refresh h with ⟨hthere, rfl, rfl⟩ |
    ⟨text, e, m, v, hread, rfl, hexpand, hwritten, rfl⟩
  · rw [hv.isThere] at hthere
    have hnone : v₀.hasSection path = false := by
      rw [Bool.eq_false_iff] at hthere ⊢
      exact fun hsection => hthere (Vault.isThere_of_hasSection hsection)
    refine ⟨hv, by simp [hthere], ?_, fun h => absurd (hthere.symm.trans h) Bool.false_ne_true⟩
    rw [settle, hnone]
    rfl
  · obtain ⟨hsource, -, -⟩ := Runner.report_of_gives_expand hexpand
    obtain ⟨hsection, text₀, rs, hread₀, hrs⟩ := hasSection_of_gives_expand hv hread hexpand
    refine ⟨?_, ?_, ?_, fun _ => ⟨text₀, rs, hread₀, hrs⟩⟩
    · rcases hwritten with ⟨-, rfl⟩ | ⟨hchanged, hwrite⟩
      · exact hv
      · exact hv.trans (refreshed_of_write hread hexpand hchanged hwrite)
    · simp [Vault.isThere_of_read hread₀, hsource]
    · dsimp only
      rw [KnownPaths.record_eq, hsource, settle, hsection]

/-! ### Notes one after the other -/

omit [Runtime] in
/-- A command that saves the known paths at its end. -/
theorem of_gives_saved {α : Type} {x : Action Workspace α} {a : α}
    (h : Gives (x >>= fun a => save >>= fun _ => pure a) w a w') :
    ∃ w₁, Gives x w a w₁ ∧ Gives save w₁ ⟨⟩ w' := by
  obtain ⟨a', w₁, hx, h⟩ := gives_bind.1 h
  obtain ⟨u, w₂, hsave, h⟩ := gives_bind.1 h
  obtain ⟨rfl, rfl⟩ := gives_pure.1 h
  exact ⟨w₁, hx, hsave⟩

theorem gives_refreshEach_cons {rest : List Text} {es : List Expansion} :
    Gives (refreshEach (path :: rest)) w es w' ↔
      ∃ x w₁ es₁, Gives (refresh path) w x w₁ ∧ Gives (refreshEach rest) w₁ es₁ w' ∧
        es = x.toList ++ es₁ := by
  constructor
  · intro h
    obtain ⟨x, w₁, hx, h⟩ := gives_bind.1 h
    obtain ⟨es₁, w₂, hes, h⟩ := gives_bind.1 h
    obtain ⟨rfl, rfl⟩ := gives_pure.1 h
    exact ⟨x, w₁, es₁, hx, hes, rfl⟩
  · rintro ⟨x, w₁, es₁, hx, hes, rfl⟩
    exact gives_bind.2 ⟨x, w₁, hx, gives_bind.2 ⟨es₁, w', hes, gives_pure.2 ⟨rfl, rfl⟩⟩⟩

/-- **All turns go by the start**: every note that is there has its expansion, in order, and each
    turn settles its note. -/
theorem of_gives_refreshEach {paths : List Text} {es : List Expansion}
    (hv : Vault.Refreshed v₀ w.vault) (h : Gives (refreshEach paths) w es w') :
    Vault.Refreshed v₀ w'.vault ∧ es.map (·.source) = paths.filter v₀.isThere ∧
      w'.known.notes = paths.foldl (settle v₀.hasSection) w.known.notes ∧
      ∀ path ∈ paths, v₀.isThere path = true → ∃ text rs, v₀.read path = .ok text ∧
        Reference.read path text = .ok rs := by
  induction paths generalizing w es with
  | nil =>
    obtain ⟨rfl, rfl⟩ := gives_pure.1 h
    exact ⟨hv, rfl, rfl, fun path hpath => absurd hpath List.not_mem_nil⟩
  | cons path rest ih =>
    obtain ⟨x, w₁, es₁, hx, hes, rfl⟩ := gives_refreshEach_cons.1 h
    obtain ⟨hv₁, hsources, hnotes, hread⟩ := of_gives_refresh hv hx
    obtain ⟨hv', hrest, hlater, hreads⟩ := ih hv₁ hes
    refine ⟨hv', ?_, ?_, List.forall_mem_cons.2 ⟨hread, hreads⟩⟩
    · rw [List.map_append, hsources, hrest, ← List.filter_append, List.singleton_append]
    · rw [hlater, hnotes, List.foldl_cons]

/-- The turns of an update of the known notes are those of the list at the start. -/
theorem of_gives_updateKnown {es : List Expansion} (h : Gives updateKnown w es w') :
    es.map (·.source) = w.known.notes.filter w.vault.isThere ∧
      w'.known.notes = w.known.notes.foldl (settle w.vault.hasSection) w.known.notes ∧
      ∀ path ∈ w.known.notes, w.vault.isThere path = true → ∃ text rs,
        w.vault.read path = .ok text ∧ Reference.read path text = .ok rs := by
  obtain ⟨w₁, hes, hsave⟩ := of_gives_saved (gives_get_bind.1 h)
  obtain ⟨-, hsources, hnotes, hreads⟩ := of_gives_refreshEach (Vault.Refreshed.refl w.vault) hes
  rw [known_of_gives_save hsave]
  exact ⟨hsources, hnotes, hreads⟩

end Workspace

end TemplatedNotes
