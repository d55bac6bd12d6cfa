/-
  TemplatedNotes/Proofs/Script/Shared.lean
  ========================================
  **Vaults whose scripts assign nothing to what they share.**

  A script runs others: the functions it makes, the modules it loads and the scripts it renders.
  If the texts of all of them spare what is guarded, then so does every run, by induction on the
  script and, for what runs inside a run, on the depth of calls (`spares_level`).

    * `Host.KeepsIndex` — no run of a script of the vault gives the index an attribute;
    * `Host.LeavesNothing` — no run of a script of the vault leaves any attribute behind, or gets
      hold of the engine;
    * `Host.Spares.keepsIndex` and `Host.Spares.leavesNothing` — such vaults are known by the texts
      of their scripts and modules.
-/
import TemplatedNotes.Proofs.Script.Sparing
import TemplatedNotes.Proofs.Template
import TemplatedNotes.Proofs.Vault.Inside

namespace TemplatedNotes.Script

open TemplatedNotes.Action

variable {care : Care} {m : Memory} {h key default : Handle}

/-! ### Calls -/

/-- The argument of `require` for a module that may be loaded. -/
def IsModuleCall (care : Care) (hs : List Handle) : Prop :=
  ∃ t, hs = [.text t] ∧ care.mayLoad t = true

/-- A machine whose calls keep the memory in order and give nothing guarded, if they get nothing
    guarded and load what may be loaded. -/
structure Machine.Spares [Runtime] (care : Care) (k : Machine) : Prop where
  apply : ∀ f hs, f.Spares care → (∀ h ∈ hs, h.Spares care) →
    Run.Spares care (k.apply f hs) (Handle.Spares care)
  load : ∀ base name, IsModuleCall care [name] →
    Run.Spares care (k.load base name) (Handle.Spares care)
  render : ∀ source path arguments extra, path.Spares care → arguments.Spares care →
    (∀ b ∈ extra, b.2.Spares care) →
    Run.Spares care (k.render source path arguments extra) (fun _ => True)

variable [Runtime]

namespace Run

variable {w : Host} {k : Machine} {α : Type}

theorem spares_getFrom (owner : Nat) (hd : default.Spares care) :
    Spares care (callBuiltin.getFrom owner key default) (Handle.Spares care) := by
  unfold callBuiltin.getFrom
  refine (spares_cell owner).bind (fun c _ => ?_)
  split
  · exact spares_look (fun m a hm ha => spares_getOr hm hd ha)
  · exact spares_throw _

theorem spares_callBuiltin (hk : k.Spares care) {b : Builtin} {hs : List Handle}
    (hb : (Handle.builtin b).Spares care ∨ IsModuleCall care hs) (hhs : ∀ h ∈ hs, h.Spares care) :
    Spares care (callBuiltin w k b hs) (Handle.Spares care) := by
  unfold callBuiltin
  split
  · next base name =>
    apply hk.load
    rcases hb with hb | hmodule
    · exact absurd (hb _ rfl) (by simp [Care.guards_require])
    · exact hmodule
  · next source =>
    refine (spares_indexMember (by decide)).bind (fun f hf => ?_)
    split
    · exact spares_indexPage w _
    · exact hk.apply _ _ hf (by simp [Handle.text, Handle.spares_scalar])
  · exact spares_indexPage w _
  · exact spares_indexPages w _
  · exact spares_indexPages w _
  · exact spares_getFrom _ Handle.spares_null
  · exact spares_getFrom _ (hhs _ (by simp))
  · split
    · exact spares_look (fun m a hm ha => spares_getOr hm Handle.spares_null ha)
    · exact spares_throw _
  · split
    · exact spares_look (fun m a hm ha => spares_getOr hm (hhs _ (by simp)) ha)
    · exact spares_throw _
  · exact spares_pure (Handle.spares_scalar _)
  · exact spares_pure (Handle.spares_scalar _)
  · split
    · exact spares_pure (Handle.spares_scalar _)
    · exact spares_throw _
  · exact spares_throw _
  · exact spares_throw _

theorem spares_callValue (hk : k.Spares care) {hs : List Handle}
    (hh : h.Spares care ∨ IsModuleCall care hs) (hhs : ∀ h ∈ hs, h.Spares care) :
    Spares care (callValue w k h hs) (Handle.Spares care) := by
  unfold callValue
  split
  · exact spares_callBuiltin hk hh hhs
  · next hf => exact hk.apply _ _ (fun b hb => absurd hb (hf b)) hhs

theorem spares_waitingCall (source : Text) {path : Handle} {arguments : Option Handle}
    {extra : Bindings} (hpath : path.Spares care) (harguments : ∀ a ∈ arguments, a.Spares care)
    (hextra : ∀ b ∈ extra, b.2.Spares care) :
    Spares care (waitingCall source path arguments extra) (Cell.Spares care) := by
  unfold waitingCall
  dsimp only
  split
  · exact spares_throw _
  · split
    · exact spares_throw _
    · next a _ => exact spares_pure ⟨hpath, harguments a rfl, hextra⟩
    · next a hl =>
      refine spares_pure ⟨hpath, hextra _ (mem_of_lookup hl), ?_⟩
      intro b hb
      exact hextra b (List.mem_filter.1 hb).1
    · exact spares_pure ⟨hpath, Handle.spares_null, hextra⟩

theorem spares_awaitValue (hk : k.Spares care) (hh : h.Spares care) :
    Spares care (awaitValue k h) (Handle.Spares care) := by
  unfold awaitValue
  split
  · next number =>
    refine (spares_cell number).bind (fun c hc => ?_)
    split
    · next source path arguments extra =>
      obtain ⟨hpath, harguments, hextra⟩ := hc
      exact (hk.render source path arguments extra hpath harguments hextra).bind
        (fun t _ => spares_pure (Handle.spares_scalar _))
    · exact spares_pure hh
  · exact spares_pure hh

/-! ### Statements and expressions -/

/-- Looking at the memory for what is no value of a script. -/
theorem spares_look_any {f : Memory → Outcome α} : Spares care (look f) (fun _ => True) :=
  spares_look (fun _ _ _ _ => trivial)

theorem spares_evalName {n : Text} (hn : isForeign n = false) (scope : List Nat) :
    Spares care (eval w k scope (.name n))
      (fun h => care.guardsName n = false → h.Spares care) := by
  rw [eval]
  exact spares_findName hn true scope

/-- The names that scripts are given are not the interpreter's. -/
theorem isForeign_of_mem {n : Text} (hn : n ∈ [requireName, indexName, inputName, renderName]) :
    isForeign n = false := by
  rw [isForeign, List.contains_iff_mem.2 hn, Bool.not_true, Bool.false_and]

omit [Runtime] in
theorem exists_of_loadsModule {f : Expr} {arguments : List Expr}
    (h : loadsModule care f arguments = true) :
    ∃ t, f = .name requireName ∧ arguments = [.literal (.scalar (.text t))] ∧
      care.mayLoad t = true := by
  unfold loadsModule at h
  split at h
  · next n t =>
    rw [Bool.and_eq_true, beq_iff_eq] at h
    exact ⟨t, by rw [h.1], rfl, h.2⟩
  · cases h

theorem spares_evalAll_text (scope : List Nat) (t : Text) :
    Spares care (evalAll w k scope [.literal (.scalar (.text t))]) (fun hs => hs = [.text t]) := by
  rw [evalAll, eval, store, evalAll]
  exact spares_pure rfl

mutual

/-- **An expression that spares what is guarded** gives nothing guarded, by its cases. -/
theorem spares_eval (hk : k.Spares care) (scope : List Nat) : ∀ e : Expr, e.spares care = true →
    Spares care (eval w k scope e) (Handle.Spares care)
  | .literal v, _ => by
    rw [eval]
    exact spares_store v
  | .name n, he => by
    rw [Expr.spares, Bool.and_eq_true, Bool.not_eq_true', Bool.not_eq_true'] at he
    exact (spares_evalName he.2 scope).imp (fun h hh => hh he.1)
  | .member e n, he => by
    rw [eval]
    rw [Expr.spares, Bool.and_eq_true, Bool.and_eq_true, Bool.not_eq_true', Bool.not_eq_true',
      Bool.or_eq_true] at he
    obtain ⟨⟨hn, hout⟩, he⟩ := he
    -- what is guarded may be here, but no further
    have hany : Spares care (eval w k scope e) (fun _ => True) := by
      rcases he with hname | he
      · cases e with
        | name n =>
          rw [Expr.isName, Bool.not_eq_true'] at hname
          exact (spares_evalName hname scope).imp (fun _ _ => trivial)
        | _ => cases hname
      · exact (spares_eval hk scope e he).imp (fun _ _ => trivial)
    exact hany.bind (fun h _ => spares_member h hn hout)
  | .item e i, he => by
    rw [eval]
    rw [Expr.spares, Bool.and_eq_true] at he
    refine (spares_eval hk scope e he.1).bind (fun h _ => ?_)
    refine (spares_eval hk scope i he.2).bind (fun key _ => ?_)
    exact spares_look (fun m a hm ha => spares_item hm ha)
  | .display e, he => by
    rw [eval]
    refine (spares_eval hk scope e he).bind (fun h _ => spares_look_any.bind (fun t _ => ?_))
    exact spares_pure (Handle.spares_scalar _)
  | .length e, he => by
    rw [eval]
    refine (spares_eval hk scope e he).bind (fun h _ => spares_look_any.bind (fun t _ => ?_))
    exact spares_pure (Handle.spares_scalar _)
  | .concat parts, he => by
    rw [eval]
    exact (spares_evalTexts hk scope parts he).bind
      (fun t _ => spares_pure (Handle.spares_scalar _))
  | .join separator e, he => by
    rw [eval]
    refine (spares_eval hk scope e he).bind (fun h _ => spares_look_any.bind (fun items _ => ?_))
    refine (spares_mapM (R := fun _ => True) (fun x _ => spares_look_any)).bind (fun ts _ => ?_)
    exact spares_pure (Handle.spares_scalar _)
  | .each n e body, he => by
    rw [eval]
    rw [Expr.spares, Bool.and_eq_true] at he
    refine (spares_eval hk scope e he.1).bind (fun h _ => ?_)
    refine (spares_look (fun m a hm ha => spares_items hm ha)).bind (fun items hitems => ?_)
    refine (spares_titleOf scope).bind (fun title _ => ?_)
    refine (spares_enter _ n Handle.spares_null scope).bind (fun inner _ => ?_)
    refine (spares_mapM (fun x hx => ?_)).bind (fun hs hhs => spares_make hhs)
    exact (spares_bindName inner n (hitems x hx)).bind (fun _ _ => spares_eval hk inner body he.2)
  | .same a b, he => by
    rw [eval]
    rw [Expr.spares, Bool.and_eq_true] at he
    refine (spares_eval hk scope a he.1).bind (fun x _ => ?_)
    refine (spares_eval hk scope b he.2).bind (fun y _ => spares_look_any.bind (fun t _ => ?_))
    exact spares_pure (Handle.spares_scalar _)
  | .add a b, he => by
    rw [eval]
    rw [Expr.spares, Bool.and_eq_true] at he
    refine (spares_eval hk scope a he.1).bind (fun x _ => ?_)
    exact (spares_eval hk scope b he.2).bind (fun y _ => spares_add x y)
  | .function parameter body, he => by
    rw [eval]
    exact (spares_titleOf scope).bind (fun title _ => spares_make he)
  | .call f arguments, he => by
    rw [eval]
    rw [Expr.spares, Bool.or_eq_true, Bool.and_eq_true] at he
    rcases he with hload | ⟨hf, harguments⟩
    · -- the function may load packages, but gets the name of a module here
      obtain ⟨t, rfl, rfl, ht⟩ := exists_of_loadsModule hload
      refine (spares_evalName (isForeign_of_mem (by simp)) scope).bind (fun g _ => ?_)
      refine (spares_evalAll_text scope t).bind (fun hs hhs => ?_)
      subst hhs
      exact spares_callValue hk (Or.inr ⟨t, rfl, ht⟩) (by simp [Handle.text, Handle.spares_scalar])
    · refine (spares_eval hk scope f hf).bind (fun g hg => ?_)
      refine (spares_evalAll hk scope arguments harguments).bind (fun hs hhs => ?_)
      exact spares_callValue hk (Or.inl hg) hhs
  | .render path arguments extra awaited, he => by
    rw [eval]
    rw [Expr.spares, Bool.and_eq_true, Bool.and_eq_true] at he
    obtain ⟨⟨hpath, harguments⟩, hextra⟩ := he
    refine (spares_findName (isForeign_of_mem (by simp)) true scope).bind (fun f _ => ?_)
    refine (spares_eval hk scope path hpath).bind (fun p hp => ?_)
    refine (spares_evalOption hk scope arguments harguments).bind (fun a ha => ?_)
    refine (spares_evalExtra hk scope extra hextra).bind (fun es hes => ?_)
    split
    · next source _ =>
      refine (spares_waitingCall source hp ha hes).bind (fun c hc => ?_)
      refine (spares_make hc).bind (fun call hcall => ?_)
      split
      · exact spares_awaitValue hk hcall
      · exact spares_pure hcall
    · exact spares_get.bind (fun _ _ => spares_throw _)
  | .indexHas n, _ => by
    rw [eval]
    refine (spares_findName (isForeign_of_mem (by simp)) true scope).bind (fun index _ => ?_)
    exact (spares_indexHas index n).bind (fun _ _ => spares_pure (Handle.spares_scalar _))
  | .unshowable t, _ => by
    rw [eval]
    exact spares_make trivial

theorem spares_evalAll (hk : k.Spares care) (scope : List Nat) :
    ∀ es : List Expr, allSpare care es = true →
      Spares care (evalAll w k scope es) (fun hs => ∀ h ∈ hs, h.Spares care)
  | [], _ => by
    rw [evalAll]
    exact spares_pure (by simp)
  | e :: rest, he => by
    rw [evalAll]
    rw [allSpare, Bool.and_eq_true] at he
    refine (spares_eval hk scope e he.1).bind (fun h hh => ?_)
    refine (spares_evalAll hk scope rest he.2).bind (fun hs hhs => ?_)
    exact spares_pure (List.forall_mem_cons.2 ⟨hh, hhs⟩)

theorem spares_evalTexts (hk : k.Spares care) (scope : List Nat) :
    ∀ es : List Expr, allSpare care es = true →
      Spares care (evalTexts w k scope es) (fun _ => True)
  | [], _ => by
    rw [evalTexts]
    exact spares_pure trivial
  | e :: rest, he => by
    rw [evalTexts]
    rw [allSpare, Bool.and_eq_true] at he
    refine (spares_eval hk scope e he.1).bind (fun h _ => spares_look_any.bind (fun t _ => ?_))
    exact (spares_evalTexts hk scope rest he.2).bind (fun ts _ => spares_pure trivial)

theorem spares_evalOption (hk : k.Spares care) (scope : List Nat) :
    ∀ e : Option Expr, optionSpares care e = true →
      Spares care (evalOption w k scope e) (fun a => ∀ h ∈ a, h.Spares care)
  | none, _ => by
    rw [evalOption]
    exact spares_pure (by simp)
  | some e, he => by
    rw [evalOption]
    exact (spares_eval hk scope e he).bind (fun h hh => spares_pure (by simpa using hh))

theorem spares_evalExtra (hk : k.Spares care) (scope : List Nat) :
    ∀ es : List (Text × Expr), extraSpare care es = true →
      Spares care (evalExtra w k scope es) (fun bs => ∀ b ∈ bs, b.2.Spares care)
  | [], _ => by
    rw [evalExtra]
    exact spares_pure (by simp)
  | (n, e) :: rest, he => by
    rw [evalExtra]
    rw [extraSpare, Bool.and_eq_true] at he
    refine (spares_eval hk scope e he.1).bind (fun h hh => ?_)
    refine (spares_evalExtra hk scope rest he.2).bind (fun hs hhs => ?_)
    exact spares_pure (List.forall_mem_cons.2 ⟨hh, hhs⟩)

end

mutual

/-- **A statement that assigns nothing to what is guarded** keeps the memory in order. -/
theorem spares_exec (hk : k.Spares care) (scope : List Nat) : ∀ s : Stmt, s.spares care = true →
    Spares care (exec w k scope s) (fun a => ∀ h ∈ a, h.Spares care)
  | .bind n e, hs => by
    rw [exec]
    refine (spares_eval hk scope e hs).bind (fun h hh => ?_)
    exact (spares_bindName scope n hh).bind (fun _ _ => spares_pure (by simp))
  | .finish e, hs => by
    rw [exec]
    exact (spares_eval hk scope e hs).bind (fun h hh => spares_pure (by simpa using hh))
  | .branch e yes no, hs => by
    rw [exec]
    rw [Stmt.spares, Bool.and_eq_true, Bool.and_eq_true] at hs
    refine (spares_eval hk scope e hs.1.1).bind (fun h _ => spares_get.bind (fun m _ => ?_))
    split
    · exact spares_execAll hk scope yes hs.1.2
    · exact spares_execAll hk scope no hs.2
  | .fail kindName values, _ => by
    rw [exec]
    exact spares_throw _
  | .assign e n value, hs => by
    rw [exec]
    rw [Stmt.spares, Bool.and_eq_true, Bool.and_eq_true, Bool.and_eq_true, Bool.not_eq_true'] at hs
    obtain ⟨⟨⟨hassign, hspecial⟩, he⟩, hvalue⟩ := hs
    refine (spares_eval hk scope value hvalue).bind (fun v hv => ?_)
    refine (spares_eval hk scope e he).bind (fun h hh => ?_)
    exact (spares_assign hassign hspecial hh hv).bind (fun _ _ => spares_pure (by simp))
  | .malformed, _ => by
    rw [exec]
    exact spares_pure (by simp)

theorem spares_execAll (hk : k.Spares care) (scope : List Nat) :
    ∀ p : List Stmt, programSpares care p = true →
      Spares care (execAll w k scope p) (fun a => ∀ h ∈ a, h.Spares care)
  | [], _ => by
    rw [execAll]
    exact spares_pure (by simp)
  | s :: rest, hp => by
    rw [execAll]
    rw [programSpares, Bool.and_eq_true] at hp
    refine (spares_exec hk scope s hp.1).bind (fun a ha => ?_)
    split
    · exact spares_pure ha
    · exact spares_execAll hk scope rest hp.2

end

/-! ### Functions, modules and scripts -/

theorem spares_applyFunction (hk : k.Spares care) (hh : h.Spares care) {hs : List Handle}
    (hhs : ∀ h ∈ hs, h.Spares care) :
    Spares care (applyFunction w k h hs) (Handle.Spares care) := by
  unfold applyFunction
  split
  · exact spares_throw _
  · exact spares_callBuiltin hk (Or.inl hh) hhs
  · next number =>
    refine (spares_cell number).bind (fun c hc => ?_)
    split
    · next title parameter body scope =>
      split
      · next x =>
        refine (spares_enter _ parameter (hhs x (by simp)) scope).bind (fun inner _ => ?_)
        exact spares_eval hk inner body hc
      · exact spares_throw _
    · exact spares_throw _

/-- A module is run for its names, and `exports` is never a guarded one. -/
theorem spares_loadFile (hk : k.Spares care) {p : Path}
    (hp : ∀ text program, w.vault.resourceAt p = .ok text → compile? text = some program →
      programSpares care program = true) :
    Spares care (loadFile w k p) (Handle.Spares care) := by
  unfold loadFile
  refine (spares_lift (Q := fun source => w.vault.resourceAt p = .ok source)
    (fun _ h => h)).bind (fun source hsource => ?_)
  refine (spares_lift (Q := fun _ => True) (fun _ _ => trivial)).bind (fun file _ => ?_)
  dsimp only
  split
  · exact spares_throw _
  · next program hprogram =>
    refine (spares_alloc ?_).bind (fun frame _ => ?_)
    · intro b hb hown
      simp only [moduleNames, List.mem_cons, List.not_mem_nil, or_false] at hb
      rcases hb with rfl | rfl | rfl | rfl
      · exact Handle.spares_scalar _
      · exact Handle.spares_builtin (Care.guards_notFoundKind hown)
      · exact Handle.spares_scalar _
      · exact absurd hown (by simp [Care.guardsName_require])
    · refine (spares_execAll hk [frame] program (hp source program hsource hprogram)).bind
        (fun _ _ => (spares_frameAt frame).bind (fun f hf => ?_))
      split
      · next h hl =>
        have hexports : care.guardsName (Text.of "exports") = false := by cases care <;> decide
        exact spares_pure (hf.lookup hexports hl)
      · exact spares_make trivial

end Run

/-- A host all of whose scripts and modules, found by whatever links, assign nothing to what is
    guarded, by their texts. -/
def Host.Spares (care : Care) (w : Host) : Prop :=
  ∀ link source p text program, w.vault.resolveLink link source = .ok (some p) →
    w.vault.resourceAt p = .ok text → compile? text = some program →
    programSpares care program = true

/-- Whether what stands at a path is no file with a script, or one with a script that spares what
    is guarded. -/
def entrySpares (care : Care) : Entry → Bool
  | .folder => true
  | .file b =>
    match Utf8.decode b with
    | .error _ => true
    | .ok t =>
      match compile? (Line.unify t) with
      | none => true
      | some program => programSpares care program

/-- It can be computed whether the scripts of a vault spare what is guarded. -/
theorem Host.spares_of_entries {w : Host}
    (h : w.vault.disk.entries.all (fun x => entrySpares care x.2) = true) : w.Spares care := by
  intro link source p text program _ htext hprogram
  obtain ⟨t, ht, rfl⟩ := Outcome.map_eq_ok.1 htext
  obtain ⟨b, hb, hdecode⟩ := Vault.textAt_eq_ok_iff.1 ht
  have hentry := List.all_eq_true.1 h _ (Disk.mem_of_bytes hb)
  simpa [entrySpares, hdecode, hprogram] using hentry

/-- The script that a link means has one of the texts of the vault. -/
theorem Host.Spares.program {w : Host} (hw : w.Spares care) {source link : Text} {t : Template}
    (ht : w.vault.template source link = .ok t) {program : Program}
    (hp : t.program = .ok program) : programSpares care program = true := by
  rcases Vault.template_eq_ok_iff.1 ht with ⟨p, text, hlink, htext, rfl⟩ | ⟨-, rfl⟩
  · rw [Template.program, if_pos rfl] at hp
    split at hp
    · next hcompile =>
      cases hp
      exact hw link source p text program hlink htext hcompile
    · cases hp
  · cases hp

namespace Run

variable {w : Host} {k : Machine}

theorem spares_loadVaultModule (hw : w.Spares care) (hk : k.Spares care) (base n : Text) :
    Spares care (do
      match ← ofOutcome (w.vault.resolveLink n base) with
      | some p => loadFile w k p
      | none => throw (.moduleNotFound n base)) (Handle.Spares care) := by
  refine (spares_lift (Q := fun p => w.vault.resolveLink n base = .ok p)
    (fun _ h => h)).bind (fun found hfound => ?_)
  split
  · next p => exact spares_loadFile hk (fun text program => hw n base p text program hfound)
  · exact spares_throw _

theorem spares_loadModule (hw : w.Spares care) (hk : k.Spares care) (base : Text) {name : Handle}
    (hname : IsModuleCall care [name]) :
    Spares care (loadModule w k base name) (Handle.Spares care) := by
  unfold loadModule
  obtain ⟨t, ht, hload⟩ := hname
  obtain rfl := List.singleton_inj.1 ht
  refine (spares_pure (Q := (· = t)) rfl).bind (fun n hn => ?_)
  subst hn
  split
  · exact spares_loadVaultModule hw hk base n
  · next hmodule =>
    rw [Care.mayLoad, Bool.eq_false_iff.2 hmodule, Bool.false_or, Bool.and_eq_true, beq_iff_eq,
      Bool.not_eq_true'] at hload
    rw [loadPackage, if_pos hload.1]
    exact spares_pure (Handle.spares_builtin hload.2)

theorem spares_runScript (hk : k.Spares care) {script : Template}
    (hscript : ∀ program, script.program = .ok program → programSpares care program = true)
    (source : Text) {es : Entries Handle} (hes : ∀ e ∈ es, e.2.Spares care) :
    Spares care (runScript w k script source es) (fun _ => True) := by
  unfold runScript
  refine (spares_lift (Q := fun program => script.program = .ok program)
    (fun _ h => h)).bind (fun program hprogram => ?_)
  refine (spares_argumentObject hes).bind (fun input _ => ?_)
  refine (spares_alloc ?_).bind (fun globals _ => ?_)
  · intro b hb hown
    simp only [globalNames, List.mem_cons, List.not_mem_nil, or_false] at hb
    rcases hb with rfl | rfl
    · exact Handle.spares_scalar _
    · exact Handle.spares_builtin (Care.guards_notFoundKind hown)
  · refine (spares_alloc ?_).bind (fun locals _ => ?_)
    · intro b hb hown
      simp only [scriptNames, List.mem_cons, List.not_mem_nil, or_false] at hb
      rcases hb with rfl | rfl | rfl | rfl
      · exact absurd hown (by simp [Care.guardsName_require])
      · dsimp only
        split
        · exact Handle.spares_builtin (Care.guards_index hown _)
        · exact Handle.spares_null
      · exact Handle.spares_ref _
      · exact Handle.spares_builtin (Care.guards_eq_false rfl)
    · refine (spares_execAll hk _ program (hscript program hprogram)).bind (fun result hresult => ?_)
      have hvalue : (result.getD .null).Spares care := by
        cases result with
        | none => exact Handle.spares_null
        | some h => exact hresult h rfl
      exact (spares_awaitValue hk hvalue).bind (fun _ _ => spares_look_any)

theorem spares_contain {x : Run (Option Text)} (script : Text)
    (hx : Spares care x (fun _ => True)) : Spares care (contain script x) (fun _ => True) := by
  intro m hm
  refine ⟨?_, fun _ _ => trivial⟩
  have hm' := (hx m hm).1
  rcases hrun : x.run.run m with ⟨r, m'⟩
  have hcontain : ((contain script x).run.run m).2 = m' := by
    rw [contain, ExceptT.run_mk, StateT.run_bind, hrun]
    cases r <;> rfl
  rw [hrun] at hm'
  rw [hcontain]
  exact hm'

theorem spares_settled {α : Type} {x : Run α} {Q : α → Prop} (hx : Spares care x Q) :
    Spares care (settled x) Q := by
  intro m hm
  obtain ⟨hm', ha⟩ := hx m hm
  have hrun : (settled x).run.run m = ((x.run.run m).1, (x.run.run m).2.settle) := rfl
  rw [hrun]
  refine ⟨?_, ha⟩
  unfold Memory.settle
  split
  · exact Memory.spares_empty
  · exact hm'

theorem spares_callEntries (h : Handle) :
    Spares care (callEntries h) (fun es => ∀ e ∈ es, e.2.Spares care) := by
  unfold callEntries
  refine spares_get.bind (fun m hm => ?_)
  dsimp only
  split
  · exact spares_pure (by simp)
  · split
    · next number _ =>
      have hcell := hm.cells number
      split
      · next kind es hes =>
        rw [hes] at hcell
        exact spares_pure hcell
      · exact spares_throw _
    · exact spares_throw _

theorem spares_renderScript (hw : w.Spares care) (hk : k.Spares care) (source : Text)
    {path arguments : Handle} {extra : Bindings} (hpath : path.Spares care)
    (hextra : ∀ b ∈ extra, b.2.Spares care) :
    Spares care (renderScript w k source path arguments extra) (fun _ => True) := by
  unfold renderScript
  refine (spares_callEntries arguments).bind (fun es hes => ?_)
  have hmerged : ∀ e ∈ Entries.update es (extra.map (fun e => (Scalar.text e.1, e.2))),
      e.2.Spares care := by
    refine forall_mem_update hes ?_
    intro e he
    obtain ⟨b, hb, rfl⟩ := List.mem_map.1 he
    exact hextra b hb
  refine (spares_mapEntries (fun e he => spares_wrap (hmerged e he))).bind (fun wrapped hwrapped => ?_)
  refine (spares_asText path "strip").bind (fun link _ => ?_)
  refine (spares_lift (Q := fun t => w.vault.template source link = .ok t)
    (fun _ h => h)).bind (fun script hscript => ?_)
  have hrun := spares_runScript (w := w) hk (fun program => hw.program hscript) source
    (forall_mem_set (k := .text Arguments.templateKey) hwrapped hpath)
  exact (spares_contain script.path hrun).bind (fun _ _ => spares_pure trivial)

end Run

/-- **However deep calls go, they spare what is shared.** -/
theorem Machine.spares_level {w : Host} (hw : w.Spares care) (depth : Nat) :
    (Machine.level w depth).Spares care := by
  induction depth with
  | zero =>
    exact ⟨fun _ _ _ _ => Run.spares_throw _, fun _ _ _ => Run.spares_throw _,
      fun _ _ _ _ _ _ _ => Run.spares_throw _⟩
  | succ depth ih =>
    refine ⟨?_, ?_, ?_⟩
    · intro f hs hf hhs
      exact Run.spares_applyFunction ih hf hhs
    · intro base name hname
      exact Run.spares_loadModule hw ih base hname
    · intro source path arguments extra hpath _ hextra
      exact Run.spares_renderScript hw ih source hpath hextra

/-- A host whose scripts, run with whatever arguments in a memory before any run, leave one of some
    kind, also where they are stopped. -/
def Host.RunsLeave (w : Host) (P : Memory → Prop) : Prop :=
  ∀ source link t, w.vault.template source link = .ok t → t.found = true →
    ∀ source' arguments r m, (w.invoke t source' arguments).run.run Memory.empty = (r, m) → P m

/-- No script gives the index an attribute. -/
def Host.KeepsIndex (w : Host) : Prop := w.RunsLeave (fun m => ∀ n, m.attribute? .index n = none)

/-- No script leaves an attribute behind, or gets hold of a part of the engine, which would stand
    among the attributes. -/
def Host.LeavesNothing (w : Host) : Prop := w.RunsLeave (fun m => m.attributes = [])

/-- A run of a script of the vault, whatever its arguments, spares what its text does. -/
theorem Host.Spares.invoke {w : Host} (hw : w.Spares care) {source link : Text} {t : Template}
    (ht : w.vault.template source link = .ok t) (source' : Text) (arguments : Value) :
    Run.Spares care (w.invoke t source' arguments) (fun _ => True) := by
  refine Run.spares_settled ((Run.spares_storeEntries _).bind (fun es hes => ?_))
  exact Run.spares_contain t.path (Run.spares_runScript (w := w) (Machine.spares_level hw _)
    (fun program => hw.program ht) source' hes)

/-- **What scripts leave behind**: no attributes of what they guard. -/
theorem Host.Spares.mayKeep {w : Host} (hw : w.Spares care) {source link source' : Text}
    {t : Template} (ht : w.vault.template source link = .ok t) {arguments : Value}
    {r : Outcome Invocation} (h : (w.invoke t source' arguments).run.run Memory.empty = (r, m)) :
    ∀ a ∈ m.attributes, care.mayKeep a.1.1 = true := by
  obtain ⟨hm, -⟩ := hw.invoke ht source' arguments _ Memory.spares_empty
  rw [h] at hm
  exact fun a ha => (hm.attributes a ha).1

/-- The scripts of a vault give the index nothing if their texts and those of its modules say so. -/
theorem Host.Spares.keepsIndex {w : Host} (hw : w.Spares care) : w.KeepsIndex := by
  intro source link t ht _ source' arguments r m h n
  cases hattribute : m.attribute? .index n with
  | none => rfl
  | some a =>
    have hkept := hw.mayKeep ht h _ (mem_of_lookup hattribute)
    cases care <;> cases hkept

/-- **The scripts of a vault leave nothing behind** if their texts and those of its modules assign
    nothing to anything that is shared. -/
theorem Host.Spares.leavesNothing {w : Host} (hw : w.Spares care) (hcare : care ≠ .index) :
    w.LeavesNothing := by
  intro source link t ht _ source' arguments r m h
  apply List.eq_nil_iff_forall_not_mem.2
  intro a ha
  have hkept := hw.mayKeep ht h a ha
  cases care with
  | index => exact hcare rfl
  | _ => cases hkept

end TemplatedNotes.Script
