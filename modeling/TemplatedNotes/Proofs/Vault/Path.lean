/-
  TemplatedNotes/Proofs/Vault/Path.lean
  =====================================
  **Where a path leads.**

  Walking a path never looks at what stands on the way: two dots lead to the folder above and any
  other name one folder down, so the end of the walk is computed by `climb`, name by name.  The
  walk stops only at a name that no file can have (`resolve_eq_ok_iff`, `resolve_eq_error_iff`).
  What it adds to the folder it started from are names of the path other than the two dots
  (`mem_drop_foldl_climb`).
-/
import TemplatedNotes.Proofs.Action
import TemplatedNotes.Vault.Path

namespace TemplatedNotes.Path

/-! ### Names -/

/-- A name that a file can have: all of it can be encoded, and no null byte is in it. -/
structure IsUsable (name : Text) : Prop where
  encodable : name.all isEncodable = true
  no_null : CodePoint.scalar '\x00' ∉ name

instance (name : Text) : Decidable (IsUsable name) :=
  decidable_of_iff (name.all isEncodable = true ∧ CodePoint.scalar '\x00' ∉ name)
    ⟨fun h => ⟨h.1, h.2⟩, fun h => ⟨h.encodable, h.no_null⟩⟩

/-- A name that stands for something in its folder, and neither for the folder itself nor for the
    one above it. -/
structure IsPlain (name : Text) : Prop where
  ne_nil : name ≠ []
  ne_dot : name ≠ dot
  ne_dots : name ≠ dots
  no_slash : CodePoint.scalar '/' ∉ name

instance (name : Text) : Decidable (IsPlain name) :=
  decidable_of_iff (name ≠ [] ∧ name ≠ dot ∧ name ≠ dots ∧ CodePoint.scalar '/' ∉ name)
    ⟨fun h => ⟨h.1, h.2.1, h.2.2.1, h.2.2.2⟩, fun h => ⟨h.ne_nil, h.ne_dot, h.ne_dots, h.no_slash⟩⟩

theorem isUsable_dots : IsUsable dots := by decide

theorem checkName_eq_ok_iff {folder : Path} {name : Text} :
    checkName folder name = .ok () ↔ IsUsable name := by
  unfold checkName
  constructor
  · intro h
    split at h
    · cases h
    · next hencode =>
      split at h
      · cases h
      · next hnull => exact ⟨by simpa using hencode, hnull⟩
  · intro h
    simp [h.encodable, h.no_null]

/-- A text has at least one piece. -/
theorem pieces_ne_nil (t : Text) : pieces t ≠ [] := by
  cases t with
  | nil => simp [pieces]
  | cons c rest =>
    rw [pieces]
    split
    · simp
    · split <;> simp

theorem slash_not_mem_of_mem_pieces {t name : Text} (h : name ∈ pieces t) :
    CodePoint.scalar '/' ∉ name := by
  induction t generalizing name with
  | nil => simp_all [pieces]
  | cons c rest ih =>
    rw [pieces] at h
    split at h
    · next hnil => exact absurd hnil (pieces_ne_nil rest)
    · next p ps hp =>
      rw [hp] at ih
      split at h
      · rcases List.mem_cons.1 h with rfl | h
        · simp
        · exact ih h
      · next hc =>
        rcases List.mem_cons.1 h with rfl | h
        · intro hm
          rcases List.mem_cons.1 hm with hm | hm
          · exact hc (by simp [← hm])
          · exact ih List.mem_cons_self hm
        · exact ih (List.mem_cons_of_mem p h)

theorem isPlain_of_mem_ofText {t name : Text} (h : name ∈ ofText t) (hdots : name ≠ dots) :
    IsPlain name := by
  refine ⟨ne_nil_of_mem_ofText h, ne_dot_of_mem_ofText h, hdots, ?_⟩
  apply slash_not_mem_of_mem_pieces (t := t)
  exact (List.mem_filter.1 h).1

theorem pieces_of_not_mem {name : Text} (h : CodePoint.scalar '/' ∉ name) :
    pieces name = [name] := by
  induction name with
  | nil => rfl
  | cons c rest ih =>
    rw [List.mem_cons, not_or] at h
    have hc : ¬ (c == CodePoint.scalar '/') = true := by simpa using Ne.symm h.1
    rw [pieces, ih h.2]
    dsimp only
    rw [if_neg hc]

theorem pieces_append_slash {name : Text} (h : CodePoint.scalar '/' ∉ name) (rest : Text) :
    pieces (name ++ .scalar '/' :: rest) = name :: pieces rest := by
  induction name with
  | nil =>
    rw [List.nil_append, pieces]
    split
    · next hnil => exact absurd hnil (pieces_ne_nil rest)
    · next hp => simp [hp]
  | cons c more ih =>
    rw [List.mem_cons, not_or] at h
    have hc : ¬ (c == CodePoint.scalar '/') = true := by simpa using Ne.symm h.1
    rw [List.cons_append, pieces, ih h.2]
    dsimp only
    rw [if_neg hc]

/-- Plain names are read back from the text with slashes between them. -/
theorem ofText_text {p : Path} (h : ∀ name ∈ p, IsPlain name) : ofText (text p) = p := by
  induction p with
  | nil => rfl
  | cons name rest ih =>
    obtain ⟨hname, hrest⟩ := List.forall_mem_cons.1 h
    have hkept : (!name.isEmpty && name != dot) = true := by
      simp [hname.ne_nil, hname.ne_dot]
    cases rest with
    | nil =>
      show (pieces name).filter _ = [name]
      rw [pieces_of_not_mem hname.no_slash, List.filter_cons, if_pos hkept, List.filter_nil]
    | cons next more =>
      have hsplit : text (name :: next :: more) = name ++ .scalar '/' :: text (next :: more) := by
        simp [text, Text.join]
      rw [hsplit, ofText, pieces_append_slash hname.no_slash, List.filter_cons, if_pos hkept]
      exact congrArg (name :: ·) (ih hrest)

theorem eq_of_text_eq {p q : Path} (hp : ∀ name ∈ p, IsPlain name)
    (hq : ∀ name ∈ q, IsPlain name) (h : text p = text q) : p = q := by
  rw [← ofText_text hp, h, ofText_text hq]

/-! ### The end of a walk -/

/-- Where one name leads from a folder. -/
def climb (folder : Path) (name : Text) : Path :=
  if name = dots then folder.dropLast else folder ++ [name]

/-- Without two dots a walk only goes down. -/
theorem foldl_climb_of_ne_dots {folder names : Path} (h : ∀ name ∈ names, name ≠ dots) :
    names.foldl climb folder = folder ++ names := by
  induction names generalizing folder with
  | nil => simp
  | cons name rest ih =>
    obtain ⟨hname, hrest⟩ := List.forall_mem_cons.1 h
    rw [List.foldl_cons, climb, if_neg hname, ih hrest, List.append_assoc, List.singleton_append]

/-- The text of plain names leads down along them. -/
theorem foldl_climb_text {folder p : Path} (h : ∀ name ∈ p, IsPlain name) :
    (ofText (text p)).foldl climb folder = folder ++ p := by
  rw [ofText_text h, foldl_climb_of_ne_dots fun name hname => (h name hname).ne_dots]

theorem resolve_cons (folder : Path) (name : Text) (rest : Path) :
    resolve folder (name :: rest) =
      checkName folder name >>= fun _ => resolve (climb folder name) rest := by
  rw [resolve]
  by_cases h : name = dots
  · subst h
    rw [if_pos rfl, climb, if_pos rfl, checkName_eq_ok_iff.2 isUsable_dots]
    rfl
  · rw [if_neg h, climb, if_neg h]

/-- **A walk ends where its names lead**, if every one of them can be the name of a file. -/
theorem resolve_eq_ok_iff {folder names p : Path} :
    resolve folder names = .ok p ↔ (∀ name ∈ names, IsUsable name) ∧ p = names.foldl climb folder := by
  induction names generalizing folder with
  | nil =>
    rw [resolve]
    constructor
    · intro h
      cases h
      exact ⟨by simp, rfl⟩
    · rintro ⟨-, rfl⟩
      rfl
  | cons name rest ih =>
    rw [resolve_cons, Outcome.bind_eq_ok, List.forall_mem_cons, List.foldl_cons]
    constructor
    · rintro ⟨u, hname, hrest⟩
      obtain ⟨hall, rfl⟩ := ih.1 hrest
      exact ⟨⟨checkName_eq_ok_iff.1 hname, hall⟩, rfl⟩
    · rintro ⟨⟨hname, hall⟩, rfl⟩
      exact ⟨(), checkName_eq_ok_iff.2 hname, ih.2 ⟨hall, rfl⟩⟩

/-- A walk fails at the first of its names that no file can have. -/
theorem resolve_eq_error_iff {folder names : Path} {f : Failure} :
    resolve folder names = .error f ↔
      ∃ pre name post, names = pre ++ name :: post ∧ (∀ n ∈ pre, IsUsable n) ∧
        checkName (pre.foldl climb folder) name = .error f := by
  induction names generalizing folder with
  | nil => simp [resolve]
  | cons first rest ih =>
    rw [resolve_cons, Outcome.bind_eq_error]
    constructor
    · rintro (h | ⟨u, hfirst, hrest⟩)
      · exact ⟨[], first, rest, rfl, by simp, h⟩
      · obtain ⟨pre, name, post, rfl, hpre, hname⟩ := ih.1 hrest
        exact ⟨first :: pre, name, post, rfl,
          List.forall_mem_cons.2 ⟨checkName_eq_ok_iff.1 hfirst, hpre⟩, hname⟩
    · rintro ⟨pre, name, post, hsplit, hpre, hname⟩
      cases pre with
      | nil =>
        cases hsplit
        exact Or.inl hname
      | cons x pre =>
        cases hsplit
        obtain ⟨hfirst, hpre⟩ := List.forall_mem_cons.1 hpre
        exact Or.inr ⟨(), checkName_eq_ok_iff.2 hfirst,
          ih.2 ⟨pre, name, post, rfl, hpre, hname⟩⟩

/-- Behind so many names of the folder a walk starts from, only names of the path are added. -/
theorem mem_drop_foldl_climb {folder names : Path} {k : Nat} {name : Text}
    (h : name ∈ (names.foldl climb folder).drop k) :
    name ∈ folder.drop k ∨ (name ∈ names ∧ name ≠ dots) := by
  induction names generalizing folder with
  | nil => exact Or.inl h
  | cons first rest ih =>
    rw [List.foldl_cons] at h
    rcases ih h with h | ⟨hmem, hne⟩
    · unfold climb at h
      split at h
      · left
        rw [List.dropLast_eq_take, List.drop_take] at h
        exact List.mem_of_mem_take h
      · next hdots =>
        rw [List.drop_append] at h
        rcases List.mem_append.1 h with h | h
        · exact Or.inl h
        · obtain rfl := List.mem_singleton.1 (List.mem_of_mem_drop h)
          exact Or.inr ⟨List.mem_cons_self, hdots⟩
    · exact Or.inr ⟨List.mem_cons_of_mem first hmem, hne⟩

end TemplatedNotes.Path
