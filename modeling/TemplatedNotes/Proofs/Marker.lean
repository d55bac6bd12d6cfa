/-
  TemplatedNotes/Proofs/Marker.lean
  =================================
  **What the marker of a failure means when its note is read again.**

  A marker has the form of an opening line, and its payload is the name of the failure and the
  message.  It opens a section when the two are a literal that names a script.  Messages in prose do
  not: the name has to be an ASCII identifier and the message a value with more pairs behind it,
  so it holds a comma and a colon and does not start with a bare word (`failureMarker_reading`).
  But a message can be such a literal, and then the next expansion runs the script that the
  message names (`expand_runs_message`).
-/
import TemplatedNotes.Proofs.Expansion.Idempotence
import TemplatedNotes.Proofs.Literal.Pairs
import TemplatedNotes.Proofs.Section.Block
import TemplatedNotes.Runtime.Usual

namespace TemplatedNotes

open Literal TemplatedNotes.Action

/-! ### Markers as lines -/

namespace Section

theorem isKindName_of_isClassName {name : Text} (h : IsClassName name) : IsKindName name := by
  refine ⟨h.isWord, fun hpercent => ?_⟩
  have hmem : CodePoint.scalar '%' ∈ name := List.mem_of_mem_head? hpercent
  exact absurd (h.ascii _ hmem (by decide)) (by decide)

theorem markerBody_of_squeeze_eq_nil (name : Text) {message : Text}
    (h : Text.squeeze message = []) : markerBody name message = name := by
  simp [markerBody, h]

theorem markerBody_of_squeeze_ne_nil (name : Text) {message : Text}
    (h : Text.squeeze message ≠ []) :
    markerBody name message = name ++ .scalar ':' :: .scalar ' ' :: Text.squeeze message := by
  simp [markerBody, h, Text.of]

end Section

namespace Reference

variable {name message script : Text} {arguments : Value}

section

variable [Runtime]

/-- **When a marker opens a section**: there is a message, and the name, a colon and the message are
    a literal that names a script. -/
theorem opening?_failureMarker_iff (h : IsClassName name) :
    opening? (Section.failureMarker name message) = .ok (some (script, arguments)) ↔
      Text.squeeze message ≠ [] ∧
        parse (name ++ .scalar ':' :: .scalar ' ' :: Text.squeeze message) = .ok arguments ∧
        Arguments.template? arguments = some script := by
  rw [opening?_eq_some_iff,
    Section.payload?_failureMarker (Section.isKindName_of_isClassName h) message]
  -- without arguments no script is named, so the literal is not refused
  have hparse : ∀ payload, evaluate payload = .ok arguments →
      Arguments.template? arguments = some script → parse payload = .ok arguments := by
    intro payload he hs
    rcases evaluate_cases payload with ⟨a, hp, ha⟩ | ⟨f, -, -, ha⟩ | ⟨n, -, -, -, ha⟩
    · rw [he] at ha
      cases ha
      exact hp
    · rw [he] at ha
      cases ha
      cases hs
    · rw [he] at ha
      cases ha
  constructor
  · rintro ⟨payload, hp, he, hs⟩
    cases hp
    by_cases hnil : Text.squeeze message = []
    · rw [Section.markerBody_of_squeeze_eq_nil name hnil] at he
      exact absurd (hparse name he hs) (not_parse_of_isClassName h)
    · rw [Section.markerBody_of_squeeze_ne_nil name hnil] at he
      exact ⟨hnil, hparse _ he hs, hs⟩
  · rintro ⟨hne, hp, hs⟩
    refine ⟨_, rfl, ?_, hs⟩
    rw [Section.markerBody_of_squeeze_ne_nil name hne, evaluate, hp]

/-- What a marker that opens a section is made of. -/
theorem shape_of_opening?_failureMarker (h : IsClassName name)
    (hopening : opening? (Section.failureMarker name message) = .ok (some (script, arguments))) :
    IsIdentifier name ∧
      (name = Arguments.templateKey ∨ .scalar ',' ∈ message ∧ .scalar ':' ∈ message) ∧
      ∀ w t, Text.squeeze message = w ++ t → IsIdentifier w →
        (∀ c ∈ t.head?, continuesIdentifier c = false) → constant? w ≠ none := by
  obtain ⟨hne, hp, hs⟩ := (opening?_failureMarker_iff h).1 hopening
  have hlast : ∀ d, (Text.squeeze message).getLast? = some d → d.isBlank = false :=
    fun d hd => Text.isBlank_of_getLast?_squeeze hd
  have hend : ∀ d, (name ++ .scalar ':' :: .scalar ' ' :: Text.squeeze message).getLast? = some d →
      d.isBlank = false := by
    intro d hd
    refine hlast d ?_
    rw [← hd, List.getLast?_append_of_ne_nil _ (by simp), List.getLast?_cons_of_ne_nil (by simp),
      List.getLast?_cons_of_ne_nil hne]
  have hname : IsIdentifier name := isIdentifier_of_parse h hend hp
  refine ⟨hname, ?_, fun w t hsplit hw ht hconstant => ?_⟩
  · by_cases htemplate : name = Arguments.templateKey
    · exact Or.inl htemplate
    · have hmem : ∀ c : Char, c ≠ ' ' → .scalar c ∉ message →
          .scalar c ∉ Text.squeeze message := by
        intro c hc hno hm
        rcases Text.mem_of_mem_squeeze hm with hm | hm
        · exact hc (CodePoint.scalar.inj hm)
        · exact hno hm
      refine Or.inr (by_contra fun hno => ?_)
      have hmissing : .scalar ',' ∉ Text.squeeze message ∨ .scalar ':' ∉ Text.squeeze message := by
        rcases not_and_or.1 hno with hcomma | hcolon
        · exact Or.inl (hmem ',' (by decide) hcomma)
        · exact Or.inr (hmem ':' (by decide) hcolon)
      rw [template?_eq_none_of_parse hname htemplate hlast hne hmissing hp] at hs
      cases hs
  · rw [hsplit] at hp hlast
    exact not_parse_of_bareWord hname hw hconstant ht hlast hp

/-! ### Markers in a section -/

omit [Runtime] in
theorem VisibleAt.next {lines : List Text} {i : Nat} {line next : Text}
    (h : VisibleAt lines i line) (hnext : lines[i + 1]? = some next)
    (hfence : Section.fenceDepth? next = none) : VisibleAt lines (i + 1) next := by
  obtain ⟨hl, hdepth, hfences⟩ := h
  refine ⟨hnext, hfence, ?_⟩
  rw [fencesBefore, List.take_add_one, hl, List.foldl_append]
  show fencesAfter (fencesBefore lines i) line = []
  rw [fencesAfter_of_fenceDepth?_eq_none hdepth, hfences]

theorem VisibleAt.getElem?_eq_iff {lines : List Text} {ms : List Mark} {i : Nat} {line : Text}
    (hms : marksFrom [] lines = .ok ms) (h : VisibleAt lines i line) {m : Mark} :
    ms[i]? = some m ↔ mark line = .ok m := by
  obtain ⟨hl, hdepth, hfences⟩ := h
  rw [getElem?_marksFrom hms]
  constructor
  · rintro ⟨line', hl', hm⟩
    obtain rfl := Option.some.inj (hl.symm.trans hl')
    rw [← fencesBefore, hfences, markBehind_nil hdepth] at hm
    exact hm
  · intro hm
    refine ⟨line, hl, ?_⟩
    rw [← fencesBefore, hfences, markBehind_nil hdepth]
    exact hm

/-- **A line between an opening line and a terminator** leaves the terminator to the section, or it
    takes it for a section of its own. -/
theorem sections_of_body_line {source : Text} {lines : List Text} {rs : List Reference} {i : Nat}
    {line : Text} (hopens : OpensAt lines i script arguments) (hline : lines[i + 1]? = some line)
    (hfence : Section.fenceDepth? line = none) (hno : Section.isTerminator line = false)
    (hend : lines[i + 2]? = some Section.terminator) (hread : readLines source lines = .ok rs) :
    ((∀ s a, opening? line ≠ .ok (some (s, a))) →
      ⟨source, script, i, some (i + 2), arguments⟩ ∈ rs) ∧
    ∀ s a, opening? line = .ok (some (s, a)) →
      ⟨source, script, i, none, arguments⟩ ∈ rs ∧ ⟨source, s, i + 1, some (i + 2), a⟩ ∈ rs := by
  obtain ⟨ms, hms, rfl⟩ := readLines_eq_ok.1 hread
  have hfirst := (opensAt_iff hms).1 hopens
  obtain ⟨opener, -, hvisible, -⟩ := hopens
  have hsecond : VisibleAt lines (i + 1) line := hvisible.next hline hfence
  have hthird : VisibleAt lines (i + 1 + 1) Section.terminator :=
    hsecond.next hend Section.fenceDepth?_terminator
  have hterminator : ms[i + 1 + 1]? = some .terminator :=
    (hthird.getElem?_eq_iff hms).2 (mark_eq_terminator_iff.2 Section.isTerminator_terminator)
  refine ⟨fun hplain => ?_, fun s a hopening => ?_⟩
  · -- the line has a mark since the note can be read, and the mark is plain
    obtain ⟨hlen, -⟩ := List.getElem?_eq_some_iff.1 hterminator
    have hmark : ms[i + 1]? = some ms[i + 1] := List.getElem?_eq_getElem (by omega)
    have hm := (hsecond.getElem?_eq_iff hms).1 hmark
    have hinert : IsInert line := ⟨hfence, hno, hplain⟩
    rw [(hinert.mark_eq_ok_iff.1 hm).2] at hmark
    have hclosing : closing (ms.drop (i + 1)) = some 1 := by
      rw [closing_eq_some_iff]
      refine ⟨by rwa [List.getElem?_drop], fun k hk => ?_⟩
      obtain rfl : k = 0 := by omega
      rwa [List.getElem?_drop]
    refine mem_sections.2 ⟨i, script, arguments, hfirst, ?_⟩
    rw [hclosing, Nat.zero_add]
    rfl
  · have hmark : ms[i + 1]? = some (.opening s a) :=
      (hsecond.getElem?_eq_iff hms).2 (mark_eq_opening_iff.2 hopening)
    have hdrop : ∀ {k : Nat} {m : Mark}, ms[k]? = some m → ms.drop k = m :: ms.drop (k + 1) := by
      intro k m hm
      obtain ⟨hlen, he⟩ := List.getElem?_eq_some_iff.1 hm
      rw [List.drop_eq_getElem_cons hlen, he]
    constructor
    · refine mem_sections.2 ⟨i, script, arguments, hfirst, ?_⟩
      rw [hdrop hmark, Nat.zero_add]
      rfl
    · refine mem_sections.2 ⟨i + 1, s, a, hmark, ?_⟩
      rw [hdrop hterminator, Nat.zero_add]
      rfl

omit [Runtime] in
theorem lines_of_failed {g : Generated} {i : Invocation} {f : Failure} (h : IsClassName f.kindName)
    (hrun : g.invocation = some i) (hfailed : i.result = .error f) :
    g.lines = [Section.failureMarker f.kindName f.message, Section.terminator] := by
  have hrendered : i.rendered = some (Section.failureMarker f.kindName f.message) := by
    rw [Invocation.rendered, hfailed]
  have hsplit : Line.split (Section.failureMarker f.kindName f.message) =
      [Section.failureMarker f.kindName f.message] :=
    Line.split_of_not_mem (Section.lineFeed_not_mem_failureMarker
      (Section.isKindName_of_isClassName h) f.message)
  have htext : g.text = Section.failureMarker f.kindName f.message := by
    rw [Generated.text, hrun, Option.bind_some, hrendered, Option.getD_some]
  have hnonempty : g.text.isEmpty = false := by
    rw [htext, Section.failureMarker_eq]
    rfl
  unfold Generated.lines
  rw [hrun, hnonempty, htext, hsplit]
  rfl

/-- **Markers read again.**  The marker of a failure is one line, neither a fence nor a terminator,
    and it and a terminator are what a failed run leaves behind the opening line.  It opens a
    section exactly when the name of the failure, a colon and the message are a literal that names
    a script.  For this the name has to be an ASCII identifier, the message has to hold a comma and
    a colon (or the name itself is the key of the script), and it cannot start with a bare word that
    is no constant.  In a note that can be read, a section whose body is a marker is closed by the
    terminator behind it if the marker opens no section; otherwise it stays open, and the terminator
    closes a section of the script that the message names. -/
theorem failureMarker_reading (h : IsClassName name) (message : Text) :
    (Line.split (Section.failureMarker name message) = [Section.failureMarker name message] ∧
      Section.fenceDepth? (Section.failureMarker name message) = none ∧
      Section.isTerminator (Section.failureMarker name message) = false) ∧
    (∀ (g : Generated) i f, g.invocation = some i → i.result = .error f → f.kindName = name →
      f.message = message →
      g.lines = [Section.failureMarker name message, Section.terminator]) ∧
    (∀ script arguments,
      opening? (Section.failureMarker name message) = .ok (some (script, arguments)) ↔
        Text.squeeze message ≠ [] ∧
          parse (name ++ .scalar ':' :: .scalar ' ' :: Text.squeeze message) = .ok arguments ∧
          Arguments.template? arguments = some script) ∧
    (∀ script arguments,
      opening? (Section.failureMarker name message) = .ok (some (script, arguments)) →
        IsIdentifier name ∧
          (name = Arguments.templateKey ∨ .scalar ',' ∈ message ∧ .scalar ':' ∈ message) ∧
          ∀ w t, Text.squeeze message = w ++ t → IsIdentifier w →
            (∀ c ∈ t.head?, continuesIdentifier c = false) → constant? w ≠ none) ∧
    ∀ source lines rs i script arguments, OpensAt lines i script arguments →
      lines[i + 1]? = some (Section.failureMarker name message) →
      lines[i + 2]? = some Section.terminator → readLines source lines = .ok rs →
      ((∀ s a, opening? (Section.failureMarker name message) ≠ .ok (some (s, a))) →
        ⟨source, script, i, some (i + 2), arguments⟩ ∈ rs) ∧
      ∀ s a, opening? (Section.failureMarker name message) = .ok (some (s, a)) →
        ⟨source, script, i, none, arguments⟩ ∈ rs ∧
          ⟨source, s, i + 1, some (i + 2), a⟩ ∈ rs := by
  have hkind := Section.isKindName_of_isClassName h
  have hfence := Section.fenceDepth?_failureMarker name message
  have hno := Section.isTerminator_failureMarker name message
  refine ⟨⟨?_, hfence, hno⟩, ?_, ?_, ?_, ?_⟩
  · exact Line.split_of_not_mem (Section.lineFeed_not_mem_failureMarker hkind message)
  · rintro g i f hrun hfailed rfl rfl
    exact lines_of_failed h hrun hfailed
  · intro script arguments
    exact opening?_failureMarker_iff h
  · intro script arguments hopening
    exact shape_of_opening?_failureMarker h hopening
  · intro source lines rs i script arguments hopens hline hend hread
    exact sections_of_body_line hopens hline hfence hno hend hread

end

attribute [local instance] Runtime.usual

/-- The marker of a message in prose opens no section. -/
theorem failureMarker_reading_prose :
    IsClassName (Text.of "ZeroDivisionError") ∧ ∀ script arguments,
      opening? (Section.failureMarker (Text.of "ZeroDivisionError")
        (Text.of "division by zero")) ≠ .ok (some (script, arguments)) := by
  have hname : IsClassName (Text.of "ZeroDivisionError") :=
    ⟨⟨by decide, by decide⟩, by decide, by decide⟩
  refine ⟨hname, fun script arguments hopening => ?_⟩
  obtain ⟨-, -, -, hshape, -⟩ := failureMarker_reading hname (Text.of "division by zero")
  obtain ⟨-, hmessage, -⟩ := hshape script arguments hopening
  rcases hmessage with htemplate | ⟨hcomma, -⟩
  · exact absurd htemplate (by decide)
  · exact absurd hcomma (by decide)

end Reference

namespace Script.Host

/-- A vault with a script that fails with the name of another one in its message. -/
def naming : Host :=
  ⟨⟨[], [], ⟨[([Text.of "t.py"], .file ((Utf8.encode? (Text.of
      "[[\"raise\", \"ValueError\", \"1, template: 'evil.py'\"]]")).getD [])),
    ([Text.of "evil.py"], .file ((Utf8.encode? (Text.of
      "[[\"return\", [\"lit\", \"gone\"]]]")).getD []))]⟩, []⟩, false⟩

attribute [local instance] Runtime.usual

/-- **A message that becomes a directive.**  A script fails with a message that is a literal; the
    marker opens a section, and the next expansion of the note runs the script that it names. -/
theorem expand_runs_message :
    IsClassName (Text.of "ValueError") ∧
    (∃ arguments, Reference.opening? (Section.failureMarker (Text.of "ValueError")
      (Text.of "1, template: 'evil.py'")) = .ok (some (Text.of "evil.py", arguments))) ∧
    ∃ e m e' m', Gives (naming.runner.expand .marker oneSection (Text.of "n.md")) .empty e m ∧
      e.text = Text.of "%% template: 't.py' %%\n%% ValueError: 1, template: 'evil.py' %%\n%%%%" ∧
      Gives (naming.runner.expand .marker e.text (Text.of "n.md")) m e' m' ∧
      e'.used = [Text.of "t.py", Text.of "evil.py"] := by
  have hname : IsClassName (Text.of "ValueError") := ⟨⟨by decide, by decide⟩, by decide, by decide⟩
  have hopening : (Reference.opening? (Section.failureMarker (Text.of "ValueError")
      (Text.of "1, template: 'evil.py'"))).toOption.join.map Prod.fst =
        some (Text.of "evil.py") := by
    decide +kernel
  have hrun : (match (naming.runner.expand .marker oneSection (Text.of "n.md")).run.run .empty with
      | (.ok e, m) =>
        ((naming.runner.expand .marker e.text (Text.of "n.md")).run.run m).1.toOption.map
          (fun e' => (e.text, e'.used))
      | (.error _, _) => none) =
      some (Text.of "%% template: 't.py' %%\n%% ValueError: 1, template: 'evil.py' %%\n%%%%",
        [Text.of "t.py", Text.of "evil.py"]) := by
    decide +kernel
  refine ⟨hname, ?_, ?_⟩
  · rcases ho : Reference.opening? (Section.failureMarker (Text.of "ValueError")
      (Text.of "1, template: 'evil.py'")) with f | _ | ⟨script, arguments⟩
    · rw [ho] at hopening
      cases hopening
    · rw [ho] at hopening
      cases hopening
    · rw [ho] at hopening
      have hscript : script = Text.of "evil.py" := Option.some.inj hopening
      exact ⟨arguments, by rw [hscript]⟩
  · rcases h : (naming.runner.expand .marker oneSection (Text.of "n.md")).run.run .empty with
      ⟨_ | e, m⟩
    · rw [h] at hrun
      cases hrun
    · rw [h] at hrun
      dsimp only at hrun
      rcases hagain : (naming.runner.expand .marker e.text (Text.of "n.md")).run.run m with
        ⟨_ | e', m'⟩
      · rw [hagain] at hrun
        cases hrun
      · rw [hagain] at hrun
        obtain ⟨htext, hused⟩ := Prod.mk.inj (Option.some.inj hrun)
        exact ⟨e, m, e', m', h, htext, hagain, hused⟩

end Script.Host

end TemplatedNotes
