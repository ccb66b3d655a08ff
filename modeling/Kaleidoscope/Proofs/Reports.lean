import Kaleidoscope.Command.Report
import Kaleidoscope.Proofs.Boundaries
import Kaleidoscope.Proofs.Deliveries

/-!
What the command reports where its journal is silent. The report shows what a run over the text
delivers and nothing else (`reportText_of_ok`), each node on one line, and the status tells whether
the whole text is a program (`status_reportText_eq_zero_iff`).
-/

namespace Kaleidoscope

/-! ### Lines -/

theorem not_mem_intercalate {c : Char} {separator : List Char} {parts : List (List Char)}
    (hs : c ∉ separator) (hp : ∀ part ∈ parts, c ∉ part) : c ∉ separator.intercalate parts := by
  induction parts with
  | nil => simp
  | cons part parts ih =>
      obtain ⟨hpart, hp⟩ := List.forall_mem_cons.1 hp
      cases parts with
      | nil => simpa using hpart
      | cons _ _ => simpa [List.intercalate_cons_cons, hs, hpart] using ih hp

theorem IsWord.newline_not_mem {t : List Char} (h : IsWord t) : '\n' ∉ t :=
  fun hmem => absurd (h.2 _ hmem) (by decide)

theorem IsNumeral.newline_not_mem {t : List Char} (h : IsNumeral t) : '\n' ∉ t :=
  fun hmem => absurd (h.2 _ hmem) (by decide)

theorem Spells.newline_not_mem {t : List Char} {k : Token.Kind} (h : Spells t k) : '\n' ∉ t := by
  rcases h.class with hw | hn | ⟨c, rfl, hm⟩
  · exact hw.newline_not_mem
  · exact hn.newline_not_mem
  · simp only [List.mem_singleton]
    rintro rfl
    contradiction

/-- The tokens of a text are shown on one line. -/
theorem Token.Stream.render_newline_not_mem {name : String} {text : List Char} {s : Stream}
    (h : ofText name text = .ok s) : '\n' ∉ render s.toList := by
  refine not_mem_intercalate (by decide) fun part hpart => ?_
  obtain ⟨t, ht, rfl⟩ := List.mem_map.1 hpart
  obtain ⟨hmem, hend⟩ := List.mem_filter.1 ht
  rcases List.mem_append.1 hmem with hmem | hmem
  · exact (canonical_body h t hmem).spells.newline_not_mem
  · obtain rfl := List.mem_singleton.1 hmem
    contradiction

theorem Expr.Writable.newline_not_mem {e : Expr} (h : e.Writable) : '\n' ∉ e.chars := by
  induction h with
  | number hf hs =>
      rw [chars_number]
      exact (Binary64.isNumeral_chars hf hs).newline_not_mem
  | reference h =>
      rw [chars_reference]
      exact h.1.newline_not_mem
  | @binary _ op _ _ hop _ _ ih ih' =>
      have hop : '\n' ≠ op := by
        rintro rfl
        exact absurd hop (by decide)
      simp [chars_binary, ih, ih', hop]
  | @call _ callee arguments h _ ih =>
      have harguments : '\n' ∉ [',', ' '].intercalate (arguments.map chars) :=
        not_mem_intercalate (by decide) (List.forall_mem_map.2 ih)
      simp [chars_call, h.1.newline_not_mem, harguments]

theorem Prototype.Writable.newline_not_mem {p : Prototype} (h : p.Writable) : '\n' ∉ p.chars := by
  have hparameters : '\n' ∉ [',', ' '].intercalate (p.parameters.map String.toList) :=
    not_mem_intercalate (by decide) (List.forall_mem_map.2 fun x hx =>
      (h.parameters x hx).1.newline_not_mem)
  simp [Prototype.chars, h.name.1.newline_not_mem, hparameters]

/-- The text of a node is one line. -/
theorem Node.Writable.newline_not_mem {n : Node} (h : n.Writable) : '\n' ∉ n.chars := by
  cases h with
  | external h => simp [chars_external, h.newline_not_mem]
  | definition hp he =>
      rw [chars_named hp.not_isAnonymous]
      simp [hp.newline_not_mem, he.newline_not_mem]
  | expression hname _ he =>
      rw [chars_anonymous (Prototype.isAnonymous_of_name hname)]
      exact he.newline_not_mem

/-! ### Silent journals -/

namespace Journal.Filter

/-- No note is shown. -/
def Silent (filter : Filter) : Prop :=
  ∀ note, filter.shows note = false

theorem silent_upTo_none : (upTo none).Silent := by
  intro note
  rw [shows_upTo]
  rfl

theorem Silent.lines_eq_nil {filter : Filter} (h : filter.Silent) (stamp : String)
    (notes : List Note) : filter.lines stamp notes = [] := by
  rw [lines, List.filter_eq_nil_iff.2 fun note _ => by simp [h note]]
  rfl

end Journal.Filter

namespace Command

theorem silent_off : (filterOf (some "off")).Silent := by
  have hdirectives : (filterOf (some "off")).directives =
      (Journal.Filter.upTo none).directives := by decide +kernel
  have h : filterOf (some "off") = .upTo none := congrArg Journal.Filter.mk hdirectives
  rw [h]
  exact Journal.Filter.silent_upTo_none

variable {filter : Journal.Filter} {stamp name : String} {text : List Char} {tokens : Bool}

/-- What stands on the error output for the faults: a line for each, and how many there are. -/
def faultLines (faults : List (Diagnostic GrammarFault)) : List String :=
  faults.map ("error: " ++ ·.display) ++
    if faults = [] then [] else
      ["Error: " ++ toString faults.length ++ " statement(s) failed to parse"]

theorem stepLines_of_silent (h : filter.Silent) (stage : Journal.Stage) (steps : List Step) :
    steps.flatMap (stepLines filter stamp stage) =
      (steps.filterMap Step.fault?).map ("error: " ++ ·.display) := by
  induction steps with
  | nil => rfl
  | cons step steps ih =>
      have hstep : stepLines filter stamp stage step =
          step.fault?.toList.map ("error: " ++ ·.display) := by
        unfold stepLines
        rw [h.lines_eq_nil]
        cases step <;> rfl
      rw [List.flatMap_cons, hstep, ih]
      cases step <;> rfl

theorem reportText_of_error {d : Diagnostic LexicalFault}
    (h : Token.Stream.ofText name text = .error d) :
    reportText filter stamp tokens name text = ⟨1, "", lines ["Error: " ++ d.display]⟩ := by
  rw [reportText, h]

theorem reportText_of_ok {s : Token.Stream} (hoff : filter.Silent)
    (h : Token.Stream.ofText name text = .ok s) : reportText filter stamp tokens name text =
      ⟨if s.run.faults = [] then 0 else 1,
        lines ((if tokens then ["Tokens: " ++ String.ofList (Token.render s.toList)] else []) ++
          s.run.nodes.map Node.display),
        lines (faultLines s.run.faults)⟩ := by
  rw [reportText, h]
  simp only [hoff.lines_eq_nil, stepLines_of_silent hoff, ← Run.faults_eq, List.nil_append,
    faultLines, tally, List.isEmpty_iff, List.length_eq_zero_iff]

theorem status_reportText_eq_zero_iff (hoff : filter.Silent) :
    (reportText filter stamp tokens name text).status = 0 ↔ text ≠ [] ∧
      (∀ before digits rest, NumberRun text before digits rest →
        ∃ value, Binary64.ofNumeral? digits = some value) ∧
      ∀ s, Token.Stream.ofText name text = .ok s →
        ∃ segments, DerivesProgram nestingLimit s.program segments := by
  rw [← and_assoc, ← Token.Stream.exists_ofText_iff name]
  cases h : Token.Stream.ofText name text with
  | error d => simp [reportText_of_error h]
  | ok s => simp [reportText_of_ok hoff h, s.faults_eq_nil_iff]

/-- What the command reports on a source, where the journal is silent. Of a source that is no
sequence of tokens only its fault is shown. Of any other one the tokens are shown if asked for, each
node on a line, and the faults with their number. The status is zero exactly if the source is a
program. -/
theorem report_of_silent {arguments : List String} {options : Options} {bytes : Contents}
    {read : Option String → Except SourceFault Contents} (stamp : String) (hoff : filter.Silent)
    (ha : Request.ofArguments arguments = .ok (.parse options))
    (hr : read options.input = .ok bytes) :
    (∀ d, Token.Stream.ofBytes options.sourceName bytes = .error d →
      report filter stamp arguments read = ⟨1, "", lines ["Error: " ++ d.display]⟩) ∧
    (∀ s, Token.Stream.ofBytes options.sourceName bytes = .ok s → ∃ run,
      Run.ofText options.sourceName (Utf8.decode bytes) = .ok run ∧
        report filter stamp arguments read = ⟨if run.faults = [] then 0 else 1,
          lines ((if options.tokens then ["Tokens: " ++ String.ofList (Token.render s.toList)]
            else []) ++ run.nodes.map Node.display),
          lines (faultLines run.faults)⟩ ∧
        '\n' ∉ Token.render s.toList ∧ ∀ n ∈ run.nodes, '\n' ∉ n.chars) ∧
    ((report filter stamp arguments read).status = 0 ↔ Utf8.decode bytes ≠ [] ∧
      (∀ before digits rest, NumberRun (Utf8.decode bytes) before digits rest →
        ∃ value, Binary64.ofNumeral? digits = some value) ∧
      ∀ s, Token.Stream.ofBytes options.sourceName bytes = .ok s →
        ∃ segments, DerivesProgram nestingLimit s.program segments) := by
  have hreport : report filter stamp arguments read = reportText filter stamp options.tokens
      options.sourceName (Utf8.decode bytes) := by
    rw [report, ha]
    simp only [hr]
    rfl
  rw [hreport]
  unfold Token.Stream.ofBytes
  refine ⟨fun d h => reportText_of_error h, fun s h => ?_, status_reportText_eq_zero_iff hoff⟩
  refine ⟨s.run, Run.ofText_ok_iff.2 ⟨s, h, rfl⟩, reportText_of_ok hoff h, ?_, fun n hn => ?_⟩
  · exact Token.Stream.render_newline_not_mem h
  · exact (Token.Stream.writable_of_mem_nodes h n hn).newline_not_mem

/-- The tokens, a node and a fault of `x )`, from the standard input. -/
theorem report_of_silent_strayClosing :
    Request.ofArguments ["-t"] = .ok (.parse ⟨true, none⟩) ∧
    report (filterOf (some "off")) "" ["-t"] (readIn [] [0x78, 0x20, 0x29]) =
      ⟨1, lines ["Tokens: x )", "x"],
        lines ["error: stdin:1:3: unknown token when expecting an expression",
          "Error: 1 statement(s) failed to parse"]⟩ ∧
    ∃ run, Run.ofText "stdin" (Utf8.decode [0x78, 0x20, 0x29]) = .ok run ∧ run.faults ≠ [] := by
  have ha : Request.ofArguments ["-t"] = .ok (.parse ⟨true, none⟩) := by decide +kernel
  have hread : readIn [] [0x78, 0x20, 0x29] none = .ok [0x78, 0x20, 0x29] := rfl
  have hvalue : report (filterOf (some "off")) "" ["-t"] (readIn [] [0x78, 0x20, 0x29]) =
      ⟨1, lines ["Tokens: x )", "x"],
        lines ["error: stdin:1:3: unknown token when expecting an expression",
          "Error: 1 statement(s) failed to parse"]⟩ := by decide +kernel
  obtain ⟨herror, hok, -⟩ := report_of_silent "" silent_off ha hread
  cases hs : Token.Stream.ofBytes "stdin" [0x78, 0x20, 0x29] with
  | error d =>
      have hempty : lines ["Tokens: x )", "x"] = "" :=
        congrArg Report.output (hvalue.symm.trans (herror d hs))
      exact absurd hempty (by decide)
  | ok s =>
      obtain ⟨run, hrun, hreport, -⟩ := hok s hs
      refine ⟨ha, hvalue, run, hrun, fun hf => ?_⟩
      rw [hvalue, hf] at hreport
      exact absurd (congrArg Report.status hreport) (by simp)

end Command

end Kaleidoscope
