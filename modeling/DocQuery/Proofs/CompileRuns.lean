import DocQuery.Command.Run
import DocQuery.Proofs.CompiledDocuments
import DocQuery.Proofs.Envelopes
import DocQuery.Proofs.Nesting
import DocQuery.Proofs.SpellingRoundTrip

/-!
# DocQuery.Proofs.CompileRuns

**What a run of `compile` prints in the JSON format.** Whatever its flags, operands and files are, a
run prints one envelope: that of the compiled document, with exit code 0, or that of the failure,
with exit code 2 (`compile_prints_envelope`). A compiled document always has a text and a
fingerprint, so a run never fails behind the compiler, with one exception: the text of a document
that nests deeper than the limit is not copied into an envelope, and such a run prints nothing and
has exit code 1.

A run is a computation that logs. `run_bind` takes such a computation apart, and the log is followed
no further than that, because nothing that is printed depends on it.
-/

namespace DocQuery.Command

/-! ### Computations that log -/

/-- What one computation after another gives, and what is logged then. -/
theorem run_bind {α β : Type} (x : Logged α) (f : α → Logged β) (lines : String) :
    (x >>= f).run.run lines =
      match x.run.run lines with
      | (.ok a, lines) => (f a).run.run lines
      | (.error e, lines) => (.error e, lines) := by
  rw [ExceptT.run_bind]
  show StateT.run (_ >>= _) lines = _
  rw [StateT.run_bind]
  show (match x.run.run lines with | (answer, lines) => _) = _
  cases x.run.run lines with
  | mk answer lines => cases answer <;> rfl

theorem run_orFail_ok {ε α : Type} (wrap : ε → Failure) (a : α) (lines : String) :
    (orFail wrap (.ok a : Except ε α)).run.run lines = (.ok a, lines) := rfl

/-- Logging always goes on. -/
theorem run_log_bind {β : Type} (o : Settings) (message : String) (values : List (String × String))
    (f : Logged β) (lines : String) :
    ∃ lines', (log o message values >>= fun _ => f).run.run lines = f.run.run lines' := by
  rw [run_bind]
  exact ⟨_, rfl⟩

/-! ### Compiled documents -/

/-- What a run compiles, or why it fails to. -/
def compilation (r : Request) (i : Inputs) : Except Failure Document :=
  ((compiledDocument r.settings r.operands i).run.run "").1

theorem isRenderable_of_compile {t : Tables} {src : String} {d : Document}
    (h : Query.compile t src = .ok d) : (Value.document d).isRenderable = true := by
  obtain ⟨e, -, hd⟩ := bind_eq_ok_iff.1 h
  exact (proper_of_compileTree hd).1

/-- An answer that, if it is a document, has a renderable one. -/
def GivesRenderable (x : Logged Document) : Prop :=
  ∀ lines d, (x.run.run lines).1 = .ok d → (Value.document d).isRenderable = true

theorem GivesRenderable.bind {α : Type} {x : Logged α} {f : α → Logged Document}
    (h : ∀ a, GivesRenderable (f a)) : GivesRenderable (x >>= f) := by
  intro lines d hd
  rw [run_bind] at hd
  cases hx : x.run.run lines with
  | mk answer lines' =>
      rw [hx] at hd
      cases answer with
      | ok a => exact h a lines' d hd
      | error e => cases hd

theorem givesRenderable_throw (f : Failure) : GivesRenderable (throw f) := by
  intro lines d hd
  cases hd

theorem givesRenderable_orFail {x : Except QueryError Document}
    (h : ∀ d, x = .ok d → (Value.document d).isRenderable = true) :
    GivesRenderable (orFail .query x) := by
  intro lines d hd
  cases x with
  | ok d' =>
      cases hd
      exact h d rfl
  | error e => cases hd

/-- **Whatever a run compiles can be rendered.** -/
theorem givesRenderable_compiledDocument (o : Settings) (operands : List String) (i : Inputs) :
    GivesRenderable (compiledDocument o operands i) := by
  refine GivesRenderable.bind fun t => ?_
  split
  · exact givesRenderable_throw _
  · refine GivesRenderable.bind fun tree => GivesRenderable.bind fun _ => ?_
    exact givesRenderable_orFail fun d hd => (proper_of_compileTree hd).1
  · refine GivesRenderable.bind fun _ => ?_
    exact givesRenderable_orFail fun d hd => isRenderable_of_compile hd
  · exact givesRenderable_throw _

/-! ### Runs -/

/-- The printer of a run in the JSON format. -/
def jsonPrinter (r : Request) (i : Inputs) : Printer :=
  { format := .json, verbose := r.settings.verbose, traceId := i.traceId }

/-- Behind the compiler a run in the JSON format has nothing to do but to make the envelope. -/
theorem run_runCompile_of_ok {o : Settings} {p : Printer} {operands : List String} {i : Inputs}
    (hp : p.format = .json) (ho : o.extended = false) {lines lines' : String} {d : Document}
    (h : (compiledDocument o operands i).run.run lines = (.ok d, lines')) {text print : String}
    (htext : (Value.document d).toJson = .ok text)
    (hprint : (Value.document d).fingerprint = .ok print) :
    ∃ lines'', (runCompile o p operands i).run.run lines =
      (.ok (envelopeOf p text (compiledData text print)), lines'') := by
  have hdocument : documentText o.extended d = .ok text := by
    rw [ho]
    exact htext
  rw [runCompile, run_bind, h]
  simp only [hprint, hp, hdocument]
  rw [run_bind, run_orFail_ok]
  exact run_log_bind o _ _ _ lines'

theorem run_runCompile_of_error {o : Settings} {p : Printer} {operands : List String} {i : Inputs}
    {lines lines' : String} {f : Failure}
    (h : (compiledDocument o operands i).run.run lines = (.error f, lines')) :
    (runCompile o p operands i).run.run lines = (.error f, lines') := by
  rw [runCompile, run_bind, h]

/-- What a run of `compile` leaves behind, by the answer of the command. -/
theorem run_compile_eq {args : List String} {r : Request}
    (hargs : readArguments args = .ok (.run r)) (hverb : r.verb = .compile)
    (hformat : r.settings.format = "json") (i : Inputs) :
    run args i =
      match (runCompile r.settings (jsonPrinter r i) r.operands i).run.run "" with
      | (.ok (.ok stdout), stderr) => { stdout, stderr, ending := .success }
      | (.ok (.error text), stderr) => { stdout := "", stderr, ending := .silent text }
      | (.error f, stderr) => failedRun (jsonPrinter r i) stderr f := by
  have hname : Format.ofName? r.settings.format = some .json := by
    rw [hformat]
    decide
  rw [run, hargs]
  simp only [Request.run, hname, Request.runIn, hverb]
  rfl

theorem exists_intercalate_cons (separator x : String) (xs : List String) :
    ∃ after, String.intercalate separator (x :: xs) = x ++ after := by
  cases xs with
  | nil => exact ⟨"", by rw [String.intercalate_singleton, String.append_empty]⟩
  | cons y ys => exact ⟨_, by rw [String.intercalate_cons_cons, String.append_assoc]⟩

/-- The envelope around a document has the text of the document as it is. -/
theorem jsonResult_compiledData (p : Printer) (text print : String) :
    ∃ after, p.jsonResult (compiledData text print) =
      "\x7b\"status\":\"ok\",\"data\":\x7b\"document\":" ++ text ++ ",\"fingerprint\":" ++
        after := by
  have hkeys : jsonString "status" = "\"status\"" ∧ jsonString "ok" = "\"ok\"" ∧
      jsonString "data" = "\"data\"" ∧ jsonString "document" = "\"document\"" ∧
      jsonString "fingerprint" = "\"fingerprint\"" := by decide
  obtain ⟨hstatus, hok, hdata, hdocument, hfingerprint⟩ := hkeys
  obtain ⟨after, hafter⟩ := exists_intercalate_cons "," (jsonString "data" ++ ":" ++
    compiledData text print) ((stringMember "trace_id" p.traceId).map fun member =>
      jsonString member.1 ++ ":" ++ member.2)
  refine ⟨jsonString print ++ "\x7d" ++ after ++ "\x7d\n", ?_⟩
  rw [Printer.jsonResult, Printer.envelope, jsonObject]
  simp only [List.cons_append, List.nil_append, List.map_cons, String.intercalate_cons_cons, hafter]
  rw [← String.toList_inj]
  simp only [compiledData, jsonObject, List.map_cons, List.map_nil, String.intercalate_cons_cons,
    String.intercalate_singleton, hstatus, hok, hdata, hdocument, hfingerprint,
    String.toList_append]
  simp

/-- **Every run of `compile` in the JSON format prints one envelope**, with the compiled document
and exit code 0 or with the failure and exit code 2; only when the document nests too deep it prints
nothing and has exit code 1. -/
theorem compile_prints_envelope {args : List String} {r : Request}
    (hargs : readArguments args = .ok (.run r)) (hverb : r.verb = .compile)
    (hformat : r.settings.format = "json") (hplain : r.settings.extended = false) (i : Inputs) :
    (∀ d, compilation r i = .ok d →
      ∃ text print, (Value.document d).toJson = .ok text ∧
        (Value.document d).fingerprint = .ok print ∧
        ((Value.document d).nesting ≤ Json.maxNesting →
          (run args i).ending.exitCode = 0 ∧
          PrintsLine (run args i).stdout
            (("status", .string "ok") ::
              ("data", .document [("document", .document d), ("fingerprint", .string print)]) ::
                traceElement i.traceId) ∧
          ∃ after, (run args i).stdout =
            "\x7b\"status\":\"ok\",\"data\":\x7b\"document\":" ++ text ++ ",\"fingerprint\":" ++
              after) ∧
        (Json.maxNesting < (Value.document d).nesting →
          (run args i).ending.exitCode = 1 ∧ (run args i).stdout = "")) ∧
    (∀ f, compilation r i = .error f →
      (run args i).ending.exitCode = 2 ∧
        ∃ details, PrintsLine (run args i).stdout
          (("status", .string "error") ::
            ("error",
              .document (("code", .string f.code) :: ("message", .string f.text) :: details)) ::
              traceElement i.traceId)) := by
  have hrun : (compiledDocument r.settings r.operands i).run.run "" =
      (compilation r i, ((compiledDocument r.settings r.operands i).run.run "").2) := rfl
  constructor
  · intro d hd
    rw [hd] at hrun
    have hrenders := Value.renders_of_isRenderable
      (givesRenderable_compiledDocument r.settings r.operands i "" d hd)
    obtain ⟨text, htext⟩ := hrenders.json
    obtain ⟨print, hprint⟩ := hrenders.fingerprint
    have hshows := Json.shows_toJson htext
    obtain ⟨lines, hcompile⟩ := run_runCompile_of_ok (p := jsonPrinter r i) rfl hplain hrun htext
      hprint
    refine ⟨text, print, htext, hprint, ?_, ?_⟩
    · intro hroom
      have hcheck := (Json.checkPayload_eq_ok_iff hshows.means).2 hroom
      rw [run_compile_eq hargs hverb hformat, hcompile, envelopeOf, hcheck]
      refine ⟨rfl, printsLine_jsonResult _ (shows_object ?_), jsonResult_compiledData _ _ _⟩
      exact .cons ⟨rfl, hshows⟩ (.cons ⟨rfl, shows_string print⟩ .nil)
    · intro hdeep
      cases hcheck : Json.checkPayload text.toList with
      | ok _ =>
          have hroom := (Json.checkPayload_eq_ok_iff hshows.means).1 hcheck
          omega
      | error fault =>
          rw [run_compile_eq hargs hverb hformat, hcompile, envelopeOf, hcheck]
          exact ⟨rfl, rfl⟩
  · intro f hf
    rw [hf] at hrun
    rw [run_compile_eq hargs hverb hformat, run_runCompile_of_error hrun]
    exact ⟨rfl, printsLine_failure (p := jsonPrinter r i) rfl f.code f.text
      (f.details.map .details)⟩

/-! ### Comparisons with nested lists -/

/-- Lists within lists, `n + 1` of them. -/
def nestedList : Nat → Expr
  | 0 => .array []
  | n + 1 => .array [nestedList n]

/-- The comparison of a field with nested lists. -/
def listComparison (n : Nat) : Expr := .binary "==" (.identifier "a") (nestedList n)

theorem compile_nestedList (t : Tables) (n : Nat) :
    (nestedList n).compile t = .ok (.literal (nestedValue n)) := by
  induction n with
  | zero =>
      rw [nestedList, Expr.compile, compileAll]
      rfl
  | succ n ih =>
      rw [nestedList, Expr.compile, compileAll, ih, compileAll]
      rfl

theorem spellable_listComparison (n : Nat) : Script.Spellable (listComparison n) := by
  have hlist : Script.Spellable (nestedList n) := by
    induction n with
    | zero => exact .array (by simp)
    | succ n ih => exact .array (by simpa using ih)
  exact .binary (by decide) (.identifier rfl rfl) hlist

theorem parse_listComparison (n : Nat) :
    Query.parse (listComparison n).spelling = .ok (.ofExpression (listComparison n)) := by
  obtain ⟨tree, hread, hmeans⟩ := Script.read_spelling (spellable_listComparison n)
  have hprogram : Script.toProgram [.expression tree] = .ok [.statement (listComparison n)] := by
    rw [Script.toProgram, hmeans.expr]
    rfl
  rw [Query.parse, Script.parse, hread]
  simp only [hprogram]
  rfl

/-- A comparison with lists of any depth is compiled. -/
theorem compile_listComparison (n : Nat) :
    Query.compile .standard (listComparison n).spelling = .ok [("a", nestedValue n)] := by
  have hcompile : (Expr.ofExpression (listComparison n)).compile .standard =
      .ok (.condition [("a", nestedValue n)]) := by
    rw [Expr.ofExpression, Expr.compile, compileAll, Expr.compile, compileAll, listComparison,
      compile_binary (by decide), Expr.compile, compile_nestedList]
    rfl
  rw [Query.compile, parse_listComparison, ok_bind]
  exact compileTree_eq_ok_iff.2 (Or.inl hcompile)

/-- The request to compile a source that stands behind two dashes. -/
def compileRequest (src : String) : Request := ⟨.compile, { format := "json" }, [src]⟩

theorem readArguments_compile (src : String) :
    readArguments ["compile", "--format", "json", "--", src] = .ok (.run (compileRequest src)) := by
  cbv

theorem compilation_listComparison (n : Nat) (i : Inputs) :
    compilation (compileRequest (listComparison n).spelling) i = .ok [("a", nestedValue n)] := by
  have hload : (loadTables { format := "json" } i).run.run "" = (.ok .standard, "") := rfl
  rw [compilation, compiledDocument, run_bind]
  simp only [compileRequest, hload, beq_self_eq_true]
  rw [run_bind, compile_listComparison]
  rfl

/-- A comparison with an empty list is printed in an envelope. One with ten thousand nested lists is
compiled as well, but nothing is printed for it. -/
theorem nested_list_comparisons :
    let i : Inputs := { stdin := "", file? := fun _ => none, traceId := "t" }
    let arguments (n : Nat) : List String :=
      ["compile", "--format", "json", "--", (listComparison n).spelling]
    ((run (arguments 0) i).ending.exitCode = 0 ∧ ∃ print, PrintsLine (run (arguments 0) i).stdout
      [("status", .string "ok"),
        ("data", .document [("document", .document [("a", .array [])]),
          ("fingerprint", .string print)]), ("trace_id", .string "t")]) ∧
      (run (arguments 9999) i).ending.exitCode = 1 ∧ (run (arguments 9999) i).stdout = "" := by
  intro i arguments
  have hrun := fun n => (compile_prints_envelope
    (readArguments_compile (listComparison n).spelling) rfl rfl rfl i).1 _
      (compilation_listComparison n i)
  constructor
  · obtain ⟨text, print, -, -, hshallow, -⟩ := hrun 0
    obtain ⟨hexit, hline, -⟩ := hshallow (by decide)
    exact ⟨hexit, print, hline⟩
  · obtain ⟨text, print, -, -, -, hdeep⟩ := hrun 9999
    have hnesting : Json.maxNesting < (Value.document [("a", nestedValue 9999)]).nesting := by
      rw [Value.nesting, Value.nestingElements, Value.nestingElements, nesting_nestedValue]
      decide
    exact hdeep hnesting

end DocQuery.Command
