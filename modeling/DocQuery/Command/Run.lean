import DocQuery.Command.Arguments
import DocQuery.Command.Log
import DocQuery.Expr.Encode
import DocQuery.Query
import DocQuery.Value.Bson
import DocQuery.Value.Canonical
import DocQuery.Value.Indent
import DocQuery.Yaml.Tree

/-!
# DocQuery.Command.Run

What the commands do. `Request.run` is a function from a request and the texts it may read to what
is printed and how the run ends; reading files and printing are left to the caller.
-/

namespace DocQuery.Command

/-- What a run may read. -/
structure Inputs where
  /-- Standard input. -/
  stdin : String
  /-- The text of a file; nothing when there is none. -/
  file? : String → Option String
  /-- An identifier of the run. -/
  traceId : String

/-- Why a run fails. -/
inductive Failure where
  /-- The tables cannot be loaded. -/
  | load (error : LoadError)
  /-- The table file cannot be read. -/
  | noTables (file : String)
  /-- The tree file cannot be read. -/
  | noTree (file : String)
  /-- The tree file holds no tree. -/
  | badTree (error : DecodeError)
  /-- There is an expression and a tree. -/
  | twoInputs
  /-- There is neither an expression nor a tree. -/
  | noInput
  /-- The expression has no document. -/
  | query (error : QueryError)
  /-- The document has no fingerprint. -/
  | noFingerprint (error : RenderError)
  /-- The document cannot be rendered. -/
  | render (error : RenderError)
  /-- The tree has no JSON text. -/
  | encode (error : EncodeError)
  /-- The text of the tree cannot be laid out. -/
  | layout (fault : Json.PayloadFault)
  /-- The text of the tree is no YAML text. -/
  | notYaml

namespace Failure

/-- The text of a failure to open a file. -/
def missingFile (file : String) : String := "open " ++ file ++ ": no such file or directory"

/-- The text of a failure. -/
def text : Failure → String
  | .load error => error.text
  | .noTables file => "read tables: " ++ missingFile file
  | .noTree file => "read tree: " ++ missingFile file
  | .badTree error => error.message
  | .twoInputs => "give either an expression or --tree, not both"
  | .noInput => "compile needs an expression or --tree"
  | .query error => error.text
  | .noFingerprint error => "fingerprint: " ++ error.message
  | .render error => error.message
  | .encode error => error.message
  | .layout fault => fault.message
  | .notYaml => "convert tree: yaml: control characters are not allowed"

/-- The code of a failure. -/
def code : Failure → String
  | .query error => ErrorKind.codeOf error.kind
  | _ => ErrorKind.genericCode

/-- What is known about a failure. -/
def details : Failure → Option Details
  | .query (.rejected d) => some { subject := d.subject, supported := d.supported }
  | .query (.malformed e) =>
    some { line := e.line, column := e.column, offset := some e.offset, sourceLine := e.sourceLine }
  | .load e =>
    some <| match e.place with
      | some (_, p) => { field := e.field, line := p.line, column := p.column }
      | none => { field := e.field }
  | _ => none

end Failure

/-- How a run ends. -/
inductive Ending where
  /-- Well. -/
  | success
  /-- With an exit code, after the failure was printed. -/
  | reported (exit : Exit)
  /-- With a failure that was not printed. -/
  | silent (text : String)
deriving Repr, DecidableEq

/-- The exit code of an ending. -/
def Ending.exitCode : Ending → Int
  | .success => successCode
  | .reported exit => exit.code
  | .silent _ => failureCode

/-- What a run leaves behind. -/
structure Outcome where
  /-- What it prints. -/
  stdout : String
  /-- What it logs. -/
  stderr : String
  /-- How it ends. -/
  ending : Ending
deriving Repr, DecidableEq

/-- A computation that logs. -/
abbrev Logged := ExceptT Failure (StateM String)

/-- Log a line. -/
def log (o : Settings) (message : String) (values : List (String × String)) : Logged Unit :=
  modify fun lines => if o.verbose then lines ++ logLine message values else lines

/-- The sizes of tables, for the log. -/
def tableSizes (t : Tables) : List (String × String) :=
  [("operators", toString t.operators.length), ("methods", toString t.methods.length)]

/-- Load the tables of a run. -/
def loadTables (o : Settings) (i : Inputs) : Logged Tables := do
  if o.tables == "" then
    log o "using embedded tables" (tableSizes .standard)
    return .standard
  else
    match i.file? o.tables with
    | none => throw (.noTables o.tables)
    | some text =>
      match Tables.load o.tables text with
      | .error e => throw (.load e)
      | .ok t =>
        log o "loaded tables" (("path", o.tables) :: tableSizes t)
        return t

/-- Change the failure of a computation. -/
def orFail {ε α : Type} (wrap : ε → Failure) : Except ε α → Logged α
  | .ok a => return a
  | .error e => throw (wrap e)

/-! ## The commands -/

/-- The tree that a tree file holds. -/
def readTree (file : String) (i : Inputs) : Logged Expr := do
  let text := if file == "-" then some i.stdin else i.file? file
  match text with
  | none => throw (.noTree file)
  | some text => orFail .badTree (Expr.ofTreeText text)

/-- The document that a run compiles. -/
def compiledDocument (o : Settings) (operands : List String) (i : Inputs) : Logged Document := do
  let t ← loadTables o i
  match o.tree == "", operands with
  | false, _ :: _ => throw .twoInputs
  | false, [] =>
    let tree ← readTree o.tree i
    log o "compiling tree" [("path", o.tree), ("kind", tree.kind.name)]
    orFail .query (Query.compileTree t tree)
  | true, src :: _ =>
    log o "compiling expression" [("source", src)]
    orFail .query (Query.compile t src)
  | true, [] => throw .noInput

/-- The JSON text of a document, or its Extended JSON text. -/
def documentText (extended : Bool) (d : Document) : Except RenderError String :=
  if extended then (Bson.ofValue (.document d)).map Bson.toExtendedJson
  else (Value.document d).toJson

/-- The text of a failure to copy a JSON text into an envelope. -/
def payloadFailure (fault : Json.PayloadFault) : String :=
  "json: error calling MarshalJSON for type json.RawMessage: " ++ fault.message

/-- The result with some data, in the JSON format. The data are made from the JSON text `text`,
which must be fit for an envelope; if it is not, nothing is printed. -/
def envelopeOf (p : Printer) (text data : String) : Except String String :=
  match Json.checkPayload text.toList with
  | .ok _ => .ok (p.jsonResult data)
  | .error fault => .error (payloadFailure fault)

/-- The data of a compiled document. -/
def compiledData (text fingerprint : String) : String :=
  jsonObject [("document", text), ("fingerprint", jsonString fingerprint)]

/-- Compile an expression or a tree, and print the document. The inner answer is a failure that is
not printed. -/
def runCompile (o : Settings) (p : Printer) (operands : List String) (i : Inputs) :
    Logged (Except String String) := do
  let d ← compiledDocument o operands i
  let fingerprint ← orFail .noFingerprint (Value.document d).fingerprint
  log o "compiled" [("keys", toString d.length), ("fingerprint", fingerprint)]
  if p.format = .yaml then return .ok (← orFail .render (Value.document d).toYaml)
  else
    let text ← orFail .render (documentText o.extended d)
    if p.format = .json then return envelopeOf p text (compiledData text fingerprint)
    else return .ok (p.result text)

/-- The number of statements of a program. -/
def statementCount : Expr → Nat
  | .program body => body.length
  | _ => 0

/-- The YAML text of a tree. -/
def treeYaml (tree : Json) : Except Failure String :=
  if tree.toText.toList.all Yaml.isAllowed then .ok (Yaml.emit 4 (.ofJson tree))
  else .error .notYaml

/-- Parse an expression and print its tree. The inner answer is a failure that is not printed. -/
def runParse (o : Settings) (p : Printer) (src : String) : Logged (Except String String) := do
  let e ← orFail .query (Query.parse src)
  log o "parsed" [("statements", toString (statementCount e))]
  let tree ← orFail .encode e.encode
  match p.format with
  | .yaml => return .ok (← orFail id (treeYaml tree))
  | .json => return envelopeOf p tree.toText tree.toText
  | .text =>
    let lines ← orFail .layout (Json.layout { margin := "", step := "  " } tree.toText.toList)
    return .ok (p.result (String.ofList lines))

/-! ## Listing the tables -/

/-- A text filled up with spaces. -/
def padRight (width : Nat) (s : String) : String :=
  s ++ String.ofList (List.replicate (width - s.length) ' ')

/-- The tables as text. -/
def tablesText (t : Tables) : String :=
  let operators := t.operators.map fun op =>
    "  " ++ padRight 4 op.token ++ " " ++ if op.allowed then op.target else "(not supported)"
  let methods := t.methods.map fun m =>
    "  " ++ padRight 18 m.signature ++ " " ++ m.target ++
      if m.option == "" then "" else ", " ++ m.option
  String.intercalate "\n" ("Operators:" :: operators ++ "" :: "Methods:" :: methods)

/-- The JSON text of a boolean. -/
def jsonBool (b : Bool) : String := if b then "true" else "false"

/-- The tables as JSON text. -/
def tablesJson (t : Tables) : String :=
  let operator (op : Operator) : String :=
    jsonObject <| [("token", jsonString op.token)] ++ stringMember "target" op.target ++
      [("allowed", jsonBool op.allowed)]
  let method (m : Method) : String :=
    jsonObject <|
      [("name", jsonString m.name), ("signature", jsonString m.signature),
        ("target", jsonString m.target), ("shape", jsonString m.shape.name)] ++
      stringMember "option" m.option
  let listing (items : List String) : String :=
    if items.isEmpty then "null" else jsonArray items
  jsonObject
    [("operators", listing (t.operators.map operator)), ("methods", listing (t.methods.map method))]

/-- A YAML entry of a string. -/
def yamlEntry (key value : String) : Yaml.Scalar × Yaml.Node :=
  (.ofStringGuarded key, .scalar (.ofStringGuarded value))

/-- A YAML entry of a string that is left out when it is empty. -/
def optionalEntry (key value : String) : List (Yaml.Scalar × Yaml.Node) :=
  if value == "" then [] else [yamlEntry key value]

/-- The tables as YAML text. -/
def tablesYaml (t : Tables) : String :=
  let operator (op : Operator) : Yaml.Node :=
    .mapping <| [yamlEntry "token" op.token] ++ optionalEntry "target" op.target ++
      [(.ofStringGuarded "allowed", .scalar (.ofTagged .bool (jsonBool op.allowed)))]
  let method (m : Method) : Yaml.Node :=
    .mapping <|
      [yamlEntry "name" m.name, yamlEntry "signature" m.signature, yamlEntry "target" m.target,
        yamlEntry "shape" m.shape.name] ++ optionalEntry "option" m.option
  Yaml.emit 4 <| .mapping
    [(.ofStringGuarded "operators", .sequence (t.operators.map operator)),
      (.ofStringGuarded "methods", .sequence (t.methods.map method))]

/-- List the tables. -/
def runTables (o : Settings) (p : Printer) (i : Inputs) : Logged String := do
  let t ← loadTables o i
  return match p.format with
    | .text => p.result (tablesText t)
    | .json => p.jsonResult (tablesJson t)
    | .yaml => tablesYaml t

/-! ## Runs -/

/-- The end of a run that failed. -/
def failedRun (p : Printer) (stderr : String) (f : Failure) : Outcome :=
  { stdout := p.failure f.code f.text (f.details.map .details)
    stderr
    ending := .reported { code := rejectedCode, message := f.code, cause := some f.text } }

/-- Carry out a request in a known format. -/
def Request.runIn (r : Request) (format : Format) (i : Inputs) : Outcome :=
  let o := r.settings
  let p : Printer := { format, verbose := o.verbose, traceId := i.traceId }
  let action : Logged (Except String String) :=
    match r.verb, r.operands with
    | .compile, operands => runCompile o p operands i
    | .parse, src :: _ => runParse o p src
    | .parse, [] => runParse o p ""
    | .tables, _ => do return .ok (← runTables o p i)
  match action.run.run "" with
  | (.ok (.ok stdout), stderr) => { stdout, stderr, ending := .success }
  | (.ok (.error text), stderr) => { stdout := "", stderr, ending := .silent text }
  | (.error f, stderr) => failedRun p stderr f

/-- Carry out a request. -/
def Request.run (r : Request) (i : Inputs) : Outcome :=
  match Format.ofName? r.settings.format with
  | some format => r.runIn format i
  | none =>
    { stdout := "", stderr := ""
      ending := .silent (ArgumentError.badFormat r.settings.format).text }

/-- The files that a request reads. -/
def Request.files (r : Request) : List String :=
  [r.settings.tables, r.settings.tree].filter fun f => f != "" && f != "-"

/-- The help text. -/
def helpText : String :=
  String.intercalate "\n"
    ["Compile expressions into filter and update documents.", "", "Usage:",
      "  " ++ programName ++ " compile [expression] [--tree file] [--extjson]",
      "  " ++ programName ++ " parse <expression>", "  " ++ programName ++ " tables", "",
      "Flags:", "  --format text|json|yaml", "  --tables file", "  -v, --verbose", ""]

/-- A run from its arguments on. -/
def run (args : List String) (i : Inputs) : Outcome :=
  match readArguments args with
  | .error e => { stdout := "", stderr := e.printed, ending := .silent e.text }
  | .ok .help => { stdout := helpText, stderr := "", ending := .success }
  | .ok (.run request) => request.run i

end DocQuery.Command
