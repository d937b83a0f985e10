import DocQuery.Value.Json

/-!
# DocQuery.Command.Output

What a command prints. Results and failures are printed as they are, or, in the JSON format, inside
an envelope with a status and an identifier of the run.
-/

namespace DocQuery.Command

/-- An output format. -/
inductive Format where
  /-- Plain text. -/
  | text
  /-- JSON envelopes. -/
  | json
  /-- YAML. -/
  | yaml
deriving Repr, DecidableEq

namespace Format

/-- The formats, in the order in which messages list them. -/
def all : List Format := [.text, .json, .yaml]

/-- The name of a format. -/
def name : Format → String
  | .text => "text"
  | .json => "json"
  | .yaml => "yaml"

/-- The format with a name. -/
def ofName? (s : String) : Option Format := all.find? fun f => f.name == s

end Format

/-! ## JSON texts -/

/-- The JSON text of a string. -/
def jsonString (s : String) : String := String.ofList (Json.writeString s.toList)

/-- A JSON array of JSON texts. -/
def jsonArray (items : List String) : String := "[" ++ String.intercalate "," items ++ "]"

/-- A JSON object of JSON texts. -/
def jsonObject (members : List (String × String)) : String :=
  "\x7b" ++ String.intercalate "," (members.map fun (key, text) => jsonString key ++ ":" ++ text) ++
    "\x7d"

/-- A string member that is left out when it is empty. -/
def stringMember (key value : String) : List (String × String) :=
  if value == "" then [] else [(key, jsonString value)]

/-- A number member that is left out when it is zero. -/
def intMember (key : String) (value : Int) : List (String × String) :=
  if value == 0 then [] else [(key, toString value)]

/-! ## Failures -/

/-- What a failure is about. -/
structure Details where
  /-- The construct that is blamed. -/
  subject : String := ""
  /-- What could have been used instead. -/
  supported : List String := []
  /-- The line, from one; zero for none. -/
  line : Int := 0
  /-- The column, from one; zero for none. -/
  column : Int := 0
  /-- The byte offset. -/
  offset : Option Int := none
  /-- The text of the line. -/
  sourceLine : String := ""
  /-- The part of a file. -/
  field : String := ""
deriving Repr, DecidableEq

namespace Details

/-- The JSON text of details. Empty members are left out. -/
def toJson (d : Details) : String :=
  jsonObject <|
    stringMember "subject" d.subject ++
    (if d.supported.isEmpty then [] else [("supported", jsonArray (d.supported.map jsonString))]) ++
    intMember "line" d.line ++
    intMember "column" d.column ++
    (d.offset.map fun n => ("offset", toString n)).toList ++
    stringMember "source_line" d.sourceLine ++
    stringMember "field" d.field

/-- Details on one line of text. -/
def toText (d : Details) : String :=
  let offset := match d.offset with
    | some n => toString n
    | none => "<nil>"
  "&\x7b" ++ String.intercalate " "
    [d.subject, "[" ++ String.intercalate " " d.supported ++ "]", toString d.line,
      toString d.column, offset, d.sourceLine, d.field] ++ "\x7d"

end Details

/-- What may be said about a failure besides its message. -/
inductive Remark where
  /-- A text. -/
  | text (s : String)
  /-- Details. -/
  | details (d : Details)
deriving Repr, DecidableEq

namespace Remark

/-- The JSON text of a remark. -/
def toJson : Remark → String
  | .text s => jsonString s
  | .details d => d.toJson

/-- A remark as text. -/
def toText : Remark → String
  | .text s => s
  | .details d => d.toText

end Remark

/-! ## Printing -/

/-- How a command prints. -/
structure Printer where
  /-- The output format. -/
  format : Format
  /-- Whether remarks are printed in text. -/
  verbose : Bool
  /-- An identifier of the run; may be empty. -/
  traceId : String
deriving Repr, DecidableEq

namespace Printer

/-- An envelope around members, on one line. -/
def envelope (p : Printer) (status : String) (members : List (String × String)) : String :=
  jsonObject (("status", jsonString status) :: members ++ stringMember "trace_id" p.traceId) ++ "\n"

/-- A result in the JSON format, by its JSON text. -/
def jsonResult (p : Printer) (data : String) : String := p.envelope "ok" [("data", data)]

/-- A result that is text. -/
def result (p : Printer) (s : String) : String :=
  if p.format = .json then p.jsonResult (jsonString s) else s ++ "\n"

/-- A failure. -/
def failure (p : Printer) (code message : String) (remark : Option Remark) : String :=
  if p.format = .json then
    p.envelope "error"
      [("error", jsonObject <|
        [("code", jsonString code), ("message", jsonString message)] ++
          (remark.map fun r => ("details", r.toJson)).toList)]
  else
    "Error [" ++ code ++ "]: " ++ message ++ "\n" ++
      match remark with
      | some r => if p.verbose then "Details: " ++ r.toText ++ "\n" else ""
      | none => ""

end Printer

/-! ## Exits -/

/-- Why a command stops with a given exit code. -/
structure Exit where
  /-- The exit code. -/
  code : Int
  /-- What is said about it. -/
  message : String
  /-- The text of what caused it. -/
  cause : Option String
deriving Repr, DecidableEq

/-- The text of an exit: its message and its cause. -/
def Exit.text (e : Exit) : String :=
  match e.cause with
  | some cause => e.message ++ ": " ++ cause
  | none => e.message

/-- The exit code of success. -/
def successCode : Int := 0

/-- The exit code of a failure that names none. -/
def failureCode : Int := 1

/-- The exit code of a rejected expression, an unreadable input or bad tables. -/
def rejectedCode : Int := 2

end DocQuery.Command
