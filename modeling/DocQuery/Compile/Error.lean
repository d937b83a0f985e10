import DocQuery.Text.Utf8

/-!
# DocQuery.Compile.Error

What a failed compilation reports: a `Diagnostic` for an expression that has no document, with its
kind, the construct it blames and the alternatives there are, and a `SourceError` for a text that
is no expression, with its place.
-/

namespace DocQuery

/-- The kinds of failures, each with a stable code. -/
inductive ErrorKind where
  /-- A node that cannot be compiled. -/
  | nodeKind
  /-- An operator that the tables do not offer. -/
  | operator
  /-- A method that the tables do not offer, or not like this. -/
  | method
  /-- A prefix operator on something it does not apply to. -/
  | unaryForm
  /-- An assignment operator that there is not. -/
  | assignmentOperator
  /-- A member that a comma chain cannot have. -/
  | sequenceMember
  /-- An operand of the wrong sort. -/
  | operand
  /-- A source text that is no expression. -/
  | malformedSource
  /-- Nothing to compile. -/
  | emptyExpression
deriving Repr, DecidableEq

namespace ErrorKind

/-- All kinds, in the order of their codes. -/
def all : List ErrorKind :=
  [.nodeKind, .operator, .method, .unaryForm, .assignmentOperator, .sequenceMember, .operand,
    .malformedSource, .emptyExpression]

/-- The name of a kind. -/
def name : ErrorKind → String
  | .nodeKind => "UnsupportedNodeKind"
  | .operator => "UnsupportedOperator"
  | .method => "UnsupportedMethod"
  | .unaryForm => "UnsupportedUnaryForm"
  | .assignmentOperator => "UnsupportedAssignmentOperator"
  | .sequenceMember => "UnsupportedSequenceMember"
  | .operand => "UnsupportedOperand"
  | .malformedSource => "MalformedSource"
  | .emptyExpression => "EmptyExpression"

/-- The code of a kind. -/
def code : ErrorKind → String
  | .nodeKind => "E201"
  | .operator => "E202"
  | .method => "E203"
  | .unaryForm => "E204"
  | .assignmentOperator => "E205"
  | .sequenceMember => "E206"
  | .operand => "E207"
  | .malformedSource => "E208"
  | .emptyExpression => "E209"

/-- The kind with a name. -/
def ofName? (s : String) : Option ErrorKind := all.find? fun k => k.name == s

/-- The code of a failure that has no kind. -/
def genericCode : String := "E200"

/-- The code of a failure that may have a kind. -/
def codeOf (k : Option ErrorKind) : String := (k.map code).getD genericCode

end ErrorKind

/-- A failure to compile. -/
structure Diagnostic where
  /-- The kind of failure. -/
  kind : Option ErrorKind
  /-- The construct that is blamed. -/
  subject : String
  /-- What is wrong. -/
  message : String
  /-- What could have been used instead. -/
  supported : List String
deriving Repr, DecidableEq

/-- The text of a diagnostic: its message, and the alternatives if there are any. -/
def Diagnostic.text (d : Diagnostic) : String :=
  if d.supported.isEmpty then d.message
  else d.message ++ "; supported: " ++ String.intercalate " " d.supported

/-- A failure to parse, with its place. -/
structure SourceError where
  /-- What is wrong. -/
  message : String
  /-- The line, from one. -/
  line : Int
  /-- The column in bytes, from one. -/
  column : Int
  /-- The offset in bytes, from zero. -/
  offset : Int
  /-- The text of the line. -/
  sourceLine : String
deriving Repr, DecidableEq

/-- White space that reaches up to a column of a line: a tab where the line has one, and a space
for every other byte. -/
def caretPad (line : String) (column : Int) : String :=
  let blanks := line.toList.flatMap fun c =>
    if c == '\t' then ['\t'] else List.replicate c.utf8Size ' '
  String.ofList (blanks.take (column - 1).toNat)

/-- The text of a source error: the message and place, and below it the line with a caret. -/
def SourceError.text (e : SourceError) : String :=
  e.message ++ " at line " ++ toString e.line ++ ":" ++ toString e.column ++
    " in expression:\n\n  " ++ e.sourceLine ++ "\n  " ++ caretPad e.sourceLine e.column ++ "^"

end DocQuery
