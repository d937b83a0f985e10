import DocQuery.Compile.Error
import DocQuery.Expr.Kind
import DocQuery.Tables.Basic
import DocQuery.Value.Json

/-!
# DocQuery.Compile.Fragment

What the parts of an expression compile to, and what can be wrong with them. A part is a field, a
value, a filter condition or an update; each rule of the compiler asks for certain sorts of parts
and blames the others with a `Cause`.
-/

namespace DocQuery

/-- An update: for each update operator, in the order of first use, the fields it writes. -/
abbrev Update := List (String × Document)

/-- The document of an update. -/
def Update.toDocument (u : Update) : Document :=
  u.map fun (group, fields) => (group, .document fields)

/-- What a part of an expression compiles to. -/
inductive Fragment where
  /-- A field, by its dotted path. -/
  | field (path : String)
  /-- A value. -/
  | literal (value : Value)
  /-- A filter document. -/
  | condition (filter : Document)
  /-- An update document. -/
  | update (u : Update)
deriving Repr

/-- A fragment as messages show it. -/
def Fragment.describe : Fragment → String
  | .field path => "field " ++ path
  | .literal v =>
    match v.toJson with
    | .ok text => "value " ++ text
    | .error _ => "value"
  | .condition d => "condition " ++ d.describe
  | .update u => "update " ++ u.toDocument.describe

/-- Why an expression has no document. -/
inductive Cause where
  /-- A node that nothing can be done with. -/
  | unsupportedNode (kind : Kind)
  /-- No tree at all. -/
  | emptyTree
  /-- A program without statements. -/
  | emptyProgram
  /-- A program of several statements. -/
  | severalStatements (count : Nat)
  /-- A number literal that is none. -/
  | invalidNumber (literal : String)
  /-- A property of something that is no field. -/
  | memberOfNonField (property : String) (base : Fragment)
  /-- An operator that the tables do not have. -/
  | unknownOperator (token : String) (supported : List String)
  /-- An operator that the tables do not allow. -/
  | disallowedOperator (token : String) (supported : List String)
  /-- An operand of a logical operator that is no condition. -/
  | notACondition (token : String) (operand : Fragment)
  /-- A comparison without a field. -/
  | noFieldOperand (token : String) (left right : Fragment)
  /-- A comparison of a field with something that is no value. -/
  | notComparable (token path : String) (operand : Fragment)
  /-- A prefix operator on something that is not what it wants. -/
  | badUnaryOperand (op : UnaryOp) (operand : Fragment) (wanted : String)
  /-- An item or argument that is no value. -/
  | notAValue (subject : String) (fragment : Fragment) (position : Nat)
  /-- A method that the tables do not have. -/
  | unknownMethod (name : String) (supported : List String)
  /-- A method called on something that is no field. -/
  | callOnNonField (name : String) (base : Fragment)
  /-- A method called with the wrong number of arguments. -/
  | wrongArity (method : Method) (wanted : String)
  /-- An argument that should be a condition. -/
  | argumentNotCondition (name : String) (argument : Fragment)
  /-- A method whose shape is none. -/
  | shapelessMethod (name : String)
  /-- An assignment operator that there is not. -/
  | unknownAssignment (op : String)
  /-- An assignment to something that is no field. -/
  | assignToNonField (op : String) (target : Fragment)
  /-- An assignment of something that is no value. -/
  | assignedNonValue (path op : String) (value : Fragment)
  /-- An increment by something that is no number. -/
  | assignedNonNumber (path op : String) (value : Fragment)
  /-- A prefix operator that a comma chain cannot have. -/
  | sequenceUnary (op : UnaryOp)
  /-- A missing member of a comma chain. -/
  | emptySequenceMember
  /-- A node that a comma chain cannot have. -/
  | sequenceNode (kind : Kind)
  /-- A fragment that a comma chain cannot have. -/
  | sequenceFragment (kind : Kind) (fragment : Fragment)
  /-- A field that a comma chain writes twice. -/
  | conflictingUpdate (field earlier later : String)
  /-- A whole expression that is neither a condition nor an update. -/
  | notADocument (kind : Kind) (fragment : Fragment)
deriving Repr

namespace Cause

/-- The assignment operators there are. -/
def assignOperators : List String := ["=", "+="]

/-- The kind of failure. -/
def kind : Cause → ErrorKind
  | .unsupportedNode _ | .severalStatements _ => .nodeKind
  | .emptyTree | .emptyProgram => .emptyExpression
  | .unknownOperator _ _ | .disallowedOperator _ _ => .operator
  | .badUnaryOperand _ _ _ => .unaryForm
  | .unknownMethod _ _ | .wrongArity _ _ | .shapelessMethod _ => .method
  | .unknownAssignment _ => .assignmentOperator
  | .sequenceUnary _ | .emptySequenceMember | .sequenceNode _ | .sequenceFragment _ _
  | .conflictingUpdate _ _ _ => .sequenceMember
  | .invalidNumber _ | .memberOfNonField _ _ | .notACondition _ _ | .noFieldOperand _ _ _
  | .notComparable _ _ _ | .notAValue _ _ _ | .callOnNonField _ _ | .argumentNotCondition _ _
  | .assignToNonField _ _ | .assignedNonValue _ _ _ | .assignedNonNumber _ _ _
  | .notADocument _ _ => .operand

/-- The construct that is blamed. -/
def subject : Cause → String
  | .unsupportedNode kind => kind.name
  | .emptyTree => Kind.invalid.name
  | .emptyProgram | .severalStatements _ => Kind.program.name
  | .invalidNumber _ => Kind.number.name
  | .memberOfNonField _ _ => Kind.member.name
  | .unknownOperator token _ | .disallowedOperator token _ => token
  | .notACondition token _ | .noFieldOperand token _ _ | .notComparable token _ _ => token
  | .badUnaryOperand op _ _ | .sequenceUnary op => op.token
  | .notAValue subject _ _ => subject
  | .unknownMethod name _ | .callOnNonField name _ | .argumentNotCondition name _
  | .shapelessMethod name => name
  | .wrongArity m _ => m.name
  | .unknownAssignment op | .assignToNonField op _ | .assignedNonValue _ op _
  | .assignedNonNumber _ op _ => op
  | .emptySequenceMember => Kind.invalid.name
  | .sequenceNode kind | .sequenceFragment kind _ | .notADocument kind _ => kind.name
  | .conflictingUpdate field _ _ => field

/-- The alternatives there are. -/
def supported : Cause → List String
  | .unknownOperator _ supported | .disallowedOperator _ supported
  | .unknownMethod _ supported => supported
  | .wrongArity m _ => [m.signature]
  | .unknownAssignment _ => assignOperators
  | _ => []

/-- What is wrong, in words. -/
def message : Cause → String
  | .unsupportedNode kind => "unsupported node kind " ++ Text.quote kind.name
  | .emptyTree | .emptyProgram => "empty expression"
  | .severalStatements count =>
    "program has " ++ toString count ++ " statements, expected one expression"
  | .invalidNumber literal => "invalid number literal " ++ Text.quote literal
  | .memberOfNonField property base =>
    "member access ." ++ property ++ " on " ++ base.describe ++ ", expected a field"
  | .unknownOperator token _ => "unsupported operator " ++ Text.quote token
  | .disallowedOperator token _ =>
    "operator " ++ Text.quote token ++ " is recognized but not supported"
  | .notACondition token operand =>
    "operand of " ++ token ++ " is " ++ operand.describe ++ ", expected a condition"
  | .noFieldOperand token left right =>
    "comparison " ++ left.describe ++ " " ++ token ++ " " ++ right.describe ++
      " needs a field operand"
  | .notComparable _ path operand =>
    "cannot compare field " ++ path ++ " to " ++ operand.describe ++ ", expected a value"
  | .badUnaryOperand op operand wanted =>
    "unary " ++ Text.quote op.token ++ " applied to " ++ operand.describe ++ ", expected a " ++
      wanted
  | .notAValue _ fragment position =>
    fragment.describe ++ " at position " ++ toString position ++ ", expected a value"
  | .unknownMethod name _ => "unsupported method " ++ Text.quote (name ++ "()")
  | .callOnNonField name base =>
    "method " ++ name ++ "() called on " ++ base.describe ++ ", expected a field"
  | .wrongArity m wanted => "method " ++ m.name ++ "() takes " ++ wanted
  | .argumentNotCondition name argument =>
    name ++ "() argument is " ++ argument.describe ++ ", expected a condition"
  | .shapelessMethod name => "method " ++ name ++ "() has no argument shape"
  | .unknownAssignment op => "unsupported assignment operator " ++ Text.quote op
  | .assignToNonField _ target => "assignment to " ++ target.describe ++ ", expected a field"
  | .assignedNonValue path op value =>
    path ++ " " ++ op ++ " " ++ value.describe ++ ", expected a value on the right"
  | .assignedNonNumber path op value =>
    path ++ " " ++ op ++ " " ++ value.describe ++ ", expected a number"
  | .sequenceUnary op => "unary " ++ Text.quote op.token ++ " is not supported in a sequence"
  | .emptySequenceMember => "empty sequence member"
  | .sequenceNode kind => kind.name ++ " is not supported in a sequence"
  | .sequenceFragment _ fragment => fragment.describe ++ " is not supported in a sequence"
  | .conflictingUpdate field earlier later =>
    "conflicting update of field " ++ Text.quote field ++ " in " ++ earlier ++ " and " ++ later
  | .notADocument _ fragment =>
    "expression is " ++ fragment.describe ++ ", expected a condition or an update"

/-- The diagnostic of a cause. -/
def diagnostic (c : Cause) : Diagnostic :=
  { kind := some c.kind, subject := c.subject, message := c.message, supported := c.supported }

end Cause

end DocQuery
