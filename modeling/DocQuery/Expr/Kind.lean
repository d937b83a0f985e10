/-!
# DocQuery.Expr.Kind

The kinds of expression nodes and the prefix operators, each with the name it has in tree files and
in messages, and with its number.
-/

namespace DocQuery

/-- The kind of a node. -/
inductive Kind where
  /-- No node at all. -/
  | invalid
  /-- A whole program. -/
  | program
  /-- An expression statement. -/
  | statement
  /-- A string literal. -/
  | string
  /-- A number literal. -/
  | number
  /-- A boolean literal. -/
  | boolean
  /-- A null literal. -/
  | null
  /-- A bare name. -/
  | identifier
  /-- A property of something. -/
  | member
  /-- A binary operator. -/
  | binary
  /-- A prefix operator. -/
  | unary
  /-- An array literal. -/
  | array
  /-- A method call. -/
  | call
  /-- An assignment. -/
  | assign
  /-- A comma expression. -/
  | sequence
deriving Repr, DecidableEq

namespace Kind

/-- All kinds, in the order of their numbers. -/
def all : List Kind :=
  [.invalid, .program, .statement, .string, .number, .boolean, .null, .identifier, .member,
    .binary, .unary, .array, .call, .assign, .sequence]

/-- The name of a kind. -/
def name : Kind → String
  | .invalid => "Invalid"
  | .program => "Program"
  | .statement => "Statement"
  | .string => "StringLiteral"
  | .number => "NumberLiteral"
  | .boolean => "BooleanLiteral"
  | .null => "NullLiteral"
  | .identifier => "Identifier"
  | .member => "MemberAccess"
  | .binary => "BinaryExpression"
  | .unary => "UnaryExpression"
  | .array => "ArrayLiteral"
  | .call => "CallExpression"
  | .assign => "AssignmentExpression"
  | .sequence => "SequenceExpression"

/-- The number of a kind. -/
def code (k : Kind) : Nat := all.idxOf k

/-- The kind with a name; `invalid` when there is none. -/
def ofName (s : String) : Kind :=
  ((all.drop 1).find? fun k => k.name == s).getD .invalid

/-- The name of the kind with a number, also when there is no such kind. -/
def nameOfCode (n : Int) : String :=
  let known := if 0 ≤ n then all[n.toNat]? else none
  match known with
  | some k => k.name
  | none => "Kind(" ++ toString n ++ ")"

end Kind

/-- A prefix operator. -/
inductive UnaryOp where
  /-- Arithmetic negation. -/
  | negate
  /-- Logical negation. -/
  | not
  /-- Removal of a field. -/
  | delete
  /-- Increment by one. -/
  | increment
  /-- A number that stands for no operator. -/
  | other (code : Int)
deriving Repr, DecidableEq

namespace UnaryOp

/-- The operators, in the order of their numbers. -/
def all : List UnaryOp := [.negate, .not, .delete, .increment]

/-- The source token of an operator. -/
def token : UnaryOp → String
  | .negate => "-"
  | .not => "!"
  | .delete => "delete"
  | .increment => "++"
  | .other code => "UnaryKind(" ++ toString code ++ ")"

/-- The operator with a number. -/
def ofCode (n : Int) : UnaryOp :=
  let known := if 0 ≤ n then all[n.toNat]? else none
  known.getD (.other n)

/-- The number of an operator. -/
def code : UnaryOp → Int
  | .negate => 0
  | .not => 1
  | .delete => 2
  | .increment => 3
  | .other code => code

/-- The operator with a source token. -/
def ofToken? (s : String) : Option UnaryOp :=
  all.find? fun op => op.token == s

/-- Whether an operator is one of the four. -/
def isKnown : UnaryOp → Bool
  | .other _ => false
  | _ => true

end UnaryOp

end DocQuery
