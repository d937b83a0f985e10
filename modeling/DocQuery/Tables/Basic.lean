import DocQuery.Text.Quoted

/-!
# DocQuery.Tables.Basic

The operator and method tables that expressions are compiled through. An operator entry gives the
document operator that a source token stands for, or says that the token is recognised but not
allowed; a method entry gives the document operator of a method and the shape of its arguments.

Tables are built by `Tables.new`, which refuses entries that are incomplete or repeat a token or a
name; operators are checked before methods, each list from the front.
-/

namespace DocQuery

/-- The argument shape of a method. -/
inductive Shape where
  /-- All arguments, as one array. -/
  | array
  /-- The first argument, or true when there is none. -/
  | single
  /-- The first argument, and the second one under the method's option. -/
  | two
  /-- One argument, which is a condition. -/
  | expr
  /-- A number that stands for no shape. -/
  | other (code : Int)
deriving Repr, DecidableEq

namespace Shape

/-- The shapes a method may have. -/
def all : List Shape := [.array, .single, .two, .expr]

/-- The name of a shape. -/
def name : Shape → String
  | .array => "array"
  | .single => "single"
  | .two => "two"
  | .expr => "expr"
  | .other code => "Shape(" ++ toString code ++ ")"

/-- The argument list of a shape, as messages show it. -/
def signature : Shape → String
  | .array => "value, ..."
  | .single => "value"
  | .two => "value, value"
  | .expr => "expr"
  | .other _ => "?"

/-- The shape with a number. -/
def ofCode (n : Int) : Shape :=
  let known := if 1 ≤ n then all[(n - 1).toNat]? else none
  known.getD (.other n)

/-- The number of a shape. -/
def code : Shape → Int
  | .array => 1
  | .single => 2
  | .two => 3
  | .expr => 4
  | .other code => code

/-- The shape with a name. -/
def ofName? (s : String) : Option Shape :=
  all.find? fun shape => shape.name == s

/-- Whether a shape is one of the four. -/
def isKnown : Shape → Bool
  | .other _ => false
  | _ => true

/-- The message for a name that no shape has. -/
def unknownMessage (s : String) : String := "unknown argument shape " ++ Text.quote s

end Shape

/-- An operator entry. -/
structure Operator where
  /-- The source token. -/
  token : String
  /-- The document operator; may be empty when the token is not allowed. -/
  target : String
  /-- Whether expressions may use the token. -/
  allowed : Bool
deriving Repr, DecidableEq

/-- A method entry. -/
structure Method where
  /-- The method's name. -/
  name : String
  /-- The document operator. -/
  target : String
  /-- The shape of the arguments. -/
  shape : Shape
  /-- The key of the second argument, for the shape that has one. -/
  option : String
deriving Repr, DecidableEq

/-- A method as it is written in source. -/
def Method.signature (m : Method) : String := m.name ++ "(" ++ m.shape.signature ++ ")"

/-- Why entries are no tables. -/
inductive TableError where
  /-- An operator without a token. -/
  | emptyToken (i : Nat)
  /-- A token that an earlier operator has. -/
  | duplicateToken (i : Nat) (token : String)
  /-- An allowed operator without a target. -/
  | operatorWithoutTarget (i : Nat) (token : String)
  /-- A method without a name. -/
  | emptyName (i : Nat)
  /-- A name that an earlier method has. -/
  | duplicateMethod (i : Nat) (name : String)
  /-- A method without a target. -/
  | methodWithoutTarget (i : Nat) (name : String)
  /-- A method whose shape is none. -/
  | invalidShape (i : Nat) (name : String) (shape : Shape)
  /-- A method with two arguments and no key for the second. -/
  | missingOption (i : Nat) (name : String)
deriving Repr, DecidableEq

/-- The place of an operator entry in a message. -/
def TableError.atOperator (i : Nat) : String := "operators[" ++ toString i ++ "]: "

/-- The place of a method entry in a message. -/
def TableError.atMethod (i : Nat) : String := "methods[" ++ toString i ++ "]: "

/-- The wording of a table error. -/
def TableError.message : TableError → String
  | .emptyToken i => atOperator i ++ "empty token"
  | .duplicateToken i token => atOperator i ++ "duplicate token " ++ Text.quote token
  | .operatorWithoutTarget i token =>
    atOperator i ++ "operator " ++ Text.quote token ++ " is allowed but has no target"
  | .emptyName i => atMethod i ++ "empty name"
  | .duplicateMethod i name => atMethod i ++ "duplicate method " ++ Text.quote name
  | .methodWithoutTarget i name => atMethod i ++ "method " ++ Text.quote name ++ " has no target"
  | .invalidShape i name shape =>
    atMethod i ++ "method " ++ Text.quote name ++ " has invalid shape " ++ shape.name
  | .missingOption i name =>
    atMethod i ++ "two-argument method " ++ Text.quote name ++ " needs an option key"

/-- Operator and method tables. -/
structure Tables where
  /-- The operator entries, in order. -/
  operators : List Operator
  /-- The method entries, in order. -/
  methods : List Method
deriving Repr, DecidableEq

namespace Tables

/-- Check operator entries from position `i` on, after the tokens `seen`. -/
def checkOperators : (i : Nat) → (seen : List String) → List Operator → Except TableError Unit
  | _, _, [] => .ok ()
  | i, seen, op :: rest =>
    if op.token = "" then .error (.emptyToken i)
    else if op.token ∈ seen then .error (.duplicateToken i op.token)
    else if op.allowed && op.target = "" then .error (.operatorWithoutTarget i op.token)
    else checkOperators (i + 1) (op.token :: seen) rest

/-- Check method entries from position `i` on, after the names `seen`. -/
def checkMethods : (i : Nat) → (seen : List String) → List Method → Except TableError Unit
  | _, _, [] => .ok ()
  | i, seen, m :: rest =>
    if m.name = "" then .error (.emptyName i)
    else if m.name ∈ seen then .error (.duplicateMethod i m.name)
    else if m.target = "" then .error (.methodWithoutTarget i m.name)
    else if !m.shape.isKnown then .error (.invalidShape i m.name m.shape)
    else if m.shape = .two && m.option = "" then .error (.missingOption i m.name)
    else checkMethods (i + 1) (m.name :: seen) rest

/-- Build tables from entries. -/
def new (operators : List Operator) (methods : List Method) : Except TableError Tables := do
  checkOperators 0 [] operators
  checkMethods 0 [] methods
  .ok { operators, methods }

/-- The entry of an operator token. -/
def operator? (t : Tables) (token : String) : Option Operator :=
  t.operators.find? fun op => op.token == token

/-- The entry of a method name. -/
def method? (t : Tables) (name : String) : Option Method :=
  t.methods.find? fun m => m.name == name

/-- The tokens that expressions may use, in table order. -/
def supportedOperators (t : Tables) : List String :=
  (t.operators.filter (·.allowed)).map (·.token)

/-- The signatures of all methods, in table order. -/
def methodSignatures (t : Tables) : List String :=
  t.methods.map (·.signature)

/-- A summary on two lines. -/
def summary (t : Tables) : String :=
  "operators: " ++ String.intercalate " " t.supportedOperators ++ "\nmethods: " ++
    String.intercalate " " t.methodSignatures

end Tables

end DocQuery
