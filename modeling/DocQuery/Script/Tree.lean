import DocQuery.Script.Number
import DocQuery.Text.Units

/-!
# DocQuery.Script.Tree

What the grammar of scripts reads. Constructs that an expression tree can hold, and those that may
turn out to be patterns, are read in full; of any other construct only its name, its place and
whether it can be assigned to are kept.

A construct reaches from its `start` to its `stop`. Parentheses belong to nothing, and a name counts
by its kept length.
-/

namespace DocQuery.Script

mutual

/-- An expression of a script. -/
inductive Tree where
  /-- A string literal. -/
  | string (start stop : Nat) (value : String)
  /-- A number literal. -/
  | number (start : Nat) (literal : String) (value : NumberValue)
  /-- A boolean literal. -/
  | bool (start : Nat) (value : Bool)
  /-- A null literal. -/
  | null (start : Nat)
  /-- A name. -/
  | identifier (start : Nat) (name : String)
  /-- A property of a base. -/
  | dot (base : Tree) (property : String) (stop : Nat)
  /-- A binary operator. -/
  | binary (op : String) (left right : Tree)
  /-- A prefix operator. -/
  | unary (start : Nat) (op : String) (operand : Tree)
  /-- An operator after its operand. -/
  | suffixed (op : String) (operand : Tree)
  /-- An array literal. -/
  | array (start stop : Nat) (items : List Tree)
  /-- A gap in an array literal. -/
  | elision
  /-- A call. -/
  | call (callee : Tree) (args : List Tree) (stop : Nat)
  /-- An assignment. -/
  | assign (op : String) (target value : Tree)
  /-- A comma expression. -/
  | sequence (items : List Tree)
  /-- A spread item. -/
  | spread (inner : Tree)
  /-- An object literal. -/
  | object (start stop : Nat) (members : List Property)
  /-- An array literal that is assigned to. -/
  | arrayPattern (start stop : Nat) (items : List Tree)
  /-- An object literal that is assigned to. -/
  | objectPattern (start stop : Nat) (members : List Property)
  /-- Any other construct, by its name. -/
  | other (construct : String) (start : Option Nat) (stop : Nat) (assignable : Bool)
  /-- What is left of an expression that was complained about. -/
  | bad

/-- A member of an object literal. -/
inductive Property where
  /-- A key with a value. -/
  | keyed (value : Tree)
  /-- A name that is key and value at once. -/
  | short
  /-- A spread member. -/
  | spread (inner : Tree)
  /-- A method, by the place of its key. -/
  | method (start : Option Nat)

end

instance : Inhabited Tree := ⟨.bad⟩

/-- The length of a name as it is kept: a byte a character when all are ASCII, and otherwise two
bytes for each UTF-16 unit and two more. -/
def nameLength (name : String) : Nat :=
  if name.toList.all (·.toNat < 0x80) then name.length else 2 * ((Text.units name).length + 1)

namespace Tree

/-- Where a construct starts; nothing for a construct that has no place of its own. -/
def start : Tree → Option Nat
  | .string start _ _ => some start
  | .number start _ _ => some start
  | .bool start _ => some start
  | .null start => some start
  | .identifier start _ => some start
  | .dot base _ _ => base.start
  | .binary _ left _ => left.start
  | .unary start _ _ => some start
  | .suffixed _ operand => operand.start
  | .array start _ _ => some start
  | .elision => none
  | .call callee _ _ => callee.start
  | .assign _ target _ => target.start
  | .sequence [] => none
  | .sequence (first :: _) => first.start
  | .spread inner => inner.start
  | .object start _ _ => some start
  | .arrayPattern start _ _ => some start
  | .objectPattern start _ _ => some start
  | .other _ start _ _ => start
  | .bad => none

mutual

/-- Where a construct stops. -/
def stop : Tree → Nat
  | .string _ stop _ => stop
  | .number start literal _ => start + literal.length
  | .bool start value => start + if value then 4 else 5
  | .null start => start + 4
  | .identifier start name => start + nameLength name
  | .dot _ _ stop => stop
  | .binary _ _ right => right.stop
  | .unary _ _ operand => operand.stop
  | .suffixed _ operand => operand.stop + 2
  | .array _ stop _ => stop
  | .elision => 0
  | .call _ _ stop => stop
  | .assign _ _ value => value.stop
  | .sequence items => lastStop items
  | .spread inner => inner.stop
  | .object _ stop _ => stop
  | .arrayPattern _ stop _ => stop
  | .objectPattern _ stop _ => stop
  | .other _ _ stop _ => stop
  | .bad => 0

/-- Where the last of several constructs stops. -/
def lastStop : List Tree → Nat
  | [] => 0
  | [last] => last.stop
  | _ :: next :: rest => lastStop (next :: rest)

end

/-- The name of a construct in messages. -/
def construct : Tree → String
  | .string _ _ _ => "StringLiteral"
  | .number _ _ _ => "NumberLiteral"
  | .bool _ _ => "BooleanLiteral"
  | .null _ => "NullLiteral"
  | .identifier _ _ => "Identifier"
  | .dot _ _ _ => "DotExpression"
  | .binary _ _ _ => "BinaryExpression"
  | .unary _ _ _ => "UnaryExpression"
  | .suffixed _ _ => "UnaryExpression"
  | .array _ _ _ => "ArrayLiteral"
  | .elision => "array elision"
  | .call _ _ _ => "CallExpression"
  | .assign _ _ _ => "AssignExpression"
  | .sequence _ => "SequenceExpression"
  | .spread _ => "SpreadElement"
  | .object _ _ _ => "ObjectLiteral"
  | .arrayPattern _ _ _ => "ArrayPattern"
  | .objectPattern _ _ _ => "ObjectPattern"
  | .other construct _ _ _ => construct
  | .bad => "BadExpression"

/-- Whether a value can be assigned to what an expression names. -/
def isAssignable : Tree → Bool
  | .identifier _ _ => true
  | .dot _ _ _ => true
  | .other _ _ _ assignable => assignable
  | _ => false

/-- Whether nothing is left of an expression but a complaint. -/
def isBad : Tree → Bool
  | .bad => true
  | _ => false

/-- Whether an expression is a conjunction. -/
def isConjunction : Tree → Bool
  | .binary op _ _ => op == "&&"
  | _ => false

/-- Whether an expression is a prefix operator other than an update. -/
def isPlainUnary : Tree → Bool
  | .unary _ op _ => op != "++" && op != "--"
  | _ => false

end Tree

/-- A statement of a script. -/
inductive Statement where
  /-- A lone semicolon. -/
  | empty
  /-- An expression. -/
  | expression (tree : Tree)
  /-- Any other statement, by its name; a branch has no place of its own. -/
  | other (construct : String) (start : Option Nat)
  /-- What is left of a statement that was complained about. -/
  | bad

instance : Inhabited Statement := ⟨.bad⟩

end DocQuery.Script
