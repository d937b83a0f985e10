import DocQuery.Expr.Kind

/-!
# DocQuery.Expr.Basic

Expression trees: what a source text is parsed to, what a tree file holds and what is compiled.

Design points:

* a tree may be incomplete: `hole` stands where a node is missing, and `detachedCall` is a call
  whose callee is; both are refused by every operation that needs the missing part;
* a call names its method and the expression the method is called on, since nothing else can be
  called;
* number literals are text that nothing has checked.
-/

namespace DocQuery

/-- An expression tree. -/
inductive Expr where
  /-- A missing node. -/
  | hole
  /-- A program: its statements. -/
  | program (body : List Expr)
  /-- An expression statement. -/
  | statement (expr : Expr)
  /-- A string literal. -/
  | string (value : String)
  /-- A number literal, by its text. -/
  | number (literal : String)
  /-- A boolean literal. -/
  | bool (value : Bool)
  /-- A null literal. -/
  | null
  /-- A bare name. -/
  | identifier (name : String)
  /-- The property of a base. -/
  | member (base : Expr) (property : String)
  /-- A binary operator, by its token. -/
  | binary (op : String) (left right : Expr)
  /-- A prefix operator. -/
  | unary (op : UnaryOp) (operand : Expr)
  /-- An array literal. -/
  | array (elements : List Expr)
  /-- A method called on a field. -/
  | call (field : Expr) (method : String) (args : List Expr)
  /-- A call without a callee. -/
  | detachedCall (args : List Expr)
  /-- An assignment, by its token. -/
  | assign (op : String) (target value : Expr)
  /-- A comma expression. -/
  | sequence (left right : Expr)
deriving Repr, Inhabited

namespace Expr

/-- The kind of a tree's root. -/
def kind : Expr → Kind
  | .hole => .invalid
  | .program _ => .program
  | .statement _ => .statement
  | .string _ => .string
  | .number _ => .number
  | .bool _ => .boolean
  | .null => .null
  | .identifier _ => .identifier
  | .member _ _ => .member
  | .binary _ _ _ => .binary
  | .unary _ _ => .unary
  | .array _ => .array
  | .call _ _ _ => .call
  | .detachedCall _ => .call
  | .assign _ _ _ => .assign
  | .sequence _ _ => .sequence

/-- The token of conjunction, which has rules of its own. -/
def andToken : String := "&&"

/-- The token of disjunction. -/
def orToken : String := "||"

/-! ## Building trees -/

/-- A program of one expression. -/
def ofExpression (e : Expr) : Expr := .program [.statement e]

/-- The field of a dotted path. -/
def path (p : String) : Expr :=
  match p.splitOn "." with
  | [] => .identifier ""
  | first :: rest => rest.foldl .member (.identifier first)

/-- An integer literal. -/
def int (n : Int) : Expr := .number (toString n)

/-- Fold operands into a left-leaning chain of an operator; a hole when there are none. -/
def foldBinary (op : String) : List Expr → Expr
  | [] => .hole
  | first :: rest => rest.foldl (.binary op) first

/-- A left-leaning conjunction. -/
def all (operands : List Expr) : Expr := foldBinary andToken operands

/-- A left-leaning disjunction. -/
def any (operands : List Expr) : Expr := foldBinary orToken operands

/-- A right-leaning comma chain; a hole when there are no members. -/
def chain : List Expr → Expr
  | [] => .hole
  | [e] => e
  | e :: rest => .sequence e (chain rest)

end Expr

end DocQuery
