import DocQuery.Expr.Basic

/-!
# DocQuery.Expr.Walk

Walking a tree with a visitor that handles only some kinds of nodes. Children are visited before
their parent, left to right, except that conjunctions and comma expressions come before their
children: they are refused at once when they are not handled, and otherwise walk their two sides
themselves. Every handled visit is logged with its result, and the first node that is not handled
ends the walk.
-/

namespace DocQuery

/-- The kinds of visits. -/
inductive Visit where
  /-- A program. -/
  | program
  /-- A statement. -/
  | statement
  /-- A string literal. -/
  | string
  /-- A number literal. -/
  | number
  /-- A boolean literal. -/
  | boolean
  /-- A null literal. -/
  | null
  /-- A bare name. -/
  | identifier
  /-- A property. -/
  | member
  /-- A binary operator other than conjunction. -/
  | binary
  /-- A conjunction. -/
  | and
  /-- Arithmetic negation. -/
  | negate
  /-- Logical negation. -/
  | not
  /-- Removal. -/
  | delete
  /-- Increment. -/
  | increment
  /-- An array literal. -/
  | array
  /-- A method call. -/
  | call
  /-- An assignment. -/
  | assign
  /-- A comma expression. -/
  | sequence
deriving Repr, DecidableEq

namespace Visit

/-- The name of a visit. -/
def name : Visit → String
  | .program => "Program"
  | .statement => "Statement"
  | .string => "String"
  | .number => "Number"
  | .boolean => "Boolean"
  | .null => "Null"
  | .identifier => "Identifier"
  | .member => "Member"
  | .binary => "Binary"
  | .and => "And"
  | .negate => "Negate"
  | .not => "Not"
  | .delete => "Delete"
  | .increment => "Increment"
  | .array => "Array"
  | .call => "Call"
  | .assign => "Assign"
  | .sequence => "Sequence"

/-- The kind of node that a visit is for. -/
def kind : Visit → Kind
  | .program => .program
  | .statement => .statement
  | .string => .string
  | .number => .number
  | .boolean => .boolean
  | .null => .null
  | .identifier => .identifier
  | .member => .member
  | .binary => .binary
  | .and => .binary
  | .negate => .unary
  | .not => .unary
  | .delete => .unary
  | .increment => .unary
  | .array => .array
  | .call => .call
  | .assign => .assign
  | .sequence => .sequence

/-- The visit for a prefix operator. -/
def ofUnary? : UnaryOp → Option Visit
  | .negate => some .negate
  | .not => some .not
  | .delete => some .delete
  | .increment => some .increment
  | .other _ => none

end Visit

/-- What a walk leaves behind: the log of handled visits with their results, and the result of the
whole or the kind of the node that ended it. -/
structure Walked (α : Type) where
  /-- The handled visits, in order. -/
  log : List (Visit × String)
  /-- The result, or the kind of the first obstacle. -/
  outcome : Except Kind α

namespace Walked

/-- A walk that visits nothing. -/
def done (a : α) : Walked α := { log := [], outcome := .ok a }

/-- A walk that stops before visiting anything. -/
def stop (k : Kind) : Walked α := { log := [], outcome := .error k }

/-- One walk after another: the second happens only if the first finished. -/
def andThen (w : Walked α) (next : α → Walked β) : Walked β :=
  match w.outcome with
  | .ok a =>
    let rest := next a
    { log := w.log ++ rest.log, outcome := rest.outcome }
  | .error k => { log := w.log, outcome := .error k }

end Walked

namespace Expr

/-- Visit a node whose result is known: log it if the visit is handled, else stop. -/
def visit (handled : Visit → Bool) (v : Visit) (result : String) : Walked String :=
  if handled v then { log := [(v, result)], outcome := .ok result } else .stop v.kind

/-- The text of a prefix operator in the result of a visit. -/
def unaryText (op : UnaryOp) (operand : String) : String :=
  match op with
  | .delete => "delete " ++ operand
  | op => op.token ++ operand

mutual

/-- Walk a tree. -/
def walk (handled : Visit → Bool) : Expr → Walked String
  | .hole => .stop .invalid
  | .program body =>
    (walkAll handled body).andThen fun rs => visit handled .program (String.intercalate "; " rs)
  | .statement e => (walk handled e).andThen fun r => visit handled .statement r
  | .string value => visit handled .string ("\"" ++ value ++ "\"")
  | .number literal => visit handled .number literal
  | .bool value => visit handled .boolean (if value then "true" else "false")
  | .null => visit handled .null "null"
  | .identifier name => visit handled .identifier name
  | .member base property =>
    (walk handled base).andThen fun b => visit handled .member (b ++ "." ++ property)
  | .binary op left right =>
    if op = andToken then
      if handled .and then
        (walk handled left).andThen fun l =>
          (walk handled right).andThen fun r =>
            visit handled .and ("(" ++ l ++ " && " ++ r ++ ")")
      else .stop .binary
    else
      (walk handled left).andThen fun l =>
        (walk handled right).andThen fun r =>
          visit handled .binary ("(" ++ l ++ " " ++ op ++ " " ++ r ++ ")")
  | .unary op operand =>
    (walk handled operand).andThen fun o =>
      match Visit.ofUnary? op with
      | some v => visit handled v (unaryText op o)
      | none => .stop .unary
  | .array elements =>
    (walkAll handled elements).andThen fun rs =>
      visit handled .array ("[" ++ String.intercalate ", " rs ++ "]")
  | .call field method args =>
    (walk handled field).andThen fun f =>
      (walkAll handled args).andThen fun rs =>
        visit handled .call (f ++ "." ++ method ++ "(" ++ String.intercalate ", " rs ++ ")")
  | .detachedCall _ => .stop .call
  | .assign op target value =>
    (walk handled target).andThen fun t =>
      (walk handled value).andThen fun v =>
        visit handled .assign (t ++ " " ++ op ++ " " ++ v)
  | .sequence left right =>
    if handled .sequence then
      (walk handled left).andThen fun l =>
        (walk handled right).andThen fun r => visit handled .sequence (l ++ ", " ++ r)
    else .stop .sequence

/-- Walk trees one after another. -/
def walkAll (handled : Visit → Bool) : List Expr → Walked (List String)
  | [] => .done []
  | e :: rest =>
    (walk handled e).andThen fun r =>
      (walkAll handled rest).andThen fun rs => .done (r :: rs)

end

/-- Walk a tree with a visitor that handles the visits of the given names. -/
def walkNamed (names : List String) (e : Expr) : Walked String :=
  e.walk fun v => names.contains v.name

end Expr

end DocQuery
