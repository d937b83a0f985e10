import DocQuery.Compile.Update
import DocQuery.Expr.Leaves

/-!
# DocQuery.Compile.Basic

Compiling expression trees to filter and update documents through operator and method tables.

Design points:

* a conjunction is compiled through its leaves, whatever its grouping: their filters are merged
  into one document, or kept side by side under `$and` when two of them share a key;
* a comma chain is compiled through its leaves too, each a single write of one update;
* parts are compiled before the construct they belong to is looked at, so the innermost and
  leftmost fault is the one reported; only conjunctions check their operator first.
-/

namespace DocQuery

namespace Compile

/-- The entry of an operator that may be used. -/
def lookupOperator (t : Tables) (token : String) : Except Cause Operator :=
  match t.operator? token with
  | none => .error (.unknownOperator token t.supportedOperators)
  | some op =>
    if op.allowed then .ok op else .error (.disallowedOperator token t.supportedOperators)

/-- A fragment as the operand of a logical operator. -/
def asCondition (token : String) : Fragment → Except Cause Document
  | .condition d => .ok d
  | f => .error (.notACondition token f)

/-- A fragment at position `i` as a value. -/
def asValue (subject : String) (i : Nat) : Fragment → Except Cause Value
  | .literal v => .ok v
  | f => .error (.notAValue subject f i)

/-- Fragments as values, from position `i` on. -/
def asValues (subject : String) : (i : Nat) → List Fragment → Except Cause (List Value)
  | _, [] => .ok []
  | i, f :: rest => do
    let v ← asValue subject i f
    let vs ← asValues subject (i + 1) rest
    .ok (v :: vs)

/-- The filter that compares a field with a value: equality is written without its operator. -/
def comparisonFilter (target path : String) (v : Value) : Document :=
  if target = "$eq" then [(path, v)] else [(path, .document [(target, v)])]

/-- A comparison. A value on the left is swapped to the right, and the operator stays. -/
def comparison (token target : String) (left right : Fragment) : Except Cause Fragment :=
  match left, right with
  | .field path, .literal v => .ok (.condition (comparisonFilter target path v))
  | .field path, f => .error (.notComparable token path f)
  | .literal v, .field path => .ok (.condition (comparisonFilter target path v))
  | f, .field path => .error (.notComparable token path f)
  | l, r => .error (.noFieldOperand token l r)

/-- A binary operator other than conjunction on compiled operands. -/
def binary (t : Tables) (token : String) (left right : Fragment) : Except Cause Fragment := do
  let op ← lookupOperator t token
  if op.target = "$and" || op.target = "$or" then
    let l ← asCondition token left
    let r ← asCondition token right
    .ok (.condition [(op.target, .array [.document l, .document r])])
  else comparison token op.target left right

/-- What is known of the keys of filters, one after another. -/
structure SeenKeys where
  /-- The keys that have come, the last one first. -/
  keys : List String
  /-- Whether one of them had come before. -/
  collision : Bool

namespace SeenKeys

/-- Before the first key. -/
def start : SeenKeys := ⟨[], false⟩

/-- A further key. -/
def see (s : SeenKeys) (key : String) : SeenKeys :=
  { keys := key :: s.keys, collision := s.collision || s.keys.contains key }

/-- The keys of a further filter. -/
def seeFilter (s : SeenKeys) (filter : Document) : SeenKeys := filter.keys.foldl see s

end SeenKeys

/-- The conjunction of filters: when no key occurs twice their elements are set one after another in
one document, else all of them stand under `$and`. -/
def conjunction (filters : List Document) : Document :=
  if (filters.foldl SeenKeys.seeFilter .start).collision then
    [("$and", .array (filters.map .document))]
  else filters.foldl Document.setAll []

/-- A prefix operator on a compiled operand. -/
def unary (op : UnaryOp) (operand : Fragment) : Except Cause Fragment :=
  match op, operand with
  | .negate, .literal (.number text) => .ok (.literal (.number (Decimal.negate text)))
  | .negate, f => .error (.badUnaryOperand op f "number literal")
  | .not, .field path => .ok (.condition [(path, .bool false)])
  | .delete, .field path => .ok (.update (.single "$unset" path .null))
  | .increment, .field path => .ok (.update (.single "$inc" path (.int 1)))
  | .other _, _ => .error (.unsupportedNode .unary)
  | op, f => .error (.badUnaryOperand op f "field")

/-- The operand of a method call, by the shape of the method's arguments. -/
def methodOperand (m : Method) (args : List Fragment) : Except Cause Document :=
  match m.shape with
  | .array => do
    let vs ← asValues (m.name ++ "()") 0 args
    .ok [(m.target, .array vs)]
  | .single =>
    match args with
    | [] => .ok [(m.target, .bool true)]
    | first :: _ => do
      let v ← asValue (m.name ++ "()") 0 first
      .ok [(m.target, v)]
  | .two =>
    match args with
    | [] => .error (.wrongArity m "at least one argument")
    | [first] => do
      let v ← asValue (m.name ++ "()") 0 first
      .ok [(m.target, v)]
    | first :: second :: _ => do
      let v ← asValue (m.name ++ "()") 0 first
      let w ← asValue (m.name ++ "()") 1 second
      .ok (Document.set m.option w [(m.target, v)])
  | .expr =>
    match args with
    | [.condition d] => .ok [(m.target, .document d)]
    | [f] => .error (.argumentNotCondition m.name f)
    | _ => .error (.wrongArity m "exactly one argument")
  | .other _ => .error (.shapelessMethod m.name)

/-- A method call on compiled parts. -/
def call (t : Tables) (name : String) (field : Fragment) (args : List Fragment) :
    Except Cause Fragment :=
  match t.method? name with
  | none => .error (.unknownMethod name t.methodSignatures)
  | some m =>
    match field with
    | .field path => do
      let operand ← methodOperand m args
      .ok (.condition [(path, .document operand)])
    | f => .error (.callOnNonField name f)

/-- Whether a fragment is a number. -/
def isNumberValue : Value → Bool
  | .number _ => true
  | _ => false

/-- The update operator of an assignment operator. -/
def assignGroup (op : String) : Except Cause String :=
  if op = "=" then .ok "$set"
  else if op = "+=" then .ok "$inc"
  else .error (.unknownAssignment op)

/-- An assignment on compiled parts. -/
def assign (op : String) (target value : Fragment) : Except Cause Fragment := do
  let group ← assignGroup op
  match target with
  | .field path =>
    match value with
    | .literal v =>
      if group = "$inc" && !isNumberValue v then .error (.assignedNonNumber path op value)
      else .ok (.update (.single group path v))
    | f => .error (.assignedNonValue path op f)
  | f => .error (.assignToNonField op f)

/-- Whether a comma chain may have a member: a removal, an increment or an assignment. -/
def checkSequenceMember : Expr → Except Cause Unit
  | .unary .delete _ => .ok ()
  | .unary .increment _ => .ok ()
  | .unary op _ => .error (.sequenceUnary op)
  | .assign _ _ _ => .ok ()
  | .hole => .error .emptySequenceMember
  | e => .error (.sequenceNode e.kind)

/-- Add the write of a member to the update of its chain. -/
def addMember (b : UpdateBuilder) (member : Expr) : Fragment → Except Cause UpdateBuilder
  | .update u => b.merge u
  | f => .error (.sequenceFragment member.kind f)

/-- A program on its compiled statements. -/
def program : List Fragment → Except Cause Fragment
  | [] => .error .emptyProgram
  | [f] => .ok f
  | fs => .error (.severalStatements fs.length)

/-- A property of a compiled base. -/
def member (property : String) : Fragment → Except Cause Fragment
  | .field path => .ok (.field (path ++ "." ++ property))
  | f => .error (.memberOfNonField property f)

end Compile

open Compile in
mutual

/-- Compile a tree to a fragment. -/
def Expr.compile (t : Tables) (e : Expr) : Except Cause Fragment :=
  match e with
  | .hole => .error (.unsupportedNode .invalid)
  | .program body => do
    let fs ← compileAll t body
    program fs
  | .statement e => e.compile t
  | .string value => .ok (.literal (.string value))
  | .number literal =>
    if Decimal.isNumber literal then .ok (.literal (.number literal))
    else .error (.invalidNumber literal)
  | .bool value => .ok (.literal (.bool value))
  | .null => .ok (.literal .null)
  | .identifier name => .ok (.field name)
  | .member base property => do
    let f ← base.compile t
    Compile.member property f
  | .binary op left right =>
    if _h : op = Expr.andToken then do
      let _ ← lookupOperator t op
      let filters ← (Expr.andLeaves (.binary op left right)).attach.mapM fun ⟨leaf, _hm⟩ => do
        let f ← leaf.compile t
        asCondition op f
      .ok (.condition (conjunction filters))
    else do
      let l ← left.compile t
      let r ← right.compile t
      Compile.binary t op l r
  | .unary op operand => do
    let f ← operand.compile t
    Compile.unary op f
  | .array elements => do
    let fs ← compileAll t elements
    let vs ← asValues Kind.array.name 0 fs
    .ok (.literal (.array vs))
  | .call field method args => do
    let f ← field.compile t
    let fs ← compileAll t args
    Compile.call t method f fs
  | .detachedCall _ => .error (.unsupportedNode .call)
  | .assign op target value => do
    let f ← target.compile t
    let v ← value.compile t
    Compile.assign op f v
  | .sequence left right => do
    let b ← (Expr.sequenceLeaves (.sequence left right)).attach.foldlM
      (fun b ⟨leaf, _hm⟩ => do
        checkSequenceMember leaf
        let f ← leaf.compile t
        addMember b leaf f)
      UpdateBuilder.empty
    .ok (.update b.update)
termination_by sizeOf e
decreasing_by
  all_goals first
    | exact Expr.sizeOf_lt_of_mem_andLeaves _h _hm
    | exact Expr.sizeOf_lt_of_mem_sequenceLeaves _hm
    | decreasing_tactic

/-- Compile trees one after another. -/
def compileAll (t : Tables) (es : List Expr) : Except Cause (List Fragment) :=
  match es with
  | [] => .ok []
  | e :: rest => do
    let f ← e.compile t
    let fs ← compileAll t rest
    .ok (f :: fs)
termination_by sizeOf es

end

/-- Compile a whole tree to its filter or update document. -/
def Expr.toDocument (t : Tables) : Expr → Except Cause Document
  | .hole => .error .emptyTree
  | e => do
    match ← e.compile t with
    | .condition d => .ok d
    | .update u => .ok u.toDocument
    | f => .error (.notADocument e.kind f)

end DocQuery
