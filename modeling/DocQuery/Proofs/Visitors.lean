import DocQuery.Compile.Basic
import DocQuery.Expr.Visitor
import DocQuery.Expr.Walk

/-!
# DocQuery.Proofs.Visitors

**The compiler and the logging walk are one walk with different visitors.** Compiling a tree is
accepting `translator` (`accept_translator`), and walking it for a log is accepting `logger`
(`accept_logger`), so whatever holds of the order of a walk holds of both.
-/

namespace DocQuery

open Compile

/-! ### The compiler -/

/-- The visitor that compiles nodes to fragments through tables. -/
def translator (t : Tables) : Visitor (Except Cause) Fragment where
  program := Compile.program
  statement inner := .ok inner
  string value := .ok (.literal (.string value))
  number literal :=
    if Decimal.isNumber literal then .ok (.literal (.number literal))
    else .error (.invalidNumber literal)
  boolean value := .ok (.literal (.bool value))
  null := .ok (.literal .null)
  identifier name := .ok (.field name)
  member := Compile.member
  binary := Compile.binary t
  and left right walk := do
    let _ ← lookupOperator t Expr.andToken
    let filters ← (Expr.andLeaves (.binary Expr.andToken left right)).attach.mapM
      fun ⟨leaf, hleaf⟩ => do
        asCondition Expr.andToken (← walk leaf (Expr.sizeOf_lt_of_mem_andLeaves rfl hleaf))
    .ok (.condition (conjunction filters))
  negate := Compile.unary .negate
  not := Compile.unary .not
  delete := Compile.unary .delete
  increment := Compile.unary .increment
  array elements := do .ok (.literal (.array (← asValues Kind.array.name 0 elements)))
  call := Compile.call t
  assign := Compile.assign
  sequence left right walk := do
    let b ← (Expr.sequenceLeaves (.sequence left right)).attach.foldlM
      (fun b ⟨leaf, hleaf⟩ => do
        checkSequenceMember leaf
        addMember b leaf (← walk leaf (Expr.sizeOf_lt_of_mem_sequenceLeaves hleaf)))
      UpdateBuilder.empty
    .ok (.update b.update)
  refuse kind := .error (.unsupportedNode kind)

theorem unary_translator (t : Tables) (op : UnaryOp) (f : Fragment) :
    (translator t).unary op f = Compile.unary op f := by
  cases op with
  | other code => cases f <;> rfl
  | _ => rfl

mutual

/-- **Compiling is walking with the translator.** -/
theorem accept_translator (t : Tables) (e : Expr) : e.accept (translator t) = e.compile t := by
  cases e with
  | program body =>
      rw [Expr.accept, Expr.compile, acceptAll_translator t body]
      rfl
  | statement inner =>
      rw [Expr.accept, Expr.compile, accept_translator t inner]
      exact bind_pure _
  | member base property =>
      rw [Expr.accept, Expr.compile, accept_translator t base]
      rfl
  | binary op left right =>
      by_cases hop : op = Expr.andToken
      · subst hop
        have hwalk : (fun (part : Expr)
            (_ : sizeOf part < sizeOf (Expr.binary Expr.andToken left right)) =>
            part.accept (translator t)) = fun part _ => part.compile t := by
          funext part hlt
          exact accept_translator t part
        rw [Expr.accept, if_pos rfl, hwalk, Expr.compile, dif_pos rfl]
        rfl
      · rw [Expr.accept, if_neg hop, Expr.compile, dif_neg hop, accept_translator t left,
          accept_translator t right]
        rfl
  | unary op operand =>
      rw [Expr.accept, Expr.compile, accept_translator t operand]
      simp only [unary_translator]
  | array elements =>
      rw [Expr.accept, Expr.compile, acceptAll_translator t elements]
      rfl
  | call field method args =>
      rw [Expr.accept, Expr.compile, accept_translator t field, acceptAll_translator t args]
      rfl
  | assign op target value =>
      rw [Expr.accept, Expr.compile, accept_translator t target, accept_translator t value]
      rfl
  | sequence left right =>
      have hwalk : (fun (part : Expr) (_ : sizeOf part < sizeOf (Expr.sequence left right)) =>
          part.accept (translator t)) = fun part _ => part.compile t := by
        funext part hlt
        exact accept_translator t part
      rw [Expr.accept, hwalk, Expr.compile]
      rfl
  | _ =>
      rw [Expr.accept, Expr.compile]
      rfl
termination_by sizeOf e

theorem acceptAll_translator (t : Tables) (es : List Expr) :
    Expr.acceptAll (translator t) es = compileAll t es := by
  cases es with
  | nil =>
      rw [Expr.acceptAll, compileAll]
      rfl
  | cons e rest =>
      rw [Expr.acceptAll, compileAll, accept_translator t e, acceptAll_translator t rest]
      rfl
termination_by sizeOf es

end

/-! ### The logging walk -/

instance : Monad Walked where
  pure := Walked.done
  bind := Walked.andThen

/-- The visitor that logs the visits it handles. -/
def logger (handled : Visit → Bool) : Visitor Walked String where
  program rs := Expr.visit handled .program (String.intercalate "; " rs)
  statement r := Expr.visit handled .statement r
  string value := Expr.visit handled .string ("\"" ++ value ++ "\"")
  number literal := Expr.visit handled .number literal
  boolean value := Expr.visit handled .boolean (if value then "true" else "false")
  null := Expr.visit handled .null "null"
  identifier name := Expr.visit handled .identifier name
  member property b := Expr.visit handled .member (b ++ "." ++ property)
  binary op l r := Expr.visit handled .binary ("(" ++ l ++ " " ++ op ++ " " ++ r ++ ")")
  and left right walk :=
    if handled .and then do
      let l ← walk left (by rw [Expr.binary.sizeOf_spec]; omega)
      let r ← walk right (by rw [Expr.binary.sizeOf_spec]; omega)
      Expr.visit handled .and ("(" ++ l ++ " && " ++ r ++ ")")
    else .stop .binary
  negate o := Expr.visit handled .negate (Expr.unaryText .negate o)
  not o := Expr.visit handled .not (Expr.unaryText .not o)
  delete o := Expr.visit handled .delete (Expr.unaryText .delete o)
  increment o := Expr.visit handled .increment (Expr.unaryText .increment o)
  array rs := Expr.visit handled .array ("[" ++ String.intercalate ", " rs ++ "]")
  call method f rs :=
    Expr.visit handled .call (f ++ "." ++ method ++ "(" ++ String.intercalate ", " rs ++ ")")
  assign op t v := Expr.visit handled .assign (t ++ " " ++ op ++ " " ++ v)
  sequence left right walk :=
    if handled .sequence then do
      let l ← walk left (by rw [Expr.sequence.sizeOf_spec]; omega)
      let r ← walk right (by rw [Expr.sequence.sizeOf_spec]; omega)
      Expr.visit handled .sequence (l ++ ", " ++ r)
    else .stop .sequence
  refuse kind := .stop kind

variable {handled : Visit → Bool}

mutual

/-- **Walking for a log is walking with the logger.** -/
theorem accept_logger : (e : Expr) → e.accept (logger handled) = e.walk handled
  | .program body => by
      rw [Expr.accept, Expr.walk, acceptAll_logger body]
      rfl
  | .statement inner => by
      rw [Expr.accept, Expr.walk, accept_logger inner]
      rfl
  | .member base property => by
      rw [Expr.accept, Expr.walk, accept_logger base]
      rfl
  | .binary op left right => by
      by_cases hop : op = Expr.andToken
      · subst hop
        rw [Expr.accept, if_pos rfl, Expr.walk, if_pos rfl, ← accept_logger left,
          ← accept_logger right]
        rfl
      · rw [Expr.accept, if_neg hop, Expr.walk, if_neg hop, accept_logger left,
          accept_logger right]
        rfl
  | .unary op operand => by
      rw [Expr.accept, Expr.walk, accept_logger operand]
      cases op <;> rfl
  | .array elements => by
      rw [Expr.accept, Expr.walk, acceptAll_logger elements]
      rfl
  | .call field method args => by
      rw [Expr.accept, Expr.walk, accept_logger field, acceptAll_logger args]
      rfl
  | .assign op target value => by
      rw [Expr.accept, Expr.walk, accept_logger target, accept_logger value]
      rfl
  | .sequence left right => by
      rw [Expr.accept, Expr.walk, ← accept_logger left, ← accept_logger right]
      rfl
  | .hole | .string _ | .number _ | .bool _ | .null | .identifier _ | .detachedCall _ => by
      rw [Expr.accept, Expr.walk]
      rfl

theorem acceptAll_logger : (es : List Expr) →
    Expr.acceptAll (logger handled) es = Expr.walkAll handled es
  | [] => by
      rw [Expr.acceptAll, Expr.walkAll]
      rfl
  | e :: rest => by
      rw [Expr.acceptAll, Expr.walkAll, accept_logger e, acceptAll_logger rest]
      rfl

end

end DocQuery
