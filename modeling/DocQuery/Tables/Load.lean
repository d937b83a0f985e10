import DocQuery.Config.Reader
import DocQuery.Tables.Basic

/-!
# DocQuery.Tables.Load

Tables from configuration files. A file may have a list of operators and a list of methods, and any
other fields; an entry has no other fields than these:

* an operator has a `token`, which is not empty, an optional `target` and an optional `allowed`,
  which is true by default;
* a method has a `name`, a `target`, a `shape` and an optional `option`.

A target is a dollar sign and letters; optional targets may also be empty.

The configuration language words and places its own failures, for a text that is no configuration and
for one that does not fit these rules. Neither the wording nor the place is kept here: all of these
failures are reported for the field `cue` with one text and without a place.
-/

namespace DocQuery

/-- Why a file holds no tables. -/
structure LoadError where
  /-- The part of the file that is wrong. -/
  field : String
  /-- What is wrong. -/
  message : String
  /-- The file and the place in it, if there is one. -/
  place : Option (String × Text.Place)
deriving Repr, DecidableEq

/-- The text of a load error: the place, the part and the message. -/
def LoadError.text (e : LoadError) : String :=
  let body := e.field ++ ": " ++ e.message
  match e.place with
  | some (file, p) => file ++ ":" ++ toString p.line ++ ":" ++ toString p.column ++ ": " ++ body
  | none => body

namespace Tables

/-- Whether a text is a document operator: a dollar sign and letters. -/
def isTarget (s : String) : Bool :=
  match s.toList with
  | '$' :: c :: cs => (c :: cs).all Char.isAlpha
  | _ => false

/-- Whether a text is a method name: letters, digits and underscores, no digit first. -/
def isMethodName (s : String) : Bool :=
  match s.toList with
  | c :: cs => (c.isAlpha || c == '_') && cs.all fun d => d.isAlphanum || d == '_'
  | [] => false

/-- A string that a field must have. -/
def requiredString? (fields : List (String × Config)) (name : String) : Option String :=
  match Config.field? fields name with
  | some (.string s) => some s
  | _ => none

/-- A target that a field may have; empty when it has none. -/
def optionalTarget? (fields : List (String × Config)) (name : String) : Option String :=
  match Config.field? fields name with
  | none => some ""
  | some (.string s) => if s == "" || isTarget s then some s else none
  | some _ => none

/-- Whether all fields are among the given names. -/
def hasOnly (fields : List (String × Config)) (names : List String) : Bool :=
  fields.all fun f => names.contains f.1

/-- The operator of an entry. -/
def operatorOf? : Config → Option Operator
  | .struct fields =>
    if !hasOnly fields ["token", "target", "allowed"] then none
    else do
      let token ← requiredString? fields "token"
      let target ← optionalTarget? fields "target"
      let allowed ← match Config.field? fields "allowed" with
        | none => some true
        | some (.bool b) => some b
        | some _ => none
      if token == "" then none else return { token, target, allowed }
  | _ => none

/-- The method of an entry. -/
def methodOf? : Config → Option Method
  | .struct fields =>
    if !hasOnly fields ["name", "target", "shape", "option"] then none
    else do
      let name ← requiredString? fields "name"
      let target ← requiredString? fields "target"
      let shape ← Shape.ofName? (← requiredString? fields "shape")
      let option ← optionalTarget? fields "option"
      if isMethodName name && isTarget target then return { name, target, shape, option } else none
  | _ => none

/-- The entries of a list that a file may have. -/
def entries? {α : Type} (entry : Config → Option α) (fields : List (String × Config))
    (name : String) : Option (List α) :=
  match Config.field? fields name with
  | none => some []
  | some (.list items) => items.mapM entry
  | some _ => none

/-- The entries of a file. -/
def entriesOf? : Config → Option (List Operator × List Method)
  | .struct fields => do
    let operators ← entries? operatorOf? fields "operators"
    let methods ← entries? methodOf? fields "methods"
    return (operators, methods)
  | _ => none

/-- Load tables from the text of a file. -/
def load (file text : String) : Except LoadError Tables :=
  match (Config.parse? text).bind entriesOf? with
  | none => .error { field := "cue", message := "invalid tables", place := none }
  | some (operators, methods) =>
    if operators.isEmpty then
      .error
        { field := "operators", message := "at least one operator is required", place := none }
    else
      match Tables.new operators methods with
      | .ok t => .ok t
      | .error e =>
        .error
          { field := "tables", message := e.message
            place := some (file, Config.firstPlace text) }

end Tables

end DocQuery
