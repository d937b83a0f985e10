import DocQuery.Compile.Fragment

/-!
# DocQuery.Compile.Update

Building an update from single writes. Update operators appear in the order of their first write,
fields in the order they are written, and a field is written at most once, whatever the operator.
-/

namespace DocQuery

/-- An update being built: the writes so far, and for each written field the operator it was
written with. -/
structure UpdateBuilder where
  /-- The update so far. -/
  update : Update
  /-- The fields written, each with its operator. -/
  written : List (String × String)
deriving Repr

namespace UpdateBuilder

/-- A builder before the first write. -/
def empty : UpdateBuilder := { update := [], written := [] }

/-- Put a field under an operator, which is added if it is new. -/
def insert (group field : String) (value : Value) : Update → Update
  | [] => [(group, [(field, value)])]
  | (g, fields) :: rest =>
    if g = group then (g, Document.set field value fields) :: rest
    else (g, fields) :: insert group field value rest

/-- Write a field. -/
def write (b : UpdateBuilder) (group field : String) (value : Value) :
    Except Cause UpdateBuilder :=
  match b.written.lookup field with
  | some earlier => .error (.conflictingUpdate field earlier group)
  | none =>
    .ok { update := insert group field value b.update, written := (field, group) :: b.written }

/-- Write the fields of one operator. -/
def writeAll (b : UpdateBuilder) (group : String) : Document → Except Cause UpdateBuilder
  | [] => .ok b
  | (field, value) :: rest => do
    let b ← b.write group field value
    b.writeAll group rest

/-- Write all fields of an update. -/
def merge (b : UpdateBuilder) : Update → Except Cause UpdateBuilder
  | [] => .ok b
  | (group, fields) :: rest => do
    let b ← b.writeAll group fields
    b.merge rest

end UpdateBuilder

/-- The update of a single write. -/
def Update.single (group field : String) (value : Value) : Update := [(group, [(field, value)])]

end DocQuery
