import DocQuery.Tables.Basic

/-!
# DocQuery.Tables.Indexed

Tables with indices. Tables are built once and looked up for every node of a tree, so each list of
entries comes with an index that leads from a key to the place of its entry.

Design points:

* entries are checked and indexed in one pass: whether a key is taken is asked of the index made so
  far, and the first fault ends the pass;
* operators and methods differ in their keys and checks only (`indexEntries`);
* look-ups go through an index, listings through the entries. `toTables` forgets the indices.
-/

namespace DocQuery

/-- What is wrong with an operator entry at position `i`; `taken` tells whether an earlier operator
has its token. The first check that fails counts. -/
def Operator.fault? (i : Nat) (taken : Bool) (op : Operator) : Option TableError :=
  if op.token = "" then some (.emptyToken i)
  else if taken then some (.duplicateToken i op.token)
  else if op.allowed && op.target = "" then some (.operatorWithoutTarget i op.token)
  else none

/-- What is wrong with a method entry at position `i`; `taken` tells whether an earlier method has
its name. The first check that fails counts. -/
def Method.fault? (i : Nat) (taken : Bool) (m : Method) : Option TableError :=
  if m.name = "" then some (.emptyName i)
  else if taken then some (.duplicateMethod i m.name)
  else if m.target = "" then some (.methodWithoutTarget i m.name)
  else if !m.shape.isKnown then some (.invalidShape i m.name m.shape)
  else if m.shape = .two && m.option = "" then some (.missingOption i m.name)
  else none

/-- Check entries from position `i` on, and add their places to an index, the newest first. -/
def indexEntries {α : Type} (key : α → String) (fault? : Nat → Bool → α → Option TableError) :
    (i : Nat) → (places : List (String × Nat)) → List α → Except TableError (List (String × Nat))
  | _, places, [] => .ok places
  | i, places, x :: rest =>
    match fault? i (places.lookup (key x)).isSome x with
    | some e => .error e
    | none => indexEntries key fault? (i + 1) ((key x, i) :: places) rest

/-- Tables and indices of their keys. -/
structure IndexedTables where
  /-- The operator entries, in order. -/
  operators : Array Operator
  /-- The method entries, in order. -/
  methods : Array Method
  /-- The place of each token. -/
  operatorPlaces : List (String × Nat)
  /-- The place of each method name. -/
  methodPlaces : List (String × Nat)
deriving Repr

namespace IndexedTables

/-- Build tables from entries. -/
def new (operators : List Operator) (methods : List Method) : Except TableError IndexedTables := do
  let operatorPlaces ← indexEntries (·.token) Operator.fault? 0 [] operators
  let methodPlaces ← indexEntries (·.name) Method.fault? 0 [] methods
  .ok { operators := operators.toArray, methods := methods.toArray, operatorPlaces, methodPlaces }

/-- The entry of an operator token. -/
def operator? (t : IndexedTables) (token : String) : Option Operator :=
  (t.operatorPlaces.lookup token).bind fun i => t.operators[i]?

/-- The entry of a method name. -/
def method? (t : IndexedTables) (name : String) : Option Method :=
  (t.methodPlaces.lookup name).bind fun i => t.methods[i]?

/-- The tables without their indices. -/
def toTables (t : IndexedTables) : Tables :=
  { operators := t.operators.toList, methods := t.methods.toList }

/-- The tokens that expressions may use, in table order. -/
def supportedOperators (t : IndexedTables) : List String :=
  t.toTables.supportedOperators

end IndexedTables

end DocQuery
