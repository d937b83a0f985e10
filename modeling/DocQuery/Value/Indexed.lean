import DocQuery.Value.Basic

/-!
# DocQuery.Value.Indexed

Documents with an index. A document is built by setting keys one after another, and whoever builds
one looks keys up all the time; the index leads from a key to the place of its element, so that
neither setting a known key nor looking one up goes through the elements.

Design points:

* the index is made when the first key is set: an empty document has none;
* setting a known key changes the value at its place and leaves the index alone;
* nothing ties the index to the elements but the operations themselves. `toDocument` forgets it.
-/

namespace DocQuery

/-- A document and an index of its keys. -/
structure IndexedDocument where
  /-- The elements, in the order in which their keys were first set. -/
  elements : Array (String × Value)
  /-- The place of each key, once a key has been set. -/
  index : Option (List (String × Nat))
deriving Repr

namespace IndexedDocument

/-- A document before any key is set. -/
def empty : IndexedDocument := { elements := #[], index := none }

/-- The place of a key, by the index. -/
def place? (key : String) (d : IndexedDocument) : Option Nat :=
  d.index.bind fun places => places.lookup key

/-- Store a value under a key. A new key goes to the end, a known one keeps its place. -/
def set (key : String) (value : Value) (d : IndexedDocument) : IndexedDocument :=
  match d.place? key with
  | some i => { d with elements := d.elements.modify i fun e => (e.1, value) }
  | none =>
    { elements := d.elements.push (key, value)
      index := some ((key, d.elements.size) :: d.index.getD []) }

/-- The value stored under a key. -/
def get? (key : String) (d : IndexedDocument) : Option Value :=
  (d.place? key).bind fun i => d.elements[i]?.map (·.2)

/-- Whether a key is present. -/
def has (key : String) (d : IndexedDocument) : Bool :=
  (d.place? key).isSome

/-- The number of keys. -/
def size (d : IndexedDocument) : Nat :=
  d.elements.size

/-- The document without its index. -/
def toDocument (d : IndexedDocument) : Document :=
  d.elements.toList

/-- The keys, in order. -/
def keys (d : IndexedDocument) : List String :=
  d.toDocument.keys

/-- The document that setting each pair in turn builds, on top of another one. -/
def setAll (d : IndexedDocument) (calls : List (String × Value)) : IndexedDocument :=
  calls.foldl (fun d e => d.set e.1 e.2) d

/-- The document that setting each pair in turn builds. -/
def ofList (calls : List (String × Value)) : IndexedDocument :=
  empty.setAll calls

end IndexedDocument

end DocQuery
