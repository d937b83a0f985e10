import DocQuery.Decimal.Literal

/-!
# DocQuery.Value.Basic

Document values. A document is an ordered list of key and value pairs: keys keep the order in which
they were first set, because the order of a query's keys is the order of its source.

Design points:

* a number is its literal text, never a float, so that `1` and `1.50` survive as written; nothing
  checks the text before a value is rendered;
* strings and keys are texts, as every source, tree file and configuration in UTF-8 gives them.
  Strings that come from elsewhere may hold bytes that are no UTF-8: these are kept as byte texts
  (`Text.ofBytes`), and `Value.writeCanonicalBytes` says what canonical text makes of them;
* a value may be *absent*, and a document may be, which is how incomplete values are handed in;
  every renderer refuses both.
-/

namespace DocQuery

/-- A document value. -/
inductive Value where
  /-- The null value. -/
  | null
  /-- A boolean. -/
  | bool (b : Bool)
  /-- A string. -/
  | string (s : String)
  /-- A number, by its literal text. -/
  | number (text : String)
  /-- A list of values. -/
  | array (items : List Value)
  /-- A document: keys and values in order. -/
  | document (elements : List (String × Value))
  /-- A document that is not there. -/
  | absentDocument
  /-- A value that is not there. -/
  | absent
deriving Repr, Inhabited

/-- An ordered list of key and value pairs. -/
abbrev Document := List (String × Value)

namespace Document

/-- Store a value under a key. A new key goes to the end, a known one keeps its place. -/
def set (key : String) (value : Value) : Document → Document
  | [] => [(key, value)]
  | (k, v) :: rest => if k = key then (k, value) :: rest else (k, v) :: set key value rest

/-- The value stored under a key. -/
def get? (key : String) (d : Document) : Option Value :=
  d.lookup key

/-- Whether a key is present. -/
def has (key : String) (d : Document) : Bool :=
  (get? key d).isSome

/-- The keys, in order. -/
def keys (d : Document) : List String :=
  d.map (·.1)

/-- The document that setting each pair in turn builds, on top of another one. -/
def setAll (d : Document) (elements : List (String × Value)) : Document :=
  elements.foldl (fun d e => set e.1 e.2 d) d

/-- The document that setting each pair in turn builds: a repeated key replaces the value and
keeps the place of the earlier one. -/
def ofList (elements : List (String × Value)) : Document :=
  setAll [] elements

@[simp] theorem keys_nil : keys [] = [] := rfl

@[simp] theorem keys_cons (e : String × Value) (d : Document) : keys (e :: d) = e.1 :: keys d := rfl

/-- Setting a key leaves the other keys in place, and appends the key if it is new. -/
theorem keys_set (key : String) (value : Value) (d : Document) :
    keys (set key value d) = if key ∈ keys d then keys d else keys d ++ [key] := by
  induction d with
  | nil => simp [set, keys]
  | cons e rest ih =>
    obtain ⟨k, v⟩ := e
    by_cases hk : k = key
    · simp [set, hk]
    · have hk' : ¬ key = k := fun h => hk h.symm
      simp only [set, if_neg hk, keys_cons, ih, List.mem_cons, hk', false_or]
      split <;> simp

theorem set_of_not_mem {key : String} {d : Document} (value : Value) (h : key ∉ keys d) :
    set key value d = d ++ [(key, value)] := by
  induction d with
  | nil => rfl
  | cons e rest ih =>
    rw [keys_cons, List.mem_cons, not_or] at h
    rw [set, if_neg (fun hk => h.1 hk.symm), ih h.2]
    rfl

/-- Setting new keys, no two of them alike, writes the pairs behind what is there. -/
theorem setAll_of_nodup {d elements : Document} (h : (keys (d ++ elements)).Nodup) :
    setAll d elements = d ++ elements := by
  induction elements generalizing d with
  | nil => exact (List.append_nil d).symm
  | cons e elements ih =>
    have hkey : e.1 ∉ keys d := by
      rw [keys, List.map_append, List.nodup_append] at h
      exact fun hmem => h.2.2 _ hmem _ (List.mem_cons_self ..) rfl
    rw [List.append_cons] at h ⊢
    rw [← ih h, ← set_of_not_mem e.2 hkey]
    rfl

end Document

namespace Value

/-- The number that spells out an integer. -/
def int (n : Int) : Value := .number (toString n)

/-- A value as a document, if it is one. -/
def document? : Value → Option Document
  | .document d => some d
  | _ => none

end Value

end DocQuery
