import DocQuery.Text.Units

/-!
# DocQuery.Json.Basic

JSON values as a tree file holds them. An object keeps its members in order with their keys *as
written*, escapes included: a key is looked for as written first, and by its meaning only when that
fails. From the first such failure on, an object is searched by meaning alone, so a look-up depends
on the keys asked for before (`look`).
-/

namespace DocQuery

/-- A JSON value. -/
inductive Json where
  /-- The null value. -/
  | null
  /-- A boolean. -/
  | bool (b : Bool)
  /-- A number, by its text. -/
  | number (text : String)
  /-- A string, by its meaning. -/
  | string (s : String)
  /-- An array. -/
  | array (items : List Json)
  /-- An object: keys as written, and values. -/
  | object (members : List (String × Json))
deriving Repr, Inhabited

namespace Json

/-- The name of a value's type. -/
def typeName : Json → String
  | .null => "null"
  | .bool true => "true"
  | .bool false => "false"
  | .number _ => "number"
  | .string _ => "string"
  | .array _ => "array"
  | .object _ => "object"

/-! ## Escapes -/

/-- The value of a hexadecimal digit. -/
def hexValue? (c : Char) : Option Nat :=
  if c.isDigit then some (c.toNat - 48)
  else if 'a' ≤ c && c ≤ 'f' then some (c.toNat - 87)
  else if 'A' ≤ c && c ≤ 'F' then some (c.toNat - 55)
  else none

/-- The value of hexadecimal digits. -/
def hexNumber? (cs : List Char) : Option Nat :=
  cs.foldl (fun n c => do
    let n ← n
    let d ← hexValue? c
    return 16 * n + d) (some 0)

/-- The character that a one-letter escape stands for. -/
def escapeMeaning? (c : Char) : Option Char :=
  match c with
  | '"' => some '"'
  | '\\' => some '\\'
  | '/' => some '/'
  | 'b' => some (Char.ofNat 0x08)
  | 'f' => some (Char.ofNat 0x0c)
  | 'n' => some '\n'
  | 'r' => some '\r'
  | 't' => some '\t'
  | _ => none

/-- The meaning of `\u` followed by `cs`: the characters it stands for and what follows. A code
that is malformed, or a surrogate that no second code follows, stays as it was written. -/
def unescapeCode (cs : List Char) : List Char × List Char :=
  match cs with
  | a :: b :: c :: d :: rest =>
    match hexNumber? [a, b, c, d] with
    | none => (['\\', 'u'], cs)
    | some x =>
      if !Text.isSurrogate x then ([Char.ofNat x], rest)
      else match rest with
        | '\\' :: 'u' :: e :: f :: g :: h :: more =>
          match hexNumber? [e, f, g, h] with
          | none => (['\\', 'u', a, b, c, d], rest)
          | some y => ([Text.ofPair x y], more)
        | _ => (['\\', 'u', a, b, c, d], rest)
  | _ => (['\\', 'u'], cs)

/-- What follows a code is never longer than what it was read from. -/
theorem unescapeCode_length_le (cs : List Char) : (unescapeCode cs).2.length ≤ cs.length := by
  unfold unescapeCode
  split
  · split
    · simp
    · split
      · simp only [List.length_cons]; omega
      · split
        · split <;> simp only [List.length_cons] <;> omega
        · simp only [List.length_cons]; omega
  · simp

/-- The meaning of the inside of a string. An escape that is no escape stays as it was written. -/
def unescape : List Char → List Char
  | '\\' :: c :: rest =>
    if c == 'u' then
      (unescapeCode rest).1 ++ unescape (unescapeCode rest).2
    else match escapeMeaning? c with
      | some meaning => meaning :: unescape rest
      | none => '\\' :: c :: unescape rest
  | c :: rest => c :: unescape rest
  | [] => []
termination_by cs => cs.length
decreasing_by
  · have := unescapeCode_length_le rest
    simp only [List.length_cons]
    omega
  all_goals simp only [List.length_cons]; omega

/-- The meaning of a key as written. -/
def keyMeaning (written : String) : String := String.ofList (unescape written.toList)

/-! ## Looking up members -/

/-- The first member with a key as written. -/
def lookWritten (members : List (String × Json)) (key : String) : Option Json :=
  (members.find? (fun m => m.1 == key)).map (·.2)

/-- The first member whose key means `key`. -/
def lookMeaning (members : List (String × Json)) (key : String) : Option Json :=
  (members.find? (fun m => keyMeaning m.1 == key)).map (·.2)

/-- Look for a key after the keys `asked`: as written while every key so far was found that way,
and by meaning from the first one on that was not. -/
def look (members : List (String × Json)) (asked : List String) (key : String) : Option Json :=
  if (key :: asked).all fun k => (lookWritten members k).isSome then lookWritten members key
  else lookMeaning members key

/-- A member is smaller than the members it is found in. -/
theorem sizeOf_find_lt {members : List (String × Json)} {p : String × Json → Bool} {v : Json}
    (h : (members.find? p).map (·.2) = some v) : sizeOf v < sizeOf members := by
  obtain ⟨m, hm, rfl⟩ := Option.map_eq_some_iff.1 h
  have hmem := List.mem_of_find?_eq_some hm
  have h1 := List.sizeOf_lt_of_mem hmem
  have h2 : sizeOf m.2 < sizeOf m := by
    obtain ⟨k, x⟩ := m
    simp only [Prod.mk.sizeOf_spec]
    omega
  omega

/-- What a look-up finds is smaller than the members it looks in. -/
theorem sizeOf_look_lt {members : List (String × Json)} {asked : List String} {key : String}
    {v : Json} (h : look members asked key = some v) : sizeOf v < sizeOf members := by
  unfold look at h
  split at h
  · exact sizeOf_find_lt h
  · exact sizeOf_find_lt h

theorem sizeOf_items_lt {members : List (String × Json)} {asked : List String} {key : String}
    {items : List Json} (h : look members asked key = some (.array items)) :
    sizeOf items < sizeOf members := by
  have hlook := sizeOf_look_lt h
  simp only [array.sizeOf_spec] at hlook
  omega

theorem sizeOf_members_lt {members : List (String × Json)} {asked : List String} {key : String}
    {inner : List (String × Json)} (h : look members asked key = some (.object inner)) :
    sizeOf inner < sizeOf members := by
  have hlook := sizeOf_look_lt h
  simp only [object.sizeOf_spec] at hlook
  omega

end Json

end DocQuery
