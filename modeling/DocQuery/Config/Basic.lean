/-!
# DocQuery.Config.Basic

Configuration values: what a table file holds. A struct may name a field more than once; the values
of such a field are unified, which works when they say the same, field by field and item by item.
-/

namespace DocQuery

/-- A configuration value. -/
inductive Config where
  /-- Nothing. -/
  | null
  /-- A boolean. -/
  | bool (value : Bool)
  /-- A number, by its text. -/
  | number (text : String)
  /-- A string. -/
  | string (value : String)
  /-- A list. -/
  | list (items : List Config)
  /-- A struct: its fields, no name twice. -/
  | struct (fields : List (String × Config))
deriving Repr, Inhabited

namespace Config

/-- Replace the value of a field. -/
def replace (fields : List (String × Config)) (name : String) (value : Config) :
    List (String × Config) :=
  fields.map fun field => if field.1 == name then (name, value) else field

mutual

/-- The value that says what both values say; nothing when they differ. -/
def unify (a : Config) : Config → Option Config
  | .null => match a with
    | .null => some .null
    | _ => none
  | .bool y => match a with
    | .bool x => if x == y then some (.bool x) else none
    | _ => none
  | .number y => match a with
    | .number x => if x == y then some (.number x) else none
    | _ => none
  | .string y => match a with
    | .string x => if x == y then some (.string x) else none
    | _ => none
  | .list ys => match a with
    | .list xs => (unifyItems xs ys).map .list
    | _ => none
  | .struct gs => match a with
    | .struct fs => (unifyFields fs gs).map .struct
    | _ => none

/-- Unify two lists item by item; nothing when their lengths differ. -/
def unifyItems : List Config → List Config → Option (List Config)
  | [], [] => some []
  | x :: xs, y :: ys => do
    let z ← unify x y
    return z :: (← unifyItems xs ys)
  | _, _ => none

/-- Unify fields with further ones, which go to the end when they are new. -/
def unifyFields (fs : List (String × Config)) :
    List (String × Config) → Option (List (String × Config))
  | [] => some fs
  | (name, y) :: gs =>
    match fs.find? fun f => f.1 == name with
    | none => unifyFields (fs ++ [(name, y)]) gs
    | some (_, x) => (unify x y).bind fun z => unifyFields (replace fs name z) gs

end

/-- The value of a field. -/
def field? (fields : List (String × Config)) (name : String) : Option Config :=
  (fields.find? fun f => f.1 == name).map (·.2)

end Config

end DocQuery
