import DocQuery.Decimal.Binary64
import DocQuery.Decimal.Integer
import DocQuery.Yaml.Timestamp

/-!
# DocQuery.Yaml.Resolve

The type a plain scalar would be read back with. A string that would be read back as something else
has to be quoted, and a number whose text would not be read back as that number gets an explicit
tag.
-/

namespace DocQuery.Yaml

/-- The type of a scalar. -/
inductive Tag where
  /-- A null. -/
  | null
  /-- A boolean. -/
  | bool
  /-- A string. -/
  | str
  /-- An integer. -/
  | int
  /-- A floating-point number. -/
  | float
  /-- A point in time. -/
  | timestamp
deriving Repr, DecidableEq

/-- The short name of a tag. -/
def Tag.name : Tag → String
  | .null => "null"
  | .bool => "bool"
  | .str => "str"
  | .int => "int"
  | .float => "float"
  | .timestamp => "timestamp"

/-- Words with a fixed meaning. -/
def word? (s : String) : Option Tag :=
  if s ∈ ["true", "True", "TRUE", "false", "False", "FALSE"] then some .bool
  else if s ∈ ["", "~", "null", "Null", "NULL"] then some .null
  else if s ∈ [".nan", ".NaN", ".NAN", ".inf", ".Inf", ".INF", "+.inf", "+.Inf", "+.INF",
    "-.inf", "-.Inf", "-.INF"] then some .float
  else none

/-- Whether a text is a decimal number whose double is finite. -/
def isFiniteDecimal (cs : List Char) : Bool :=
  match Decimal.Exact.read? cs with
  | none => false
  | some x =>
    match Decimal.Binary64.ofExact x with
    | .finite _ _ => true
    | .infinite _ => false

/-- Whether a text is an integer of a given base that fits 64 bits, with an optional sign. -/
def isIntegerInBase (base : Nat) (cs : List Char) : Bool :=
  let (negative, digits) := Decimal.splitSign cs
  if digits.isEmpty then false
  else match Decimal.readDigits base 0 digits with
    | .ok n => if negative then n ≤ Decimal.signedLimit else n < Decimal.signedLimit
    | .error _ => false

/-- Whether a text without its underscores is an integer. -/
def isPlainInteger (cs : List Char) : Bool :=
  (Decimal.readSigned cs).toBool || (Decimal.readUnsigned cs).toBool ||
    match cs with
    | '0' :: mark :: rest =>
      if mark == 'b' then isIntegerInBase 2 rest
      else if mark == 'o' then isIntegerInBase 8 rest
      else false
    | '-' :: '0' :: mark :: rest =>
      if mark == 'b' then isIntegerInBase 2 ('-' :: rest)
      else if mark == 'o' then isIntegerInBase 8 ('-' :: rest)
      else false
    | _ => false

/-- Whether a character starts one of the fixed words. -/
def startsWord (c : Char) : Bool :=
  c ∈ ['y', 'Y', 'n', 'N', 't', 'T', 'f', 'F', 'o', 'O', '~']

/-- The type of a plain scalar. -/
def resolve (s : String) : Tag :=
  match s.toList with
  | [] => .null
  | c :: cs =>
    if startsWord c then (word? s).getD .str
    else if c == '.' then
      (word? s).getD (if isFiniteDecimal (c :: cs) then .float else .str)
    else if c.isDigit || c == '+' || c == '-' then
      match word? s with
      | some tag => tag
      | none =>
        if Timestamp.isTimestamp (c :: cs) then .timestamp
        else
          let plain := (c :: cs).filter (· != '_')
          if isPlainInteger plain then .int
          else if isFiniteDecimal plain then .float
          else .str
    else .str

/-! ## Readings of other dialects -/

/-- Skip one or more groups of a colon and one or two digits below sixty. -/
def skipSexagesimal : List Char → Option (List Char)
  | ':' :: a :: b :: rest =>
    if a.isDigit && b.isDigit && Decimal.digitValue a < 6 then
      some ((skipSexagesimal rest).getD rest)
    else if a.isDigit then some ((skipSexagesimal (b :: rest)).getD (b :: rest))
    else none
  | [':', a] => if a.isDigit then some [] else none
  | _ => none
termination_by cs => cs.length

/-- Whether a text is a number of base sixty, which some readers accept. -/
def isSexagesimal (cs : List Char) : Bool :=
  match (Decimal.splitSign cs).2 with
  | d :: rest =>
    d.isDigit &&
      match skipSexagesimal (rest.dropWhile fun c => c.isDigit || c == '_') with
      | none => false
      | some [] => true
      | some ('.' :: fraction) => fraction.all fun c => c.isDigit || c == '_'
      | some _ => false
  | [] => false

/-- Words that some readers take for booleans. -/
def isOldBoolean (s : String) : Bool :=
  s ∈ ["y", "Y", "yes", "Yes", "YES", "on", "On", "ON", "n", "N", "no", "No", "NO", "off", "Off",
    "OFF"]

end DocQuery.Yaml
