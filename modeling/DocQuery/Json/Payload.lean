/-!
# DocQuery.Json.Payload

The check of a JSON text before it is copied into an envelope or laid out over several lines. It
knows strings, escapes and brackets: an escape must be one of JSON, and brackets may not nest deeper
than a fixed limit.
-/

namespace DocQuery.Json

/-- Whether a backslash may be followed by `c`. -/
def isEscapeLetter (c : Char) : Bool :=
  c == 'b' || c == 'f' || c == 'n' || c == 'r' || c == 't' || c == '\\' || c == '/' || c == '"' ||
    c == 'u'

/-- Why a text does not pass. -/
inductive PayloadFault where
  /-- A backslash followed by a character that is no escape. -/
  | badEscape (c : Char)
  /-- A bracket that opens one level too many. -/
  | tooDeep
deriving Repr, DecidableEq

/-- The wording of a payload fault. -/
def PayloadFault.message : PayloadFault → String
  | .badEscape c => "invalid character '" ++ String.singleton c ++ "' in string escape code"
  | .tooDeep => "exceeded max depth"

/-- How many brackets may be open at once. -/
def maxNesting : Nat := 10000

/-- Check a text inside `depth` brackets; `inString` tells whether it starts inside a string. -/
def checkPayloadFrom : (inString : Bool) → (depth : Nat) → List Char → Except PayloadFault Unit
  | _, _, [] => .ok ()
  | true, depth, '\\' :: c :: rest =>
    if isEscapeLetter c then checkPayloadFrom true depth rest else .error (.badEscape c)
  | true, depth, c :: rest => checkPayloadFrom (c != '"') depth rest
  | false, depth, c :: rest =>
    if c.toNat == 0x7b || c == '[' then
      if depth < maxNesting then checkPayloadFrom false (depth + 1) rest else .error .tooDeep
    else if c.toNat == 0x7d || c == ']' then checkPayloadFrom false (depth - 1) rest
    else checkPayloadFrom (c == '"') depth rest

/-- Check compact JSON text. -/
def checkPayload (cs : List Char) : Except PayloadFault Unit :=
  checkPayloadFrom false 0 cs

end DocQuery.Json
