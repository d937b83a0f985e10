import DocQuery.Digest.Sha256
import DocQuery.Text.Normal.Runs
import DocQuery.Text.Units
import DocQuery.Value.Json

/-!
# DocQuery.Value.Canonical

Canonical JSON text and fingerprints. Canonical text does not depend on the order of keys: the
elements of every document are sorted by the UTF-16 units of their keys, strings are written in
normalisation form C, and the two line separators stand unescaped. Numbers keep their text.

Design points:

* a canonical string is an ordinary JSON string of the composed text whose two separator escapes
  are undone (`restoreSeparators`); escapes are read in pairs, so an escaped backslash in front of
  the letters `u2028` is left alone;
* most strings have no such escape, so a text is first searched for the beginning of one and
  handed on as it is when there is none (`unescapeSeparators`);
* keys are sorted as they were given, before they are composed; `read` says how they are read, which
  for texts is as they are (`canonicalize`);
* a fingerprint is the SHA-256 digest of the canonical text under a fixed domain name.
-/

namespace DocQuery

namespace Json

/-- Undo the escapes of the two line separators in a JSON string. -/
def restoreSeparators : List Char → List Char
  | '\\' :: 'u' :: '2' :: '0' :: '2' :: d :: rest =>
    if d == '8' then Char.ofNat 0x2028 :: restoreSeparators rest
    else if d == '9' then Char.ofNat 0x2029 :: restoreSeparators rest
    else '\\' :: 'u' :: restoreSeparators ('2' :: '0' :: '2' :: d :: rest)
  | '\\' :: c :: rest => '\\' :: c :: restoreSeparators rest
  | c :: rest => c :: restoreSeparators rest
  | [] => []

/-- How the escapes of the two line separators begin. -/
def separatorStart : List Char := ['\\', 'u', '2', '0', '2']

/-- Whether the escape of a line separator may begin somewhere in a text. -/
def mayHoldSeparator : List Char → Bool
  | [] => false
  | c :: rest => separatorStart.isPrefixOf (c :: rest) || mayHoldSeparator rest

/-- Undo the escapes of the two line separators, if there may be any. -/
def unescapeSeparators (text : List Char) : List Char :=
  if mayHoldSeparator text then restoreSeparators text else text

/-- A canonical JSON string: in normal form, and with the line separators unescaped. -/
def writeCanonicalString (cs : List Char) : List Char :=
  unescapeSeparators (writeString (Text.Normal.normalForm cs))

end Json

namespace Value

/-- Whether one element stands before or beside another in canonical order, by their keys as `read`
reads them. -/
def elementLe (read : String → String) (a b : String × Value) : Bool :=
  Text.keyLe (read a.1) (read b.1)

mutual

/-- The value with the elements of each of its documents in canonical order of their keys, as `read`
reads these. -/
def sortKeys (read : String → String) : Value → Value
  | .array items => .array (sortKeysItems read items)
  | .document elements => .document ((sortKeysElements read elements).mergeSort (elementLe read))
  | v => v

/-- The items of an array with sorted keys. -/
def sortKeysItems (read : String → String) : List Value → List Value
  | [] => []
  | v :: rest => v.sortKeys read :: sortKeysItems read rest

/-- The elements of a document, with sorted keys in their values. -/
def sortKeysElements (read : String → String) : List (String × Value) → List (String × Value)
  | [] => []
  | (key, v) :: rest => (key, v.sortKeys read) :: sortKeysElements read rest

end

/-- The value with the elements of each of its documents in canonical order. -/
def canonicalize (v : Value) : Value := v.sortKeys id

/-- The canonical JSON text of a value, as characters. -/
def writeCanonical (v : Value) : Except RenderError (List Char) :=
  v.canonicalize.writeWith Json.writeCanonicalString

/-- The canonical JSON text of a value. -/
def toCanonicalJson (v : Value) : Except RenderError String :=
  v.writeCanonical.map String.ofList

/-- The domain of query fingerprints. -/
def fingerprintDomain : String := "mongoexpr/query/v1"

/-- The message a fingerprint is the digest of: the domain, a zero byte, the canonical text. -/
def fingerprintMessage (canonical : List Char) : List UInt8 :=
  fingerprintDomain.toUTF8.toList ++ 0 :: (String.ofList canonical).toUTF8.toList

/-- The fingerprint of a value: equal for documents that differ only in the order of keys. -/
def fingerprint (v : Value) : Except RenderError String :=
  v.writeCanonical.map fun text => Digest.Sha256.hexDigest (fingerprintMessage text)

end Value

end DocQuery
