import DocQuery.Decimal.Literal

/-!
# DocQuery.Yaml.Timestamp

Which plain scalars denote a point in time. A date is a four-digit year, a month and a day, each of
one or two digits, joined by hyphens; it may be followed by a time of day: after a `T` or `t`, with
a zone (`Z`, or a sign, hours, a colon and minutes), or after spaces, without one. A second may
carry a fraction. The day has to exist in its month.
-/

namespace DocQuery.Yaml.Timestamp

/-- Read one or two digits. -/
def shortNumber? : List Char → Option (Nat × List Char)
  | a :: b :: rest =>
    if !a.isDigit then none
    else if b.isDigit then some (Decimal.natOfDigits [a, b], rest)
    else some (Decimal.digitValue a, b :: rest)
  | [a] => if a.isDigit then some (Decimal.digitValue a, []) else none
  | [] => none

/-- Read exactly two digits. -/
def twoDigits? : List Char → Option (Nat × List Char)
  | a :: b :: rest =>
    if a.isDigit && b.isDigit then some (Decimal.natOfDigits [a, b], rest) else none
  | _ => none

/-- Read one given character. -/
def literal? (c : Char) : List Char → Option (List Char)
  | d :: rest => if d = c then some rest else none
  | [] => none

/-- Whether a year has a leap day. -/
def isLeapYear (year : Nat) : Bool :=
  year % 4 == 0 && (year % 100 != 0 || year % 400 == 0)

/-- The number of days of a month. -/
def daysIn (year month : Nat) : Nat :=
  if month = 2 then (if isLeapYear year then 29 else 28)
  else if month = 4 || month = 6 || month = 9 || month = 11 then 30
  else 31

/-- Read a date that exists. -/
def date? (cs : List Char) : Option (List Char) := do
  let year := cs.takeWhile Char.isDigit
  if year.length ≠ 4 then none
  let rest ← literal? '-' (cs.dropWhile Char.isDigit)
  let (month, rest) ← shortNumber? rest
  if month < 1 || 12 < month then none
  let rest ← literal? '-' rest
  let (day, rest) ← shortNumber? rest
  if day < 1 || daysIn (Decimal.natOfDigits year) month < day then none
  return rest

/-- Skip an optional fraction of a second, after a point or a comma. -/
def skipFraction : List Char → List Char
  | mark :: d :: rest =>
    if (mark == '.' || mark == ',') && d.isDigit then rest.dropWhile Char.isDigit
    else mark :: d :: rest
  | cs => cs

/-- Read a time of day: hours below 24, minutes and seconds below 60. -/
def clock? (cs : List Char) : Option (List Char) := do
  let (hour, rest) ← shortNumber? cs
  if 24 ≤ hour then none
  let rest ← literal? ':' rest
  let (minute, rest) ← shortNumber? rest
  if 60 ≤ minute then none
  let rest ← literal? ':' rest
  let (second, rest) ← shortNumber? rest
  if 60 ≤ second then none
  return skipFraction rest

/-- Whether a text is a time zone. -/
def isZone : List Char → Bool
  | ['Z'] => true
  | sign :: rest =>
    (sign == '+' || sign == '-') &&
      ((do
        let (hour, rest) ← twoDigits? rest
        let rest ← literal? ':' rest
        let (minute, rest) ← twoDigits? rest
        return (rest.isEmpty && hour ≤ 24 && minute ≤ 60 : Bool)) == some true)
  | [] => false

/-- Whether a text denotes a point in time. -/
def isTimestamp (cs : List Char) : Bool :=
  match date? cs with
  | none => false
  | some [] => true
  | some (c :: rest) =>
    if c == 'T' || c == 't' then
      match clock? rest with
      | some zone => isZone zone
      | none => false
    else if c == ' ' then clock? (rest.dropWhile (· == ' ')) == some []
    else false

end DocQuery.Yaml.Timestamp
