import DocQuery.Decimal.Binary64

/-!
# DocQuery.Decimal.Shortest

The fewest decimal digits that read back. The reals that round to a double form an interval around
it, its ends included exactly when the mantissa is even. For one, two, … seventeen digits the two
neighbours of the value on that decimal grid are tried, and the first grid with a neighbour inside
the interval wins; of two the nearer one, and of two equally near the even one.

How the digits are laid out is a matter of the output: a `Layout` says with which letter an
exponent is marked and whether a text without point and exponent gets `.0`.
-/

namespace DocQuery.Decimal

/-- Decimal digits with the position of their point: the value is `0.d₁d₂… · 10 ^ point`. -/
structure Digits where
  /-- The digits, the first and the last one not zero. -/
  digits : List Char
  /-- How many digits stand before the point. -/
  point : Int
deriving Repr, DecidableEq

namespace Shortest

/-- Compare `a · 10 ^ e` with `num / den`: the two sides as naturals over one denominator. -/
def sides (a : Nat) (e : Int) (num den : Nat) : Nat × Nat :=
  if 0 ≤ e then (a * Nat.pow 10 e.toNat * den, num) else (a * den, num * Nat.pow 10 (-e).toNat)

/-- The interval of reals that round to a magnitude: twice the lower end, the value and the upper
end over one denominator, and whether the ends belong to it. -/
structure Interval where
  /-- Numerator of the lower end. -/
  low : Nat
  /-- Numerator of the value. -/
  value : Nat
  /-- Numerator of the upper end. -/
  high : Nat
  /-- The common denominator. -/
  den : Nat
  /-- Whether the ends round to the value. -/
  closed : Bool

/-- The interval of a magnitude. The gap below a power of two is half the gap above it. -/
def interval (x : Magnitude) : Interval :=
  let m := x.mantissa
  let narrow := m = Magnitude.leadingBit && Magnitude.leastExponent < x.exponent
  let low := if narrow then 4 * m - 1 else 4 * m - 2
  let up := if 0 ≤ x.exponent then Nat.pow 2 x.exponent.toNat else 1
  let down := if 0 ≤ x.exponent then 1 else Nat.pow 2 (-x.exponent).toNat
  { low := low * up, value := 4 * m * up, high := (4 * m + 2) * up, den := 4 * down,
    closed := m % 2 == 0 }

/-- Whether `a · 10 ^ e` lies in the interval. -/
def Interval.contains (i : Interval) (a : Nat) (e : Int) : Bool :=
  let (x, low) := sides a e i.low i.den
  let (y, high) := sides a e i.high i.den
  if i.closed then low ≤ x && y ≤ high else low < x && y < high

/-- The decimal exponent of a quotient: the least `p` with `num / den < 10 ^ p`. -/
def pointOf (num den : Nat) : Int :=
  let p : Int := (Nat.toDigits 10 num).length - (Nat.toDigits 10 den).length
  let (x, y) := sides 1 p num den
  if y < x then p else p + 1

/-- Try `n` digits: the neighbour of the value on that grid that lies in the interval. -/
def onGrid? (i : Interval) (point : Int) (n : Nat) : Option (Nat × Int) :=
  let e := point - n
  let (unit, value) := sides 1 e i.value i.den
  let down := value / unit
  let rest := value % unit
  let up := down + 1
  let downIn := i.contains down e
  let upIn := i.contains up e
  if downIn && (rest = 0 || !upIn) then some (down, e)
  else if upIn && !downIn then some (up, e)
  else if downIn && upIn then
    some (if 2 * rest < unit || (2 * rest = unit && down % 2 = 0) then down else up, e)
  else none

/-- Try grids of `n`, `n + 1`, … digits, `tries` of them. -/
def search (i : Interval) (point : Int) : (tries n : Nat) → Nat × Int
  | 0, n =>
    let (unit, value) := sides 1 (point - n) i.value i.den
    (value / unit, point - n)
  | tries + 1, n =>
    match onGrid? i point n with
    | some hit => hit
    | none => search i point tries (n + 1)

/-- The digits of a positive magnitude. -/
def digits (x : Magnitude) : Digits :=
  let i := interval x
  let (a, e) := search i (pointOf i.value i.den) 17 1
  let ds := Nat.toDigits 10 a
  { digits := (ds.reverse.dropWhile (· == '0')).reverse, point := ds.length + e }

end Shortest

/-- How digits are laid out. -/
structure Layout where
  /-- The letter that marks an exponent. -/
  mark : Char
  /-- Whether a text with neither point nor exponent gets `.0`. -/
  keepPoint : Bool

namespace Layout

/-- At least two digits of a natural number. -/
def twoDigits (n : Nat) : List Char :=
  if n < 10 then '0' :: Nat.toDigits 10 n else Nat.toDigits 10 n

/-- Lay out digits: with an exponent when the first digit stands for less than `10 ^ -4` or for
`10 ^ 6` or more, and positionally otherwise. -/
def place (l : Layout) (d : Digits) : List Char :=
  let e := d.point - 1
  if e < -4 || 6 ≤ e then
    let fraction := d.digits.drop 1
    d.digits.take 1 ++ (if fraction.isEmpty then [] else '.' :: fraction) ++
      [l.mark, if e < 0 then '-' else '+'] ++ twoDigits e.natAbs
  else if d.point ≤ 0 then '0' :: '.' :: List.replicate (-d.point).toNat '0' ++ d.digits
  else
    let n := d.point.toNat
    let whole := d.digits.take n ++ List.replicate (n - d.digits.length) '0'
    let fraction := d.digits.drop n
    if !fraction.isEmpty then whole ++ '.' :: fraction
    else if l.keepPoint then whole ++ ['.', '0']
    else whole

/-- The text of a finite value. -/
def write (l : Layout) (negative : Bool) (x : Magnitude) : String :=
  let body :=
    if x.mantissa = 0 then (if l.keepPoint then ['0', '.', '0'] else ['0'])
    else l.place (Shortest.digits x)
  String.ofList (if negative then '-' :: body else body)

end Layout

end DocQuery.Decimal
