import DocQuery.Decimal.Literal
import DocQuery.Text.Quoted

/-!
# DocQuery.Decimal.Binary64

Double-precision values by exact arithmetic. A finite value is `mantissa · 2 ^ exponent` with a
mantissa below `2 ^ 53` and an exponent of at least `-1074`; a decimal is rounded to the nearest
such value, a tie going to the even mantissa, and to infinity when it lies beyond the largest.
-/

namespace DocQuery.Decimal

/-- A finite magnitude: `mantissa · 2 ^ exponent`. -/
structure Magnitude where
  /-- At most 53 bits; the top one is set unless the exponent is least. -/
  mantissa : Nat
  /-- At least `-1074`. -/
  exponent : Int
deriving Repr, DecidableEq

namespace Magnitude

/-- The leading bit of a full mantissa: two to the power of 52. -/
def leadingBit : Nat := 0x10000000000000

/-- The least exponent of a finite value. -/
def leastExponent : Int := -1074

/-- The greatest exponent of a finite value. -/
def greatestExponent : Int := 971

/-- Round the quotient `num / den` to the nearest integer, a half to the even one. -/
def roundHalfEven (num den : Nat) : Nat :=
  let q := num / den
  let r := num % den
  if den < 2 * r || (2 * r = den && q % 2 = 1) then q + 1 else q

/-- `num / den` in units of `2 ^ e`, as a quotient of naturals. -/
def inUnits (num den : Nat) (e : Int) : Nat × Nat :=
  if 0 ≤ e then (num, den * Nat.pow 2 e.toNat) else (num * Nat.pow 2 (-e).toNat, den)

/-- Round a positive quotient to the nearest finite value; nothing when it is too large. -/
def round? (num den : Nat) : Option Magnitude :=
  if num = 0 then some ⟨0, leastExponent⟩
  else
    let k : Int := (num.log2 : Int) - den.log2
    -- The quotient lies between `2 ^ (k - 1)` and `2 ^ (k + 1)`.
    let low := k - 53
    let (n, d) := inUnits num den low
    let e := max (if 2 * leadingBit ≤ n / d then low + 1 else low) leastExponent
    let (n, d) := inUnits num den e
    let m := roundHalfEven n d
    let (m, e) := if m = 2 * leadingBit then (leadingBit, e + 1) else (m, e)
    if greatestExponent < e then none else some ⟨m, e⟩

/-- Round `coefficient · 10 ^ exponent` to the nearest finite value; nothing when it is too large.
A value whose decimal magnitude lies far outside the finite range is decided without computing the
power. -/
def ofDecimal? (coefficient : Nat) (exponent : Int) : Option Magnitude :=
  if coefficient = 0 then some ⟨0, leastExponent⟩
  else
    let digits : Int := (Nat.toDigits 10 coefficient).length
    if 310 < digits + exponent then none
    else if digits + exponent < -400 then some ⟨0, leastExponent⟩
    else if 0 ≤ exponent then round? (coefficient * Nat.pow 10 exponent.toNat) 1
    else round? coefficient (Nat.pow 10 (-exponent).toNat)

/-- The 64 bits of a magnitude with a sign. -/
def bits (negative : Bool) (x : Magnitude) : Nat :=
  let sign := if negative then 2048 * leadingBit else 0
  if x.mantissa < leadingBit then sign + x.mantissa
  else sign + (x.exponent + 1075).toNat * leadingBit + (x.mantissa - leadingBit)

end Magnitude

/-- A double-precision value that is not a NaN. -/
inductive Binary64 where
  /-- A finite value. -/
  | finite (negative : Bool) (magnitude : Magnitude)
  /-- An infinity. -/
  | infinite (negative : Bool)
deriving Repr, DecidableEq

namespace Binary64

/-- Round an exact decimal. -/
def ofExact (x : Exact) : Binary64 :=
  match Magnitude.ofDecimal? x.coefficient x.exponent with
  | some m => .finite x.negative m
  | none => .infinite x.negative

/-- Round a natural number. -/
def ofNat (n : Nat) : Binary64 :=
  match Magnitude.round? n 1 with
  | some m => .finite false m
  | none => .infinite false

/-- The sixteen hexadecimal digits of a value's bits. -/
def hexBits (x : Binary64) : String :=
  let n := match x with
    | .finite negative m => m.bits negative
    | .infinite negative => ((if negative then 2048 else 0) + 2047) * Magnitude.leadingBit
  String.ofList (Text.hexDigits 16 n)

end Binary64

end DocQuery.Decimal
