import DocQuery.Proofs.NumberTexts
import DocQuery.Proofs.ScriptLiterals

/-!
# DocQuery.Proofs.DoubleRange

**Which decimals are too large for a double**: those from `2 ^ 1024 - 2 ^ 970` on
(`Binary64.ofExact_cases`). The largest finite double is `2 ^ 1024 - 2 ^ 971`, so that number
lies half way between it and the power of two where the next double would be, and a half goes to the
even mantissa, which is the power's.

A quotient is rounded in units of a power of two. The argument looks at the exponent of that unit
alone (`unitExponent_spec`): beyond the greatest exponent the quotient is beyond the bound, below it
the quotient is below the bound even when rounding carries, and at the greatest exponent the mantissa
carries exactly from the bound on (`roundHalfEven_eq_iff`).
-/

namespace DocQuery.Decimal

namespace Magnitude

/-! ### Units -/

theorem inUnits_snd_pos (num : Nat) {den : Nat} (hden : 0 < den) (e : Int) :
    0 < (inUnits num den e).2 := by
  unfold inUnits
  split
  · exact Nat.mul_pos hden (Nat.pow_pos (by norm_num))
  · exact hden

theorem inUnits_div (num den : Nat) (e : Int) :
    ((inUnits num den e).1 : ℚ) / (inUnits num den e).2 = num / den / 2 ^ e := by
  unfold inUnits
  split
  · next he =>
    obtain ⟨k, rfl⟩ := Int.eq_ofNat_of_zero_le he
    simp only [Int.toNat_natCast, zpow_natCast, Nat.pow_eq]
    push_cast
    rw [div_div]
  · next he =>
    obtain ⟨k, hk⟩ := Int.eq_ofNat_of_zero_le (show 0 ≤ -e by omega)
    obtain rfl : e = -(k : Int) := by omega
    simp only [neg_neg, Int.toNat_natCast, Nat.pow_eq, zpow_neg, zpow_natCast]
    push_cast
    rw [div_inv_eq_mul, div_mul_eq_mul_div]

/-- A quotient counted in units is at least a whole number exactly when its floor is. -/
theorem le_inUnits_iff (num : Nat) {den : Nat} (hden : 0 < den) (e : Int) (m : Nat) :
    m ≤ (inUnits num den e).1 / (inUnits num den e).2 ↔ (m : ℚ) * 2 ^ e ≤ num / den := by
  have hpos := inUnits_snd_pos num hden e
  rw [Nat.le_div_iff_mul_le hpos, ← le_div_iff₀ (by positivity), ← inUnits_div,
    le_div_iff₀ (by exact_mod_cast hpos)]
  exact_mod_cast Iff.rfl

/-- The binary logarithms give the size of a quotient within a factor of two to either side. -/
theorem quotient_bounds {num den : Nat} (hnum : 0 < num) (hden : 0 < den) :
    (2 : ℚ) ^ ((num.log2 : Int) - den.log2 - 1) ≤ num / den ∧
      (num : ℚ) / den < 2 ^ ((num.log2 : Int) - den.log2 + 1) := by
  have hdenPos : (0 : ℚ) < den := by exact_mod_cast hden
  have hnumLow : (2 : ℚ) ^ (num.log2 : Int) ≤ num := by
    exact_mod_cast Nat.log2_self_le hnum.ne'
  have hnumHigh : (num : ℚ) < 2 ^ ((num.log2 : Int) + 1) := by
    exact_mod_cast Nat.lt_log2_self
  have hdenLow : (2 : ℚ) ^ (den.log2 : Int) ≤ den := by
    exact_mod_cast Nat.log2_self_le hden.ne'
  have hdenHigh : (den : ℚ) < 2 ^ ((den.log2 : Int) + 1) := by
    exact_mod_cast Nat.lt_log2_self
  constructor
  · rw [le_div_iff₀ hdenPos]
    calc (2 : ℚ) ^ ((num.log2 : Int) - den.log2 - 1) * den
        ≤ 2 ^ ((num.log2 : Int) - den.log2 - 1) * 2 ^ ((den.log2 : Int) + 1) := by gcongr
      _ = 2 ^ (num.log2 : Int) := by
          rw [← zpow_add₀ (by norm_num)]
          congr 1
          omega
      _ ≤ num := hnumLow
  · rw [div_lt_iff₀ hdenPos]
    calc (num : ℚ) < 2 ^ ((num.log2 : Int) + 1) := hnumHigh
      _ = 2 ^ ((num.log2 : Int) - den.log2 + 1) * 2 ^ (den.log2 : Int) := by
          rw [← zpow_add₀ (by norm_num)]
          congr 1
          omega
      _ ≤ 2 ^ ((num.log2 : Int) - den.log2 + 1) * den := by gcongr

/-- The exponent of the unit in which a quotient is rounded. -/
def unitExponent (num den : Nat) : Int :=
  let low : Int := (num.log2 : Int) - den.log2 - 53
  max (if 2 * leadingBit ≤ (inUnits num den low).1 / (inUnits num den low).2 then low + 1 else low)
    leastExponent

/-- In its unit a quotient has at most 53 bits before the point, and as many unless the unit is the
least one. -/
theorem unitExponent_spec {num den : Nat} (hnum : 0 < num) (hden : 0 < den) :
    (num : ℚ) / den < 2 ^ (unitExponent num den + 53) ∧
      (2 ^ (unitExponent num den + 52) ≤ (num : ℚ) / den ∨
        unitExponent num den = leastExponent) := by
  obtain ⟨hlow, hhigh⟩ := quotient_bounds hnum hden
  -- raising the exponent to the least one keeps the upper bound
  have hraise : ∀ e : Int, (num : ℚ) / den < 2 ^ (e + 53) → 2 ^ (e + 52) ≤ (num : ℚ) / den →
      (num : ℚ) / den < 2 ^ (max e leastExponent + 53) ∧
        (2 ^ (max e leastExponent + 52) ≤ (num : ℚ) / den ∨
          max e leastExponent = leastExponent) := by
    intro e hlt hle
    refine ⟨hlt.trans_le (zpow_le_zpow_right₀ (by norm_num) (by omega)), ?_⟩
    rcases max_choice e leastExponent with hmax | hmax
    · rw [hmax]
      exact Or.inl hle
    · exact Or.inr hmax
  have hbits : ∀ e : Int, ((2 * leadingBit : Nat) : ℚ) * 2 ^ e = 2 ^ (e + 53) := by
    intro e
    rw [zpow_add₀ (by norm_num), mul_comm]
    norm_num [leadingBit]
  unfold unitExponent
  simp only [le_inUnits_iff num hden, hbits]
  split
  · next hfull =>
    refine hraise _ ?_ ?_
    · rwa [show (num.log2 : Int) - den.log2 - 53 + 1 + 53 = num.log2 - den.log2 + 1 by ring]
    · rwa [show (num.log2 : Int) - den.log2 - 53 + 1 + 52 = num.log2 - den.log2 - 53 + 53 by ring]
  · next hfull =>
    refine hraise _ (not_le.1 hfull) ?_
    rwa [show (num.log2 : Int) - den.log2 - 53 + 52 = num.log2 - den.log2 - 1 by ring]

/-! ### Rounding -/

/-- A quotient of 53 bits is rounded up to 54 bits exactly from the last half on: the greatest
mantissa is odd, so a tie goes up. -/
theorem roundHalfEven_eq_iff {num den : Nat} (hden : 0 < den) (hlt : num < 2 * leadingBit * den) :
    roundHalfEven num den = 2 * leadingBit ↔ (4 * leadingBit - 1) * den ≤ 2 * num := by
  have hsplit := Nat.div_add_mod num den
  have hrest := Nat.mod_lt num hden
  have hquotient : num / den < 2 * leadingBit := (Nat.div_lt_iff_lt_mul hden).2 hlt
  unfold roundHalfEven
  simp only [Bool.or_eq_true, Bool.and_eq_true, decide_eq_true_eq]
  generalize num / den = q at *
  generalize num % den = r at *
  rcases Nat.lt_or_ge (q + 1) (2 * leadingBit) with hq | hq
  · -- too far below to be rounded up so high
    have hbelow : den * q + den ≤ den * (2 * leadingBit - 1) :=
      Nat.mul_le_mul_left den (show q + 1 ≤ 2 * leadingBit - 1 by omega)
    unfold leadingBit at *
    constructor
    · intro h
      split at h <;> omega
    · intro h
      omega
  · obtain rfl : q = 2 * leadingBit - 1 := by omega
    unfold leadingBit at *
    constructor
    · intro h
      split at h <;> omega
    · intro h
      rw [if_pos (by omega)]

/-- Rounding fails when the exponent, after a carry, is beyond the greatest. -/
theorem round?_eq_none_iff_exponent {num den : Nat} (hnum : 0 < num) :
    round? num den = none ↔ greatestExponent < unitExponent num den ∨
      unitExponent num den = greatestExponent ∧
        roundHalfEven (inUnits num den greatestExponent).1 (inUnits num den greatestExponent).2 =
          2 * leadingBit := by
  have hround : round? num den =
      let unit := inUnits num den (unitExponent num den)
      let carried : Nat × Int := if roundHalfEven unit.1 unit.2 = 2 * leadingBit then
        (leadingBit, unitExponent num den + 1)
        else (roundHalfEven unit.1 unit.2, unitExponent num den)
      if greatestExponent < carried.2 then none else some ⟨carried.1, carried.2⟩ := by
    unfold round?
    rw [if_neg hnum.ne']
    rfl
  rw [hround]
  simp only
  by_cases hcarry : roundHalfEven (inUnits num den (unitExponent num den)).1
      (inUnits num den (unitExponent num den)).2 = 2 * leadingBit
  · rw [if_pos hcarry]
    simp only [ite_eq_left_iff, reduceCtorEq, imp_false, not_not]
    constructor
    · intro hlt
      rcases (show greatestExponent ≤ unitExponent num den by omega).lt_or_eq with hbeyond | heq
      · exact Or.inl hbeyond
      · rw [← heq] at hcarry
        exact Or.inr ⟨heq.symm, hcarry⟩
    · rintro (hbeyond | ⟨heq, -⟩)
      · omega
      · omega
  · rw [if_neg hcarry]
    simp only [ite_eq_left_iff, reduceCtorEq, imp_false, not_not]
    refine ⟨Or.inl, ?_⟩
    rintro (hbeyond | ⟨heq, hcarry'⟩)
    · exact hbeyond
    · rw [← heq] at hcarry'
      exact absurd hcarry' hcarry

/-- Where doubles end: `2 ^ 1024 - 2 ^ 970`, half way between the greatest finite one and the power
of two after it. -/
def overflowBound : ℚ := (2 ^ 54 - 1) * 2 ^ (970 : Int)

/-- At the greatest exponent rounding carries from the overflow bound on. -/
theorem carry_iff {num den : Nat} (hden : 0 < den)
    (hlt : (num : ℚ) / den < 2 ^ (greatestExponent + 53)) :
    roundHalfEven (inUnits num den greatestExponent).1 (inUnits num den greatestExponent).2 =
      2 * leadingBit ↔ overflowBound ≤ (num : ℚ) / den := by
  have hpos := inUnits_snd_pos num hden greatestExponent
  have hunits := inUnits_div num den greatestExponent
  generalize (inUnits num den greatestExponent).1 = n at *
  generalize (inUnits num den greatestExponent).2 = d at *
  have hdPos : (0 : ℚ) < d := by exact_mod_cast hpos
  have hvalue : (num : ℚ) / den = 2 * n / d * 2 ^ (970 : Int) := by
    rw [eq_div_iff (by positivity)] at hunits
    rw [← hunits, show greatestExponent = 970 + 1 from rfl, zpow_add_one₀ (by norm_num)]
    ring
  have hbits : n < 2 * leadingBit * d := by
    have hunder : (n : ℚ) / d < 2 ^ (53 : Int) := by
      rw [hunits, div_lt_iff₀ (by positivity), ← zpow_add₀ (by norm_num), add_comm]
      exact hlt
    rw [div_lt_iff₀ hdPos] at hunder
    have hbits : (2 : ℚ) ^ (53 : Int) = ((2 * leadingBit : Nat) : ℚ) := by norm_num [leadingBit]
    rw [hbits] at hunder
    exact_mod_cast hunder
  rw [roundHalfEven_eq_iff hpos hbits, hvalue, overflowBound,
    mul_le_mul_iff_left₀ (by positivity), le_div_iff₀ hdPos]
  have hmantissa : ((2 : ℚ) ^ 54 - 1) = ((4 * leadingBit - 1 : Nat) : ℚ) := by norm_num [leadingBit]
  rw [hmantissa]
  exact_mod_cast Iff.rfl

/-- **A quotient is too large for a double** exactly from the overflow bound on. -/
theorem round?_eq_none_iff {num den : Nat} (hnum : 0 < num) (hden : 0 < den) :
    round? num den = none ↔ overflowBound ≤ (num : ℚ) / den := by
  obtain ⟨hhigh, hlow⟩ := unitExponent_spec hnum hden
  rw [round?_eq_none_iff_exponent hnum]
  rcases lt_trichotomy (unitExponent num den) greatestExponent with hlt | heq | hgt
  · have hbelow : (num : ℚ) / den < overflowBound :=
      calc (num : ℚ) / den < 2 ^ (unitExponent num den + 53) := hhigh
        _ ≤ 2 ^ (53 + 970 : Int) :=
            zpow_le_zpow_right₀ (by norm_num) (by unfold greatestExponent at hlt; omega)
        _ = 2 ^ (53 : Int) * 2 ^ (970 : Int) := zpow_add₀ (by norm_num) _ _
        _ ≤ overflowBound := mul_le_mul_of_nonneg_right (by norm_num) (by positivity)
    refine iff_of_false ?_ (not_le.2 hbelow)
    rintro (hgt | ⟨heq, -⟩)
    · exact lt_asymm hlt hgt
    · exact hlt.ne heq
  · rw [heq] at hhigh
    rw [← carry_iff hden hhigh]
    exact ⟨fun h => (h.resolve_left heq.not_gt).2, fun hcarry => Or.inr ⟨heq, hcarry⟩⟩
  · have hnotLeast : unitExponent num den ≠ leastExponent := by
      unfold greatestExponent at hgt
      unfold leastExponent
      omega
    refine iff_of_true (Or.inl hgt) ?_
    calc overflowBound ≤ 2 ^ (54 : Int) * 2 ^ (970 : Int) :=
          mul_le_mul_of_nonneg_right (by norm_num) (by positivity)
      _ = 2 ^ (54 + 970 : Int) := (zpow_add₀ (by norm_num) _ _).symm
      _ ≤ 2 ^ (unitExponent num den + 52) :=
          zpow_le_zpow_right₀ (by norm_num) (by unfold greatestExponent at hgt; omega)
      _ ≤ num / den := hlow.resolve_right hnotLeast

theorem one_lt_overflowBound : 1 < overflowBound :=
  one_lt_mul_of_lt_of_le (by norm_num) (one_le_zpow₀ (by norm_num) (by norm_num))

theorem overflowBound_le : overflowBound ≤ 10 ^ (310 : Int) := by
  have hpower : 2 ^ (54 + 970) ≤ 10 ^ 310 := by decide +kernel
  calc overflowBound ≤ 2 ^ (54 : Int) * 2 ^ (970 : Int) :=
        mul_le_mul_of_nonneg_right (by norm_num) (by positivity)
    _ = 2 ^ ((54 + 970 : Nat) : Int) := (zpow_add₀ (by norm_num) _ _).symm
    _ ≤ 10 ^ ((310 : Nat) : Int) := by
        rw [zpow_natCast, zpow_natCast]
        exact_mod_cast hpower

/-- **A decimal is too large for a double** exactly from the overflow bound on. The two shortcuts by
the number of digits agree with that. -/
theorem ofDecimal?_eq_none_iff (coefficient : Nat) (exponent : Int) :
    ofDecimal? coefficient exponent = none ↔
      overflowBound ≤ (coefficient : ℚ) * 10 ^ exponent := by
  unfold ofDecimal?
  split
  · next hzero =>
    rw [hzero, Nat.cast_zero, zero_mul]
    exact iff_of_false (by simp) (not_le.2 (one_pos.trans one_lt_overflowBound))
  next hzero =>
  have hpos : 0 < coefficient := Nat.pos_of_ne_zero hzero
  have hlength : 0 < (Nat.toDigits 10 coefficient).length := Nat.length_toDigits_pos
  have hten : ∀ k, 0 < Nat.pow 10 k := fun k => Nat.pow_pos (by norm_num)
  simp only
  split
  · next hlarge =>
    refine iff_of_true rfl ?_
    calc overflowBound ≤ 10 ^ (310 : Int) := overflowBound_le
      _ ≤ 10 ^ (((Nat.toDigits 10 coefficient).length : Int) - 1 + exponent) :=
          zpow_le_zpow_right₀ (by norm_num) (by omega)
      _ = 10 ^ (((Nat.toDigits 10 coefficient).length - 1 : Nat) : Int) * 10 ^ exponent := by
          rw [zpow_add₀ (by norm_num), Nat.cast_sub hlength, Nat.cast_one]
      _ ≤ coefficient * 10 ^ exponent := by
          gcongr
          exact_mod_cast pow_length_toDigits_le hpos
  split
  · next hsmall =>
    refine iff_of_false (by simp) (not_le.2 ?_)
    calc (coefficient : ℚ) * 10 ^ exponent
        ≤ 10 ^ ((Nat.toDigits 10 coefficient).length : Int) * 10 ^ exponent := by
          gcongr
          exact_mod_cast (lt_pow_length_toDigits coefficient).le
      _ = 10 ^ (((Nat.toDigits 10 coefficient).length : Int) + exponent) :=
          (zpow_add₀ (by norm_num) _ _).symm
      _ ≤ 1 := zpow_le_one_of_nonpos₀ (by norm_num) (by omega)
      _ < overflowBound := one_lt_overflowBound
  split
  · next hexponent =>
    obtain ⟨k, rfl⟩ := Int.eq_ofNat_of_zero_le hexponent
    rw [round?_eq_none_iff (Nat.mul_pos hpos (hten _)) Nat.one_pos]
    simp only [Int.toNat_natCast, Nat.pow_eq, Nat.cast_mul, Nat.cast_pow, Nat.cast_ofNat,
      Nat.cast_one, div_one, zpow_natCast]
  · next hexponent =>
    obtain ⟨k, hk⟩ := Int.eq_ofNat_of_zero_le (show 0 ≤ -exponent by omega)
    obtain rfl : exponent = -(k : Int) := by omega
    rw [round?_eq_none_iff hpos (hten _)]
    simp only [neg_neg, Int.toNat_natCast, Nat.pow_eq, Nat.cast_pow, Nat.cast_ofNat, zpow_neg,
      zpow_natCast, div_eq_mul_inv]

end Magnitude

/-! ### Literals -/

/-- The value of a decimal, its sign aside. -/
def Exact.size (x : Exact) : ℚ := x.coefficient * 10 ^ x.exponent

/-- **A decimal is rounded to a finite double below the overflow bound**, and to infinity from there
on. -/
theorem Binary64.ofExact_cases (x : Exact) :
    (∃ m, ofExact x = .finite x.negative m ∧ x.size < Magnitude.overflowBound) ∨
      ofExact x = .infinite x.negative ∧ Magnitude.overflowBound ≤ x.size := by
  rw [Exact.size, ← Magnitude.ofDecimal?_eq_none_iff, ← not_le, ← Magnitude.ofDecimal?_eq_none_iff]
  unfold ofExact
  cases h : Magnitude.ofDecimal? x.coefficient x.exponent with
  | none => exact Or.inr ⟨rfl, rfl⟩
  | some m => exact Or.inl ⟨m, rfl, by simp⟩

/-- A minus sign in front of a number makes its value negative. -/
theorem Exact.read?_minus {d : Char} (hd : d.isDigit = true) (cs : List Char) :
    Exact.read? ('-' :: d :: cs) =
      (Exact.read? (d :: cs)).map fun x => { x with negative := true } := by
  have hunderscores : underscoresSeparate false ('-' :: d :: cs) =
      underscoresSeparate false (d :: cs) := rfl
  have hkeep : (d :: cs).filter (· != '_') = d :: cs.filter (· != '_') :=
    List.filter_cons_of_pos (by simpa using Script.ne_underscore_of_isDigit hd)
  have hminus : ('-' :: d :: cs).filter (· != '_') = '-' :: d :: cs.filter (· != '_') := by
    rw [List.filter_cons_of_pos (by decide), hkeep]
  unfold Exact.read?
  rw [hunderscores, hminus, hkeep, Script.splitSign_digit hd]
  simp only [splitSign, List.takeWhile_cons_of_pos hd, List.isEmpty_cons, Bool.false_and,
    Bool.false_eq_true, if_false]
  split
  · rfl
  · rw [Option.map_map]
    rfl

/-- Every number literal has an exact value. -/
theorem exists_read?_of_numberText {cs : List Char} (h : Json.NumberText cs) :
    ∃ x, Exact.read? cs = some x := by
  obtain ⟨sign, whole, fraction, exponent, rfl, hsign, hw, hf, he⟩ := h
  obtain ⟨x, hx⟩ := Option.isSome_iff_exists.1 (Script.exact_read?_isSome hw hf he)
  rcases hsign with rfl | rfl
  · exact ⟨x, hx⟩
  · obtain ⟨d, ds, rfl, hd⟩ : ∃ d ds, whole = d :: ds ∧ d.isDigit = true := by
      cases hw with
      | zero => exact ⟨'0', [], rfl, rfl⟩
      | digits hd _ _ => exact ⟨_, _, rfl, hd⟩
    rw [List.cons_append] at hx
    rw [List.singleton_append, List.cons_append, Exact.read?_minus hd, hx]
    exact ⟨_, rfl⟩

end DocQuery.Decimal
