import DocQuery.Decimal.Shortest
import DocQuery.Proofs.JsonGrammar

/-!
# DocQuery.Proofs.NumberTexts

**What is written for a number is a number literal of JSON**: integers in decimal, and doubles with
the fewest digits that read back, however the digits are laid out.

For doubles the one thing that could go wrong is a leading zero. The digits are those of a natural
number that is searched for on finer and finer decimal grids, so the argument is that the search
never answers zero: zero lies outside the interval of a positive magnitude, and where the search
gives up it answers with a quotient of at least one, since the grid is finer than the first digit of
the value (`pointOf_spec`).
-/

namespace DocQuery.Decimal

open Json (DigitsText WholeText FractionText ExponentText)

/-! ### Natural numbers -/

/-- The digits of a positive number do not start with a zero. -/
theorem exists_toDigits_eq_cons {n : Nat} (hn : 0 < n) :
    ∃ d ds, Nat.toDigits 10 n = d :: ds ∧ d ≠ '0' := by
  induction n using Nat.strongRecOn with
  | ind n ih =>
      by_cases hlt : n < 10
      · refine ⟨n.digitChar, [], Nat.toDigits_of_lt_base hlt, ?_⟩
        interval_cases n <;> decide
      · obtain ⟨d, ds, hds, hd⟩ := ih (n / 10) (by omega) (by omega)
        refine ⟨d, ds ++ [(n % 10).digitChar], ?_, hd⟩
        rw [Nat.toDigits_of_base_le (by omega) (by omega), hds, List.cons_append]

theorem isDigit_of_mem_toDigits {n : Nat} {c : Char} (h : c ∈ Nat.toDigits 10 n) :
    c.isDigit = true :=
  Nat.isDigit_of_mem_toDigits (by omega) (by omega) h

theorem digitsText_toDigits (n : Nat) : DigitsText (Nat.toDigits 10 n) :=
  ⟨Nat.toDigits_ne_nil, fun _ hc => isDigit_of_mem_toDigits hc⟩

theorem digitsText_zero : DigitsText ['0'] := digitsText_toDigits 0

theorem wholeText_toDigits (n : Nat) : WholeText (Nat.toDigits 10 n) := by
  rcases Nat.eq_zero_or_pos n with rfl | hn
  · exact .zero
  · obtain ⟨d, ds, hds, hd⟩ := exists_toDigits_eq_cons hn
    have hdigits : ∀ c ∈ d :: ds, c.isDigit = true := by
      intro c hc
      rw [← hds] at hc
      exact isDigit_of_mem_toDigits hc
    rw [List.forall_mem_cons] at hdigits
    rw [hds]
    exact .digits hdigits.1 hd hdigits.2

/-- A positive number is at least the power of ten of its first digit. -/
theorem pow_length_toDigits_le {n : Nat} (hn : 0 < n) :
    10 ^ ((Nat.toDigits 10 n).length - 1) ≤ n := by
  by_contra hlt
  rcases Nat.lt_or_ge 1 (Nat.toDigits 10 n).length with hlen | hlen
  · have := (Nat.length_toDigits_le_iff (by norm_num) (by omega)).2 (not_le.1 hlt)
    omega
  · rw [show (Nat.toDigits 10 n).length - 1 = 0 by omega, pow_zero] at hlt
    omega

theorem lt_pow_length_toDigits (n : Nat) : n < 10 ^ (Nat.toDigits 10 n).length :=
  (Nat.length_toDigits_le_iff (by norm_num) Nat.length_toDigits_pos).1 le_rfl

/-- A number without a sign: a whole part, and an optional fraction and exponent. -/
def UnsignedText (cs : List Char) : Prop :=
  ∃ whole fraction exponent, cs = whole ++ (fraction ++ exponent) ∧ WholeText whole ∧
    FractionText fraction ∧ ExponentText exponent

/-- A number without a sign is not negative. -/
theorem UnsignedText.ne_minus {cs : List Char} (h : UnsignedText cs) (rest : List Char) :
    cs ≠ '-' :: rest := by
  obtain ⟨whole, fraction, exponent, rfl, hw, -, -⟩ := h
  cases hw with
  | zero => simp
  | @digits d ds hd _ _ =>
      intro heq
      cases heq
      exact absurd hd (by decide)

/-- A number is one without a sign, or a minus sign and one without. -/
theorem numberText_iff {cs : List Char} :
    Json.NumberText cs ↔ ∃ u, UnsignedText u ∧ (cs = u ∨ cs = '-' :: u) := by
  constructor
  · rintro ⟨sign, whole, fraction, exponent, rfl, hsign, hw, hf, he⟩
    refine ⟨_, ⟨whole, fraction, exponent, rfl, hw, hf, he⟩, ?_⟩
    rcases hsign with rfl | rfl
    · exact Or.inl rfl
    · exact Or.inr rfl
  · rintro ⟨u, ⟨whole, fraction, exponent, rfl, hw, hf, he⟩, rfl | rfl⟩
    · exact ⟨[], whole, fraction, exponent, rfl, Or.inl rfl, hw, hf, he⟩
    · exact ⟨['-'], whole, fraction, exponent, rfl, Or.inr rfl, hw, hf, he⟩

/-- A number may have a minus sign. -/
theorem UnsignedText.isNumber {cs : List Char} (h : UnsignedText cs) (negative : Bool) :
    isNumber (String.ofList (if negative then '-' :: cs else cs)) = true := by
  rw [Decimal.isNumber, String.toList_ofList, Json.isNumberChars_iff, numberText_iff]
  cases negative with
  | false => exact ⟨cs, h, Or.inl rfl⟩
  | true => exact ⟨cs, h, Or.inr rfl⟩

theorem unsignedText_toDigits (n : Nat) : UnsignedText (Nat.toDigits 10 n) :=
  ⟨_, [], [], by simp, wholeText_toDigits n, .absent, .absent⟩

/-- An integer is written as the digits of its size, behind a minus sign when it is negative. -/
theorem toList_toString (n : Int) :
    (toString n).toList =
      if n < 0 then '-' :: Nat.toDigits 10 n.natAbs else Nat.toDigits 10 n.natAbs := by
  cases n with
  | ofNat n =>
      have htext : toString (Int.ofNat n) = String.ofList (Nat.toDigits 10 n) :=
        Nat.repr_eq_ofList_toDigits
      rw [htext, String.toList_ofList, if_neg (by simp)]
      rfl
  | negSucc n =>
      have hrepr : toString (Int.negSucc n) = "-" ++ Nat.repr (n + 1) := rfl
      have hdigits : (String.ofList (Nat.toDigits 10 (n + 1))).toList = Nat.toDigits 10 (n + 1) :=
        String.toList_ofList
      rw [hrepr, Nat.repr_eq_ofList_toDigits, String.toList_append, hdigits,
        if_pos (Int.negSucc_lt_zero n)]
      rfl

/-- An integer in decimal is a number literal. -/
theorem isNumber_toString (n : Int) : isNumber (toString n) = true := by
  rw [isNumber, Json.isNumberChars_iff, numberText_iff, toList_toString]
  refine ⟨_, unsignedText_toDigits n.natAbs, ?_⟩
  split
  · exact Or.inr rfl
  · exact Or.inl rfl

/-! ### Negation -/

theorem UnsignedText.negateChars {cs : List Char} (h : UnsignedText cs) :
    negateChars cs = '-' :: cs := by
  rw [Decimal.negateChars]
  exact h.ne_minus

/-- A minus sign more or less leaves a number literal. -/
theorem isNumber_negate {text : String} (h : isNumber text = true) :
    isNumber (negate text) = true := by
  rw [isNumber, Json.isNumberChars_iff, numberText_iff] at h
  obtain ⟨u, hu, htext | htext⟩ := h
  · rw [negate, htext, hu.negateChars]
    exact hu.isNumber true
  · rw [negate, htext]
    exact hu.isNumber false

/-! ### Comparing decimals with quotients -/

/-- Digits of which the first is not zero. -/
def Digits.Leads (d : Digits) : Prop :=
  (∃ c cs, d.digits = c :: cs ∧ c ≠ '0') ∧ ∀ c ∈ d.digits, c.isDigit = true

namespace Shortest

theorem sides_le_iff (a : Nat) (e : Int) (num den : Nat) :
    (sides a e num den).1 ≤ (sides a e num den).2 ↔ (a : ℚ) * 10 ^ e * den ≤ num := by
  unfold sides
  split
  · next he =>
    obtain ⟨k, rfl⟩ := Int.eq_ofNat_of_zero_le he
    simp only [Int.toNat_natCast, zpow_natCast, Nat.pow_eq]
    exact_mod_cast Iff.rfl
  · next he =>
    obtain ⟨k, hk⟩ := Int.eq_ofNat_of_zero_le (show 0 ≤ -e by omega)
    obtain rfl : e = -(k : Int) := by omega
    simp only [neg_neg, Int.toNat_natCast, Nat.pow_eq, zpow_neg, zpow_natCast]
    rw [mul_assoc, ← div_eq_inv_mul, ← mul_div_assoc, div_le_iff₀ (by positivity)]
    exact_mod_cast Iff.rfl

theorem sides_fst_pos {a : Nat} (e : Int) (num : Nat) {den : Nat} (ha : 0 < a) (hden : 0 < den) :
    0 < (sides a e num den).1 := by
  unfold sides
  split
  · exact Nat.mul_pos (Nat.mul_pos ha (Nat.pow_pos (by norm_num))) hden
  · exact Nat.mul_pos ha hden

/-- **The first digit of a quotient** stands for no more than the quotient. -/
theorem pointOf_spec {num : Nat} (hnum : 0 < num) (den : Nat) :
    (10 : ℚ) ^ (pointOf num den - 1) * den ≤ num := by
  have hlong := pow_length_toDigits_le hnum
  have hshort := lt_pow_length_toDigits den
  have hlength : 0 < (Nat.toDigits 10 num).length := Nat.length_toDigits_pos
  unfold pointOf
  simp only
  split
  · -- the numbers of digits alone give the bound
    calc (10 : ℚ) ^ (((Nat.toDigits 10 num).length : Int) - (Nat.toDigits 10 den).length - 1) * den
        ≤ 10 ^ (((Nat.toDigits 10 num).length : Int) - (Nat.toDigits 10 den).length - 1) *
            10 ^ (Nat.toDigits 10 den).length := by
          gcongr
          exact_mod_cast hshort.le
      _ = 10 ^ ((Nat.toDigits 10 num).length - 1) := by
          rw [← zpow_natCast, ← zpow_natCast, ← zpow_add₀ (by norm_num)]
          congr 1
          omega
      _ ≤ num := by exact_mod_cast hlong
  · next hle =>
    have hcompare := (sides_le_iff 1 _ num den).1 (not_lt.1 hle)
    rw [Nat.cast_one, one_mul] at hcompare
    rwa [add_sub_cancel_right]

/-- Where a grid is finer than the first digit, the quotient in units of the grid is positive. -/
theorem quotient_pos {num den : Nat} (hnum : 0 < num) (hden : 0 < den) {n : Nat} (hn : 1 ≤ n) :
    0 < (sides 1 (pointOf num den - n) num den).2 / (sides 1 (pointOf num den - n) num den).1 := by
  refine Nat.div_pos ?_ (sides_fst_pos _ _ Nat.one_pos hden)
  rw [sides_le_iff, Nat.cast_one, one_mul]
  refine le_trans ?_ (pointOf_spec hnum den)
  gcongr
  · norm_num
  · omega

/-! ### The search for digits -/

/-- Zero lies outside an interval above zero. -/
theorem contains_zero {i : Interval} (hlow : 0 < i.low) (e : Int) : i.contains 0 e = false := by
  have hfst : (sides 0 e i.low i.den).1 = 0 := by
    unfold sides
    split <;> simp
  have hsnd : 0 < (sides 0 e i.low i.den).2 := by
    unfold sides
    split
    · exact hlow
    · exact Nat.mul_pos hlow (Nat.pow_pos (by norm_num))
  unfold Interval.contains
  simp only [hfst]
  split
  · rw [Bool.and_eq_false_iff]
    exact Or.inl (decide_eq_false (by omega))
  · rw [Bool.and_eq_false_iff]
    exact Or.inl (decide_eq_false (by omega))

theorem onGrid?_pos {i : Interval} (hlow : 0 < i.low) {point : Int} {n : Nat} {hit : Nat × Int}
    (h : onGrid? i point n = some hit) : 0 < hit.1 := by
  -- a neighbour below the value is answered only when it lies in the interval
  have hdown : ∀ {down : Nat} {e : Int}, i.contains down e = true → 0 < down := by
    intro down e hin
    refine Nat.pos_of_ne_zero ?_
    rintro rfl
    rw [contains_zero hlow] at hin
    cases hin
  unfold onGrid? at h
  simp only at h
  split at h
  · next hin =>
    cases h
    exact hdown (Bool.and_eq_true_iff.1 hin).1
  · split at h
    · cases h
      exact Nat.succ_pos _
    · split at h
      · next hin =>
        cases h
        split
        · exact hdown (Bool.and_eq_true_iff.1 hin).1
        · exact Nat.succ_pos _
      · cases h

theorem search_pos {i : Interval} (hlow : 0 < i.low) (hvalue : 0 < i.value) (hden : 0 < i.den)
    (tries : Nat) {n : Nat} (hn : 1 ≤ n) :
    0 < (search i (pointOf i.value i.den) tries n).1 := by
  induction tries generalizing n with
  | zero => exact quotient_pos hvalue hden hn
  | succ tries ih =>
      rw [search]
      split
      · next hit hhit => exact onGrid?_pos hlow hhit
      · exact ih (by omega)

theorem digits_leads {x : Magnitude} (hx : 0 < x.mantissa) : (digits x).Leads := by
  have hup : 0 < if 0 ≤ x.exponent then Nat.pow 2 x.exponent.toNat else 1 := by
    split
    · exact Nat.pow_pos (by norm_num)
    · norm_num
  have hdown : 0 < if 0 ≤ x.exponent then 1 else Nat.pow 2 (-x.exponent).toNat := by
    split
    · norm_num
    · exact Nat.pow_pos (by norm_num)
  have hlow : 0 < (interval x).low := by
    refine Nat.mul_pos ?_ hup
    split <;> omega
  have hvalue : 0 < (interval x).value := Nat.mul_pos (by omega) hup
  have hden : 0 < (interval x).den := Nat.mul_pos (by norm_num) hdown
  have hpos := search_pos hlow hvalue hden 17 (n := 1) le_rfl
  obtain ⟨d, ds, hds, hd⟩ := exists_toDigits_eq_cons hpos
  -- dropping zeros at the end leaves a beginning, and not an empty one
  have hbegin := List.rdropWhile_prefix (· == '0')
    (Nat.toDigits 10 (search (interval x) (pointOf (interval x).value (interval x).den) 17 1).1)
  have hdigits : (digits x).digits = List.rdropWhile (· == '0')
    (Nat.toDigits 10 (search (interval x) (pointOf (interval x).value (interval x).den) 17 1).1) :=
    rfl
  rw [← hdigits] at hbegin
  refine ⟨?_, fun c hc => isDigit_of_mem_toDigits (hbegin.subset hc)⟩
  cases hcases : (digits x).digits with
  | nil =>
      rw [hdigits, List.rdropWhile_eq_nil_iff, hds] at hcases
      have := hcases d (by simp)
      simp only [beq_iff_eq] at this
      exact absurd this hd
  | cons c cs =>
      rw [hcases, hds] at hbegin
      obtain ⟨rfl, -⟩ := List.cons_prefix_cons.1 hbegin
      exact ⟨c, cs, rfl, hd⟩

end Shortest

/-! ### Layouts -/

namespace Layout

/-- Whether the letter that marks an exponent is one that JSON knows. -/
def MarksExponent (l : Layout) : Prop := l.mark = 'e' ∨ l.mark = 'E'

theorem digitsText_twoDigits (n : Nat) : DigitsText (twoDigits n) := by
  unfold twoDigits
  split
  · refine ⟨List.cons_ne_nil _ _, ?_⟩
    rw [List.forall_mem_cons]
    exact ⟨by decide, (digitsText_toDigits n).2⟩
  · exact digitsText_toDigits n

/-- What stands behind the point: nothing, or a point and the digits. -/
theorem fractionText_of_digits {ds : List Char} (hds : ∀ c ∈ ds, c.isDigit = true) :
    FractionText (if ds.isEmpty then [] else '.' :: ds) := by
  cases ds with
  | nil => exact .absent
  | cons d ds => exact .present ⟨List.cons_ne_nil d ds, hds⟩

theorem isDigit_of_mem_replicate {n : Nat} {c : Char} (h : c ∈ List.replicate n '0') :
    c.isDigit = true := by
  rw [(List.mem_replicate.1 h).2]
  decide

/-- **Digits that do not start with zero make a number**, with whatever place of the point. -/
theorem unsignedText_place {l : Layout} (hl : l.MarksExponent) {d : Digits} (hd : d.Leads) :
    UnsignedText (l.place d) := by
  obtain ⟨⟨c, cs, hcs, hc⟩, hdigits⟩ := hd
  have hdrop (n : Nat) : ∀ x ∈ d.digits.drop n, x.isDigit = true :=
    fun x hx => hdigits x (List.mem_of_mem_drop hx)
  have hfirst : c.isDigit = true := hdigits c (by rw [hcs]; exact List.mem_cons_self)
  unfold place
  simp only
  split
  · -- one digit before the point, and an exponent
    refine ⟨[c], _, [l.mark, if d.point - 1 < 0 then '-' else '+'] ++
      twoDigits (d.point - 1).natAbs, ?_, .digits hfirst hc (by simp),
      fractionText_of_digits (hdrop 1), .signed hl ?_ (digitsText_twoDigits _)⟩
    · rw [hcs]
      simp
    · split
      · exact Or.inr rfl
      · exact Or.inl rfl
  · split
    · -- nothing before the point
      refine ⟨['0'], '.' :: (List.replicate (-d.point).toNat '0' ++ d.digits), [], by simp,
        .zero, .present ⟨by simp [hcs], ?_⟩, .absent⟩
      intro x hx
      rcases List.mem_append.1 hx with hx | hx
      · exact isDigit_of_mem_replicate hx
      · exact hdigits x hx
    · next hpoint =>
      -- the first digit stands before the point
      obtain ⟨n, hn⟩ : ∃ n, d.point.toNat = n + 1 := ⟨d.point.toNat - 1, by omega⟩
      have hwhole : WholeText (d.digits.take d.point.toNat ++
          List.replicate (d.point.toNat - d.digits.length) '0') := by
        rw [hn, hcs, List.take_succ_cons, List.cons_append]
        refine .digits hfirst hc ?_
        intro x hx
        rcases List.mem_append.1 hx with hx | hx
        · exact hdigits x (by rw [hcs]; exact List.mem_cons_of_mem _ (List.mem_of_mem_take hx))
        · exact isDigit_of_mem_replicate hx
      split
      · next hfraction =>
        refine ⟨_, '.' :: d.digits.drop d.point.toNat, [], by simp, hwhole,
          .present ⟨?_, hdrop _⟩, .absent⟩
        simpa using hfraction
      · split
        · exact ⟨_, ['.', '0'], [], by simp, hwhole,
            .present digitsText_zero, .absent⟩
        · exact ⟨_, [], [], by simp, hwhole, .absent, .absent⟩

/-- **A finite double is written as a number literal.** -/
theorem isNumber_write {l : Layout} (hl : l.MarksExponent) (negative : Bool) (x : Magnitude) :
    isNumber (l.write negative x) = true := by
  refine UnsignedText.isNumber ?_ negative
  split
  · split
    · exact ⟨['0'], ['.', '0'], [], rfl, .zero, .present digitsText_zero, .absent⟩
    · exact ⟨['0'], [], [], rfl, .zero, .absent, .absent⟩
  · next hx => exact unsignedText_place hl (Shortest.digits_leads (Nat.pos_of_ne_zero hx))

end Layout

end DocQuery.Decimal
