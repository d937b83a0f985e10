import DocQuery.Proofs.NumberValues
import DocQuery.Proofs.RefusedValues

/-!
# DocQuery.Proofs.DriverValues

**What a driver value holds.** `DriverForm` pairs a value with the driver value that stands for it:
documents keep their keys in order, nesting is kept, and everything but numbers is unchanged. A
number becomes a 64-bit integer exactly when its literal has neither fraction nor exponent and its
exact value is in range, whatever the length of the literal; the integer is that value. Every other
number becomes a double.

The one thing to check about numbers is that the integer read from the digits of a literal is the
value of the literal (`literalValue_integer`). Its range is then decided on an integer of any size,
so that nothing can wrap.
-/

namespace DocQuery

namespace Decimal

open Json (FractionText ExponentText)

/-! ### Integer literals -/

/-- The characters of an integer literal: none starts a fraction or an exponent. -/
def IsPlain (cs : List Char) : Prop :=
  cs.all (fun c => !(c == '.' || c == 'e' || c == 'E')) = true

/-- A literal without fraction and exponent is a whole part behind an optional sign. -/
theorem eq_nil_of_isPlain {whole fraction exponent : List Char}
    (h : IsPlain (whole ++ (fraction ++ exponent))) (hf : FractionText fraction)
    (he : ExponentText exponent) : fraction = [] ∧ exponent = [] := by
  rw [IsPlain, List.all_append, List.all_append, Bool.and_eq_true, Bool.and_eq_true] at h
  obtain ⟨-, hfraction, hexponent⟩ := h
  constructor
  · cases hf with
    | absent => rfl
    | present _ => simp at hfraction
  · cases he with
    | absent => rfl
    | unsigned he _ => rcases he with rfl | rfl <;> simp at hexponent
    | signed he _ _ => rcases he with rfl | rfl <;> simp at hexponent

theorem unsignedValue_integer {u : List Char} (hu : UnsignedText u) (h : IsPlain u) :
    unsignedValue u = natOfDigits u := by
  obtain ⟨whole, fraction, exponent, rfl, hw, hf, he⟩ := hu
  obtain ⟨rfl, rfl⟩ := eq_nil_of_isPlain h hf he
  rw [unsignedValue_parts hw hf he, placeValue]
  simp [exponentValue]

/-- **The integer read from an integer literal is its value.** -/
theorem literalValue_integer {text : String} (h : isNumber text = true)
    (hint : isInteger text = true) : literalValue text.toList = Bson.integerValue text := by
  rw [isNumber, Json.isNumberChars_iff, numberText_iff] at h
  rw [isInteger] at hint
  obtain ⟨u, hu, htext | htext⟩ := h
  · rw [htext] at hint
    have hread : Bson.integerValue text = natOfDigits u := by
      unfold Bson.integerValue
      rw [htext]
      split
      · next digits => exact absurd rfl (hu.ne_minus digits)
      · rfl
    rw [htext, hread, literalValue_unsigned hu, unsignedValue_integer hu hint, Int.cast_natCast]
  · rw [htext, List.all_cons, Bool.and_eq_true] at hint
    have hread : Bson.integerValue text = -(natOfDigits u : Int) := by
      unfold Bson.integerValue
      rw [htext]
      rfl
    rw [htext, hread, literalValue_minus, unsignedValue_integer hu hint.2, Int.cast_neg,
      Int.cast_natCast]

theorem natOfDigits_toDigits (n : Nat) : natOfDigits (Nat.toDigits 10 n) = n :=
  Nat.ofDigitChars_toDigits (by norm_num) (by norm_num)

end Decimal

open Decimal

/-! ### Driver values -/

/-- A number literal without fraction and exponent that is worth the integer `n`, which has 64
bits. -/
structure Int64Literal (text : String) (n : Int) : Prop where
  /-- It is a number literal. -/
  number : isNumber text = true
  /-- It has no fraction and no exponent. -/
  integer : isInteger text = true
  /-- Its exact value. -/
  value : literalValue text.toList = n
  /-- The least integer of 64 bits is a bound. -/
  lower : -2 ^ 63 ≤ n
  /-- The greatest integer of 64 bits is a bound. -/
  upper : n ≤ 2 ^ 63 - 1

/-- Elements with the same key. -/
inductive SameKey (Form : Value → Bson → Prop) : String × Value → String × Bson → Prop where
  /-- What the key holds may differ. -/
  | mk {key : String} {v : Value} {b : Bson} (h : Form v b) : SameKey Form (key, v) (key, b)

/-- **The driver value that stands for a value.** -/
inductive DriverForm : Value → Bson → Prop where
  /-- Null is unchanged. -/
  | null : DriverForm .null .null
  /-- A boolean is unchanged. -/
  | bool (b : Bool) : DriverForm (.bool b) (.bool b)
  /-- A string is unchanged. -/
  | string (s : String) : DriverForm (.string s) (.string s)
  /-- An integer of 64 bits. -/
  | int64 {text : String} {n : Int} (h : Int64Literal text n) : DriverForm (.number text) (.int64 n)
  /-- Any other number: the double that its literal is rounded to. -/
  | double {text : String} {x : Exact} {negative : Bool} {magnitude : Magnitude}
      (h : ∀ n, ¬ Int64Literal text n) (hread : Exact.read? text.toList = some x)
      (hround : Binary64.ofExact x = .finite negative magnitude) :
      DriverForm (.number text) (.double negative magnitude)
  /-- An array, item by item. -/
  | array {items : List Value} {bs : List Bson} (h : List.Forall₂ DriverForm items bs) :
      DriverForm (.array items) (.array bs)
  /-- A document, element by element. -/
  | document {d : Document} {bs : List (String × Bson)}
      (h : List.Forall₂ (SameKey DriverForm) d bs) : DriverForm (.document d) (.document bs)

namespace Bson

open Value (located_eq_ok_iff map_eq_ok_iff)

/-- A number fits an integer of 64 bits exactly when its value is one. -/
theorem isInt64_iff {text : String} {n : Int} (h : isNumber text = true) :
    IsInt64 text ∧ integerValue text = n ↔ Int64Literal text n := by
  constructor
  · rintro ⟨⟨hint, hlower, hupper⟩, rfl⟩
    exact ⟨h, hint, literalValue_integer h hint, hlower, by omega⟩
  · intro hliteral
    have hvalue : integerValue text = n := by
      have hn := hliteral.value
      rw [literalValue_integer h hliteral.integer] at hn
      exact_mod_cast hn
    refine ⟨⟨hliteral.integer, ?_, ?_⟩, hvalue⟩
    · rw [hvalue]
      exact hliteral.lower
    · have hupper := hliteral.upper
      omega

/-- **A number becomes an integer exactly when its literal is one of 64 bits**, and then the integer
that it is worth. -/
theorem ofNumber_eq_int64_iff {text : String} {n : Int} :
    ofNumber text = .ok (.int64 n) ↔ Int64Literal text n := by
  unfold ofNumber
  split
  · next h =>
    refine iff_of_false (by simp) fun hliteral => ?_
    rw [hliteral.number] at h
    cases h
  next h =>
  have hnumber : isNumber text = true := by simpa using h
  rw [← isInt64_iff hnumber, ← fitsInteger_iff]
  split
  · next hfits => simp [hfits]
  · next hfits =>
    refine iff_of_false (fun hresult => ?_) fun hboth => hfits hboth.1
    unfold ofLiteral at hresult
    split at hresult
    · cases hresult
    · split at hresult <;> cases hresult

theorem driverForm_of_ofNumber {text : String} {b : Bson} (h : ofNumber text = .ok b) :
    DriverForm (.number text) b := by
  by_cases hliteral : ∃ n, Int64Literal text n
  · obtain ⟨n, hn⟩ := hliteral
    rw [ofNumber_eq_int64_iff.2 hn] at h
    cases h
    exact .int64 hn
  · have hno : ∀ n, ¬ Int64Literal text n := fun n hn => hliteral ⟨n, hn⟩
    have hdouble : ofLiteral text = .ok b := by
      unfold ofNumber at h
      split at h
      · cases h
      next hvalid =>
      split at h
      · next hfits =>
        have hint := (isInt64_iff (by simpa using hvalid)).1 ⟨(fitsInteger_iff text).1 hfits, rfl⟩
        exact absurd hint (hno _)
      · exact h
    unfold ofLiteral at hdouble
    split at hdouble
    · cases hdouble
    next x hread =>
    split at hdouble
    · next negative magnitude hround =>
      cases hdouble
      exact .double hno hread hround
    · cases hdouble

theorem forall₂_of_ofItems {items : List Value} {i : Nat} {bs : List Bson}
    (h : ofItems i items = .ok bs)
    (hitems : ∀ v ∈ items, ∀ b, ofValue v = .ok b → DriverForm v b) :
    List.Forall₂ DriverForm items bs := by
  induction items generalizing i bs with
  | nil =>
      cases h
      exact .nil
  | cons v items ih =>
      rw [List.forall_mem_cons] at hitems
      simp only [ofItems, bind_eq_ok_iff, located_eq_ok_iff, Except.ok.injEq] at h
      obtain ⟨head, hhead, tail, htail, rfl⟩ := h
      exact .cons (hitems.1 head hhead) (ih htail hitems.2)

theorem forall₂_of_ofElements {d : Document} {bs : List (String × Bson)}
    (h : ofElements d = .ok bs)
    (hd : ∀ e ∈ d, ∀ b, ofValue e.2 = .ok b → DriverForm e.2 b) :
    List.Forall₂ (SameKey DriverForm) d bs := by
  induction d generalizing bs with
  | nil =>
      cases h
      exact .nil
  | cons e d ih =>
      rw [List.forall_mem_cons] at hd
      simp only [ofElements, bind_eq_ok_iff, located_eq_ok_iff, Except.ok.injEq] at h
      obtain ⟨head, hhead, tail, htail, rfl⟩ := h
      exact .cons (.mk (hd.1 head hhead)) (ih htail hd.2)

/-- **What comes out stands for what went in**, through all nesting. -/
theorem driverForm_of_ofValue {v : Value} {b : Bson} (h : ofValue v = .ok b) : DriverForm v b := by
  induction v using Value.nestedInduction generalizing b with
  | null =>
      cases h
      exact .null
  | bool b =>
      cases h
      exact .bool b
  | string s =>
      cases h
      exact .string s
  | number text => exact driverForm_of_ofNumber h
  | array items ih =>
      rw [ofValue, map_eq_ok_iff] at h
      obtain ⟨bs, hbs, rfl⟩ := h
      exact .array (forall₂_of_ofItems hbs fun v hv _ => ih v hv)
  | document d ih =>
      rw [ofValue, map_eq_ok_iff] at h
      obtain ⟨bs, hbs, rfl⟩ := h
      exact .document (forall₂_of_ofElements hbs fun e he _ => ih e he)
  | absentDocument => cases h
  | absent => cases h

/-! ### Integers -/

/-- The text of an integer is an integer literal with the value of the integer. -/
theorem int64Literal_toString {n : Int} (hlower : -2 ^ 63 ≤ n) (hupper : n ≤ 2 ^ 63 - 1) :
    Int64Literal (toString n) n := by
  have hdigits := unsignedText_toDigits n.natAbs
  have hplain : IsPlain (Nat.toDigits 10 n.natAbs) := by
    rw [IsPlain, List.all_eq_true]
    intro c hc
    have hdigit := isDigit_of_mem_toDigits hc
    have hpoint : c ≠ '.' := by
      rintro rfl
      cases hdigit
    have hmark : c ≠ 'e' ∧ c ≠ 'E' := by
      constructor
      · rintro rfl
        cases hdigit
      · rintro rfl
        cases hdigit
    simp [hpoint, hmark]
  have hsize : unsignedValue (Nat.toDigits 10 n.natAbs) = n.natAbs := by
    rw [unsignedValue_integer hdigits hplain, natOfDigits_toDigits]
  refine ⟨isNumber_toString n, ?_, ?_, hlower, hupper⟩
  · rw [isInteger, toList_toString]
    split
    · rw [List.all_cons, Bool.and_eq_true]
      exact ⟨rfl, hplain⟩
    · exact hplain
  · rw [toList_toString]
    split
    · next hneg =>
      have habs : (n.natAbs : Int) = -n := by omega
      rw [literalValue_minus, hsize, ← Int.cast_natCast, habs, Int.cast_neg, neg_neg]
    · next hneg =>
      have habs : (n.natAbs : Int) = n := by omega
      rw [literalValue_unsigned hdigits, hsize, ← Int.cast_natCast, habs]

end Bson

/-- **Numbers reach the driver as they are.** Where a value has a driver value, that is its form:
the same keys in the same order, the same nesting, null, booleans and strings unchanged, an integer
for each integer literal whose exact value has 64 bits, worth as much, and a double for every other
number. An integer comes out for no other literal, so that none wraps, and the text of every integer
of 64 bits gives that integer. -/
theorem driver_values_exact :
    (∀ v b, Bson.ofValue v = .ok b → DriverForm v b) ∧
      (∀ text n, Bson.ofNumber text = .ok (.int64 n) ↔ Int64Literal text n) ∧
      ∀ n : Int, -2 ^ 63 ≤ n → n ≤ 2 ^ 63 - 1 → Bson.ofValue (.int n) = .ok (.int64 n) := by
  refine ⟨fun v b => Bson.driverForm_of_ofValue, fun text n => Bson.ofNumber_eq_int64_iff, ?_⟩
  intro n hlower hupper
  rw [Value.int, Bson.ofValue, Bson.ofNumber_eq_int64_iff]
  exact Bson.int64Literal_toString hlower hupper

/-- Both ends of the range, and the numbers next to them outside. -/
theorem ends_of_the_range :
    let v : Value := .document [("min", .number "-9223372036854775808"),
      ("below", .array [.number "-9223372036854775809", .null]),
      ("max", .number "9223372036854775807"), ("above", .number "9223372036854775808"),
      ("zero", .document [("", .number "-0"), ("point", .number "1.0")])]
    let b : Bson := .document [("min", .int64 (-9223372036854775808)),
      ("below", .array [.double true ⟨4503599627370496, 11⟩, .null]),
      ("max", .int64 9223372036854775807), ("above", .double false ⟨4503599627370496, 11⟩),
      ("zero", .document [("", .int64 0), ("point", .double false ⟨4503599627370496, -52⟩)])]
    (Bson.ofValue v = .ok b ∧ DriverForm v b) ∧
      (Bson.ofNumber "9223372036854775807" = .ok (.int64 (2 ^ 63 - 1)) ∧
        Int64Literal "9223372036854775807" (2 ^ 63 - 1)) ∧
      Bson.ofValue (.int (-2 ^ 63)) = .ok (.int64 (-2 ^ 63)) := by
  intro v b
  obtain ⟨hform, hliteral, hint⟩ := driver_values_exact
  have hv : Bson.ofValue v = .ok b := rfl
  have hmax : Bson.ofNumber "9223372036854775807" = .ok (.int64 (2 ^ 63 - 1)) := rfl
  exact ⟨⟨hv, hform v b hv⟩, ⟨hmax, (hliteral _ _).1 hmax⟩, hint _ (by norm_num) (by norm_num)⟩

end DocQuery
