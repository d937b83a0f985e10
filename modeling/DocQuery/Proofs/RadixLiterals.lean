import DocQuery.Proofs.NumberTexts
import DocQuery.Script.Number

/-!
# DocQuery.Proofs.RadixLiterals

Integer literals in other bases than ten. `Spells literal n` says that a literal is written in
hexadecimal, octal or binary notation, with single underscores between its digits where the notation
has a mark, and that its digits have the value `n`.

**Such a literal is worth its value**: when that fits into 64 signed bits, it is read as that
integer (`read?_of_spells`), and the number literal of documents for it is the value in decimal
(`numberText?_of_spells`). In any case a number literal of documents, when there is one, is a number
of JSON (`isNumber_of_numberText?`).
-/

namespace DocQuery.Script

open Decimal

/-! ### The notations -/

/-- The value of digits of a base, the most significant one first. -/
def digitsValue (base : Nat) (ds : List Char) : Nat :=
  Nat.ofDigits base (ds.map fun c => (anyDigit? c).getD 0).reverse

/-- The base that a mark stands for. -/
inductive Announces : Char → Nat → Prop where
  /-- Hexadecimal notation. -/
  | sixteen {mark : Char} (h : mark = 'x' ∨ mark = 'X') : Announces mark 16
  /-- Octal notation. -/
  | eight {mark : Char} (h : mark = 'o' ∨ mark = 'O') : Announces mark 8
  /-- Binary notation. -/
  | two {mark : Char} (h : mark = 'b' ∨ mark = 'B') : Announces mark 2

/-- A non-empty run of digits of a base. -/
def IsRun (base : Nat) (ds : List Char) : Prop := ds ≠ [] ∧ ∀ c ∈ ds, isDigitOf base c = true

/-- A literal in hexadecimal, octal or binary notation, and its value. -/
inductive Spells : List Char → Nat → Prop where
  /-- A zero, a mark, and runs of digits with an underscore between two of them. -/
  | marked {mark : Char} {base : Nat} {runs : List (List Char)} (hmark : Announces mark base)
      (hne : runs ≠ []) (hruns : ∀ ds ∈ runs, IsRun base ds) :
      Spells ('0' :: mark :: ['_'].intercalate runs) (digitsValue base runs.flatten)
  /-- A zero and octal digits. -/
  | plain {ds : List Char} (hds : IsRun 8 ds) : Spells ('0' :: ds) (digitsValue 8 ds)

/-! ### Digits -/

theorem char_le_iff {c d : Char} : c ≤ d ↔ c.toNat ≤ d.toNat := UInt32.le_iff_toNat_le

/-- A digit of a base up to thirty-six is a decimal one, or a letter that counts from ten on. -/
theorem cases_of_anyDigit? {c : Char} {d : Nat} (h : anyDigit? c = some d) :
    c.isDigit = true ∨ ('a' ≤ c ∧ c.toNat = 87 + d) ∨ ('A' ≤ c ∧ c.toNat = 55 + d) := by
  unfold anyDigit? at h
  split at h
  · exact Or.inl ‹_›
  · split at h
    · next hc =>
      simp only [Bool.and_eq_true, decide_eq_true_eq, char_le_iff] at hc
      have : 97 ≤ c.toNat := hc.1
      cases h
      exact Or.inr (Or.inl ⟨char_le_iff.2 hc.1, by omega⟩)
    · split at h
      · next hc =>
        simp only [Bool.and_eq_true, decide_eq_true_eq, char_le_iff] at hc
        have : 65 ≤ c.toNat := hc.1
        cases h
        exact Or.inr (Or.inr ⟨char_le_iff.2 hc.1, by omega⟩)
      · cases h

theorem exists_of_isDigitOf {base : Nat} {c : Char} (h : isDigitOf base c = true) :
    ∃ d, anyDigit? c = some d ∧ d < base := by
  unfold isDigitOf at h
  split at h
  · next d hd => exact ⟨d, hd, of_decide_eq_true h⟩
  · cases h

theorem isDigit_of_isDigitOf {base : Nat} (hbase : base ≤ 10) {c : Char}
    (h : isDigitOf base c = true) : c.isDigit = true := by
  obtain ⟨d, hd, hlt⟩ := exists_of_isDigitOf h
  rcases cases_of_anyDigit? hd with hc | ⟨hc, hn⟩ | ⟨hc, hn⟩
  · exact hc
  · have : 97 ≤ c.toNat := char_le_iff.1 hc
    omega
  · have : 65 ≤ c.toNat := char_le_iff.1 hc
    omega

/-- The digits of hexadecimal notation, as they are told apart where underscores are checked. -/
theorem isHexLetter_of_isDigitOf {c : Char} (h : isDigitOf 16 c = true) :
    (c.isDigit || ('a' ≤ c && c ≤ 'f') || ('A' ≤ c && c ≤ 'F')) = true := by
  obtain ⟨d, hd, hlt⟩ := exists_of_isDigitOf h
  simp only [Bool.or_eq_true, Bool.and_eq_true, decide_eq_true_eq]
  rcases cases_of_anyDigit? hd with hc | ⟨hc, hn⟩ | ⟨hc, hn⟩
  · exact Or.inl (Or.inl hc)
  · have : c ≤ 'f' := char_le_iff.2 (show c.toNat ≤ 102 by omega)
    exact Or.inl (Or.inr ⟨hc, this⟩)
  · have : c ≤ 'F' := char_le_iff.2 (show c.toNat ≤ 70 by omega)
    exact Or.inr ⟨hc, this⟩

theorem ne_underscore_of_isDigitOf {base : Nat} {c : Char} (h : isDigitOf base c = true) :
    c ≠ '_' := by
  intro hc
  rw [hc] at h
  cases h

/-! ### Reading digits -/

/-- What has been read of a number, after one more digit. -/
def shiftIn (base n : Nat) (c : Char) : Nat := n * base + (anyDigit? c).getD 0

theorem le_foldl_shiftIn {base : Nat} (hbase : 1 ≤ base) (ds : List Char) (n : Nat) :
    n ≤ ds.foldl (shiftIn base) n := by
  induction ds generalizing n with
  | nil => exact le_rfl
  | cons c ds ih =>
      calc n ≤ n * base := Nat.le_mul_of_pos_right n hbase
        _ ≤ shiftIn base n c := Nat.le_add_right _ _
        _ ≤ ds.foldl (shiftIn base) (shiftIn base n c) := ih _

theorem foldl_shiftIn (base : Nat) (ds : List Char) :
    ds.foldl (shiftIn base) 0 = digitsValue base ds := by
  rw [digitsValue, Nat.ofDigits_eq_foldr, List.foldr_reverse, List.foldl_map]
  congr 1
  funext n c
  simp only [Nat.cast_id]
  rw [shiftIn, Nat.mul_comm, Nat.add_comm]

/-- **Digits are read at their value**, underscores among them apart, as long as it fits. -/
theorem readDigits_eq {base : Nat} (hbase : 1 ≤ base) {cs : List Char}
    (hcs : ∀ c ∈ cs, c = '_' ∨ isDigitOf base c = true) {n : Nat}
    (hfits : (cs.filter (· != '_')).foldl (shiftIn base) n < unsignedLimit) :
    readDigits base n cs = .ok ((cs.filter (· != '_')).foldl (shiftIn base) n) := by
  induction cs generalizing n with
  | nil => rw [readDigits]; rfl
  | cons c cs ih =>
      rw [List.forall_mem_cons] at hcs
      by_cases hc : c = '_'
      · rw [hc, List.filter_cons_of_neg (by simp)] at hfits ⊢
        rw [readDigits]
        exact ih hcs.2 hfits
      · obtain ⟨d, hd, hlt⟩ := exists_of_isDigitOf (hcs.1.resolve_left hc)
        have hstep : shiftIn base n c = n * base + d := by rw [shiftIn, hd]; rfl
        rw [List.filter_cons_of_pos (by simpa using hc), List.foldl_cons, hstep] at hfits ⊢
        -- what is read only grows, so it fits after this digit as well
        have hnow := (le_foldl_shiftIn hbase _ _).trans_lt hfits
        rw [readDigits, hd]
        · simp only
          rw [if_neg (by omega), if_neg (by omega)]
          exact ih hcs.2 hfits
        · exact hc

/-! ### Underscores -/

theorem go_digit {isDigit : Char → Bool} {c : Char} (hc : c ≠ '_') (afterDigit : Bool)
    (cs : List Char) : underscoresAllowed.go isDigit afterDigit (c :: cs) =
      underscoresAllowed.go isDigit (isDigit c) cs := by
  rw [underscoresAllowed.go]
  · intro _ _ h
    exact absurd h hc
  · intro h
    exact absurd h hc

theorem go_digits {isDigit : Char → Bool} {ds : List Char} (hne : ds ≠ [])
    (hds : ∀ c ∈ ds, isDigit c = true ∧ c ≠ '_') (afterDigit : Bool) (rest : List Char) :
    underscoresAllowed.go isDigit afterDigit (ds ++ rest) =
      underscoresAllowed.go isDigit true rest := by
  induction ds generalizing afterDigit with
  | nil => exact absurd rfl hne
  | cons c ds ih =>
      rw [List.forall_mem_cons] at hds
      rw [List.cons_append, go_digit hds.1.2, hds.1.1]
      cases ds with
      | nil => rfl
      | cons d ds => exact ih (List.cons_ne_nil d ds) hds.2 true

theorem exists_intercalate_eq_cons {P : Char → Prop} {ds : List Char}
    (hds : ds ≠ [] ∧ ∀ c ∈ ds, P c) (runs : List (List Char)) :
    ∃ c cs, ['_'].intercalate (ds :: runs) = c :: cs ∧ P c := by
  obtain ⟨c, cs, rfl⟩ := List.exists_cons_of_ne_nil hds.1
  refine ⟨c, ?_⟩
  cases runs with
  | nil => exact ⟨cs, by rw [List.intercalate_singleton], hds.2 c List.mem_cons_self⟩
  | cons next runs =>
      rw [List.intercalate_cons_cons, List.cons_append, List.cons_append]
      exact ⟨_, rfl, hds.2 c List.mem_cons_self⟩

variable {base : Nat} {runs : List (List Char)}

/-- Underscores between runs of digits are allowed. -/
theorem go_intercalate {isDigit : Char → Bool}
    (hdigit : ∀ {c}, isDigitOf base c = true → isDigit c = true)
    (hruns : ∀ ds ∈ runs, IsRun base ds) (afterDigit : Bool) :
    underscoresAllowed.go isDigit afterDigit (['_'].intercalate runs) = true := by
  have hrun : ∀ ds ∈ runs, ds ≠ [] ∧ ∀ c ∈ ds, isDigit c = true ∧ c ≠ '_' := by
    intro ds hds
    obtain ⟨hne, hall⟩ := hruns ds hds
    exact ⟨hne, fun c hc => ⟨hdigit (hall c hc), ne_underscore_of_isDigitOf (hall c hc)⟩⟩
  induction runs generalizing afterDigit with
  | nil => rw [List.intercalate_nil, underscoresAllowed.go]
  | cons ds runs ih =>
      obtain ⟨hne, hall⟩ := hrun ds List.mem_cons_self
      cases runs with
      | nil =>
          rw [List.intercalate_singleton, ← List.append_nil ds, go_digits hne hall,
            underscoresAllowed.go]
      | cons next runs =>
          have hlater := ih (fun ds hds => hruns ds (List.mem_cons_of_mem _ hds)) true
            (fun ds hds => hrun ds (List.mem_cons_of_mem _ hds))
          obtain ⟨c, cs, hcs, hc⟩ := exists_intercalate_eq_cons (hrun next (by simp)) runs
          rw [hcs, go_digit hc.2, hc.1] at hlater
          rw [List.intercalate_cons_cons, List.append_assoc, go_digits hne hall, hcs,
            List.singleton_append, underscoresAllowed.go, hc.1, hlater]
          rfl

theorem filter_intercalate (hruns : ∀ ds ∈ runs, IsRun base ds) :
    (['_'].intercalate runs).filter (· != '_') = runs.flatten := by
  induction runs with
  | nil => rfl
  | cons ds runs ih =>
      rw [List.forall_mem_cons] at hruns
      have hself : ds.filter (· != '_') = ds := by
        rw [List.filter_eq_self]
        intro c hc
        simpa using ne_underscore_of_isDigitOf (hruns.1.2 c hc)
      cases runs with
      | nil => rw [List.intercalate_singleton, hself, List.flatten_singleton]
      | cons next runs =>
          rw [List.intercalate_cons_cons, List.filter_append, List.filter_append, hself,
            ih hruns.2, List.filter_cons_of_neg (by simp), List.filter_nil, List.append_nil]
          rfl

theorem mem_intercalate (hruns : ∀ ds ∈ runs, IsRun base ds) :
    ∀ c ∈ ['_'].intercalate runs, c = '_' ∨ isDigitOf base c = true := by
  intro c hc
  by_cases hunderscore : c = '_'
  · exact Or.inl hunderscore
  · have hmem : c ∈ (['_'].intercalate runs).filter (· != '_') :=
      List.mem_filter.2 ⟨hc, by simpa using hunderscore⟩
    rw [filter_intercalate hruns, List.mem_flatten] at hmem
    obtain ⟨ds, hds, hmem⟩ := hmem
    exact Or.inr ((hruns ds hds).2 c hmem)

/-! ### Literals -/

/-- What an unsigned literal reads as, when its digits are runs of the base it announces. -/
theorem readUnsigned_eq {cs : List Char} (hbase : 1 ≤ base)
    (hsplit : splitBase cs = (base, ['_'].intercalate runs)) (hcs : cs ≠ [])
    (hruns : ∀ ds ∈ runs, IsRun base ds) (hallowed : underscoresAllowed cs = true)
    (hfits : digitsValue base runs.flatten < unsignedLimit) :
    readUnsigned cs = .ok (digitsValue base runs.flatten) := by
  have hread : readDigits base 0 (['_'].intercalate runs) =
      .ok (digitsValue base runs.flatten) := by
    rw [readDigits_eq hbase (mem_intercalate hruns), filter_intercalate hruns, foldl_shiftIn]
    rwa [filter_intercalate hruns, foldl_shiftIn]
  unfold readUnsigned
  rw [if_neg (by simpa using hcs), hsplit]
  simp only [hread, hallowed, Bool.not_true, Bool.and_false]
  rfl

theorem Announces.pos {mark : Char} (h : Announces mark base) : 1 ≤ base := by
  cases h <;> omega

/-- The base that a literal announces, the digits it has, and where it may have underscores. -/
theorem splitBase_marked {mark : Char} (hmark : Announces mark base) {ds : List Char}
    (hds : ds ≠ []) : splitBase ('0' :: mark :: ds) = (base, ds) := by
  obtain ⟨d, ds, rfl⟩ := List.exists_cons_of_ne_nil hds
  cases hmark with
  | sixteen h => rcases h with rfl | rfl <;> rfl
  | eight h => rcases h with rfl | rfl <;> rfl
  | two h => rcases h with rfl | rfl <;> rfl

theorem underscoresAllowed_marked {mark : Char} (hmark : Announces mark base)
    (hruns : ∀ ds ∈ runs, IsRun base ds) :
    underscoresAllowed ('0' :: mark :: ['_'].intercalate runs) = true := by
  cases hmark with
  | sixteen h =>
      have hallowed := go_intercalate isHexLetter_of_isDigitOf hruns true
      rcases h with rfl | rfl <;> exact hallowed
  | eight h =>
      have hallowed := go_intercalate (isDigit_of_isDigitOf (by omega)) hruns true
      rcases h with rfl | rfl <;> exact hallowed
  | two h =>
      have hallowed := go_intercalate (isDigit_of_isDigitOf (by omega)) hruns true
      rcases h with rfl | rfl <;> exact hallowed

theorem isBaseMark_of_isDigit {c : Char} (h : c.isDigit = true) :
    NumberValue.isBaseMark c = false := by
  by_contra hc
  simp only [NumberValue.isBaseMark, Bool.not_eq_false, Bool.or_eq_true, beq_iff_eq] at hc
  rcases hc with ((((rfl | rfl) | rfl) | rfl) | rfl) | rfl <;> cases h

theorem splitBase_plain {ds : List Char} (hds : ∀ c ∈ ds, c.isDigit = true) :
    splitBase ('0' :: ds) = (8, ds) := by
  match ds with
  | [] => rfl
  | [_] => rfl
  | c :: d :: ds =>
      have hc := isBaseMark_of_isDigit (hds c List.mem_cons_self)
      simp only [NumberValue.isBaseMark, Bool.or_eq_false_iff] at hc
      simp [splitBase, hc]

theorem underscoresAllowed_plain {ds : List Char} (hds : IsRun 8 ds) :
    underscoresAllowed ('0' :: ds) = true := by
  have hdigit {c : Char} (hc : isDigitOf 8 c = true) : c.isDigit = true :=
    isDigit_of_isDigitOf (by omega) hc
  have hruns : ∀ run ∈ [ds], IsRun 8 run := by simpa using hds
  have hallowed := go_intercalate hdigit hruns true
  rw [List.intercalate_singleton] at hallowed
  obtain ⟨c, cs, rfl⟩ := List.exists_cons_of_ne_nil hds.1
  have hc := isBaseMark_of_isDigit (hdigit (hds.2 c List.mem_cons_self))
  simp only [NumberValue.isBaseMark, Bool.or_eq_false_iff] at hc
  have hsign : (splitSign ('0' :: c :: cs)).2 = '0' :: c :: cs := rfl
  unfold underscoresAllowed
  simp only [hsign, hc, Bool.or_self, Bool.false_eq_true, if_false]
  exact hallowed

/-- A literal in another base starts with a zero and a base mark or a digit. -/
theorem Spells.exists_eq_cons {literal : List Char} {n : Nat} (h : Spells literal n) :
    ∃ c cs, literal = '0' :: c :: cs ∧ (c.isDigit = true ∨ NumberValue.isBaseMark c = true) := by
  cases h with
  | marked hmark hne hruns =>
      refine ⟨_, _, rfl, Or.inr ?_⟩
      cases hmark with
      | sixteen h => rcases h with rfl | rfl <;> rfl
      | eight h => rcases h with rfl | rfl <;> rfl
      | two h => rcases h with rfl | rfl <;> rfl
  | plain hds =>
      obtain ⟨c, cs, rfl⟩ := List.exists_cons_of_ne_nil hds.1
      exact ⟨c, cs, rfl, Or.inl (isDigit_of_isDigitOf (by omega) (hds.2 c List.mem_cons_self))⟩

theorem readUnsigned_of_spells {literal : List Char} {n : Nat} (h : Spells literal n)
    (hfits : n < unsignedLimit) : readUnsigned literal = .ok n := by
  cases h with
  | @marked mark base runs hmark hne hruns =>
      obtain ⟨ds, runs, rfl⟩ := List.exists_cons_of_ne_nil hne
      obtain ⟨c, cs, hcs, -⟩ := exists_intercalate_eq_cons (hruns ds List.mem_cons_self) runs
      refine readUnsigned_eq hmark.pos (splitBase_marked hmark ?_) (List.cons_ne_nil _ _) hruns
        (underscoresAllowed_marked hmark hruns) hfits
      rw [hcs]
      exact List.cons_ne_nil c cs
  | @plain ds hds =>
      have hflat : [ds].flatten = ds := List.flatten_singleton
      rw [← hflat] at hfits ⊢
      refine readUnsigned_eq (by omega) ?_ (List.cons_ne_nil _ _) (by simpa using hds) ?_ hfits
      · rw [List.intercalate_singleton, hflat]
        exact splitBase_plain fun c hc => isDigit_of_isDigitOf (by omega) (hds.2 c hc)
      · rw [hflat]
        exact underscoresAllowed_plain hds

/-- **A literal in another base is worth its value**, when that fits into 64 signed bits. -/
theorem read?_of_spells {literal : List Char} {n : Nat} (h : Spells literal n)
    (hfits : n < signedLimit) : NumberValue.read? literal = some (.int n) := by
  have hlimits : signedLimit ≤ unsignedLimit := by decide
  have hunsigned := readUnsigned_of_spells h (hfits.trans_le hlimits)
  have hsign : splitSign literal = (false, literal) := by
    obtain ⟨c, cs, rfl, -⟩ := h.exists_eq_cons
    rfl
  have hread : readSigned literal = .ok (n : Int) := by
    have hstep : readSigned literal =
        if signedLimit ≤ n then .error .overflow else .ok (n : Int) := by
      unfold readSigned
      simp only [hsign, hunsigned]
      rfl
    rw [hstep, if_neg (by omega)]
  unfold NumberValue.read?
  rw [hread]

/-- Such a literal is no number of JSON. -/
theorem isNumber_of_spells {literal : List Char} {n : Nat} (h : Spells literal n) :
    isNumber (String.ofList literal) = false := by
  obtain ⟨c, cs, rfl, hc⟩ := h.exists_eq_cons
  have hne : c ≠ '.' ∧ c ≠ 'e' ∧ c ≠ 'E' := by
    refine ⟨?_, ?_, ?_⟩
    all_goals
      intro heq
      rw [heq] at hc
      revert hc
      decide
  rw [isNumber, String.toList_ofList, isNumberChars]
  simp [skipMinus, skipWhole, skipFraction, skipExponent, hne]

/-! ### Number literals of documents -/

/-- The value of such a literal is written in decimal. -/
theorem numberText?_of_spells {literal : String} {n : Nat} (h : Spells literal.toList n)
    (hfits : n < signedLimit) :
    numberText? literal ((NumberValue.read? literal.toList).getD (.int 0)) = some (toString n) := by
  have hnumber := isNumber_of_spells h
  rw [String.ofList_toList] at hnumber
  rw [read?_of_spells h hfits]
  unfold numberText?
  rw [hnumber]
  rfl

/-- **The number literal of documents for a literal is a number of JSON.** -/
theorem isNumber_of_numberText? {literal text : String} {value : NumberValue}
    (h : numberText? literal value = some text) : isNumber text = true := by
  unfold numberText? at h
  split at h
  · next hliteral =>
    cases h
    exact hliteral
  · cases value with
    | int n =>
        cases h
        exact isNumber_toString n
    | double x =>
        cases x with
        | finite negative m =>
            cases h
            exact Layout.isNumber_write (Or.inl rfl) negative m
        | infinite negative => cases h
    | big => cases h

end DocQuery.Script
