/-!
# DocQuery.Text.Units

The 16-bit view of text: each character up to U+FFFF is one unit, every other character a pair of
surrogates. Canonical key order compares units, which differs from the order of code points where
a surrogate meets a character between U+E000 and U+FFFF.
-/

namespace DocQuery.Text

/-- The UTF-16 units of one character. -/
def charUnits (c : Char) : List Nat :=
  if c.toNat < 0x10000 then [c.toNat]
  else [0xd800 + (c.toNat - 0x10000) / 0x400, 0xdc00 + (c.toNat - 0x10000) % 0x400]

/-- The UTF-16 units of a text. -/
def units (s : String) : List Nat :=
  s.toList.flatMap charUnits

/-- Whether `a` stands before or beside `b` when lists of units are compared entry by entry. -/
def unitsLe : List Nat → List Nat → Bool
  | [], _ => true
  | _ :: _, [] => false
  | x :: xs, y :: ys => x < y || (x == y && unitsLe xs ys)

/-- The canonical order of keys. -/
def keyLe (a b : String) : Bool :=
  unitsLe (units a) (units b)

theorem unitsLe_refl (a : List Nat) : unitsLe a a = true := by
  induction a with
  | nil => rfl
  | cons x xs ih => simp [unitsLe, ih]

theorem unitsLe_total (a b : List Nat) : (unitsLe a b || unitsLe b a) = true := by
  induction a generalizing b with
  | nil => simp [unitsLe]
  | cons x xs ih =>
    cases b with
    | nil => simp [unitsLe]
    | cons y ys =>
      have := ih ys
      simp only [unitsLe, Bool.or_eq_true, Bool.and_eq_true, decide_eq_true_eq, beq_iff_eq]
        at this ⊢
      rcases Nat.lt_trichotomy x y with h | rfl | h
      · exact Or.inl (Or.inl h)
      · exact this.imp (fun h => Or.inr ⟨rfl, h⟩) (fun h => Or.inr ⟨rfl, h⟩)
      · exact Or.inr (Or.inl h)

theorem unitsLe_trans {a b c : List Nat} (hab : unitsLe a b = true) (hbc : unitsLe b c = true) :
    unitsLe a c = true := by
  induction a generalizing b c with
  | nil => simp [unitsLe]
  | cons x xs ih =>
    match b, c, hab, hbc with
    | [], _, hab, _ => simp [unitsLe] at hab
    | _ :: _, [], _, hbc => simp [unitsLe] at hbc
    | y :: ys, z :: zs, hab, hbc =>
      simp only [unitsLe, Bool.or_eq_true, Bool.and_eq_true, decide_eq_true_eq, beq_iff_eq]
        at hab hbc ⊢
      rcases hab with h | ⟨rfl, h⟩ <;> rcases hbc with h' | ⟨rfl, h'⟩
      · left; omega
      · left; omega
      · left; omega
      · exact Or.inr ⟨rfl, ih h h'⟩

/-! ## Reading units back -/

/-- The character of a surrogate pair, or the replacement character. -/
def ofPair (high low : Nat) : Char :=
  if 0xd800 ≤ high && high < 0xdc00 && 0xdc00 ≤ low && low < 0xe000 then
    Char.ofNat (0x10000 + (high - 0xd800) * 0x400 + (low - 0xdc00))
  else Char.ofNat 0xfffd

/-- Whether a unit is half of a surrogate pair. -/
def isSurrogate (u : Nat) : Bool := 0xd800 ≤ u && u < 0xe000

/-- The text of a list of units: a high surrogate joins the low one after it, and any other
surrogate becomes the replacement character. -/
def ofUnits : List Nat → List Char
  | [] => []
  | [u] => [if isSurrogate u then Char.ofNat 0xfffd else Char.ofNat u]
  | u :: v :: rest =>
    if 0xd800 ≤ u && u < 0xdc00 && 0xdc00 ≤ v && v < 0xe000 then ofPair u v :: ofUnits rest
    else (if isSurrogate u then Char.ofNat 0xfffd else Char.ofNat u) :: ofUnits (v :: rest)
termination_by us => us.length

end DocQuery.Text
