import DocQuery.Proofs.TreeStrings

/-!
# DocQuery.Proofs.KeyOrder

**The canonical order of keys is a linear order.** Keys are compared by their UTF-16 units. Units can
be read back into the text they came from (`ofUnits_units`), surrogate pairs included, so the order
never takes two keys for one (`keyLe_antisymm`), and what is sorted by it stands in the one order that
ascends strictly (`eq_of_perm_of_ascending`).

Keys are often sorted under one spelling and read under another. `KeepsOrder` says that a respelling
leaves the order of some keys alone, and that, with keys that stay distinct, is exactly when sorted
keys still ascend after they are respelled (`ascending_map_mergeSort_iff`).
-/

namespace DocQuery.Text

/-! ### Units determine their text -/

/-- The units of a character are read back as that character, whatever follows them. -/
theorem ofUnits_charUnits (c : Char) (us : List Nat) :
    ofUnits (charUnits c ++ us) = c :: ofUnits us := by
  have hplain := Json.not_isSurrogate c
  have hvalid : c.toNat < 0xd800 ∨ 0xdfff < c.toNat ∧ c.toNat < 0x110000 := c.valid
  by_cases hc : c.toNat < 0x10000
  · rw [charUnits, if_pos hc]
    cases us with
    | nil => simp [ofUnits, hplain]
    | cons v us =>
        have hpair : ¬(0xd800 ≤ c.toNat ∧ c.toNat < 0xdc00 ∧ 0xdc00 ≤ v ∧ v < 0xe000) := by omega
        simp [ofUnits, hplain, and_assoc, hpair]
  · rw [charUnits, if_neg hc]
    -- the two halves stand in the ranges of surrogates, and their offsets add up to the character
    have hhigh : (c.toNat - 0x10000) / 0x400 < 0x400 := by omega
    have hlow : (c.toNat - 0x10000) % 0x400 < 0x400 := by omega
    have hsum : 0x10000 + (c.toNat - 0x10000) / 0x400 * 0x400 + (c.toNat - 0x10000) % 0x400 =
        c.toNat := by omega
    have hranges : 0xd800 + (c.toNat - 0x10000) / 0x400 < 0xdc00 ∧
        0xdc00 + (c.toNat - 0x10000) % 0x400 < 0xe000 := by omega
    simp [ofUnits, ofPair, hranges, hsum]

theorem ofUnits_flatMap_charUnits (cs : List Char) : ofUnits (cs.flatMap charUnits) = cs := by
  induction cs with
  | nil => simp [ofUnits]
  | cons c cs ih => rw [List.flatMap_cons, ofUnits_charUnits, ih]

/-- **The units of a text are read back as that text.** -/
theorem ofUnits_units (s : String) : ofUnits (units s) = s.toList :=
  ofUnits_flatMap_charUnits s.toList

theorem units_inj {a b : String} : units a = units b ↔ a = b := by
  constructor
  · intro h
    rw [← String.toList_inj, ← ofUnits_units, h, ofUnits_units]
  · intro h
    rw [h]

/-! ### The order of keys -/

theorem unitsLe_antisymm {xs ys : List Nat} (h : unitsLe xs ys = true) (h' : unitsLe ys xs = true) :
    xs = ys := by
  induction xs generalizing ys with
  | nil =>
      cases ys with
      | nil => rfl
      | cons y ys => cases h'
  | cons x xs ih =>
      cases ys with
      | nil => cases h
      | cons y ys =>
          simp only [unitsLe, Bool.or_eq_true, Bool.and_eq_true, decide_eq_true_eq, beq_iff_eq]
            at h h'
          rcases h with hlt | ⟨rfl, h⟩
          · omega
          · rcases h' with hlt | ⟨-, h'⟩
            · omega
            · rw [ih h h']

theorem keyLe_refl (a : String) : keyLe a a = true := unitsLe_refl (units a)

theorem keyLe_total (a b : String) : (keyLe a b || keyLe b a) = true :=
  unitsLe_total (units a) (units b)

theorem keyLe_trans (a b c : String) (hab : keyLe a b = true) (hbc : keyLe b c = true) :
    keyLe a c = true :=
  unitsLe_trans hab hbc

/-- **The order of keys tells any two keys apart.** -/
theorem keyLe_antisymm {a b : String} (h : keyLe a b = true) (h' : keyLe b a = true) : a = b :=
  units_inj.1 (unitsLe_antisymm h h')

/-- One key stands strictly before another in canonical order. -/
def KeyLt (a b : String) : Prop := keyLe b a = false

theorem keyLt_iff {a b : String} : KeyLt a b ↔ keyLe a b = true ∧ a ≠ b := by
  have htotal := keyLe_total a b
  unfold KeyLt
  constructor
  · intro h
    rw [h, Bool.or_false] at htotal
    refine ⟨htotal, ?_⟩
    rintro rfl
    rw [htotal] at h
    cases h
  · rintro ⟨hle, hne⟩
    cases h : keyLe b a with
    | false => rfl
    | true => exact absurd (keyLe_antisymm hle h) hne

/-- Keys in strictly increasing canonical order. -/
def Ascending (ks : List String) : Prop := ks.Pairwise KeyLt

/-- Whether respelling some keys by `f` leaves their order alone. -/
def KeepsOrder (f : String → String) (ks : List String) : Prop :=
  ∀ a ∈ ks, ∀ b ∈ ks, keyLe a b = true → keyLe (f a) (f b) = true

theorem pairwise_keyLe_mergeSort (ks : List String) :
    (ks.mergeSort keyLe).Pairwise fun a b => keyLe a b = true :=
  List.pairwise_mergeSort keyLe_trans keyLe_total ks

/-- **Sorted keys ascend after they are respelled** exactly when they stay distinct and in order. -/
theorem ascending_map_mergeSort_iff (f : String → String) (ks : List String) :
    Ascending ((ks.mergeSort keyLe).map f) ↔ (ks.map f).Nodup ∧ KeepsOrder f ks := by
  have hperm : (ks.mergeSort keyLe).Perm ks := List.mergeSort_perm ks keyLe
  have hsorted := pairwise_keyLe_mergeSort ks
  have hnodup : (ks.map f).Nodup ↔ ((ks.mergeSort keyLe).map f).Nodup :=
    (hperm.map f).nodup_iff.symm
  unfold Ascending
  rw [hnodup, List.Nodup]
  constructor
  · intro h
    refine ⟨h.imp fun hlt => (keyLt_iff.1 hlt).2, ?_⟩
    -- of two different keys the smaller one stands first, and is still the smaller one there
    have hboth : (ks.mergeSort keyLe).Pairwise fun a b => keyLe a b = true ∧ KeyLt (f a) (f b) :=
      hsorted.and (List.pairwise_map.1 h)
    have hsome : (ks.mergeSort keyLe).Pairwise fun a b =>
        (keyLe a b = true ∧ KeyLt (f a) (f b)) ∨ (keyLe b a = true ∧ KeyLt (f b) (f a)) :=
      hboth.imp Or.inl
    have : Std.Symm fun a b => (keyLe a b = true ∧ KeyLt (f a) (f b)) ∨
        (keyLe b a = true ∧ KeyLt (f b) (f a)) := ⟨fun _ _ => Or.symm⟩
    intro a ha b hb hle
    by_cases hab : a = b
    · rw [hab]
      exact keyLe_refl (f b)
    · rcases hsome.forall (hperm.mem_iff.2 ha) (hperm.mem_iff.2 hb) hab with h | h
      · exact (keyLt_iff.1 h.2).1
      · exact absurd (keyLe_antisymm hle h.1) hab
  · rintro ⟨hdistinct, hkeeps⟩
    have hkept : ((ks.mergeSort keyLe).map f).Pairwise fun a b => keyLe a b = true := by
      rw [List.pairwise_map]
      refine hsorted.imp_of_mem ?_
      intro a b ha hb hle
      exact hkeeps a (hperm.mem_iff.1 ha) b (hperm.mem_iff.1 hb) hle
    exact hkept.imp₂ (fun _ _ hle hne => keyLt_iff.2 ⟨hle, hne⟩) hdistinct

/-- **Entries are in one ascending order of their keys only.** -/
theorem eq_of_perm_of_ascending {α : Type} {key : α → String} {xs ys : List α} (h : xs.Perm ys)
    (hxs : Ascending (xs.map key)) (hys : Ascending (ys.map key)) : xs = ys := by
  refine List.Perm.eq_of_pairwise ?_ (List.pairwise_map.1 hxs) (List.pairwise_map.1 hys) h
  intro a b _ _ hab hba
  rw [keyLt_iff] at hab hba
  exact absurd (keyLe_antisymm hab.1 hba.1) hab.2

end DocQuery.Text
