import DocQuery.Proofs.TreeStrings

/-!
# DocQuery.Proofs.JsonMeaning

**What JSON texts mean.** The productions of `DocQuery.Proofs.JsonGrammar` are given a meaning here:
`Denotes cs v` says that the text `cs` is a JSON text for the value `v`, its members in order and its
numbers by their text. A string means the text whose UTF-16 units its characters and escapes spell,
which is what pairs of codes are for; a string that spells half of a pair alone means nothing.

Arrays and documents differ in their entries only, so that one relation (`ListMeans`) serves both.
Whatever has a meaning is derived by the grammar (`Denotes.jsonText`).
-/

namespace DocQuery.Json

open Text

/-! ### The meaning of a text -/

/-- The units that the inside of a string spells. -/
inductive BodySpells : List Char → List Nat → Prop where
  /-- The end of the string. -/
  | nil : BodySpells [] []
  /-- A character that stands for itself. -/
  | plain {c : Char} {rest : List Char} {us : List Nat} (hc : 0x20 ≤ c.toNat) (hquote : c ≠ '"')
      (hbackslash : c ≠ '\\') (hrest : BodySpells rest us) :
      BodySpells (c :: rest) (charUnits c ++ us)
  /-- An escape by a letter. -/
  | letter {x c : Char} {rest : List Char} {us : List Nat} (hx : escapeMeaning? x = some c)
      (hrest : BodySpells rest us) : BodySpells ('\\' :: x :: rest) (charUnits c ++ us)
  /-- An escape by a code: one unit, possibly half of a pair. -/
  | code {a b c d : Char} {n : Nat} {rest : List Char} {us : List Nat}
      (hn : hexNumber? [a, b, c, d] = some n) (hrest : BodySpells rest us) :
      BodySpells ('\\' :: 'u' :: a :: b :: c :: d :: rest) (n :: us)

/-- A string in its quotes, and the text whose units it spells. -/
def StringMeans (cs : List Char) (s : String) : Prop :=
  ∃ body, BodySpells body (units s) ∧ cs = '"' :: (body ++ ['"'])

/-- One or more entries with commas between them. -/
inductive ListMeans {α : Type} (Item : List Char → α → Prop) : List Char → List α → Prop where
  /-- The last entry. -/
  | last {a t b : List Char} {x : α} (ha : BlankText a) (hx : Item t x) (hb : BlankText b) :
      ListMeans Item (a ++ (t ++ b)) [x]
  /-- An entry before others. -/
  | more {a t b rest : List Char} {x : α} {xs : List α} (ha : BlankText a) (hx : Item t x)
      (hb : BlankText b) (hrest : ListMeans Item rest xs) :
      ListMeans Item (a ++ (t ++ (b ++ ',' :: rest))) (x :: xs)

/-- A key, a colon and a value. -/
inductive MemberMeans (Held : List Char → Value → Prop) : List Char → String × Value → Prop where
  /-- White space may stand on both sides of the colon. -/
  | mk {key b c t : List Char} {k : String} {v : Value} (hkey : StringMeans key k)
      (hb : BlankText b) (hc : BlankText c) (hv : Held t v) :
      MemberMeans Held (key ++ (b ++ ':' :: (c ++ t))) (k, v)

/-- A value without white space around it. -/
inductive Means : List Char → Value → Prop where
  /-- The word `null`. -/
  | null : Means ['n', 'u', 'l', 'l'] .null
  /-- The word `true`. -/
  | true : Means ['t', 'r', 'u', 'e'] (.bool .true)
  /-- The word `false`. -/
  | false : Means ['f', 'a', 'l', 's', 'e'] (.bool .false)
  /-- A number means its text. -/
  | number {text : String} (h : NumberText text.toList) : Means text.toList (.number text)
  /-- A string. -/
  | string {cs : List Char} {s : String} (h : StringMeans cs s) : Means cs (.string s)
  /-- An array without items. -/
  | emptyArray {ws : List Char} (hws : BlankText ws) : Means ('[' :: (ws ++ [']'])) (.array [])
  /-- An array. -/
  | array {cs : List Char} {items : List Value} (h : ListMeans Means cs items) :
      Means ('[' :: (cs ++ [']'])) (.array items)
  /-- A document without elements. -/
  | emptyDocument {ws : List Char} (hws : BlankText ws) :
      Means (Char.ofNat 0x7b :: (ws ++ [Char.ofNat 0x7d])) (.document [])
  /-- A document: its elements in the order of the text. -/
  | document {cs : List Char} {d : Document} (h : ListMeans (MemberMeans Means) cs d) :
      Means (Char.ofNat 0x7b :: (cs ++ [Char.ofNat 0x7d])) (.document d)

/-- **A JSON text for a value**: the value between white space. -/
def Denotes (cs : List Char) (v : Value) : Prop :=
  ∃ a t b, BlankText a ∧ Means t v ∧ BlankText b ∧ cs = a ++ (t ++ b)

/-! ### A text with a meaning is a JSON text -/

theorem toNat_lt_of_hexValue? {x : Char} {n : Nat} (h : hexValue? x = some n) : x.toNat < 128 := by
  unfold hexValue? at h
  simp only [Char.isDigit, Bool.and_eq_true, decide_eq_true_eq, Char.le_def] at h
  split at h
  · next hd => exact Nat.lt_of_le_of_lt (UInt32.le_iff_toNat_le.1 hd.2) (by decide)
  · split at h
    · next hd => exact Nat.lt_of_le_of_lt (UInt32.le_iff_toNat_le.1 hd.2) (by decide)
    · split at h
      · next hd => exact Nat.lt_of_le_of_lt (UInt32.le_iff_toNat_le.1 hd.2) (by decide)
      · cases h

theorem mem_hexLetters_of_hexValue? {x : Char} {n : Nat} (h : hexValue? x = some n) :
    x ∈ hexLetters := by
  have hletters : ∀ m < 128, hexValue? (Char.ofNat m) ≠ none → Char.ofNat m ∈ hexLetters := by
    decide
  have hx := hletters x.toNat (toNat_lt_of_hexValue? h)
  rw [Char.ofNat_toNat] at hx
  exact hx (by rw [h]; simp)

theorem mem_hexLetters_of_hexNumber? {cs : List Char} {n : Nat} (h : hexNumber? cs = some n) :
    ∀ x ∈ cs, x ∈ hexLetters := by
  induction cs using List.reverseRecOn generalizing n with
  | nil => simp
  | append_singleton cs c ih =>
      rw [hexNumber?_concat, Option.bind_eq_some_iff] at h
      obtain ⟨m, hm, hc⟩ := h
      rw [Option.map_eq_some_iff] at hc
      obtain ⟨d, hd, -⟩ := hc
      intro x hx
      rcases List.mem_append.1 hx with hx | hx
      · exact ih hm x hx
      · rw [List.mem_singleton] at hx
        rw [hx]
        exact mem_hexLetters_of_hexValue? hd

theorem BodySpells.bodyText {body : List Char} {us : List Nat} (h : BodySpells body us) :
    BodyText body := by
  induction h with
  | nil => exact .nil
  | plain hc hquote hbackslash _ ih => exact .plain hc hquote hbackslash ih
  | @letter x c _ _ hx _ ih =>
      refine .letter ?_ ih
      by_contra hletter
      rw [(escapeMeaning?_eq_none_iff x).2 hletter] at hx
      cases hx
  | code hn _ ih => exact .code (mem_hexLetters_of_hexNumber? hn) ih

theorem StringMeans.stringText {cs : List Char} {s : String} (h : StringMeans cs s) :
    StringText cs := by
  obtain ⟨body, hbody, rfl⟩ := h
  exact ⟨body, hbody.bodyText, rfl⟩

theorem ListMeans.itemsText {Item : List Char → Value → Prop} {cs : List Char} {xs : List Value}
    (h : ListMeans Item cs xs)
    (hitem : ∀ t x, t.length ≤ cs.length → Item t x → ValueText t) : ItemsText cs := by
  induction h with
  | last ha hx hb => exact .last ha (hitem _ _ (by simp; omega) hx) hb
  | more ha hx hb _ ih =>
      refine .more ha (hitem _ _ (by simp; omega) hx) hb (ih ?_)
      intro t x ht
      exact hitem t x (by simp; omega)

theorem ListMeans.membersText {Held : List Char → Value → Prop} {cs : List Char} {d : Document}
    (h : ListMeans (MemberMeans Held) cs d)
    (hitem : ∀ t x, t.length ≤ cs.length → Held t x → ValueText t) : MembersText cs := by
  induction h with
  | last ha hx hb =>
      cases hx with
      | mk hkey hb' hc hv =>
          have hlast := MembersText.last ha hkey.stringText hb' hc
            (hitem _ _ (by simp; omega) hv) hb
          simpa using hlast
  | more ha hx hb _ ih =>
      cases hx with
      | mk hkey hb' hc hv =>
          have hmore := MembersText.more ha hkey.stringText hb' hc
            (hitem _ _ (by simp; omega) hv) hb (ih fun t x ht => hitem t x (by simp; omega))
          simpa using hmore

theorem Means.valueText {t : List Char} {v : Value} (h : Means t v) : ValueText t := by
  -- an entry of an array or a document is shorter than its text
  induction hn : t.length using Nat.strong_induction_on generalizing t v with
  | _ n ih =>
      have hshorter : ∀ cs : List Char, cs.length < n →
          ∀ t x, t.length ≤ cs.length → Means t x → ValueText t := by
        intro cs hcs t x ht hx
        exact ih t.length (by omega) hx rfl
      cases h with
      | null => exact .null
      | true => exact .true
      | false => exact .false
      | number h => exact .number h
      | string h => exact .string h.stringText
      | emptyArray hws => exact .emptyArray hws
      | @array cs _ h => exact .array (h.itemsText (hshorter cs (by simp at hn; omega)))
      | emptyDocument hws => exact .emptyObject hws
      | @document cs _ h => exact .object (h.membersText (hshorter cs (by simp at hn; omega)))

/-- **A text that denotes a value is a JSON text.** -/
theorem Denotes.jsonText {cs : List Char} {v : Value} (h : Denotes cs v) : JsonText cs := by
  obtain ⟨a, t, b, ha, ht, hb, rfl⟩ := h
  exact ⟨a, t, b, ha, ht.valueText, hb, rfl⟩

end DocQuery.Json
