import DocQuery.Proofs.Compiler
import DocQuery.Proofs.StrictReader

/-!
# DocQuery.Proofs.ValueText

**The text of a value denotes that value.** Compact JSON text is written for exactly the values whose
numbers are number literals and in which nothing is absent (`isRenderable`), and a reader of JSON
gets the value back from it, with its keys in order and its numbers as they were
(`toJson_denotes`).

The writer of strings is a parameter of the writer of values, and so it is here: when every string is
written as a string that means its image under `f`, a value is written as a text that denotes the
value with `f` applied to its strings and keys (`means_writeWith`). Ordinary text is the case of the
identity.
-/

namespace DocQuery

namespace Value

/-! ### Induction and recursion through arrays and documents -/

/-- **Structural induction**: what holds of the items of an array, or of the values of a document,
may be used for the whole. -/
@[elab_as_elim]
theorem nestedInduction {motive : Value → Prop} (null : motive .null)
    (bool : ∀ b, motive (.bool b)) (string : ∀ s, motive (.string s))
    (number : ∀ text, motive (.number text))
    (array : ∀ items, (∀ v ∈ items, motive v) → motive (.array items))
    (document : ∀ d, (∀ e ∈ d, motive e.2) → motive (.document d))
    (absentDocument : motive .absentDocument) (absent : motive .absent) (v : Value) : motive v :=
  match v with
  | .null => null
  | .bool b => bool b
  | .string s => string s
  | .number text => number text
  | .array items => array items fun v _ =>
      nestedInduction null bool string number array document absentDocument absent v
  | .document d => document d fun e _ =>
      nestedInduction null bool string number array document absentDocument absent e.2
  | .absentDocument => absentDocument
  | .absent => absent
termination_by v
decreasing_by
  · have := List.sizeOf_lt_of_mem ‹_ ∈ items›
    simp only [Value.array.sizeOf_spec]
    omega
  · have := List.sizeOf_lt_of_mem ‹_ ∈ d›
    have hpair : sizeOf e = 1 + sizeOf e.1 + sizeOf e.2 := rfl
    simp only [Value.document.sizeOf_spec]
    omega

mutual

/-- Change the strings and the keys of a value. -/
def mapText (f : String → String) : Value → Value
  | .string s => .string (f s)
  | .array items => .array (mapTextItems f items)
  | .document d => .document (mapTextElements f d)
  | v => v

/-- Change the strings and the keys in the items of an array. -/
def mapTextItems (f : String → String) : List Value → List Value
  | [] => []
  | v :: rest => v.mapText f :: mapTextItems f rest

/-- Change the strings and the keys in the elements of a document. -/
def mapTextElements (f : String → String) : List (String × Value) → List (String × Value)
  | [] => []
  | (key, v) :: rest => (f key, v.mapText f) :: mapTextElements f rest

end

theorem mapTextItems_eq_map (f : String → String) (items : List Value) :
    mapTextItems f items = items.map (mapText f) := by
  induction items with
  | nil => rfl
  | cons v items ih => rw [mapTextItems, ih, List.map_cons]

theorem mapTextElements_eq_map (f : String → String) (d : Document) :
    mapTextElements f d = d.map fun e => (f e.1, e.2.mapText f) := by
  induction d with
  | nil => rfl
  | cons e d ih => rw [mapTextElements, ih, List.map_cons]

theorem mapText_id (v : Value) : v.mapText id = v := by
  induction v using nestedInduction with
  | array items ih =>
      have hmap : items.map (mapText id) = items.map id := List.map_congr_left ih
      rw [mapText, mapTextItems_eq_map, hmap, List.map_id]
  | document d ih =>
      have hmap : d.map (fun e => (id e.1, e.2.mapText id)) = d.map id :=
        List.map_congr_left fun e he => by rw [ih e he]; rfl
      rw [mapText, mapTextElements_eq_map, hmap, List.map_id]
  | _ => rfl

theorem mapText_mapText (f g : String → String) (v : Value) :
    (v.mapText f).mapText g = v.mapText fun s => g (f s) := by
  induction v using nestedInduction with
  | array items ih =>
      simp only [mapText, mapTextItems_eq_map, List.map_map]
      exact congrArg Value.array (List.map_congr_left ih)
  | document d ih =>
      simp only [mapText, mapTextElements_eq_map, List.map_map]
      exact congrArg Value.document
        (List.map_congr_left fun e he => congrArg (Prod.mk (g (f e.1))) (ih e he))
  | _ => rfl

mutual

/-- Whether a value has a text: all its numbers are number literals, and nothing is absent. -/
def isRenderable : Value → Bool
  | .number text => Decimal.isNumber text
  | .array items => areRenderable items
  | .document d => haveRenderable d
  | .absentDocument => false
  | .absent => false
  | _ => true

/-- Whether the items of an array have texts. -/
def areRenderable : List Value → Bool
  | [] => true
  | v :: rest => v.isRenderable && areRenderable rest

/-- Whether the values of a document have texts. -/
def haveRenderable : List (String × Value) → Bool
  | [] => true
  | (_, v) :: rest => v.isRenderable && haveRenderable rest

end

theorem areRenderable_iff {items : List Value} :
    areRenderable items = true ↔ ∀ v ∈ items, v.isRenderable = true := by
  induction items with
  | nil => simp [areRenderable]
  | cons v items ih => rw [areRenderable, Bool.and_eq_true, ih, List.forall_mem_cons]

theorem haveRenderable_iff {d : Document} :
    haveRenderable d = true ↔ ∀ e ∈ d, e.2.isRenderable = true := by
  induction d with
  | nil => simp [haveRenderable]
  | cons e d ih => rw [haveRenderable, Bool.and_eq_true, ih, List.forall_mem_cons]

/-! ### When there is a text -/

theorem located_eq_ok_iff {α : Type} {place : RenderError → RenderError}
    {x : Except RenderError α} {a : α} : located place x = .ok a ↔ x = .ok a := by
  cases x with
  | ok b => rfl
  | error e =>
      constructor
      · intro h
        cases h
      · intro h
        cases h

theorem map_eq_ok_iff {ε α β : Type} {g : α → β} {x : Except ε α} {b : β} :
    x.map g = .ok b ↔ ∃ a, x = .ok a ∧ g a = b := by
  cases x with
  | ok a => simp [Except.map]
  | error e => simp [Except.map]

theorem exists_map_iff {ε α β : Type} {g : α → β} {x : Except ε α} :
    (∃ b, x.map g = .ok b) ↔ ∃ a, x = .ok a := by
  cases x with
  | ok a => simp [Except.map]
  | error e => simp [Except.map]

section Writer

variable {str : List Char → List Char}

theorem exists_writeItems_iff {items : List Value}
    (hitems : ∀ v ∈ items, (∃ text, v.writeWith str = .ok text) ↔ v.isRenderable = true) (i : Nat) :
    (∃ text, writeItems str i items = .ok text) ↔ areRenderable items = true := by
  induction items generalizing i with
  | nil => exact ⟨fun _ => rfl, fun _ => ⟨_, rfl⟩⟩
  | cons v items ih =>
      rw [List.forall_mem_cons] at hitems
      rw [areRenderable, Bool.and_eq_true, ← hitems.1, ← ih hitems.2 (i + 1)]
      simp only [writeItems, bind_eq_ok_iff, located_eq_ok_iff]
      constructor
      · rintro ⟨_, head, hhead, tail, htail, -⟩
        exact ⟨⟨head, hhead⟩, tail, htail⟩
      · rintro ⟨⟨head, hhead⟩, tail, htail⟩
        exact ⟨_, head, hhead, tail, htail, rfl⟩

theorem exists_writeElements_iff {d : Document}
    (hd : ∀ e ∈ d, (∃ text, e.2.writeWith str = .ok text) ↔ e.2.isRenderable = true) (i : Nat) :
    (∃ text, writeElements str i d = .ok text) ↔ haveRenderable d = true := by
  induction d generalizing i with
  | nil => exact ⟨fun _ => rfl, fun _ => ⟨_, rfl⟩⟩
  | cons e d ih =>
      rw [List.forall_mem_cons] at hd
      rw [haveRenderable, Bool.and_eq_true, ← hd.1, ← ih hd.2 (i + 1)]
      simp only [writeElements, bind_eq_ok_iff, located_eq_ok_iff]
      constructor
      · rintro ⟨_, head, hhead, tail, htail, -⟩
        exact ⟨⟨head, hhead⟩, tail, htail⟩
      · rintro ⟨⟨head, hhead⟩, tail, htail⟩
        exact ⟨_, head, hhead, tail, htail, rfl⟩

/-- **A value has a text exactly when it is renderable**, however its strings are written. -/
theorem exists_writeWith_iff (v : Value) :
    (∃ text, v.writeWith str = .ok text) ↔ v.isRenderable = true := by
  induction v using nestedInduction with
  | null => exact ⟨fun _ => rfl, fun _ => ⟨_, rfl⟩⟩
  | bool b => cases b <;> exact ⟨fun _ => rfl, fun _ => ⟨_, rfl⟩⟩
  | string s => exact ⟨fun _ => rfl, fun _ => ⟨_, rfl⟩⟩
  | number text =>
      rw [writeWith, isRenderable]
      split
      · next h => exact ⟨fun _ => h, fun _ => ⟨_, rfl⟩⟩
      · next h =>
        refine ⟨?_, fun h' => absurd h' h⟩
        rintro ⟨_, h'⟩
        cases h'
  | array items ih =>
      rw [isRenderable, ← exists_writeItems_iff ih 0]
      simp only [writeWith, bind_eq_ok_iff]
      constructor
      · rintro ⟨_, body, hbody, -⟩
        exact ⟨body, hbody⟩
      · rintro ⟨body, hbody⟩
        exact ⟨_, body, hbody, rfl⟩
  | document d ih =>
      rw [isRenderable, ← exists_writeElements_iff ih 0]
      simp only [writeWith, bind_eq_ok_iff]
      constructor
      · rintro ⟨_, body, hbody, -⟩
        exact ⟨body, hbody⟩
      · rintro ⟨body, hbody⟩
        exact ⟨_, body, hbody, rfl⟩
  | absentDocument =>
      refine ⟨?_, fun h => by cases h⟩
      rintro ⟨_, h⟩
      cases h
  | absent =>
      refine ⟨?_, fun h => by cases h⟩
      rintro ⟨_, h⟩
      cases h

theorem exists_toJson_iff (v : Value) :
    (∃ text, v.toJson = .ok text) ↔ v.isRenderable = true :=
  exists_map_iff.trans (exists_writeWith_iff v)

/-! ### What the text denotes -/

variable {f : String → String}

/-- One or more entries with a comma between them and nothing else. -/
inductive Joined {α : Type} (Entry : List Char → α → Prop) : List Char → List α → Prop where
  /-- The last entry. -/
  | last {t : List Char} {x : α} (hx : Entry t x) : Joined Entry t [x]
  /-- An entry before others. -/
  | more {t rest : List Char} {x : α} {xs : List α} (hx : Entry t x)
      (hrest : Joined Entry rest xs) : Joined Entry (t ++ ',' :: rest) (x :: xs)

/-- Items are written one after another, behind the comma that sets them off. -/
theorem joined_writeItems {items : List Value} {i : Nat} {text : List Char}
    (h : writeItems str i items = .ok text) (hne : items ≠ []) :
    ∃ body, text = separator i ++ body ∧ Joined (fun t v => v.writeWith str = .ok t) body items := by
  induction items generalizing i text with
  | nil => exact absurd rfl hne
  | cons v items ih =>
      simp only [writeItems, bind_eq_ok_iff, located_eq_ok_iff, Except.ok.injEq] at h
      obtain ⟨head, hhead, tail, htail, rfl⟩ := h
      cases items with
      | nil =>
          cases htail
          exact ⟨head, by simp, .last hhead⟩
      | cons w items =>
          obtain ⟨body, rfl, hbody⟩ := ih htail (by simp)
          exact ⟨head ++ ',' :: body, by simp [separator], .more hhead hbody⟩

/-- How an element is written: its key, a colon and its value. -/
def WritesElement (str : List Char → List Char) (t : List Char) (e : String × Value) : Prop :=
  ∃ head, e.2.writeWith str = .ok head ∧ t = str e.1.toList ++ ':' :: head

/-- Elements are written one after another, behind the comma that sets them off. -/
theorem joined_writeElements {d : Document} {i : Nat} {text : List Char}
    (h : writeElements str i d = .ok text) (hne : d ≠ []) :
    ∃ body, text = separator i ++ body ∧ Joined (WritesElement str) body d := by
  induction d generalizing i text with
  | nil => exact absurd rfl hne
  | cons e d ih =>
      simp only [writeElements, bind_eq_ok_iff, located_eq_ok_iff, Except.ok.injEq] at h
      obtain ⟨head, hhead, tail, htail, rfl⟩ := h
      have helement : WritesElement str (str e.1.toList ++ ':' :: head) e := ⟨head, hhead, rfl⟩
      cases d with
      | nil =>
          cases htail
          exact ⟨str e.1.toList ++ ':' :: head, by simp, .last helement⟩
      | cons e' d =>
          obtain ⟨body, rfl, hbody⟩ := ih htail (by simp)
          exact ⟨_, by simp [separator], .more helement hbody⟩

/-- Entries that each mean something are a list of their meanings. -/
theorem Joined.listMeans {α β : Type} {Entry : List Char → α → Prop} {Item : List Char → β → Prop}
    {g : α → β} {body : List Char} {xs : List α} (h : Joined Entry body xs)
    (hitem : ∀ x ∈ xs, ∀ t, Entry t x → Item t (g x)) : Json.ListMeans Item body (xs.map g) := by
  induction h with
  | last hx =>
      have hlast := Json.ListMeans.last Json.blankText_nil
        (hitem _ (List.mem_singleton_self _) _ hx) Json.blankText_nil
      rwa [List.nil_append, List.append_nil] at hlast
  | more hx _ ih =>
      rw [List.forall_mem_cons] at hitem
      exact .more Json.blankText_nil (hitem.1 _ hx) Json.blankText_nil (ih hitem.2)

/-- Items are written as a list of their meanings, behind the comma that sets them off. -/
theorem listMeans_writeItems {items : List Value}
    (hitems : ∀ v ∈ items, ∀ text, v.writeWith str = .ok text → Json.Means text (v.mapText f))
    {i : Nat} {text : List Char} (h : writeItems str i items = .ok text) (hne : items ≠ []) :
    ∃ body, text = separator i ++ body ∧
      Json.ListMeans Json.Means body (items.map (mapText f)) := by
  obtain ⟨body, htext, hbody⟩ := joined_writeItems h hne
  exact ⟨body, htext, hbody.listMeans hitems⟩

/-- Elements are written as a list of members, behind the comma that sets them off. -/
theorem listMeans_writeElements (hstr : ∀ s : String, Json.StringMeans (str s.toList) (f s))
    {d : Document}
    (hd : ∀ e ∈ d, ∀ text, e.2.writeWith str = .ok text → Json.Means text (e.2.mapText f))
    {i : Nat} {text : List Char} (h : writeElements str i d = .ok text) (hne : d ≠ []) :
    ∃ body, text = separator i ++ body ∧
      Json.ListMeans (Json.MemberMeans Json.Means) body (d.map fun e => (f e.1, e.2.mapText f)) := by
  obtain ⟨body, htext, hbody⟩ := joined_writeElements h hne
  refine ⟨body, htext, hbody.listMeans ?_⟩
  rintro e he _ ⟨head, hhead, rfl⟩
  have hmember := Json.MemberMeans.mk (hstr e.1) Json.blankText_nil Json.blankText_nil
    (hd e he head hhead)
  rwa [List.nil_append, List.nil_append] at hmember

/-- **The text of a value means the value**, with its strings and keys as their writer changes
them. -/
theorem means_writeWith (hstr : ∀ s : String, Json.StringMeans (str s.toList) (f s)) {v : Value}
    {text : List Char} (h : v.writeWith str = .ok text) : Json.Means text (v.mapText f) := by
  induction v using nestedInduction generalizing text with
  | null =>
      cases h
      exact .null
  | bool b =>
      cases b with
      | true =>
          cases h
          exact .true
      | false =>
          cases h
          exact .false
  | string s =>
      cases h
      exact .string (hstr s)
  | number number =>
      rw [writeWith] at h
      split at h
      · next hnumber =>
        cases h
        exact .number ((Json.isNumberChars_iff _).1 hnumber)
      · cases h
  | array items ih =>
      simp only [writeWith, bind_eq_ok_iff, Except.ok.injEq] at h
      obtain ⟨body, hbody, rfl⟩ := h
      rw [mapText, mapTextItems_eq_map]
      cases items with
      | nil =>
          cases hbody
          exact .emptyArray Json.blankText_nil
      | cons v items =>
          obtain ⟨list, rfl, hlist⟩ := listMeans_writeItems (fun v hv _ => ih v hv) hbody (by simp)
          exact .array hlist
  | document d ih =>
      simp only [writeWith, bind_eq_ok_iff, Except.ok.injEq] at h
      obtain ⟨body, hbody, rfl⟩ := h
      rw [mapText, mapTextElements_eq_map]
      cases d with
      | nil =>
          cases hbody
          exact .emptyDocument Json.blankText_nil
      | cons e d =>
          obtain ⟨list, rfl, hlist⟩ :=
            listMeans_writeElements hstr (fun e he _ => ih e he) hbody (by simp)
          exact .document hlist
  | absentDocument => cases h
  | absent => cases h

end Writer

end Value

/-! ### Strings as they are written -/

namespace Json

theorem Means.denotes {t : List Char} {v : Value} (h : Means t v) : Denotes t v :=
  ⟨[], t, [], blankText_nil, h, blankText_nil, by simp⟩

theorem charUnits_of_lt {c : Char} (h : c.toNat < 0x10000) : Text.charUnits c = [c.toNat] := by
  rw [Text.charUnits, if_pos h]

/-- A code of four digits spells the unit of its character. -/
theorem bodySpells_code {c : Char} (hc : c.toNat < 0x10000) {rest : List Char} {us : List Nat}
    (h : BodySpells rest us) :
    BodySpells ('\\' :: 'u' :: Text.hexDigits 4 c.toNat ++ rest) (Text.charUnits c ++ us) := by
  obtain ⟨a, b, x, d, hdigits, -⟩ := hexDigits_four c.toNat
  have hwidth : c.toNat % 16 ^ 4 = c.toNat := Nat.mod_eq_of_lt hc
  have hnumber : hexNumber? [a, b, x, d] = some c.toNat := by
    rw [← hdigits, hexNumber?_hexDigits, hwidth]
  rw [hdigits, charUnits_of_lt hc]
  exact .code hnumber h

/-- What is written for a character spells its units. -/
theorem bodySpells_escapeChar (c : Char) {rest : List Char} {us : List Nat}
    (h : BodySpells rest us) :
    BodySpells (escapeChar c ++ rest) (Text.charUnits c ++ us) := by
  have hletter : ∀ {x : Char} (n : Nat), c.toNat = n → escapeMeaning? x = some (Char.ofNat n) →
      BodySpells (['\\', x] ++ rest) (Text.charUnits c ++ us) := by
    intro x n hn hx
    rw [← eq_ofNat_of_toNat hn] at hx
    exact .letter hx h
  unfold escapeChar
  split
  · next hc =>
    have hc' : c = '"' ∨ c = '\\' := by simpa using hc
    rcases hc' with rfl | rfl
    · exact .letter rfl h
    · exact .letter rfl h
  next hc =>
  have hplain : c ≠ '"' ∧ c ≠ '\\' := by simpa using hc
  split
  · next hc => exact hletter 0x0a (by rw [eq_of_beq hc]; rfl) rfl
  split
  · next hc => exact hletter 0x0d (by rw [eq_of_beq hc]; rfl) rfl
  split
  · next hc => exact hletter 0x09 (by rw [eq_of_beq hc]; rfl) rfl
  split
  · next hc => exact hletter 0x08 (eq_of_beq hc) rfl
  split
  · next hc => exact hletter 0x0c (eq_of_beq hc) rfl
  split
  · next hc =>
    simp only [Bool.or_eq_true, decide_eq_true_eq, beq_iff_eq] at hc
    exact bodySpells_code (by omega) h
  · next hc =>
    simp only [Bool.or_eq_true, decide_eq_true_eq, beq_iff_eq] at hc
    exact .plain (by omega) hplain.1 hplain.2 h

/-- A text whose characters are each written as a spelling of their units. -/
theorem stringMeans_flatMap {esc : Char → List Char}
    (hesc : ∀ (c : Char) {rest : List Char} {us : List Nat}, BodySpells rest us →
      BodySpells (esc c ++ rest) (Text.charUnits c ++ us)) (s : String) :
    StringMeans ('"' :: s.toList.flatMap esc ++ ['"']) s := by
  have hbody : ∀ cs : List Char, BodySpells (cs.flatMap esc) (cs.flatMap Text.charUnits) := by
    intro cs
    induction cs with
    | nil => exact .nil
    | cons c cs ih =>
        rw [List.flatMap_cons, List.flatMap_cons]
        exact hesc c ih
  exact ⟨s.toList.flatMap esc, hbody s.toList, rfl⟩

theorem stringMeans_writeString (s : String) : StringMeans (writeString s.toList) s :=
  stringMeans_flatMap bodySpells_escapeChar s

/-- The compact text of a value means it. -/
theorem means_writeJson {v : Value} {text : List Char} (h : v.writeJson = .ok text) :
    Means text v := by
  have hv := Value.means_writeWith (f := id) stringMeans_writeString h
  rwa [Value.mapText_id] at hv

end Json

/-! ### Ordinary text -/

/-- **Decoding undoes encoding.** The compact text of a value is a JSON text; it denotes that value
and no other, and a reader that keeps the order of members and the text of numbers reads that value
from it. -/
theorem toJson_denotes {v : Value} {text : String} (h : v.toJson = .ok text) :
    Json.JsonText text.toList ∧ (∀ w, Json.Denotes text.toList w ↔ w = v) ∧
      Json.Strict.read text.toList = some v := by
  obtain ⟨cs, hwrite, rfl⟩ := Value.map_eq_ok_iff.1 h
  rw [String.toList_ofList]
  have hdenotes := (Json.means_writeJson hwrite).denotes
  exact ⟨hdenotes.jsonText, hdenotes.iff_eq, Json.Strict.read_eq_some_iff.2 hdenotes⟩

theorem escapes_read_back :
    let v : Value := .document [("b\"\\", .array [.string "\n\u0001,]\u2028😀", .number "-0.5e+7"]),
      ("a", .document []), ("", .null)]
    let text : String :=
      "\x7b\"b\\\"\\\\\":[\"\\n\\u0001,]\\u2028😀\",-0.5e+7],\"a\":\x7b\x7d,\"\":null\x7d"
    v.toJson = .ok text ∧ Json.JsonText text.toList ∧ (∀ w, Json.Denotes text.toList w ↔ w = v) ∧
      Json.Strict.read text.toList = some v := by
  intro v text
  have h : v.toJson = .ok text := by cbv
  exact ⟨h, toJson_denotes h⟩

end DocQuery
