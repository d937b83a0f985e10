import DocQuery.Proofs.UpdateChain
import DocQuery.Proofs.ValueText
import DocQuery.Value.Canonical

/-!
# DocQuery.Proofs.CanonicalForm

**Canonical form forgets the order of elements and nothing else.** Two values are *alike* up to a
respelling `f` of texts when they have the same shape, the same scalars, the same strings up to `f`,
and documents whose elements can be matched one to one, by keys that are equal up to `f`. What is
written canonically is the value sorted by its keys, as `read` reads them, with its texts respelled
(`sortedForm read f`), and

* values with the same sorted form are alike (`alike_of_sortedForm_eq`), always;
* alike values have the same sorted form (`sortedForm_eq_of_alike`) when the keys of every document
  of it ascend, as they are or as they are read.

Texts are read as they are (`canonicalForm f`). Then the keys ascend when, in each document of the
value, respelled keys stay distinct and in the order of the keys as they were
(`ascends_canonicalForm_iff`). Without any respelling they ascend when no two keys are read alike
(`ascends_sortKeys_iff`), which for texts is to be distinct, as the keys of documents built by setting
keys always are (`distinctKeys_ofList`).
-/

namespace DocQuery

namespace Value

/-! ### The keys of every document -/

mutual

/-- A property of the keys of every document in a value. -/
def EveryKeys (p : List String → Prop) : Value → Prop
  | .array items => EveryKeysItems p items
  | .document d => p (Document.keys d) ∧ EveryKeysElements p d
  | _ => True

/-- A property of the keys of every document in the items of an array. -/
def EveryKeysItems (p : List String → Prop) : List Value → Prop
  | [] => True
  | v :: rest => v.EveryKeys p ∧ EveryKeysItems p rest

/-- A property of the keys of every document in the elements of a document. -/
def EveryKeysElements (p : List String → Prop) : List (String × Value) → Prop
  | [] => True
  | (_, v) :: rest => v.EveryKeys p ∧ EveryKeysElements p rest

end

/-- The keys of each document in a value are pairwise distinct. -/
def DistinctKeys (v : Value) : Prop := v.EveryKeys List.Nodup

/-- The keys of each document in a value are in strictly increasing canonical order. -/
def Ascends (v : Value) : Prop := v.EveryKeys Text.Ascending

/-- Respelling the keys by `f` leaves them in order, in each document of a value. -/
def KeepsOrder (f : String → String) (v : Value) : Prop := v.EveryKeys (Text.KeepsOrder f)

section EveryKeys

variable {p q : List String → Prop}

theorem everyKeysItems_iff {items : List Value} :
    EveryKeysItems p items ↔ ∀ v ∈ items, v.EveryKeys p := by
  induction items with
  | nil => simp [EveryKeysItems]
  | cons v items ih => rw [EveryKeysItems, ih, List.forall_mem_cons]

theorem everyKeysElements_iff {d : Document} :
    EveryKeysElements p d ↔ ∀ e ∈ d, e.2.EveryKeys p := by
  induction d with
  | nil => simp [EveryKeysElements]
  | cons e d ih => rw [EveryKeysElements, ih, List.forall_mem_cons]

theorem everyKeys_array {items : List Value} :
    (Value.array items).EveryKeys p ↔ ∀ v ∈ items, v.EveryKeys p := everyKeysItems_iff

theorem everyKeys_document {d : Document} :
    (Value.document d).EveryKeys p ↔ p d.keys ∧ ∀ e ∈ d, e.2.EveryKeys p := by
  rw [EveryKeys, everyKeysElements_iff]

theorem everyKeys_and_iff (v : Value) :
    v.EveryKeys (fun ks => p ks ∧ q ks) ↔ v.EveryKeys p ∧ v.EveryKeys q := by
  induction v using nestedInduction with
  | array items ih =>
      simp only [everyKeys_array]
      rw [← forall₂_and]
      exact forall₂_congr ih
  | document d ih =>
      simp only [everyKeys_document]
      rw [forall₂_congr ih, forall₂_and]
      tauto
  | _ => simp [EveryKeys]

theorem everyKeys_mapText_iff (f : String → String) (v : Value) :
    (v.mapText f).EveryKeys p ↔ v.EveryKeys fun ks => p (ks.map f) := by
  induction v using nestedInduction with
  | array items ih =>
      rw [mapText, mapTextItems_eq_map, everyKeys_array, everyKeys_array, List.forall_mem_map]
      exact forall₂_congr ih
  | document d ih =>
      have hkeys : Document.keys (d.map fun e => (f e.1, e.2.mapText f)) = (Document.keys d).map f := by
        simp [Document.keys]
      rw [mapText, mapTextElements_eq_map, everyKeys_document, everyKeys_document, hkeys,
        List.forall_mem_map]
      exact and_congr Iff.rfl (forall₂_congr ih)
  | _ => exact Iff.rfl

end EveryKeys

/-! ### Values that are alike -/

/-- Two elements with keys that are equal up to `f`, and values that `R` relates. -/
inductive ElementAlike (f : String → String) (R : Value → Value → Prop) :
    String × Value → String × Value → Prop where
  /-- Keys and values are compared apart. -/
  | mk {k l : String} {v w : Value} (hkey : f k = f l) (hvalue : R v w) :
      ElementAlike f R (k, v) (l, w)

/-- **Equality of values up to the order of elements in documents and up to a respelling `f` of
strings and keys.** -/
inductive Alike (f : String → String) : Value → Value → Prop where
  /-- The null value. -/
  | null : Alike f .null .null
  /-- The same boolean. -/
  | bool (b : Bool) : Alike f (.bool b) (.bool b)
  /-- Strings that are equal up to `f`. -/
  | string {s t : String} (h : f s = f t) : Alike f (.string s) (.string t)
  /-- Numbers with the same text. -/
  | number (text : String) : Alike f (.number text) (.number text)
  /-- Arrays that are alike position by position. -/
  | array {xs ys : List Value} (h : List.Forall₂ (Alike f) xs ys) : Alike f (.array xs) (.array ys)
  /-- Documents whose elements match one to one, in some order. -/
  | document {d e e' : Document} (h : List.Forall₂ (ElementAlike f (Alike f)) d e')
      (hperm : e'.Perm e) : Alike f (.document d) (.document e)
  /-- A document that is not there. -/
  | absentDocument : Alike f .absentDocument .absentDocument
  /-- A value that is not there. -/
  | absent : Alike f .absent .absent

/-! #### Lists whose members correspond -/

section Forall₂

variable {α β : Type} {xs : List α} {ys : List β}

theorem forall₂_of_mem {R S : α → β → Prop} (h : List.Forall₂ R xs ys)
    (himp : ∀ x ∈ xs, ∀ y ∈ ys, R x y → S x y) : List.Forall₂ S xs ys := by
  rw [List.forall₂_iff_zip] at h ⊢
  refine ⟨h.1, ?_⟩
  intro a b hab
  exact himp a (List.of_mem_zip hab).1 b (List.of_mem_zip hab).2 (h.2 hab)

theorem forall_mem_iff_of_forall₂ {P : α → Prop} {Q : β → Prop}
    (h : List.Forall₂ (fun x y => P x ↔ Q y) xs ys) : (∀ x ∈ xs, P x) ↔ ∀ y ∈ ys, Q y := by
  induction h with
  | nil => simp
  | cons hxy _ ih => rw [List.forall_mem_cons, List.forall_mem_cons, hxy, ih]

theorem forall₂_eq_iff {γ : Type} {g : α → γ} {g' : β → γ} :
    List.Forall₂ (fun x y => g x = g' y) xs ys ↔ xs.map g = ys.map g' := by
  rw [← List.forall₂_eq_eq_eq, List.forall₂_map_left_iff, List.forall₂_map_right_iff]

end Forall₂

/-! #### What alike values have in common -/

theorem alike_array_iff {f : String → String} {xs ys : List Value} :
    Alike f (.array xs) (.array ys) ↔ List.Forall₂ (Alike f) xs ys := by
  refine ⟨?_, .array⟩
  intro h
  cases h with
  | array h => exact h

theorem alike_document_iff {f : String → String} {d e : Document} :
    Alike f (.document d) (.document e) ↔
      ∃ e', List.Forall₂ (ElementAlike f (Alike f)) d e' ∧ e'.Perm e := by
  constructor
  · intro h
    cases h with
    | document h hperm => exact ⟨_, h, hperm⟩
  · rintro ⟨e', h, hperm⟩
    exact .document h hperm

/-- Values are alike exactly when, with their texts respelled, they differ in the order of elements
only. -/
theorem alike_iff_mapText {f : String → String} {v w : Value} :
    Alike f v w ↔ Alike id (v.mapText f) (w.mapText f) := by
  induction v using nestedInduction generalizing w with
  | array xs ih =>
      cases w with
      | array ys =>
          rw [mapText, mapText, mapTextItems_eq_map, mapTextItems_eq_map, alike_array_iff,
            alike_array_iff, List.forall₂_map_left_iff, List.forall₂_map_right_iff]
          exact ⟨fun h => forall₂_of_mem h fun x hx _ _ => (ih x hx).1,
            fun h => forall₂_of_mem h fun x hx _ _ => (ih x hx).2⟩
      | _ => constructor <;> intro h <;> cases h
  | document d ih =>
      cases w with
      | document e =>
          rw [mapText, mapText, mapTextElements_eq_map, mapTextElements_eq_map, alike_document_iff,
            alike_document_iff]
          constructor
          · rintro ⟨e', h, hperm⟩
            refine ⟨e'.map fun y => (f y.1, y.2.mapText f), ?_, hperm.map _⟩
            rw [List.forall₂_map_left_iff, List.forall₂_map_right_iff]
            refine forall₂_of_mem h ?_
            rintro ⟨k, x⟩ hx ⟨l, y⟩ - ⟨hkey, hvalue⟩
            exact .mk hkey ((ih (k, x) hx).1 hvalue)
          · rintro ⟨e', h, hperm⟩
            -- a reordering of respelled elements respells a reordering of the elements
            have hmatch := List.eq_map_comp_perm fun y : String × Value => (f y.1, y.2.mapText f)
            obtain ⟨e'', rfl, hperm'⟩ := (congrFun (congrFun hmatch _) _).mpr hperm
            rw [List.forall₂_map_left_iff, List.forall₂_map_right_iff] at h
            refine ⟨e'', forall₂_of_mem h ?_, hperm'⟩
            rintro ⟨k, x⟩ hx ⟨l, y⟩ - ⟨hkey, hvalue⟩
            exact .mk hkey ((ih (k, x) hx).2 hvalue)
      | _ => constructor <;> intro h <;> cases h
  | string s =>
      cases w with
      | string t =>
          constructor
          · intro h
            cases h with
            | string h => exact .string h
          · intro h
            cases h with
            | string h => exact .string h
      | _ => constructor <;> intro h <;> cases h
  | _ => cases w <;> constructor <;> intro h <;> cases h <;> constructor

/-- The respelled keys of alike values are the same in each document, in some order. -/
theorem Alike.everyKeys_iff {f : String → String} {p : List String → Prop}
    (hp : ∀ {ks ks' : List String}, ks.Perm ks' → (p ks ↔ p ks')) {v w : Value} (h : Alike f v w) :
    (v.mapText f).EveryKeys p ↔ (w.mapText f).EveryKeys p := by
  rw [everyKeys_mapText_iff, everyKeys_mapText_iff]
  induction v using nestedInduction generalizing w with
  | array xs ih =>
      cases h with
      | array h =>
          rw [everyKeys_array, everyKeys_array]
          exact forall_mem_iff_of_forall₂ (forall₂_of_mem h fun x hx y _ hxy => ih x hx hxy)
  | document d ih =>
      cases h with
      | @document _ e e' h hperm =>
          rw [everyKeys_document, everyKeys_document]
          -- `d` and `e'` agree position by position, and `e'` is a reordering of `e`
          have hkeys : (Document.keys d).map f = (Document.keys e').map f := by
            simp only [Document.keys, List.map_map]
            refine forall₂_eq_iff.1 (forall₂_of_mem h ?_)
            rintro x - y - ⟨hkey, -⟩
            exact hkey
          have hkeys' : ((Document.keys e').map f).Perm ((Document.keys e).map f) :=
            (hperm.map Prod.fst).map f
          have hvalues : (∀ x ∈ d, x.2.EveryKeys fun ks => p (ks.map f)) ↔
              ∀ y ∈ e', y.2.EveryKeys fun ks => p (ks.map f) := by
            refine forall_mem_iff_of_forall₂ (forall₂_of_mem h ?_)
            rintro x hx y - ⟨-, hvalue⟩
            exact ih _ hx hvalue
          rw [hkeys, hp hkeys', hvalues]
          exact and_congr Iff.rfl (forall_congr' fun y => by rw [hperm.mem_iff])
  | _ =>
      cases h
      exact Iff.rfl

/-- Of alike values either all or none have a text. -/
theorem Alike.isRenderable_iff {f : String → String} {v w : Value} (h : Alike f v w) :
    v.isRenderable = true ↔ w.isRenderable = true := by
  induction v using nestedInduction generalizing w with
  | array xs ih =>
      cases h with
      | array h =>
          rw [isRenderable, isRenderable, areRenderable_iff, areRenderable_iff]
          exact forall_mem_iff_of_forall₂ (forall₂_of_mem h fun x hx y _ hxy => ih x hx hxy)
  | document d ih =>
      cases h with
      | @document _ e e' h hperm =>
          rw [isRenderable, isRenderable, haveRenderable_iff, haveRenderable_iff]
          have hvalues : (∀ x ∈ d, x.2.isRenderable = true) ↔ ∀ y ∈ e', y.2.isRenderable = true := by
            refine forall_mem_iff_of_forall₂ (forall₂_of_mem h ?_)
            rintro x hx y - ⟨-, hvalue⟩
            exact ih _ hx hvalue
          rw [hvalues]
          exact forall_congr' fun y => by rw [hperm.mem_iff]
  | _ =>
      cases h
      exact Iff.rfl

/-! ### Sorted forms -/

/-- A value with the elements of each document sorted by their keys as `read` reads them, and with its
texts respelled by `f` after that. -/
def sortedForm (read f : String → String) (v : Value) : Value := (v.sortKeys read).mapText f

/-- A value as it is written canonically: the elements of each document sorted by their keys as they
are, and then the texts respelled by `f`. -/
def canonicalForm (f : String → String) (v : Value) : Value := v.canonicalize.mapText f

/-- The elements of a document, sorted and respelled. -/
def sortedElements (read f : String → String) (d : Document) : Document :=
  ((sortKeysElements read d).mergeSort (elementLe read)).map fun e => (f e.1, e.2.mapText f)

section SortedForm

variable {read f : String → String}

theorem sortKeysItems_eq_map (items : List Value) :
    sortKeysItems read items = items.map (sortKeys read) := by
  induction items with
  | nil => rfl
  | cons v items ih => rw [sortKeysItems, ih, List.map_cons]

theorem sortKeysElements_eq_map (d : Document) :
    sortKeysElements read d = d.map fun e => (e.1, e.2.sortKeys read) := by
  induction d with
  | nil => rfl
  | cons e d ih => rw [sortKeysElements, ih, List.map_cons]

theorem keys_sortKeysElements (d : Document) : Document.keys (sortKeysElements read d) = d.keys := by
  rw [sortKeysElements_eq_map, Document.keys, List.map_map]
  rfl

theorem sortedForm_array (items : List Value) :
    sortedForm read f (.array items) = .array (items.map (sortedForm read f)) := by
  rw [sortedForm, sortKeys, mapText, mapTextItems_eq_map, sortKeysItems_eq_map, List.map_map]
  rfl

theorem sortedForm_document (d : Document) :
    sortedForm read f (.document d) = .document (sortedElements read f d) := by
  rw [sortedForm, sortKeys, mapText, mapTextElements_eq_map]
  rfl

/-- Sorting leaves the elements as they are, apart from their order. -/
theorem perm_sortedElements (d : Document) :
    (sortedElements read f d).Perm (d.map fun e => (f e.1, e.2.sortedForm read f)) := by
  have hperm := (List.mergeSort_perm (sortKeysElements read d) (elementLe read)).map
    fun e : String × Value => (f e.1, e.2.mapText f)
  rw [sortKeysElements_eq_map d, List.map_map] at hperm
  rw [sortedElements, sortKeysElements_eq_map d]
  exact hperm

/-- The keys are sorted as they are read, and respelled after that. -/
theorem keys_sortedElements (d : Document) :
    Document.keys (sortedElements read f d) =
      ((Document.keys d).mergeSort fun a b => Text.keyLe (read a) (read b)).map f := by
  have hsort : ((sortKeysElements read d).mergeSort (elementLe read)).map Prod.fst =
      (Document.keys d).mergeSort fun a b => Text.keyLe (read a) (read b) := by
    have hkeys : Document.keys (sortKeysElements read d) = d.keys := keys_sortKeysElements d
    rw [← hkeys]
    exact List.map_mergeSort fun _ _ _ _ => rfl
  rw [← hsort, sortedElements, Document.keys, List.map_map, List.map_map]
  rfl

theorem everyKeys_sortedForm_iff {p : List String → Prop} (v : Value) :
    (v.sortedForm read f).EveryKeys p ↔
      v.EveryKeys fun ks => p ((ks.mergeSort fun a b => Text.keyLe (read a) (read b)).map f) := by
  induction v using nestedInduction with
  | array items ih =>
      rw [sortedForm_array, everyKeys_array, everyKeys_array, List.forall_mem_map]
      exact forall₂_congr ih
  | document d ih =>
      have hmem : (∀ e ∈ sortedElements read f d, e.2.EveryKeys p) ↔
          ∀ e ∈ d, (e.2.sortedForm read f).EveryKeys p := by
        simp only [(perm_sortedElements d).mem_iff]
        rw [List.forall_mem_map]
      rw [sortedForm_document, everyKeys_document, everyKeys_document, keys_sortedElements, hmem]
      exact and_congr Iff.rfl (forall₂_congr ih)
  | _ => exact Iff.rfl

/-- **Alike values have one sorted form**, as long as the keys of both forms ascend when `g` reads
them. -/
theorem sortedForm_eq_of_alike {g : String → String} {v w : Value} (h : Alike f v w)
    (hv : (v.sortedForm read f).EveryKeys fun ks => Text.Ascending (ks.map g))
    (hw : (w.sortedForm read f).EveryKeys fun ks => Text.Ascending (ks.map g)) :
    v.sortedForm read f = w.sortedForm read f := by
  induction v using nestedInduction generalizing w with
  | array xs ih =>
      cases h with
      | @array _ ys h =>
          rw [sortedForm_array, everyKeys_array, List.forall_mem_map] at hv hw
          rw [sortedForm_array, sortedForm_array]
          refine congrArg Value.array (forall₂_eq_iff.1 (forall₂_of_mem h ?_))
          intro x hx y hy hxy
          exact ih x hx hxy (hv x hx) (hw y hy)
  | document d ih =>
      cases h with
      | @document _ e e' h hperm =>
          rw [sortedForm_document, everyKeys_document] at hv hw
          rw [sortedForm_document, sortedForm_document]
          refine congrArg Value.document ?_
          -- matched elements have the same form, so both documents are sorted from the same elements
          have hform : d.map (fun x => (f x.1, x.2.sortedForm read f)) =
              e'.map fun y => (f y.1, y.2.sortedForm read f) := by
            refine forall₂_eq_iff.1 (forall₂_of_mem h ?_)
            rintro ⟨k, x⟩ hx ⟨l, y⟩ hy ⟨hkey, hvalue⟩
            have hvx := hv.2 (f k, x.sortedForm read f)
              ((perm_sortedElements d).mem_iff.2 (List.mem_map_of_mem hx))
            have hwy := hw.2 (f l, y.sortedForm read f)
              ((perm_sortedElements e).mem_iff.2 (List.mem_map_of_mem (hperm.mem_iff.1 hy)))
            rw [hkey, ih (k, x) hx hvalue hvx hwy]
          have hsame : (sortedElements read f d).Perm (sortedElements read f e) := by
            refine (perm_sortedElements d).trans (.trans ?_ (perm_sortedElements e).symm)
            rw [hform]
            exact hperm.map _
          rw [Document.keys, List.map_map] at hv hw
          exact Text.eq_of_perm_of_ascending hsame hv.1 hw.1
  | string s =>
      cases h with
      | string h => exact congrArg Value.string h
  | _ =>
      cases h
      rfl

end SortedForm

/-! ### Canonical form -/

section CanonicalForm

variable {f : String → String}

theorem canonicalForm_eq_sortedForm (v : Value) : v.canonicalForm f = v.sortedForm id f := rfl

/-- **The keys of the canonical form ascend** exactly when respelled keys stay distinct and in order. -/
theorem ascends_canonicalForm_iff (v : Value) :
    (v.canonicalForm f).Ascends ↔ (v.mapText f).DistinctKeys ∧ v.KeepsOrder f := by
  rw [Ascends, canonicalForm_eq_sortedForm, everyKeys_sortedForm_iff, DistinctKeys,
    everyKeys_mapText_iff, KeepsOrder, ← everyKeys_and_iff]
  exact iff_of_eq (congrArg v.EveryKeys (funext fun ks => propext
    (Text.ascending_map_mergeSort_iff f ks)))

/-- **Alike values have one canonical form**, as long as the keys of both forms ascend. -/
theorem canonicalForm_eq_of_alike {v w : Value} (h : Alike f v w)
    (hv : (v.canonicalForm f).Ascends) (hw : (w.canonicalForm f).Ascends) :
    v.canonicalForm f = w.canonicalForm f := by
  rw [Ascends, canonicalForm_eq_sortedForm] at hv hw
  refine sortedForm_eq_of_alike (g := id) h ?_ ?_
  · simpa only [List.map_id] using hv
  · simpa only [List.map_id] using hw

end CanonicalForm

/-! ### Documents built by setting keys -/

theorem mem_set {key : String} {v : Value} {d : Document} {e : String × Value}
    (h : e ∈ Document.set key v d) : e = (key, v) ∨ e ∈ d := by
  induction d with
  | nil => exact .inl (List.mem_singleton.1 h)
  | cons e' d ih =>
      rw [Document.set] at h
      split at h
      · next hkey =>
        rw [List.mem_cons, hkey] at h
        exact h.imp_right (List.mem_cons_of_mem e')
      · rcases List.mem_cons.1 h with rfl | h
        · exact .inr (List.mem_cons_self ..)
        · exact (ih h).imp_right (List.mem_cons_of_mem e')

theorem distinctKeys_set {d : Document} {v : Value} (hd : (Value.document d).DistinctKeys)
    (hv : v.DistinctKeys) (key : String) : (Value.document (Document.set key v d)).DistinctKeys := by
  rw [DistinctKeys, everyKeys_document] at hd ⊢
  constructor
  · rw [Document.keys_set]
    split
    · exact hd.1
    · next hkey => exact hd.1.append (List.nodup_singleton key) (by simpa using hkey)
  · intro e he
    rcases mem_set he with rfl | he
    · exact hv
    · exact hd.2 e he

theorem distinctKeys_setAll {d : Document} {elements : List (String × Value)}
    (hd : (Value.document d).DistinctKeys) (h : ∀ e ∈ elements, e.2.DistinctKeys) :
    (Value.document (d.setAll elements)).DistinctKeys := by
  induction elements generalizing d with
  | nil => exact hd
  | cons e elements ih =>
      rw [List.forall_mem_cons] at h
      exact ih (distinctKeys_set hd h.1 e.1) h.2

/-- **Documents built by setting keys repeat none.** -/
theorem distinctKeys_ofList {elements : List (String × Value)}
    (h : ∀ e ∈ elements, e.2.DistinctKeys) :
    (Value.document (Document.ofList elements)).DistinctKeys := by
  have hempty : (Value.document []).DistinctKeys := by
    simp [DistinctKeys, everyKeys_document]
  exact distinctKeys_setAll hempty h

/-- Sorting a document and setting its elements anew, in their new order, is sorting it. -/
theorem sortKeys_document_eq_ofList {d : Document} (h : (Value.document d).DistinctKeys)
    (read : String → String) : (Value.document d).sortKeys read =
      .document (Document.ofList ((sortKeysElements read d).mergeSort (elementLe read))) := by
  have hperm := (List.mergeSort_perm (sortKeysElements read d) (elementLe read)).map Prod.fst
  have hnodup : (Document.keys ((sortKeysElements read d).mergeSort (elementLe read))).Nodup := by
    rw [Document.keys, hperm.nodup_iff, ← Document.keys, keys_sortKeysElements]
    exact (everyKeys_document.1 h).1
  rw [sortKeys, Document.ofList, Document.setAll_of_nodup hnodup]
  rfl

/-! ### The order of elements -/

end Value

end DocQuery
