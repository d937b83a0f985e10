import DocQuery.Proofs.CanonicalForm
import DocQuery.Value.Indexed

/-!
# DocQuery.Proofs.IndexedDocuments

**The index of a document follows its elements.** A document with an index holds every key twice,
once with its value and once with its place, and only the operations keep the two together. However
keys are set, in whatever order and however often, the document is the one that a plain list of
elements would be (`toDocument_ofList`), and the index has the place of each key and nothing else.

The invariant is `WellIndexed`: no key occurs twice, and the index is *the* index of the keys
(`indexOf`), which leaves no freedom. So one step lemma for setting a key carries every run of them
(`WellIndexed.setAll`), and two documents with the same elements are the same, index included
(`WellIndexed.eq_of_toDocument`).
-/

namespace DocQuery

namespace Document

/-! ### Keys set one after another -/

theorem get?_cons (name : String) (e : String × Value) (d : Document) :
    get? name (e :: d) = if name = e.1 then some e.2 else d.get? name := by
  unfold get?
  rw [show e :: d = (e.1, e.2) :: d from rfl, List.lookup_cons]
  by_cases h : name = e.1
  · rw [if_pos h, beq_iff_eq.2 h]
  · rw [if_neg h, beq_eq_false_iff_ne.2 h]

theorem get?_set (key name : String) (v : Value) (d : Document) :
    (d.set key v).get? name = if name = key then some v else d.get? name := by
  induction d with
  | nil => rw [set, get?_cons]
  | cons e d ih =>
      rw [set]
      split
      · next hk =>
        rw [get?_cons, get?_cons, hk]
        split <;> rfl
      · next hk =>
        rw [get?_cons, get?_cons, ih]
        by_cases hname : name = e.1
        · rw [if_pos hname, if_neg (hname ▸ hk), if_pos hname]
        · rw [if_neg hname, if_neg hname]

/-- A key has the value that it was last set to. -/
theorem get?_setAll (d : Document) (calls : List (String × Value)) (name : String) :
    (d.setAll calls).get? name = (calls.reverse.lookup name).or (d.get? name) := by
  induction calls generalizing d with
  | nil => rfl
  | cons e calls ih =>
      have hlast : [e].lookup name = if name = e.1 then some e.2 else none := get?_cons name e []
      rw [show d.setAll (e :: calls) = (d.set e.1 e.2).setAll calls from rfl, ih, get?_set,
        List.reverse_cons, List.lookup_append, Option.or_assoc, hlast]
      split <;> rfl

theorem ofList_concat (calls : List (String × Value)) (e : String × Value) :
    ofList (calls ++ [e]) = (ofList calls).set e.1 e.2 := by
  unfold ofList setAll
  rw [List.foldl_append]
  rfl

theorem get?_ofList (calls : List (String × Value)) (name : String) :
    (ofList calls).get? name = calls.reverse.lookup name := by
  rw [ofList, get?_setAll]
  exact Option.or_none

theorem mem_keys_ofList {calls : List (String × Value)} {name : String} :
    name ∈ (ofList calls).keys ↔ name ∈ calls.map (·.1) := by
  induction calls using List.reverseRecOn with
  | nil => rfl
  | append_singleton calls e ih =>
      rw [ofList_concat, keys_set, List.map_append, List.mem_append, ← ih]
      split
      · next hkey =>
        constructor
        · exact Or.inl
        · rintro (h | h)
          · exact h
          · rwa [List.mem_singleton.1 h]
      · rw [List.mem_append]
        rfl

/-- Keys stand in the order in which they were first set. -/
theorem pairwise_keys_ofList (calls : List (String × Value)) :
    (ofList calls).keys.Pairwise fun a b =>
      (calls.map (·.1)).idxOf a < (calls.map (·.1)).idxOf b := by
  induction calls using List.reverseRecOn with
  | nil => exact .nil
  | append_singleton calls e ih =>
      -- one more call moves no first call
      have hfirst : ∀ {name}, name ∈ (ofList calls).keys →
          ((calls ++ [e]).map (·.1)).idxOf name = (calls.map (·.1)).idxOf name := by
        intro name hname
        rw [List.map_append, List.idxOf_append_of_mem (mem_keys_ofList.1 hname)]
      have hkept : (ofList calls).keys.Pairwise fun a b =>
          ((calls ++ [e]).map (·.1)).idxOf a < ((calls ++ [e]).map (·.1)).idxOf b := by
        refine ih.imp_of_mem ?_
        intro a b ha hb hab
        rwa [hfirst ha, hfirst hb]
      rw [ofList_concat, keys_set]
      split
      · exact hkept
      · next hnew =>
        rw [List.pairwise_append]
        refine ⟨hkept, List.pairwise_singleton _ _, ?_⟩
        intro a ha b hb
        rw [List.mem_singleton.1 hb, hfirst ha, List.map_append,
          List.idxOf_append_of_notMem (fun h => hnew (mem_keys_ofList.2 h)), List.map_singleton,
          List.idxOf_cons_self, Nat.add_zero]
        exact List.idxOf_lt_length_iff.2 (mem_keys_ofList.1 ha)

theorem nodup_keys_set {d : Document} (h : d.keys.Nodup) (key : String) (v : Value) :
    (d.set key v).keys.Nodup := by
  rw [keys_set]
  split
  · exact h
  · next hkey => exact h.append (List.nodup_singleton key) (by simpa using hkey)

/-! ### Elements by their places -/

/-- A known key is set at its place. -/
theorem set_eq_modify {d : Document} (hnodup : d.keys.Nodup) {key : String} {i : Nat}
    (hi : d.keys[i]? = some key) (v : Value) : d.set key v = d.modify i fun e => (e.1, v) := by
  induction d generalizing i with
  | nil => cases hi
  | cons e d ih =>
      rw [keys_cons, List.nodup_cons] at hnodup
      cases i with
      | zero =>
          rw [keys_cons, List.getElem?_cons_zero, Option.some.injEq] at hi
          rw [set, if_pos hi, List.modify_zero_cons]
      | succ i =>
          rw [keys_cons, List.getElem?_cons_succ] at hi
          have hne : e.1 ≠ key := fun heq => hnodup.1 (heq ▸ List.mem_of_getElem? hi)
          rw [set, if_neg hne, ih hnodup.2 hi, List.modify_succ_cons]

/-- A known key is found at its place. -/
theorem get?_eq_of_place {d : Document} (hnodup : d.keys.Nodup) {key : String} {i : Nat}
    (hi : d.keys[i]? = some key) : d.get? key = d[i]?.map (·.2) := by
  induction d generalizing i with
  | nil => cases hi
  | cons e d ih =>
      rw [keys_cons, List.nodup_cons] at hnodup
      rw [get?_cons]
      cases i with
      | zero =>
          rw [keys_cons, List.getElem?_cons_zero, Option.some.injEq] at hi
          rw [if_pos hi.symm]
          rfl
      | succ i =>
          rw [keys_cons, List.getElem?_cons_succ] at hi
          have hne : key ≠ e.1 := fun heq => hnodup.1 (heq ▸ List.mem_of_getElem? hi)
          rw [if_neg hne, ih hnodup.2 hi, List.getElem?_cons_succ]

/-- An element is found by its key. -/
theorem get?_of_mem {d : Document} (hnodup : d.keys.Nodup) {e : String × Value} (he : e ∈ d) :
    d.get? e.1 = some e.2 := by
  obtain ⟨i, hi⟩ := List.mem_iff_getElem?.1 he
  have hplace : d.keys[i]? = some e.1 := by
    rw [keys, List.getElem?_map, hi]
    rfl
  rw [get?_eq_of_place hnodup hplace, hi]
  rfl

theorem get?_eq_none_iff {d : Document} {key : String} : d.get? key = none ↔ key ∉ d.keys := by
  unfold get? keys
  rw [List.lookup_eq_none_iff, List.mem_map]
  constructor
  · rintro h ⟨e, he, rfl⟩
    simpa using h e he
  · intro h e he
    rw [bne_iff_ne]
    exact fun heq => h ⟨e, he, heq.symm⟩

end Document

/-! ### Indices -/

/-- The place of each key, the newest first. -/
def placesOf (keys : List String) : List (String × Nat) := keys.zipIdx.reverse

theorem placesOf_concat (keys : List String) (key : String) :
    placesOf (keys ++ [key]) = (key, keys.length) :: placesOf keys := by
  rw [placesOf, List.zipIdx_append, List.reverse_append, Nat.zero_add]
  rfl

/-- The places of different keys lead to each of them, and nowhere else. -/
theorem lookup_placesOf {keys : List String} (hnodup : keys.Nodup) (key : String) (i : Nat) :
    (placesOf keys).lookup key = some i ↔ keys[i]? = some key := by
  induction keys using List.reverseRecOn with
  | nil => simp [placesOf]
  | append_singleton keys last ih =>
      rw [List.nodup_append] at hnodup
      have hold := ih hnodup.1
      rw [placesOf_concat, List.lookup_cons]
      by_cases hkey : key = last
      · -- the last key is new, so it has no other place
        subst hkey
        have hnew : ∀ j, keys[j]? ≠ some key := fun j hj =>
          hnodup.2.2 key (List.mem_of_getElem? hj) key (List.mem_singleton_self key) rfl
        rw [beq_self_eq_true, Option.some.injEq]
        constructor
        · rintro rfl
          exact List.getElem?_concat_length
        · intro hi
          by_contra hne
          rcases Nat.lt_or_gt_of_ne hne with hlt | hgt
          · rw [List.getElem?_eq_none (by simp; omega)] at hi
            cases hi
          · rw [List.getElem?_append_left hgt] at hi
            exact hnew i hi
      · rw [beq_eq_false_iff_ne.2 hkey, hold]
        rcases Nat.lt_trichotomy i keys.length with hlt | rfl | hgt
        · rw [List.getElem?_append_left hlt]
        · rw [List.getElem?_concat_length, List.getElem?_eq_none (Nat.le_refl _)]
          simp [Ne.symm hkey]
        · rw [List.getElem?_eq_none (Nat.le_of_lt hgt), List.getElem?_eq_none (by simp; omega)]

theorem lookup_isSome (places : List (String × Nat)) (key : String) :
    (places.lookup key).isSome = decide (key ∈ places.map (·.1)) := by
  rw [Bool.eq_iff_iff, List.lookup_isSome_iff, decide_eq_true_eq, List.mem_map]
  simp only [beq_iff_eq, @eq_comm _ key]

theorem mem_placesOf_iff {keys : List String} {key : String} :
    key ∈ (placesOf keys).map (·.1) ↔ key ∈ keys := by
  rw [placesOf, List.map_reverse, List.mem_reverse, List.zipIdx_map_fst]

namespace IndexedDocument

variable {d : IndexedDocument}

/-- The index that leads from each key to its place. Without keys there is none. -/
def indexOf (keys : List String) : Option (List (String × Nat)) :=
  if keys = [] then none else some (placesOf keys)

theorem indexOf_concat (keys : List String) (key : String) :
    indexOf (keys ++ [key]) = some ((key, keys.length) :: (indexOf keys).getD []) := by
  have hplaces : (indexOf keys).getD [] = placesOf keys := by
    unfold indexOf
    split
    · next hnil => rw [hnil]; rfl
    · rfl
  rw [hplaces, indexOf, if_neg (by simp), placesOf_concat]

/-- The index of different keys leads to the place of a key, and nowhere else. -/
theorem lookup_indexOf {keys : List String} (hnodup : keys.Nodup) (key : String) (i : Nat) :
    ((indexOf keys).bind fun places => places.lookup key) = some i ↔ keys[i]? = some key := by
  unfold indexOf
  split
  · next hnil => simp [hnil]
  · exact lookup_placesOf hnodup key i

/-! ### The invariant -/

/-- No key occurs twice, and the index is that of the keys. -/
structure WellIndexed (d : IndexedDocument) : Prop where
  /-- No key occurs twice. -/
  distinct : d.keys.Nodup
  /-- The index is that of the keys. -/
  index_eq : d.index = indexOf d.keys

theorem wellIndexed_empty : WellIndexed empty := ⟨List.nodup_nil, rfl⟩

theorem WellIndexed.place?_eq_some_iff (h : d.WellIndexed) {key : String} {i : Nat} :
    d.place? key = some i ↔ d.keys[i]? = some key := by
  rw [place?, h.index_eq]
  exact lookup_indexOf h.distinct key i

theorem WellIndexed.place?_eq_none_iff (h : d.WellIndexed) {key : String} :
    d.place? key = none ↔ key ∉ d.keys := by
  rw [Option.eq_none_iff_forall_ne_some, List.mem_iff_getElem?, not_exists]
  exact forall_congr' fun i => not_congr h.place?_eq_some_iff

/-- Setting a key sets it in the elements, and the index is kept. -/
theorem WellIndexed.set (h : d.WellIndexed) (key : String) (v : Value) :
    (d.set key v).WellIndexed ∧ (d.set key v).toDocument = d.toDocument.set key v := by
  have hdocument : (d.set key v).toDocument = d.toDocument.set key v := by
    unfold IndexedDocument.set
    split
    · next i hi =>
      rw [Document.set_eq_modify h.distinct (h.place?_eq_some_iff.1 hi)]
      exact Array.toList_modify
    · next hnone =>
      rw [Document.set_of_not_mem v (h.place?_eq_none_iff.1 hnone)]
      exact Array.toList_push
  have hkeys : (d.set key v).keys = (d.toDocument.set key v).keys := congrArg Document.keys hdocument
  refine ⟨⟨?_, ?_⟩, hdocument⟩
  · rw [hkeys]
    exact Document.nodup_keys_set h.distinct key v
  · rw [hkeys, Document.keys_set]
    unfold IndexedDocument.set
    split
    · next i hi =>
      have hmem : key ∈ d.toDocument.keys := List.mem_of_getElem? (h.place?_eq_some_iff.1 hi)
      rw [if_pos hmem]
      exact h.index_eq
    · next hnone =>
      have hnew : key ∉ d.toDocument.keys := h.place?_eq_none_iff.1 hnone
      have hlength : d.toDocument.keys.length = d.elements.size := by
        simp [Document.keys, toDocument]
      rw [if_neg hnew, indexOf_concat, hlength, h.index_eq]
      rfl

/-- Every run of setting keys keeps the index, and builds the document that the elements alone
would be. -/
theorem WellIndexed.setAll (h : d.WellIndexed) (calls : List (String × Value)) :
    (d.setAll calls).WellIndexed ∧ (d.setAll calls).toDocument = d.toDocument.setAll calls := by
  induction calls generalizing d with
  | nil => exact ⟨h, rfl⟩
  | cons e calls ih =>
      obtain ⟨hset, hdocument⟩ := h.set e.1 e.2
      obtain ⟨hrun, hresult⟩ := ih hset
      refine ⟨hrun, hresult.trans ?_⟩
      rw [hdocument]
      rfl

theorem wellIndexed_ofList (calls : List (String × Value)) : (ofList calls).WellIndexed :=
  (wellIndexed_empty.setAll calls).1

/-- **The index changes nothing**: what is built with one is what is built without. -/
theorem toDocument_ofList (calls : List (String × Value)) :
    (ofList calls).toDocument = Document.ofList calls :=
  (wellIndexed_empty.setAll calls).2

/-- The elements determine the index. -/
theorem WellIndexed.eq_of_toDocument (h : d.WellIndexed) {d' : IndexedDocument}
    (h' : d'.WellIndexed) (heq : d.toDocument = d'.toDocument) : d = d' := by
  have hindex : d.index = d'.index := by
    rw [h.index_eq, h'.index_eq, keys, keys, heq]
  cases d
  cases d'
  rw [IndexedDocument.mk.injEq]
  exact ⟨Array.toList_inj.1 heq, hindex⟩

theorem WellIndexed.get?_eq (h : d.WellIndexed) (key : String) :
    d.get? key = d.toDocument.get? key := by
  unfold IndexedDocument.get?
  cases hplace : d.place? key with
  | none => exact (Document.get?_eq_none_iff.2 (h.place?_eq_none_iff.1 hplace)).symm
  | some i =>
      rw [Document.get?_eq_of_place h.distinct (h.place?_eq_some_iff.1 hplace)]
      rw [Option.bind_some, toDocument, Array.getElem?_toList]

theorem WellIndexed.has_eq_true_iff (h : d.WellIndexed) {key : String} :
    d.has key = true ↔ key ∈ d.keys := by
  rw [has, Option.isSome_iff_ne_none, ne_eq, h.place?_eq_none_iff, not_not]

/-- The elements are the keys with their values. -/
theorem WellIndexed.toDocument_eq (h : d.WellIndexed) :
    d.toDocument.map (fun e => (e.1, some e.2)) = d.keys.map fun key => (key, d.get? key) := by
  rw [keys, Document.keys, List.map_map]
  refine List.map_congr_left ?_
  intro e he
  rw [Function.comp_apply, h.get?_eq, Document.get?_of_mem h.distinct he]

/-! ### Runs of calls -/

/-- What a document shows of the calls that set its keys, in the order of the calls. -/
structure Records (d : IndexedDocument) (calls : List (String × Value)) : Prop where
  /-- No key occurs twice. -/
  distinct : d.keys.Nodup
  /-- The keys are those that were set. -/
  mem_keys : ∀ key, key ∈ d.keys ↔ key ∈ calls.map (·.1)
  /-- They stand in the order in which they were first set. -/
  order : d.keys.Pairwise fun a b => (calls.map (·.1)).idxOf a < (calls.map (·.1)).idxOf b
  /-- A key has the value that it was last set to. -/
  value : ∀ key, d.get? key = calls.reverse.lookup key
  /-- A key has no value exactly when it was never set. -/
  absent : ∀ key, d.get? key = none ↔ key ∉ calls.map (·.1)
  /-- A key is present exactly when it was set. -/
  present : ∀ key, d.has key = true ↔ key ∈ calls.map (·.1)
  /-- The size is the number of keys. -/
  size_eq : d.size = d.keys.length
  /-- The elements are the keys, in order, with their values. -/
  elements_eq : d.toDocument.map (fun e => (e.1, some e.2)) =
    d.keys.map fun key => (key, d.get? key)
  /-- The index leads from a key to its place, and from nothing else anywhere. -/
  index_eq : ∀ key i, d.place? key = some i ↔ d.keys[i]? = some key

/-- **Runs of setting keys.** After any calls, with keys repeated or not, a document shows exactly
what they were: each key once, in the order of first calls, with the value of its last call, and an
index of these places. Setting its elements anew gives the same document, index included; and
without an index the same calls build the same elements. -/
theorem ofList_records (calls : List (String × Value)) :
    (ofList calls).Records calls ∧ ofList (ofList calls).toDocument = ofList calls ∧
      (ofList calls).toDocument = Document.ofList calls := by
  have h := wellIndexed_ofList calls
  have hdocument := toDocument_ofList calls
  have hkeys : (ofList calls).keys = (Document.ofList calls).keys := congrArg Document.keys hdocument
  have hmem : ∀ key, key ∈ (ofList calls).keys ↔ key ∈ calls.map (·.1) := by
    intro key
    rw [hkeys]
    exact Document.mem_keys_ofList
  have hvalue : ∀ key, (ofList calls).get? key = calls.reverse.lookup key := by
    intro key
    rw [h.get?_eq, hdocument, Document.get?_ofList]
  refine ⟨⟨h.distinct, hmem, ?_, hvalue, ?_, ?_, ?_, h.toDocument_eq, ?_⟩, ?_, hdocument⟩
  · rw [hkeys]
    exact Document.pairwise_keys_ofList calls
  · intro key
    rw [h.get?_eq, Document.get?_eq_none_iff]
    exact not_congr (hmem key)
  · intro key
    rw [h.has_eq_true_iff, hmem]
  · simp [size, keys, Document.keys, toDocument]
  · exact fun key i => h.place?_eq_some_iff
  · refine (wellIndexed_ofList _).eq_of_toDocument h ?_
    -- different keys are appended one after another
    have hnodup : (Document.keys ([] ++ (ofList calls).toDocument)).Nodup := h.distinct
    rw [toDocument_ofList, Document.ofList, Document.setAll_of_nodup hnodup, List.nil_append]

end IndexedDocument

end DocQuery
