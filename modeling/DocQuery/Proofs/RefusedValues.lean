import DocQuery.Proofs.DoubleRange
import DocQuery.Proofs.Renderers
import DocQuery.Value.Bson

/-!
# DocQuery.Proofs.RefusedValues

**Which values are refused.** Values are handed in unchecked: a number may have any text, and a value
or a document may be missing at any depth. Compact text, canonical text, fingerprints and YAML nodes
are refused for the same values, those that are not well formed (`Value.WellFormed`); driver values
are refused for these as well, and otherwise only for a number that a double cannot hold
(`one_condition_for_renderers`).

Well-formedness is said of the *parts* of a value (`Within`), not by a recursion of its own, and a
refusal of the driver's renderer is followed down to the part that causes it (`Leads`): what is wrong
there is one of four faults (`Bson.Refuses`), each with its reason.
-/

namespace DocQuery

namespace Value

/-! ### Parts of a value -/

/-- A value stands in another one: it is that value, or it stands in an item of an array or in a
value of a document. -/
inductive Within (part : Value) : Value → Prop where
  /-- The whole. -/
  | here : Within part part
  /-- In an item. -/
  | item {items : List Value} {v : Value} (hv : v ∈ items) (h : Within part v) :
      Within part (.array items)
  /-- In the value of a key. -/
  | element {d : Document} {e : String × Value} (he : e ∈ d) (h : Within part e.2) :
      Within part (.document d)

/-- Nothing in a value is malformed: its numbers are number literals, and neither a value nor a
document is missing. -/
structure WellFormed (v : Value) : Prop where
  /-- Every number is a number literal. -/
  numbers : ∀ text, (Value.number text).Within v → Json.NumberText text.toList
  /-- No value is missing. -/
  values : ¬ Value.absent.Within v
  /-- No document is missing. -/
  documents : ¬ Value.absentDocument.Within v

theorem wellFormed_array_iff {items : List Value} :
    (Value.array items).WellFormed ↔ ∀ v ∈ items, v.WellFormed := by
  constructor
  · intro h v hv
    exact ⟨fun text htext => h.numbers text (.item hv htext), fun hpart => h.values (.item hv hpart),
      fun hpart => h.documents (.item hv hpart)⟩
  · intro h
    refine ⟨fun text hpart => ?_, fun hpart => ?_, fun hpart => ?_⟩
    · cases hpart with
      | item hv hpart => exact (h _ hv).numbers text hpart
    · cases hpart with
      | item hv hpart => exact (h _ hv).values hpart
    · cases hpart with
      | item hv hpart => exact (h _ hv).documents hpart

theorem wellFormed_document_iff {d : Document} :
    (Value.document d).WellFormed ↔ ∀ e ∈ d, e.2.WellFormed := by
  constructor
  · intro h e he
    exact ⟨fun text htext => h.numbers text (.element he htext),
      fun hpart => h.values (.element he hpart), fun hpart => h.documents (.element he hpart)⟩
  · intro h
    refine ⟨fun text hpart => ?_, fun hpart => ?_, fun hpart => ?_⟩
    · cases hpart with
      | element he hpart => exact (h _ he).numbers text hpart
    · cases hpart with
      | element he hpart => exact (h _ he).values hpart
    · cases hpart with
      | element he hpart => exact (h _ he).documents hpart

/-- **Well-formed values are the renderable ones.** -/
theorem wellFormed_iff_isRenderable (v : Value) : v.WellFormed ↔ v.isRenderable = true := by
  induction v using nestedInduction with
  | number text =>
      rw [isRenderable, Decimal.isNumber, Json.isNumberChars_iff]
      constructor
      · intro h
        exact h.numbers text .here
      · intro h
        refine ⟨?_, ?_, ?_⟩
        · rintro _ ⟨⟩
          exact h
        · rintro ⟨⟩
        · rintro ⟨⟩
  | array items ih =>
      rw [wellFormed_array_iff, isRenderable, areRenderable_iff]
      exact forall₂_congr ih
  | document d ih =>
      rw [wellFormed_document_iff, isRenderable, haveRenderable_iff]
      exact forall₂_congr ih
  | absentDocument => exact iff_of_false (fun h => h.documents .here) (by simp [isRenderable])
  | absent => exact iff_of_false (fun h => h.values .here) (by simp [isRenderable])
  | _ =>
      refine iff_of_true ⟨?_, ?_, ?_⟩ rfl
      · rintro _ ⟨⟩
      · rintro ⟨⟩
      · rintro ⟨⟩

/-- An error leads to a part of a value: its places, followed down from the whole, end at the part,
and there the fault is left. -/
inductive Leads (part : Value) (fault : RenderError) : Value → RenderError → Prop where
  /-- The error is the fault of the whole. -/
  | here : Leads part fault part fault
  /-- The error names an item. -/
  | item {items : List Value} {i : Nat} {v : Value} {e : RenderError} (hv : items[i]? = some v)
      (h : Leads part fault v e) : Leads part fault (.array items) (.atIndex i e)
  /-- The error names a key. -/
  | element {d : Document} {key : String} {v : Value} {e : RenderError} (he : (key, v) ∈ d)
      (h : Leads part fault v e) : Leads part fault (.document d) (.atKey key e)

theorem Leads.within {part v : Value} {fault e : RenderError} (h : Leads part fault v e) :
    part.Within v := by
  induction h with
  | here => exact .here
  | item hv _ ih => exact .item (List.mem_of_getElem? hv) ih
  | element he _ ih => exact .element he ih

/-! ### Computations that fail -/

theorem located_eq_error_iff {α : Type} {place : RenderError → RenderError}
    {x : Except RenderError α} {e : RenderError} :
    located place x = .error e ↔ ∃ fault, x = .error fault ∧ e = place fault := by
  cases x with
  | ok a => simp [located]
  | error fault => simp [located, eq_comm]

theorem map_eq_error_iff {ε α β : Type} {g : α → β} {x : Except ε α} {e : ε} :
    x.map g = .error e ↔ x = .error e := by
  cases x with
  | ok a => simp [Except.map]
  | error c => simp [Except.map]

end Value

namespace Bson

open Decimal
open Value (located_eq_ok_iff located_eq_error_iff map_eq_ok_iff map_eq_error_iff)

/-! ### What driver values are refused for -/

/-- A literal that becomes a 64-bit integer: it has neither fraction nor exponent, and its value is
in range. -/
def IsInt64 (text : String) : Prop :=
  isInteger text = true ∧ -2 ^ 63 ≤ integerValue text ∧ integerValue text < 2 ^ 63

/-- A literal whose value is too large for a double. -/
def Overflows (text : String) : Prop :=
  ∃ x, Exact.read? text.toList = some x ∧ Magnitude.overflowBound ≤ x.size

/-- The parts that have no driver value, each with the reason that is given. -/
inductive Refuses : Value → RenderError → Prop where
  /-- A number that is no number literal. -/
  | invalid {text : String} (h : ¬ Json.NumberText text.toList) :
      Refuses (.number text) (.invalidNumber text)
  /-- A number that neither integers nor doubles can hold. -/
  | large {text : String} (hint : ¬ IsInt64 text) (hlarge : Overflows text)
      (hnumber : Json.NumberText text.toList) : Refuses (.number text) (.outOfRange text)
  /-- A document that is not there. -/
  | absentDocument : Refuses .absentDocument .absentDocument
  /-- A value that is not there. -/
  | absent : Refuses .absent .absentValue

theorem fitsInteger_iff (text : String) :
    (isInteger text && fitsInt64 (integerValue text)) = true ↔ IsInt64 text := by
  simp only [IsInt64, fitsInt64, signedLimit, Bool.and_eq_true]
  norm_num

theorem ofLiteral_eq_error_iff {text : String} (h : Json.NumberText text.toList)
    {e : RenderError} : ofLiteral text = .error e ↔ Overflows text ∧ e = .outOfRange text := by
  obtain ⟨x, hx⟩ := exists_read?_of_numberText h
  have hoverflows : Overflows text ↔ Magnitude.overflowBound ≤ x.size := by
    simp [Overflows, hx]
  rw [ofLiteral, hx, hoverflows]
  rcases Binary64.ofExact_cases x with ⟨m, hfinite, hsize⟩ | ⟨hinfinite, hsize⟩
  · simp [hfinite, not_le.2 hsize]
  · simp [hinfinite, hsize, eq_comm]

/-- **A number has a driver value** unless it is refused. -/
theorem ofNumber_eq_error_iff {text : String} {e : RenderError} :
    ofNumber text = .error e ↔ Refuses (.number text) e := by
  have hnumber : isNumber text = true ↔ Json.NumberText text.toList := Json.isNumberChars_iff _
  unfold ofNumber
  split
  · next h =>
    have hinvalid : ¬ Json.NumberText text.toList := by
      rw [← hnumber]
      simpa using h
    constructor
    · rintro ⟨⟩
      exact .invalid hinvalid
    · rintro (_ | _)
      · rfl
      · contradiction
  next h =>
  have hvalid : Json.NumberText text.toList := hnumber.1 (by simpa using h)
  split
  · next hint =>
    refine iff_of_false (by simp) ?_
    rintro (hinvalid | hnot)
    · exact hinvalid hvalid
    · exact hnot ((fitsInteger_iff text).1 hint)
  · next hint =>
    rw [ofLiteral_eq_error_iff hvalid]
    constructor
    · rintro ⟨hlarge, rfl⟩
      exact .large (fun hfits => hint ((fitsInteger_iff text).2 hfits)) hlarge hvalid
    · rintro (hinvalid | ⟨_, hlarge, _⟩)
      · exact absurd hvalid hinvalid
      · exact ⟨hlarge, rfl⟩

/-- Items are refused at the place of one that is refused. -/
theorem exists_item_of_ofItems {items : List Value} {i : Nat} {e : RenderError}
    (h : ofItems i items = .error e) :
    ∃ j v fault, items[j]? = some v ∧ ofValue v = .error fault ∧ e = .atIndex (i + j) fault := by
  induction items generalizing i with
  | nil => cases h
  | cons v items ih =>
      simp only [ofItems, bind_eq_error_iff, located_eq_error_iff] at h
      rcases h with ⟨fault, hv, rfl⟩ | ⟨_, -, htail | ⟨_, -, h⟩⟩
      · exact ⟨0, v, fault, rfl, hv, rfl⟩
      · obtain ⟨j, w, fault, hw, hfault, rfl⟩ := ih htail
        exact ⟨j + 1, w, fault, hw, hfault, by rw [Nat.add_right_comm, Nat.add_assoc]⟩
      · cases h

theorem exists_element_of_ofElements {d : Document} {e : RenderError}
    (h : ofElements d = .error e) :
    ∃ key v fault, (key, v) ∈ d ∧ ofValue v = .error fault ∧ e = .atKey key fault := by
  induction d with
  | nil => cases h
  | cons element d ih =>
      simp only [ofElements, bind_eq_error_iff, located_eq_error_iff] at h
      rcases h with ⟨fault, hv, rfl⟩ | ⟨_, -, htail | ⟨_, -, h⟩⟩
      · exact ⟨element.1, element.2, fault, List.mem_cons_self, hv, rfl⟩
      · obtain ⟨key, w, fault, hw, hfault, rfl⟩ := ih htail
        exact ⟨key, w, fault, List.mem_cons_of_mem _ hw, hfault, rfl⟩
      · cases h

/-- **A refusal leads to its cause**: the places of the error, followed down, end at a part that is
refused for the reason given. -/
theorem leads_of_ofValue {v : Value} {e : RenderError} (h : ofValue v = .error e) :
    ∃ part fault, Value.Leads part fault v e ∧ Refuses part fault := by
  induction v using Value.nestedInduction generalizing e with
  | number text => exact ⟨_, e, .here, ofNumber_eq_error_iff.1 h⟩
  | array items ih =>
      simp only [ofValue, map_eq_error_iff] at h
      obtain ⟨j, v, fault, hv, hfault, rfl⟩ := exists_item_of_ofItems h
      obtain ⟨part, cause, hleads, hrefuses⟩ := ih v (List.mem_of_getElem? hv) hfault
      rw [Nat.zero_add]
      exact ⟨part, cause, .item hv hleads, hrefuses⟩
  | document d ih =>
      simp only [ofValue, map_eq_error_iff] at h
      obtain ⟨key, v, fault, hv, hfault, rfl⟩ := exists_element_of_ofElements h
      obtain ⟨part, cause, hleads, hrefuses⟩ := ih (key, v) hv hfault
      exact ⟨part, cause, .element hv hleads, hrefuses⟩
  | absentDocument =>
      cases h
      exact ⟨_, _, .here, .absentDocument⟩
  | absent =>
      cases h
      exact ⟨_, _, .here, .absent⟩
  | _ => cases h

theorem exists_ofValue_of_ofItems {items : List Value} {i : Nat} {bs : List Bson}
    (h : ofItems i items = .ok bs) {v : Value} (hv : v ∈ items) : ∃ b, ofValue v = .ok b := by
  induction items generalizing i bs with
  | nil => cases hv
  | cons w items ih =>
      simp only [ofItems, bind_eq_ok_iff, located_eq_ok_iff] at h
      obtain ⟨head, hhead, tail, htail, -⟩ := h
      rcases List.mem_cons.1 hv with rfl | hv
      · exact ⟨head, hhead⟩
      · exact ih htail hv

theorem exists_ofValue_of_ofElements {d : Document} {bs : List (String × Bson)}
    (h : ofElements d = .ok bs) {e : String × Value} (he : e ∈ d) : ∃ b, ofValue e.2 = .ok b := by
  induction d generalizing bs with
  | nil => cases he
  | cons element d ih =>
      simp only [ofElements, bind_eq_ok_iff, located_eq_ok_iff] at h
      obtain ⟨head, hhead, tail, htail, -⟩ := h
      rcases List.mem_cons.1 he with rfl | he
      · exact ⟨head, hhead⟩
      · exact ih htail he

/-- The parts of a value that has a driver value have one each. -/
theorem exists_ofValue_of_within {part v : Value} (h : part.Within v) {b : Bson}
    (hv : ofValue v = .ok b) : ∃ b, ofValue part = .ok b := by
  induction h generalizing b with
  | here => exact ⟨b, hv⟩
  | item hmem _ ih =>
      rw [ofValue, map_eq_ok_iff] at hv
      obtain ⟨bs, hbs, -⟩ := hv
      obtain ⟨b, hb⟩ := exists_ofValue_of_ofItems hbs hmem
      exact ih hb
  | element hmem _ ih =>
      rw [ofValue, map_eq_ok_iff] at hv
      obtain ⟨bs, hbs, -⟩ := hv
      obtain ⟨b, hb⟩ := exists_ofValue_of_ofElements hbs hmem
      exact ih hb

theorem ofValue_of_refuses {part : Value} {fault : RenderError} (h : Refuses part fault) :
    ofValue part = .error fault := by
  cases h with
  | invalid hinvalid => exact ofNumber_eq_error_iff.2 (.invalid hinvalid)
  | large hint hlarge hnumber => exact ofNumber_eq_error_iff.2 (.large hint hlarge hnumber)
  | absentDocument => rfl
  | absent => rfl

/-- A part that is refused makes the whole refused. -/
theorem not_refuses_of_within {part v : Value} {fault : RenderError} (h : part.Within v) {b : Bson}
    (hv : ofValue v = .ok b) : ¬ Refuses part fault := by
  intro hrefuses
  obtain ⟨_, hpart⟩ := exists_ofValue_of_within h hv
  rw [ofValue_of_refuses hrefuses] at hpart
  cases hpart

/-- **In a well-formed value only a number is refused**, one that neither integers nor doubles can
hold, and the error says which and where. -/
theorem leads_to_large {v : Value} (hv : v.WellFormed) {e : RenderError}
    (h : ofValue v = .error e) : ∃ text, Value.Leads (.number text) (.outOfRange text) v e ∧
      ¬ IsInt64 text ∧ Overflows text := by
  obtain ⟨part, fault, hleads, hrefuses⟩ := leads_of_ofValue h
  cases hrefuses with
  | invalid hinvalid => exact absurd (hv.numbers _ hleads.within) hinvalid
  | large hint hlarge _ => exact ⟨_, hleads, hint, hlarge⟩
  | absentDocument => exact absurd hleads.within hv.documents
  | absent => exact absurd hleads.within hv.values

/-- **A value has a driver value** exactly when it is well formed and each of its numbers fits an
integer or a double. -/
theorem exists_ofValue_iff (v : Value) :
    (∃ b, ofValue v = .ok b) ↔ v.WellFormed ∧
      ∀ text, (Value.number text).Within v → IsInt64 text ∨ ¬ Overflows text := by
  constructor
  · rintro ⟨b, hb⟩
    have hnumbers : ∀ text, (Value.number text).Within v → Json.NumberText text.toList :=
      fun text h => not_not.1 fun hinvalid => not_refuses_of_within h hb (.invalid hinvalid)
    refine ⟨⟨hnumbers, fun h => not_refuses_of_within h hb .absent,
      fun h => not_refuses_of_within h hb .absentDocument⟩, ?_⟩
    intro text htext
    by_contra hnot
    obtain ⟨hint, hlarge⟩ := not_or.1 hnot
    exact not_refuses_of_within htext hb (.large hint (not_not.1 hlarge) (hnumbers text htext))
  · rintro ⟨hwell, hfit⟩
    cases hresult : ofValue v with
    | ok b => exact ⟨b, rfl⟩
    | error e =>
        obtain ⟨text, hleads, hint, hlarge⟩ := leads_to_large hwell hresult
        rcases hfit text hleads.within with hfits | hsmall
        · exact absurd hfits hint
        · exact absurd hlarge hsmall

end Bson

/-! ### All renderers -/

/-- **One condition for all renderers.** Compact text, canonical text, a fingerprint and a YAML node
are given for a value exactly when its numbers are number literals and nothing in it is missing. A
driver value is given exactly when, besides, each number is an integer of 64 bits or within the range
of doubles; a well-formed value that has none is refused with an error that leads to a number outside
both. -/
theorem one_condition_for_renderers (v : Value) :
    ((∃ text, v.toJson = .ok text) ↔ v.WellFormed) ∧
      ((∃ text, v.toCanonicalJson = .ok text) ↔ v.WellFormed) ∧
      ((∃ print, v.fingerprint = .ok print) ↔ v.WellFormed) ∧
      ((∃ node, Yaml.Node.ofValue v = .ok node) ↔ v.WellFormed) ∧
      ((∃ b, Bson.ofValue v = .ok b) ↔ v.WellFormed ∧
        ∀ text, (Value.number text).Within v → Bson.IsInt64 text ∨ ¬ Bson.Overflows text) ∧
      ∀ e, Bson.ofValue v = .error e → v.WellFormed →
        ∃ text, Value.Leads (.number text) (.outOfRange text) v e ∧
          ¬ Bson.IsInt64 text ∧ Bson.Overflows text := by
  have hwell := (Value.wellFormed_iff_isRenderable v).symm
  refine ⟨(Value.exists_toJson_iff v).trans hwell, (Value.exists_toCanonicalJson_iff v).trans hwell,
    (Value.exists_fingerprint_iff v).trans hwell, (Value.exists_ofValue_iff v).trans hwell,
    Bson.exists_ofValue_iff v, ?_⟩
  intro e he hv
  exact Bson.leads_to_large hv he

/-- A document with a number beyond the range of doubles has a text, and the driver's refusal names
the number and its place. -/
theorem large_number_refused :
    let v : Value := .document [("a", .array [.number "1", .number "1e400"])]
    v.toJson = .ok "\x7b\"a\":[1,1e400]\x7d" ∧
      ∃ text, Value.Leads (.number text) (.outOfRange text) v
          (.atKey "a" (.atIndex 1 (.outOfRange "1e400"))) ∧
        ¬ Bson.IsInt64 text ∧ Bson.Overflows text := by
  intro v
  have htext : v.toJson = .ok "\x7b\"a\":[1,1e400]\x7d" := rfl
  have hrefused : Bson.ofValue v = .error (.atKey "a" (.atIndex 1 (.outOfRange "1e400"))) := rfl
  obtain ⟨hjson, -, -, -, -, hlarge⟩ := one_condition_for_renderers v
  exact ⟨htext, hlarge _ hrefused (hjson.1 ⟨_, htext⟩)⟩

end DocQuery
