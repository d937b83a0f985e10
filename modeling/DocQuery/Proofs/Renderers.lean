import DocQuery.Proofs.CanonicalText
import DocQuery.Proofs.Nesting
import DocQuery.Value.Indent
import DocQuery.Yaml.Node

/-!
# DocQuery.Proofs.Renderers

**One condition for all renderers.** A value has a compact text, a canonical text, a fingerprint and
a YAML node exactly when its numbers are number literals and nothing in it is absent
(`Value.isRenderable`). Such a value has an indented text when besides it nests no deeper than the
check of compact text allows (`exists_toIndentedJson_iff`), which is the one condition that the
other renderers do not know.
-/

namespace DocQuery

namespace Value

/-! ### Indented text -/

/-- The indented text of a value is a layout of its compact text. -/
theorem toIndentedJson_of_writeJson (w : Json.Indentation) {v : Value} {cs : List Char}
    (h : v.writeJson = .ok cs) :
    v.toIndentedJson w =
      ((Json.layout w cs).mapError IndentError.layout >>= fun laid =>
        .ok (String.ofList laid)) := by
  rw [toIndentedJson, h]
  rfl

/-- A text that passes the check is laid out. -/
theorem toIndentedJson_of_nesting_le (w : Json.Indentation) {v : Value} {cs : List Char}
    (h : v.writeJson = .ok cs) (hroom : v.nesting ≤ Json.maxNesting) :
    v.toIndentedJson w =
      .ok (String.ofList (Json.layoutFrom w false { depth := 0, pending := false } cs)) := by
  rw [toIndentedJson_of_writeJson w h, Json.layout,
    (Json.checkPayload_eq_ok_iff (Json.means_writeJson h)).2 hroom]
  rfl

/-- A text that nests too deep is not. -/
theorem toIndentedJson_of_lt_nesting (w : Json.Indentation) {v : Value} {cs : List Char}
    (h : v.writeJson = .ok cs) (hdeep : Json.maxNesting < v.nesting) :
    v.toIndentedJson w = .error (.layout .tooDeep) := by
  rw [toIndentedJson_of_writeJson w h, Json.layout,
    Json.checkPayload_eq_error (Json.means_writeJson h) hdeep]
  rfl

/-- **A value that has a compact text has an indented one** exactly when it nests no deeper than the
limit. -/
theorem exists_toIndentedJson_iff (w : Json.Indentation) {v : Value} {cs : List Char}
    (h : v.writeJson = .ok cs) :
    (∃ text, v.toIndentedJson w = .ok text) ↔ v.nesting ≤ Json.maxNesting := by
  constructor
  · intro htext
    by_contra hdeep
    obtain ⟨text, htext⟩ := htext
    rw [toIndentedJson_of_lt_nesting w h (not_le.1 hdeep)] at htext
    cases htext
  · intro hroom
    exact ⟨_, toIndentedJson_of_nesting_le w h hroom⟩

/-! ### YAML nodes -/

theorem exists_ofItems_iff {items : List Value}
    (hitems : ∀ v ∈ items, (∃ node, Yaml.Node.ofValue v = .ok node) ↔ v.isRenderable = true)
    (i : Nat) :
    (∃ nodes, Yaml.Node.ofItems i items = .ok nodes) ↔ areRenderable items = true := by
  induction items generalizing i with
  | nil => exact ⟨fun _ => rfl, fun _ => ⟨_, rfl⟩⟩
  | cons v items ih =>
      rw [List.forall_mem_cons] at hitems
      rw [areRenderable, Bool.and_eq_true, ← hitems.1, ← ih hitems.2 (i + 1)]
      simp only [Yaml.Node.ofItems, bind_eq_ok_iff, located_eq_ok_iff]
      constructor
      · rintro ⟨_, head, hhead, tail, htail, -⟩
        exact ⟨⟨head, hhead⟩, tail, htail⟩
      · rintro ⟨⟨head, hhead⟩, tail, htail⟩
        exact ⟨_, head, hhead, tail, htail, rfl⟩

theorem exists_ofElements_iff {d : Document}
    (hd : ∀ e ∈ d, (∃ node, Yaml.Node.ofValue e.2 = .ok node) ↔ e.2.isRenderable = true) :
    (∃ entries, Yaml.Node.ofElements d = .ok entries) ↔ haveRenderable d = true := by
  induction d with
  | nil => exact ⟨fun _ => rfl, fun _ => ⟨_, rfl⟩⟩
  | cons e d ih =>
      rw [List.forall_mem_cons] at hd
      rw [haveRenderable, Bool.and_eq_true, ← hd.1, ← ih hd.2]
      simp only [Yaml.Node.ofElements, bind_eq_ok_iff, located_eq_ok_iff]
      constructor
      · rintro ⟨_, head, hhead, tail, htail, -⟩
        exact ⟨⟨head, hhead⟩, tail, htail⟩
      · rintro ⟨⟨head, hhead⟩, tail, htail⟩
        exact ⟨_, head, hhead, tail, htail, rfl⟩

/-- A value has a YAML node exactly when it is renderable. -/
theorem exists_ofValue_iff (v : Value) :
    (∃ node, Yaml.Node.ofValue v = .ok node) ↔ v.isRenderable = true := by
  induction v using nestedInduction with
  | number text =>
      rw [Yaml.Node.ofValue, isRenderable]
      cases Decimal.isNumber text <;> simp
  | array items ih =>
      rw [isRenderable, ← exists_ofItems_iff ih 0, Yaml.Node.ofValue]
      exact exists_map_iff
  | document d ih =>
      rw [isRenderable, ← exists_ofElements_iff ih, Yaml.Node.ofValue]
      exact exists_map_iff
  | _ => simp [Yaml.Node.ofValue, isRenderable]

/-! ### All renderers -/

/-- Every renderer accepts a value, up to the depth at which indented text ends: it has a compact
text, a canonical text, a fingerprint and a YAML node, and an indented text unless it nests too
deep. -/
structure Renders (v : Value) : Prop where
  /-- The compact text. -/
  json : ∃ text, v.toJson = .ok text
  /-- The indented text, with any margin and step. -/
  indented : ∀ w, (∃ text, v.toIndentedJson w = .ok text) ↔ v.nesting ≤ Json.maxNesting
  /-- The canonical text. -/
  canonical : ∃ text, v.toCanonicalJson = .ok text
  /-- The fingerprint. -/
  fingerprint : ∃ print, v.fingerprint = .ok print
  /-- The YAML node. -/
  yaml : ∃ node, Yaml.Node.ofValue v = .ok node

/-- **A renderable value is accepted by every renderer.** -/
theorem renders_of_isRenderable {v : Value} (h : v.isRenderable = true) : v.Renders := by
  obtain ⟨cs, hcs⟩ := (@exists_writeWith_iff Json.writeString v).2 h
  exact ⟨(exists_toJson_iff v).2 h, fun w => exists_toIndentedJson_iff w hcs,
    (exists_toCanonicalJson_iff v).2 h, (exists_fingerprint_iff v).2 h, (exists_ofValue_iff v).2 h⟩

end Value

end DocQuery
