import DocQuery.Proofs.Compiler

/-!
# DocQuery.Proofs.TableChecks

**What checked tables have.** `Tables.new` goes through the operators and then through the methods,
each time with the keys it has seen so far. `Fresh` says of a list of entries what such a pass asks of
it: every entry is complete by itself, its key has not been seen before, and no key stands twice. So
an entry of checked tables is the one that a look-up of its key finds.
-/

namespace DocQuery.Tables

/-! ### Entries against each other -/

/-- Entries that are each complete, with keys that are new and stand once. -/
def Fresh {α : Type} (key : α → String) (Complete : α → Prop) (seen : List String) (xs : List α) :
    Prop :=
  (∀ x ∈ xs, Complete x ∧ key x ∉ seen) ∧ (xs.map key).Nodup

/-- The key of an entry is no longer new for the entries behind it. -/
theorem fresh_cons {α : Type} {key : α → String} {Complete : α → Prop} {seen : List String} {x : α}
    {xs : List α} :
    Fresh key Complete seen (x :: xs) ↔
      (Complete x ∧ key x ∉ seen) ∧ Fresh key Complete (key x :: seen) xs := by
  rw [Fresh, List.forall_mem_cons, List.map_cons, List.nodup_cons]
  simp only [Fresh, List.mem_map, List.mem_cons, not_or, not_exists, not_and]
  constructor
  · rintro ⟨⟨hx, hxs⟩, hkey, hnodup⟩
    exact ⟨hx, fun y hy => ⟨(hxs y hy).1, hkey y hy, (hxs y hy).2⟩, hnodup⟩
  · rintro ⟨hx, hxs, hnodup⟩
    exact ⟨⟨hx, fun y hy => ⟨(hxs y hy).1, (hxs y hy).2.2⟩⟩, fun y hy => (hxs y hy).2.1, hnodup⟩

/-- What is asked of an operator by itself. -/
def CompleteOperator (op : Operator) : Prop :=
  op.token ≠ "" ∧ (op.allowed = true → op.target ≠ "")

/-- What is asked of a method by itself. -/
def CompleteMethod (m : Method) : Prop :=
  m.name ≠ "" ∧ m.target ≠ "" ∧ m.shape.isKnown = true ∧ (m.shape = .two → m.option ≠ "")

theorem checkOperators_eq_ok_iff {i : Nat} {seen : List String} {ops : List Operator} :
    checkOperators i seen ops = .ok () ↔ Fresh (·.token) CompleteOperator seen ops := by
  induction ops generalizing i seen with
  | nil => simp [checkOperators, Fresh]
  | cons op ops ih =>
      rw [checkOperators, fresh_cons, ← @ih (i + 1) (op.token :: seen), CompleteOperator]
      by_cases htoken : op.token = ""
      · simp [htoken]
      by_cases hseen : op.token ∈ seen
      · simp [htoken, hseen]
      by_cases htarget : op.allowed = true ∧ op.target = ""
      · simp [htoken, hseen, htarget]
      rw [if_neg htoken, if_neg hseen, if_neg (by simpa using htarget)]
      have hcomplete : op.allowed = true → op.target ≠ "" := fun h h' => htarget ⟨h, h'⟩
      exact ⟨fun h => ⟨⟨⟨htoken, hcomplete⟩, hseen⟩, h⟩, fun h => h.2⟩

theorem checkMethods_eq_ok_iff {i : Nat} {seen : List String} {ms : List Method} :
    checkMethods i seen ms = .ok () ↔ Fresh (·.name) CompleteMethod seen ms := by
  induction ms generalizing i seen with
  | nil => simp [checkMethods, Fresh]
  | cons m ms ih =>
      rw [checkMethods, fresh_cons, ← @ih (i + 1) (m.name :: seen), CompleteMethod]
      by_cases hname : m.name = ""
      · simp [hname]
      by_cases hseen : m.name ∈ seen
      · simp [hname, hseen]
      by_cases htarget : m.target = ""
      · simp [hname, hseen, htarget]
      by_cases hshape : m.shape.isKnown = true
      · by_cases hoption : m.shape = .two ∧ m.option = ""
        · simp [hname, hseen, htarget, hoption, Shape.isKnown]
        rw [if_neg hname, if_neg hseen, if_neg htarget, if_neg (by simpa using hshape),
          if_neg (by simpa using hoption)]
        have hcomplete : m.shape = .two → m.option ≠ "" := fun h h' => hoption ⟨h, h'⟩
        exact ⟨fun h => ⟨⟨⟨hname, htarget, hshape, hcomplete⟩, hseen⟩, h⟩, fun h => h.2⟩
      · simp [hname, hseen, htarget, hshape]

theorem new_eq_ok_iff {ops : List Operator} {ms : List Method} {t : Tables} :
    Tables.new ops ms = .ok t ↔
      (Fresh (·.token) CompleteOperator [] ops ∧ Fresh (·.name) CompleteMethod [] ms) ∧
        t = ⟨ops, ms⟩ := by
  simp only [Tables.new, bind_eq_ok_iff, ← @checkOperators_eq_ok_iff 0, ← @checkMethods_eq_ok_iff 0]
  constructor
  · rintro ⟨⟨⟩, hops, ⟨⟩, hms, heq⟩
    cases heq
    exact ⟨⟨hops, hms⟩, rfl⟩
  · rintro ⟨⟨hops, hms⟩, rfl⟩
    exact ⟨(), hops, (), hms, rfl⟩

/-! ### Look-ups -/

/-- Where no key stands twice, an entry is found by its key. -/
theorem find?_key_of_mem {α : Type} {key : α → String} {xs : List α} (hnodup : (xs.map key).Nodup)
    {x : α} (hx : x ∈ xs) : xs.find? (fun y => key y == key x) = some x := by
  cases hfind : xs.find? (fun y => key y == key x) with
  | none => exact absurd (List.find?_eq_none.1 hfind x hx) (by simp)
  | some y =>
      have hkey : key y = key x := by simpa using List.find?_some hfind
      rw [List.inj_on_of_nodup_map hnodup (List.mem_of_find?_eq_some hfind) hx hkey]

/-- A method of checked tables is found by its name. -/
theorem method?_of_mem {ops : List Operator} {ms : List Method} {t : Tables}
    (h : Tables.new ops ms = .ok t) {m : Method} (hm : m ∈ t.methods) :
    t.method? m.name = some m := by
  obtain ⟨⟨-, hmethods⟩, rfl⟩ := new_eq_ok_iff.1 h
  exact find?_key_of_mem hmethods.2 hm

end DocQuery.Tables
