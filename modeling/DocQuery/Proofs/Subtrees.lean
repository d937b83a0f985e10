import DocQuery.Expr.Leaves
import Mathlib

/-!
# DocQuery.Proofs.Subtrees

The nodes of a tree. `e.Contains x` says that `x` stands somewhere in `e`, `e` itself included. A
statement about all nodes of a tree is one about its root and one about all nodes of its children
(`forall_contains_iff`), and a property of trees that holds as soon as it holds of the children
holds of every tree (`childInduction`). The leaves of a chain are nodes of it.
-/

namespace DocQuery.Expr

/-- The nodes right below a node. -/
def children : Expr → List Expr
  | .program body => body
  | .statement e => [e]
  | .member base _ => [base]
  | .binary _ left right => [left, right]
  | .unary _ operand => [operand]
  | .array elements => elements
  | .call field _ args => field :: args
  | .detachedCall args => args
  | .assign _ target value => [target, value]
  | .sequence left right => [left, right]
  | _ => []

/-- A tree has a node. -/
inductive Contains : Expr → Expr → Prop where
  /-- The root. -/
  | root {e : Expr} : Contains e e
  /-- A node of a child. -/
  | child {e c x : Expr} (hc : c ∈ e.children) (hx : Contains c x) : Contains e x

theorem sizeOf_lt_of_mem_children {e c : Expr} (h : c ∈ e.children) : sizeOf c < sizeOf e := by
  have hlist (es : List Expr) (hc : c ∈ es) : sizeOf c < sizeOf es := List.sizeOf_lt_of_mem hc
  cases e with
  | program body => have := hlist body h; rw [program.sizeOf_spec]; omega
  | array elements => have := hlist elements h; rw [array.sizeOf_spec]; omega
  | detachedCall args => have := hlist args h; rw [detachedCall.sizeOf_spec]; omega
  | call field method args =>
      rw [call.sizeOf_spec]
      rcases List.mem_cons.1 h with rfl | h
      · omega
      · have := hlist args h; omega
  | _ =>
      simp only [children, List.mem_cons, List.not_mem_nil, or_false] at h
      try (rcases h with rfl | rfl)
      all_goals simp +arith

/-- **Induction on the nodes of a tree**: what holds of a tree whenever it holds of its children
holds of every tree. -/
theorem childInduction {motive : Expr → Prop}
    (step : ∀ e, (∀ c ∈ e.children, motive c) → motive e) (e : Expr) : motive e := by
  refine step e fun c hc => ?_
  have := sizeOf_lt_of_mem_children hc
  exact childInduction step c
termination_by sizeOf e

variable {e x y : Expr}

theorem Contains.of_child {c : Expr} (hc : c ∈ e.children) : e.Contains c := .child hc .root

theorem Contains.trans (hx : e.Contains x) (hy : x.Contains y) : e.Contains y := by
  induction hx with
  | root => exact hy
  | child hc _ ih => exact .child hc (ih hy)

/-- All nodes of a tree are its root and all nodes of its children. -/
theorem forall_contains_iff {P : Expr → Prop} :
    (∀ x, e.Contains x → P x) ↔ P e ∧ ∀ c ∈ e.children, ∀ x, c.Contains x → P x := by
  constructor
  · intro h
    exact ⟨h e .root, fun c hc x hx => h x (.child hc hx)⟩
  · rintro ⟨hroot, hbelow⟩ x hx
    cases hx with
    | root => exact hroot
    | child hc hx => exact hbelow _ hc x hx

/-- A property of trees that asks something of the root and itself of the children asks it of all
nodes. -/
theorem iff_forall_contains {P Q : Expr → Prop} (h : ∀ e, P e ↔ Q e ∧ ∀ c ∈ e.children, P c)
    (e : Expr) : P e ↔ ∀ x, e.Contains x → Q x := by
  induction e using childInduction with
  | step e ih =>
      rw [h e, forall_contains_iff]
      exact and_congr_right fun _ => forall₂_congr ih

/-- Where sides are children, the leaves of a chain are nodes of it. -/
theorem contains_of_mem_leaves (g : Grouping)
    (hsides : ∀ {e l r : Expr}, g.sides? e = some (l, r) → l ∈ e.children ∧ r ∈ e.children)
    {e leaf : Expr} (h : leaf ∈ g.leaves e) : e.Contains leaf := by
  cases hs : g.sides? e with
  | none =>
      rw [Grouping.leaves_of_no_sides hs, List.mem_singleton] at h
      rw [h]
      exact .root
  | some sides =>
      obtain ⟨l, r⟩ := sides
      have hlt := g.sizeOf_sides hs
      obtain ⟨hl, hr⟩ := hsides hs
      rw [Grouping.leaves_of_sides hs, List.mem_append] at h
      rcases h with h | h
      · exact .child hl (contains_of_mem_leaves g hsides h)
      · exact .child hr (contains_of_mem_leaves g hsides h)
termination_by sizeOf e

theorem contains_of_mem_andLeaves {leaf : Expr} (h : leaf ∈ andLeaves e) : e.Contains leaf := by
  refine contains_of_mem_leaves .conjunction ?_ h
  intro e l r hs
  have hs : andSides? e = some (l, r) := hs
  obtain ⟨l', r', rfl⟩ := eq_binary_of_andSides hs
  cases hs
  simp [children]

theorem contains_of_mem_sequenceLeaves {leaf : Expr} (h : leaf ∈ sequenceLeaves e) :
    e.Contains leaf := by
  refine contains_of_mem_leaves .comma ?_ h
  intro e l r hs
  have hs : sequenceSides? e = some (l, r) := hs
  cases e with
  | sequence left right =>
      cases hs
      simp [children]
  | _ => cases hs

end DocQuery.Expr
