import DocQuery.Expr.Basic

/-!
# DocQuery.Expr.Leaves

The operands of a conjunction and the members of a comma chain, whatever the grouping. Both are
collected with an explicit worklist, so that the depth of a chain costs no recursion: the first
tree of the list is either a chain, whose two sides replace it, or a leaf.

Design points:

* a `Grouping` says which trees are chains and what their sides are; conjunctions and comma
  expressions are two groupings, and everything below is about any of them;
* `leaves_of_sides` and `leaves_of_no_sides` say what the worklist computes without mentioning it:
  the leaves of a chain are those of its left side and then those of its right side, and any other
  tree is its own only leaf;
* a leaf is smaller than a chain it comes from (`sizeOf_lt_of_mem_leaves`), which is what lets a
  compiler recurse on leaves.
-/

namespace DocQuery

/-- A construct whose grouping does not matter: which trees have two sides. -/
structure Grouping where
  /-- The two sides of a tree of the construct. -/
  sides? : Expr → Option (Expr × Expr)
  /-- The sides are parts of the tree. -/
  sizeOf_sides : ∀ {e l r : Expr}, sides? e = some (l, r) → sizeOf l + sizeOf r < sizeOf e

namespace Grouping

/-- The total size of a worklist. -/
noncomputable def worklistSize (work : List Expr) : Nat :=
  work.foldr (fun e n => sizeOf e + n) 0

@[simp] theorem worklistSize_cons (e : Expr) (work : List Expr) :
    worklistSize (e :: work) = sizeOf e + worklistSize work := rfl

theorem sizeOf_pos (e : Expr) : 0 < sizeOf e := by
  cases e <;> simp +arith

/-- The leaves of the chains on a worklist, in order. -/
def leavesOf (g : Grouping) : (work : List Expr) → List Expr
  | [] => []
  | e :: work =>
    match _h : g.sides? e with
    | some (l, r) => g.leavesOf (l :: r :: work)
    | none => e :: g.leavesOf work
termination_by work => worklistSize work
decreasing_by
  · have := g.sizeOf_sides _h
    simp only [worklistSize_cons]
    omega
  · have := sizeOf_pos e
    simp only [worklistSize_cons]
    omega

/-- The leaves of a tree, in source order, through every nested chain. -/
def leaves (g : Grouping) (e : Expr) : List Expr := g.leavesOf [e]

variable {g : Grouping}

@[simp] theorem leavesOf_nil : g.leavesOf [] = [] := by rw [leavesOf]

theorem leavesOf_cons_of_sides {e l r : Expr} {work : List Expr} (h : g.sides? e = some (l, r)) :
    g.leavesOf (e :: work) = g.leavesOf (l :: r :: work) := by
  rw [leavesOf]
  split
  · next l' r' h' =>
    rw [h] at h'
    obtain ⟨rfl, rfl⟩ := Prod.mk.inj (Option.some.inj h')
    rfl
  · next h' => rw [h] at h'; simp at h'

theorem leavesOf_cons_of_no_sides {e : Expr} {work : List Expr} (h : g.sides? e = none) :
    g.leavesOf (e :: work) = e :: g.leavesOf work := by
  rw [leavesOf]
  split
  · next h' => rw [h] at h'; simp at h'
  · rfl

/-- A worklist is worked off from the front. -/
theorem leavesOf_append (work more : List Expr) :
    g.leavesOf (work ++ more) = g.leavesOf work ++ g.leavesOf more := by
  fun_induction g.leavesOf work with
  | case1 => rfl
  | case2 e work l r h ih => rw [List.cons_append, leavesOf_cons_of_sides h]; exact ih
  | case3 e work h ih => rw [List.cons_append, leavesOf_cons_of_no_sides h, ih]; rfl

/-- The leaves of a chain are those of its sides, from left to right. -/
theorem leaves_of_sides {e l r : Expr} (h : g.sides? e = some (l, r)) :
    g.leaves e = g.leaves l ++ g.leaves r := by
  rw [leaves, leavesOf_cons_of_sides h]
  exact leavesOf_append [l] [r]

/-- A tree that is no chain is its own only leaf. -/
theorem leaves_of_no_sides {e : Expr} (h : g.sides? e = none) : g.leaves e = [e] := by
  rw [leaves, leavesOf_cons_of_no_sides h, leavesOf_nil]

/-- Every tree has a leaf. -/
theorem leaves_ne_nil (g : Grouping) (e : Expr) : g.leaves e ≠ [] := by
  cases hs : g.sides? e with
  | none =>
    rw [leaves_of_no_sides hs]
    exact List.cons_ne_nil e []
  | some sides =>
    obtain ⟨l, r⟩ := sides
    have hlt := g.sizeOf_sides hs
    rw [leaves_of_sides hs]
    exact List.append_ne_nil_of_left_ne_nil (leaves_ne_nil g l) _
termination_by sizeOf e

/-- A leaf is no larger than the tree it comes from. -/
theorem sizeOf_le_of_mem_leaves (g : Grouping) {e leaf : Expr} (h : leaf ∈ g.leaves e) :
    sizeOf leaf ≤ sizeOf e := by
  cases hs : g.sides? e with
  | none =>
    rw [leaves_of_no_sides hs, List.mem_singleton] at h
    subst h
    exact Nat.le_refl _
  | some sides =>
    obtain ⟨l, r⟩ := sides
    have hlt := g.sizeOf_sides hs
    rw [leaves_of_sides hs, List.mem_append] at h
    rcases h with h | h
    · have := sizeOf_le_of_mem_leaves g h; omega
    · have := sizeOf_le_of_mem_leaves g h; omega
termination_by sizeOf e

/-- A leaf of a chain is smaller than the chain. -/
theorem sizeOf_lt_of_mem_leaves {e l r leaf : Expr} (hs : g.sides? e = some (l, r))
    (h : leaf ∈ g.leaves e) : sizeOf leaf < sizeOf e := by
  have hlt := g.sizeOf_sides hs
  rw [leaves_of_sides hs, List.mem_append] at h
  rcases h with h | h
  · have := sizeOf_le_of_mem_leaves g h; omega
  · have := sizeOf_le_of_mem_leaves g h; omega

end Grouping

namespace Expr

/-- The two sides of a conjunction. -/
def andSides? : Expr → Option (Expr × Expr)
  | .binary op left right => if op = andToken then some (left, right) else none
  | _ => none

/-- The two sides of a comma expression. -/
def sequenceSides? : Expr → Option (Expr × Expr)
  | .sequence left right => some (left, right)
  | _ => none

theorem sizeOf_andSides {e l r : Expr} (h : andSides? e = some (l, r)) :
    sizeOf l + sizeOf r < sizeOf e := by
  unfold andSides? at h
  split at h
  · split at h
    · simp only [Option.some.injEq, Prod.mk.injEq] at h
      obtain ⟨rfl, rfl⟩ := h
      rw [binary.sizeOf_spec]
      omega
    · simp at h
  · simp at h

theorem sizeOf_sequenceSides {e l r : Expr} (h : sequenceSides? e = some (l, r)) :
    sizeOf l + sizeOf r < sizeOf e := by
  unfold sequenceSides? at h
  split at h
  · simp only [Option.some.injEq, Prod.mk.injEq] at h
    obtain ⟨rfl, rfl⟩ := h
    rw [sequence.sizeOf_spec]
    omega
  · simp at h

end Expr

/-- Conjunctions. -/
def Grouping.conjunction : Grouping := ⟨Expr.andSides?, Expr.sizeOf_andSides⟩

/-- Comma expressions. -/
def Grouping.comma : Grouping := ⟨Expr.sequenceSides?, Expr.sizeOf_sequenceSides⟩

namespace Expr

/-- The operands of a conjunction, in source order, through every nested conjunction. -/
def andLeaves (e : Expr) : List Expr := Grouping.conjunction.leaves e

/-- The members of a comma chain, in source order, through every nested chain. -/
def sequenceLeaves (e : Expr) : List Expr := Grouping.comma.leaves e

/-- The sides of a conjunction give its operands. -/
theorem andLeaves_binary (l r : Expr) :
    andLeaves (.binary andToken l r) = andLeaves l ++ andLeaves r :=
  Grouping.leaves_of_sides (g := .conjunction) rfl

/-- A tree that is no conjunction is its own only operand. -/
theorem andLeaves_of_no_sides {e : Expr} (h : andSides? e = none) : andLeaves e = [e] :=
  Grouping.leaves_of_no_sides (g := .conjunction) h

/-- The sides of a comma expression give its members. -/
theorem sequenceLeaves_sequence (l r : Expr) :
    sequenceLeaves (.sequence l r) = sequenceLeaves l ++ sequenceLeaves r :=
  Grouping.leaves_of_sides (g := .comma) rfl

/-- A tree that is no comma expression is its own only member. -/
theorem sequenceLeaves_of_no_sides {e : Expr} (h : sequenceSides? e = none) :
    sequenceLeaves e = [e] :=
  Grouping.leaves_of_no_sides (g := .comma) h

/-- Only conjunctions have sides of a conjunction. -/
theorem eq_binary_of_andSides {e : Expr} {sides : Expr × Expr} (h : andSides? e = some sides) :
    ∃ l r, e = .binary andToken l r := by
  unfold andSides? at h
  split at h
  · next op l r =>
    split at h
    · next hop => exact ⟨l, r, by rw [hop]⟩
    · simp at h
  · simp at h

/-- A leaf of a conjunction is smaller than it. -/
theorem sizeOf_lt_of_mem_andLeaves {op : String} {l r leaf : Expr} (hop : op = andToken)
    (h : leaf ∈ andLeaves (.binary op l r)) : sizeOf leaf < sizeOf (Expr.binary op l r) := by
  subst hop
  exact Grouping.sizeOf_lt_of_mem_leaves (g := .conjunction) rfl h

/-- A leaf of a comma chain is smaller than it. -/
theorem sizeOf_lt_of_mem_sequenceLeaves {l r leaf : Expr}
    (h : leaf ∈ sequenceLeaves (.sequence l r)) : sizeOf leaf < sizeOf (Expr.sequence l r) :=
  Grouping.sizeOf_lt_of_mem_leaves (g := .comma) rfl h

end Expr

end DocQuery
