import DocQuery.Proofs.Regrouping

/-!
# DocQuery.Proofs.LeafLoop

**Leaves are collected in source order, by a loop that ends.** The operands of a conjunction and the
members of a comma chain are collected without recursion: a loop takes the next tree off a stack and
puts its two sides there instead, or counts it as a leaf. What the loop should find is said by
recursion on the tree alone, the leaves of the left side and then those of the right
(`Expr.conjuncts`, `Expr.members`).

A round changes neither of two things (`exists_round`):

* what was found, followed by the leaves of the trees on the stack;
* the number of rounds, those made and those to come (`roundsLeft`): one for each leaf and one for
  each chain. A tree with `n` leaves takes `2 * n - 1` rounds, however it is grouped.

The stack grows by one tree whenever a chain is taken off it, so its height is no measure; the
number of rounds to come is one.
-/

namespace DocQuery

/-- Where the collection of leaves stands. -/
structure Collection where
  /-- The trees that are still to be looked at, the next one first. -/
  stack : List Expr
  /-- The leaves found so far. -/
  found : List Expr

namespace Grouping

/-- One round of the collection: the next tree is a chain, whose sides take its place with the left
one on top, or a leaf. There is no round when the stack is empty. -/
def round (g : Grouping) (s : Collection) : Option Collection :=
  match s.stack with
  | [] => none
  | e :: stack =>
    match g.sides? e with
    | some (l, r) => some { stack := l :: r :: stack, found := s.found }
    | none => some { stack, found := s.found ++ [e] }

/-- A number of rounds, if there are that many. -/
def rounds (g : Grouping) : Nat → Collection → Option Collection
  | 0, s => some s
  | n + 1, s => (g.round s).bind (g.rounds n)

/-- The number of rounds that are to come with a stack. -/
def roundsLeft (g : Grouping) (stack : List Expr) : Nat :=
  2 * (g.leavesOf stack).length - stack.length

variable {g : Grouping}

theorem round_of_sides {e l r : Expr} (h : g.sides? e = some (l, r)) (stack found : List Expr) :
    g.round ⟨e :: stack, found⟩ = some ⟨l :: r :: stack, found⟩ := by
  simp only [round, h]

theorem round_of_no_sides {e : Expr} (h : g.sides? e = none) (stack found : List Expr) :
    g.round ⟨e :: stack, found⟩ = some ⟨stack, found ++ [e]⟩ := by
  simp only [round, h]

/-- Every tree on a stack has a leaf. -/
theorem length_le_length_leavesOf (stack : List Expr) :
    stack.length ≤ (g.leavesOf stack).length := by
  fun_induction g.leavesOf stack with
  | case1 => exact Nat.le_refl _
  | case2 e stack l r h ih =>
      simp only [List.length_cons] at ih ⊢
      omega
  | case3 e stack h ih => exact Nat.succ_le_succ ih

/-- There is a round while the stack is not empty. It keeps what was found together with what will
be, and it is one of the rounds to come. -/
theorem exists_round (e : Expr) (stack found : List Expr) :
    ∃ s, g.round ⟨e :: stack, found⟩ = some s ∧
      s.found ++ g.leavesOf s.stack = found ++ g.leavesOf (e :: stack) ∧
      g.roundsLeft (e :: stack) = g.roundsLeft s.stack + 1 := by
  cases hs : g.sides? e with
  | none =>
      have hleaves : g.leavesOf (e :: stack) = e :: g.leavesOf stack :=
        leavesOf_cons_of_no_sides hs
      refine ⟨_, round_of_no_sides hs stack found, ?_, ?_⟩
      · rw [hleaves, List.append_assoc, List.singleton_append]
      · -- two for the leaf, less one for the tree
        have hle := length_le_length_leavesOf (g := g) stack
        simp only [roundsLeft, hleaves, List.length_cons]
        omega
  | some sides =>
      obtain ⟨l, r⟩ := sides
      have hleaves : g.leavesOf (e :: stack) = g.leavesOf (l :: r :: stack) :=
        leavesOf_cons_of_sides hs
      refine ⟨_, round_of_sides hs stack found, ?_, ?_⟩
      · rw [hleaves]
      · -- the leaves are the same, and there is one more tree
        have hle := length_le_length_leavesOf (g := g) (l :: r :: stack)
        simp only [roundsLeft, hleaves, List.length_cons] at hle ⊢
        omega

/-- **The loop ends, and has then found the leaves of the stack.** -/
theorem rounds_roundsLeft (stack found : List Expr) :
    g.rounds (g.roundsLeft stack) ⟨stack, found⟩ = some ⟨[], found ++ g.leavesOf stack⟩ := by
  induction hn : g.roundsLeft stack generalizing stack found with
  | zero =>
      cases stack with
      | nil => rw [rounds, leavesOf_nil, List.append_nil]
      | cons e stack =>
          obtain ⟨s, -, -, hleft⟩ := exists_round (g := g) e stack found
          omega
  | succ n ih =>
      cases stack with
      | nil => simp [roundsLeft] at hn
      | cons e stack =>
          obtain ⟨s, hround, hkeeps, hleft⟩ := exists_round (g := g) e stack found
          rw [rounds, hround, Option.bind_some, ih s.stack s.found (by omega), hkeeps]

/-- The loop on one tree. -/
theorem rounds_leaves (g : Grouping) (e : Expr) :
    g.rounds (2 * (g.leaves e).length - 1) ⟨[e], []⟩ = some ⟨[], g.leaves e⟩ :=
  rounds_roundsLeft [e] []

end Grouping

/-! ### Leaves by recursion on the tree -/

namespace Expr

/-- The operands of a conjunction, those of the left side before those of the right. -/
def conjuncts : Expr → List Expr
  | .binary op left right =>
    if op = andToken then left.conjuncts ++ right.conjuncts else [.binary op left right]
  | e => [e]

/-- The members of a comma expression, those of the left side before those of the right. -/
def members : Expr → List Expr
  | .sequence left right => left.members ++ right.members
  | e => [e]

/-- Trees other than conjunctions have no sides of a conjunction. -/
theorem andSides_eq_none {e : Expr} (h : ∀ l r, e ≠ .binary andToken l r) :
    andSides? e = none := by
  cases hs : andSides? e with
  | none => rfl
  | some sides =>
      obtain ⟨l, r, heq⟩ := eq_binary_of_andSides hs
      exact absurd heq (h l r)

/-- Trees other than comma expressions have no sides of a comma expression. -/
theorem sequenceSides_eq_none {e : Expr} (h : ∀ l r, e ≠ .sequence l r) :
    sequenceSides? e = none := by
  cases e with
  | sequence l r => exact absurd rfl (h l r)
  | _ => rfl

theorem andLeaves_eq_conjuncts (e : Expr) : e.andLeaves = e.conjuncts := by
  fun_induction conjuncts e with
  | case1 l r ihl ihr => rw [andLeaves_binary, ihl, ihr]
  | case2 op l r hop => exact andLeaves_of_no_sides (if_neg hop)
  | case3 e he => exact andLeaves_of_no_sides (andSides_eq_none (he andToken))

theorem sequenceLeaves_eq_members (e : Expr) : e.sequenceLeaves = e.members := by
  fun_induction members e with
  | case1 l r ihl ihr => rw [sequenceLeaves_sequence, ihl, ihr]
  | case2 e he => exact sequenceLeaves_of_no_sides (sequenceSides_eq_none he)

end Expr

/-- **Leaves are collected in source order, in as many rounds as there are leaves and chains.** The
loop ends with an empty stack and has then found the operands of a conjunction, or the members of a
comma expression, in the order in which recursion finds them; they are what the compiler goes by.
From a folded chain of trees that are no such chains themselves those trees are collected. -/
theorem leaves_in_source_order :
    (∀ e : Expr, e.andLeaves = e.conjuncts ∧
      Grouping.conjunction.rounds (2 * e.conjuncts.length - 1) ⟨[e], []⟩ =
        some ⟨[], e.conjuncts⟩) ∧
    (∀ e : Expr, e.sequenceLeaves = e.members ∧
      Grouping.comma.rounds (2 * e.members.length - 1) ⟨[e], []⟩ = some ⟨[], e.members⟩) ∧
    (∀ xs : List Expr, xs ≠ [] → (∀ x ∈ xs, ∀ l r, x ≠ .binary Expr.andToken l r) →
      (Expr.all xs).andLeaves = xs) ∧
    (∀ xs : List Expr, xs ≠ [] → (∀ x ∈ xs, ∀ l r, x ≠ .sequence l r) →
      (Expr.chain xs).sequenceLeaves = xs) := by
  refine ⟨?_, ?_, ?_, ?_⟩
  · intro e
    have hloop := Grouping.conjunction.rounds_leaves e
    rw [show Grouping.conjunction.leaves e = e.conjuncts from e.andLeaves_eq_conjuncts] at hloop
    exact ⟨e.andLeaves_eq_conjuncts, hloop⟩
  · intro e
    have hloop := Grouping.comma.rounds_leaves e
    rw [show Grouping.comma.leaves e = e.members from e.sequenceLeaves_eq_members] at hloop
    exact ⟨e.sequenceLeaves_eq_members, hloop⟩
  · intro xs hne hxs
    exact andLeaves_all hne fun x hx => Expr.andSides_eq_none (hxs x hx)
  · intro xs hne hxs
    exact sequenceLeaves_chain hne fun x hx => Expr.sequenceSides_eq_none (hxs x hx)

/-- Operands and members that are no chains but hold one, or are missing. -/
theorem folded_chains_unfold :
    let a : Expr := .identifier "a"
    let operands : List Expr :=
      [a, .hole, .binary "||" (.binary "&&" a .hole) a, .unary .not (.binary "&&" a a)]
    let members : List Expr := [.assign "=" a .null, .hole, .statement (.sequence a a)]
    (Expr.all operands).andLeaves = operands ∧ (Expr.chain members).sequenceLeaves = members := by
  intro a operands members
  have hoperands : ∀ x ∈ operands, ∀ l r, x ≠ .binary Expr.andToken l r := by
    simp [operands, a, Expr.andToken]
  have hmembers : ∀ x ∈ members, ∀ l r, x ≠ .sequence l r := by
    simp [members]
  exact ⟨leaves_in_source_order.2.2.1 operands (List.cons_ne_nil _ _) hoperands,
    leaves_in_source_order.2.2.2 members (List.cons_ne_nil _ _) hmembers⟩

end DocQuery
