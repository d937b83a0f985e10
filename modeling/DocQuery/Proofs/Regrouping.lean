import DocQuery.Proofs.Compiler

/-!
# DocQuery.Proofs.Regrouping

**The grouping of a chain never matters.** A conjunction, or a comma chain, may be replaced by any
other one with the same leaves in the same order, at any place of a tree: the tree compiles to the
same document, or is refused for the same reason.

A place in a tree is a `Context`, a list of frames from the inside out. Filling a frame with two trees
that compile to the same thing need not give trees that compile to the same thing: a chain looks
through the chains among its sides at *their* leaves, and names the kind of a member that it refuses.
`Interchangeable` is what a frame can see of a tree; every frame keeps it (`Interchangeable.fill`), and
it decides what a whole tree compiles to.
-/

namespace DocQuery

namespace Expr

/-- A node with one of its children left open. -/
inductive Frame where
  /-- A program, open at one statement. -/
  | program (before after : List Expr)
  /-- A statement. -/
  | statement
  /-- The base of a property. -/
  | base (property : String)
  /-- The left side of a binary operator. -/
  | left (op : String) (right : Expr)
  /-- The right side of a binary operator. -/
  | right (op : String) (left : Expr)
  /-- The operand of a prefix operator. -/
  | operand (op : UnaryOp)
  /-- An item of an array. -/
  | item (before after : List Expr)
  /-- What a method is called on. -/
  | receiver (method : String) (args : List Expr)
  /-- An argument of a call. -/
  | argument (field : Expr) (method : String) (before after : List Expr)
  /-- An argument of a call without a callee. -/
  | detached (before after : List Expr)
  /-- The target of an assignment. -/
  | target (op : String) (value : Expr)
  /-- The value of an assignment. -/
  | assigned (op : String) (target : Expr)
  /-- The left side of a comma. -/
  | first (right : Expr)
  /-- The right side of a comma. -/
  | second (left : Expr)

/-- The node with its open child filled in. -/
def Frame.fill : Frame → Expr → Expr
  | .program before after, e => .program (before ++ e :: after)
  | .statement, e => .statement e
  | .base property, e => .member e property
  | .left op r, e => .binary op e r
  | .right op l, e => .binary op l e
  | .operand op, e => .unary op e
  | .item before after, e => .array (before ++ e :: after)
  | .receiver method args, e => .call e method args
  | .argument field method before after, e => .call field method (before ++ e :: after)
  | .detached before after, e => .detachedCall (before ++ e :: after)
  | .target op value, e => .assign op e value
  | .assigned op field, e => .assign op field e
  | .first r, e => .sequence e r
  | .second l, e => .sequence l e

/-- A place in a tree: the frames around it, from the inside out. -/
abbrev Context := List Frame

/-- The tree with its open place filled in. -/
def Context.fill (C : Context) (e : Expr) : Expr := C.foldl (fun e frame => frame.fill e) e

end Expr

open Compile

/-! ### Folding leaves up again -/

/-- Leaves have no sides. -/
theorem Grouping.sides?_of_mem_leaves (g : Grouping) {e leaf : Expr} (h : leaf ∈ g.leaves e) :
    g.sides? leaf = none := by
  cases hs : g.sides? e with
  | none =>
      rw [leaves_of_no_sides hs, List.mem_singleton] at h
      rw [h, hs]
  | some sides =>
      obtain ⟨l, r⟩ := sides
      have hlt := g.sizeOf_sides hs
      rw [leaves_of_sides hs, List.mem_append] at h
      rcases h with h | h
      · exact sides?_of_mem_leaves g h
      · exact sides?_of_mem_leaves g h
termination_by sizeOf e

theorem andLeaves_foldl {rest : List Expr} (hrest : ∀ x ∈ rest, x.andSides? = none) (first : Expr) :
    Expr.andLeaves (rest.foldl (.binary Expr.andToken) first) = Expr.andLeaves first ++ rest := by
  induction rest generalizing first with
  | nil => exact (List.append_nil _).symm
  | cons x rest ih =>
      rw [List.forall_mem_cons] at hrest
      rw [List.foldl_cons, ih hrest.2, Expr.andLeaves_binary, Expr.andLeaves_of_no_sides hrest.1,
        List.append_assoc, List.singleton_append]

theorem exists_foldl_eq_binary {rest : List Expr} (hrest : rest ≠ []) (op : String) (first : Expr) :
    ∃ l r, rest.foldl (.binary op) first = .binary op l r := by
  induction rest generalizing first with
  | nil => exact absurd rfl hrest
  | cons x rest ih =>
      cases rest with
      | nil => exact ⟨first, x, rfl⟩
      | cons y rest => exact ih (List.cons_ne_nil y rest) _

/-- A left-leaning conjunction of operands that are none themselves has them for its leaves. -/
theorem andLeaves_all {xs : List Expr} (hne : xs ≠ []) (hxs : ∀ x ∈ xs, x.andSides? = none) :
    Expr.andLeaves (.all xs) = xs := by
  cases xs with
  | nil => exact absurd rfl hne
  | cons x rest =>
      rw [List.forall_mem_cons] at hxs
      rw [Expr.all, Expr.foldBinary, andLeaves_foldl hxs.2, Expr.andLeaves_of_no_sides hxs.1,
        List.singleton_append]

/-- A right-leaning chain of members that are none themselves has them for its leaves. -/
theorem sequenceLeaves_chain {xs : List Expr} (hne : xs ≠ [])
    (hxs : ∀ x ∈ xs, x.sequenceSides? = none) : Expr.sequenceLeaves (.chain xs) = xs := by
  induction xs with
  | nil => exact absurd rfl hne
  | cons x rest ih =>
      rw [List.forall_mem_cons] at hxs
      cases rest with
      | nil => exact Expr.sequenceLeaves_of_no_sides hxs.1
      | cons y rest =>
          rw [Expr.chain.eq_3 _ _ (List.cons_ne_nil y rest), Expr.sequenceLeaves_sequence,
            Expr.sequenceLeaves_of_no_sides hxs.1, ih (List.cons_ne_nil y rest) hxs.2,
            List.singleton_append]

/-- The left-leaning conjunction of the leaves of a conjunction is one with the same leaves. -/
theorem exists_all_eq_binary (l r : Expr) :
    ∃ l' r', Expr.all (Expr.andLeaves (.binary Expr.andToken l r)) = .binary Expr.andToken l' r' ∧
      Expr.andLeaves (.binary Expr.andToken l r) =
        Expr.andLeaves (.binary Expr.andToken l' r') := by
  have hleaf : ∀ x ∈ Expr.andLeaves (.binary Expr.andToken l r), x.andSides? = none :=
    fun x hx => Grouping.conjunction.sides?_of_mem_leaves hx
  have hne := Grouping.conjunction.leaves_ne_nil (.binary Expr.andToken l r)
  have hall : Expr.andLeaves (.all (Expr.andLeaves (.binary Expr.andToken l r))) =
      Expr.andLeaves (.binary Expr.andToken l r) := andLeaves_all hne hleaf
  obtain ⟨x, rest, hcons⟩ := List.exists_cons_of_ne_nil (Grouping.conjunction.leaves_ne_nil l)
  have hsplit : Expr.andLeaves (.binary Expr.andToken l r) = x :: (rest ++ Expr.andLeaves r) := by
    rw [Expr.andLeaves_binary]
    exact congrArg (· ++ Expr.andLeaves r) hcons
  have hmore : rest ++ Expr.andLeaves r ≠ [] :=
    List.append_ne_nil_of_right_ne_nil _ (Grouping.conjunction.leaves_ne_nil r)
  obtain ⟨l', r', hfold⟩ := exists_foldl_eq_binary hmore Expr.andToken x
  have heq : Expr.all (Expr.andLeaves (.binary Expr.andToken l r)) = .binary Expr.andToken l' r' := by
    rw [hsplit]
    exact hfold
  exact ⟨l', r', heq, by rw [← heq, hall]⟩

/-- The right-leaning chain of the leaves of a comma chain is one with the same leaves. -/
theorem exists_chain_eq_sequence (l r : Expr) :
    ∃ l' r', Expr.chain (Expr.sequenceLeaves (.sequence l r)) = .sequence l' r' ∧
      Expr.sequenceLeaves (.sequence l r) = Expr.sequenceLeaves (.sequence l' r') := by
  have hleaf : ∀ x ∈ Expr.sequenceLeaves (.sequence l r), x.sequenceSides? = none :=
    fun x hx => Grouping.comma.sides?_of_mem_leaves hx
  have hne := Grouping.comma.leaves_ne_nil (.sequence l r)
  have hchain : Expr.sequenceLeaves (.chain (Expr.sequenceLeaves (.sequence l r))) =
      Expr.sequenceLeaves (.sequence l r) := sequenceLeaves_chain hne hleaf
  obtain ⟨x, rest, hcons⟩ := List.exists_cons_of_ne_nil (Grouping.comma.leaves_ne_nil l)
  have hsplit : Expr.sequenceLeaves (.sequence l r) = x :: (rest ++ Expr.sequenceLeaves r) := by
    rw [Expr.sequenceLeaves_sequence]
    exact congrArg (· ++ Expr.sequenceLeaves r) hcons
  have hmore : rest ++ Expr.sequenceLeaves r ≠ [] :=
    List.append_ne_nil_of_right_ne_nil _ (Grouping.comma.leaves_ne_nil r)
  have heq : Expr.chain (Expr.sequenceLeaves (.sequence l r)) =
      .sequence x (.chain (rest ++ Expr.sequenceLeaves r)) := by
    rw [hsplit, Expr.chain.eq_3 _ _ hmore]
  exact ⟨_, _, heq, by rw [← heq, hchain]⟩

/-! ### What a frame can see of a tree -/

/-- Two trees that no frame tells apart: they are of one kind and compile to the same thing, their
leaves have the same filters as operands of a conjunction, and as members of a comma chain they are
checked alike and make the same writes. -/
structure Interchangeable (t : Tables) (e e' : Expr) : Prop where
  /-- The kind of the root. -/
  kind_eq : e.kind = e'.kind
  /-- What the tree compiles to by itself. -/
  compile_eq : e.compile t = e'.compile t
  /-- What a conjunction around the tree sees. -/
  filters_eq : (Expr.andLeaves e).mapM (compileFilter t) = (Expr.andLeaves e').mapM (compileFilter t)
  /-- What a comma chain around the tree sees. -/
  writes_eq : ∀ b, (Expr.sequenceLeaves e).foldlM (addLeaf t) b =
    (Expr.sequenceLeaves e').foldlM (addLeaf t) b

variable {t : Tables} {e e' : Expr}

/-- Trees that are no conjunctions are their only leaves. -/
theorem filters_eq_of_compile (hcompile : e.compile t = e'.compile t) (h : e.andSides? = none)
    (h' : e'.andSides? = none) :
    (Expr.andLeaves e).mapM (compileFilter t) = (Expr.andLeaves e').mapM (compileFilter t) := by
  rw [Expr.andLeaves_of_no_sides h, Expr.andLeaves_of_no_sides h', List.mapM_cons, List.mapM_cons,
    compileFilter, compileFilter, hcompile]

/-- Trees that are no comma chains are their only members. -/
theorem writes_eq_of_compile (hkind : e.kind = e'.kind) (hcompile : e.compile t = e'.compile t)
    (hcheck : checkSequenceMember e = checkSequenceMember e') (h : e.sequenceSides? = none)
    (h' : e'.sequenceSides? = none) (b : UpdateBuilder) :
    (Expr.sequenceLeaves e).foldlM (addLeaf t) b =
      (Expr.sequenceLeaves e').foldlM (addLeaf t) b := by
  have hadd : addLeaf t b e = addLeaf t b e' := by
    rw [addLeaf, addLeaf, hcheck, hcompile]
    refine bind_congr fun _ => bind_congr fun f => ?_
    cases f with
    | update u => rfl
    | _ => simp only [addMember, hkind]
  rw [Expr.sequenceLeaves_of_no_sides h, Expr.sequenceLeaves_of_no_sides h', List.foldlM_cons,
    List.foldlM_cons, hadd]

namespace Interchangeable

/-- Conjunctions with the same leaves are interchangeable. -/
theorem of_andLeaves {l r l' r' : Expr}
    (h : Expr.andLeaves (.binary Expr.andToken l r) = Expr.andLeaves (.binary Expr.andToken l' r')) :
    Interchangeable t (.binary Expr.andToken l r) (.binary Expr.andToken l' r') := by
  have hcompile : (Expr.binary Expr.andToken l r).compile t =
      (Expr.binary Expr.andToken l' r').compile t := by
    rw [compile_and, compile_and, ← Expr.andLeaves_binary, h, Expr.andLeaves_binary]
  exact ⟨rfl, hcompile, by rw [h], writes_eq_of_compile rfl hcompile rfl rfl rfl⟩

/-- Comma chains with the same leaves are interchangeable. -/
theorem of_sequenceLeaves {l r l' r' : Expr}
    (h : Expr.sequenceLeaves (.sequence l r) = Expr.sequenceLeaves (.sequence l' r')) :
    Interchangeable t (.sequence l r) (.sequence l' r') := by
  have hcompile : (Expr.sequence l r).compile t = (Expr.sequence l' r').compile t := by
    rw [compile_sequence, compile_sequence, h]
  exact ⟨rfl, hcompile, filters_eq_of_compile hcompile rfl rfl, by simp only [h, implies_true]⟩

/-- In a list, a tree may be replaced by one that compiles to the same thing. -/
theorem compileAll_eq (h : e.compile t = e'.compile t) (before after : List Expr) :
    compileAll t (before ++ e :: after) = compileAll t (before ++ e' :: after) := by
  simp only [compileAll_eq_mapM, List.mapM_append, List.mapM_cons, h]

/-- Nodes that are neither conjunctions nor comma chains are interchangeable as soon as they compile
to the same thing and a comma chain checks them alike. -/
theorem of_compile (hkind : e.kind = e'.kind) (hcompile : e.compile t = e'.compile t)
    (hcheck : checkSequenceMember e = checkSequenceMember e') (hand : e.andSides? = none)
    (hand' : e'.andSides? = none) (hcomma : e.sequenceSides? = none)
    (hcomma' : e'.sequenceSides? = none) : Interchangeable t e e' :=
  ⟨hkind, hcompile, filters_eq_of_compile hcompile hand hand',
    writes_eq_of_compile hkind hcompile hcheck hcomma hcomma'⟩

/-- Both sides of a binary operator may be replaced. -/
theorem binary {l r l' r' : Expr} (hl : Interchangeable t l l') (hr : Interchangeable t r r')
    (op : String) : Interchangeable t (.binary op l r) (.binary op l' r') := by
  by_cases hop : op = Expr.andToken
  · -- a conjunction sees the leaves of its sides, not what they compile to
    subst hop
    have hfilters : (Expr.andLeaves l ++ Expr.andLeaves r).mapM (compileFilter t) =
        (Expr.andLeaves l' ++ Expr.andLeaves r').mapM (compileFilter t) := by
      rw [List.mapM_append, List.mapM_append, hl.filters_eq, hr.filters_eq]
    have hcompile : (Expr.binary Expr.andToken l r).compile t =
        (Expr.binary Expr.andToken l' r').compile t := by
      rw [compile_and, compile_and, hfilters]
    refine ⟨rfl, hcompile, ?_, writes_eq_of_compile rfl hcompile rfl rfl rfl⟩
    rw [Expr.andLeaves_binary, Expr.andLeaves_binary, hfilters]
  · have hcompile : (Expr.binary op l r).compile t = (Expr.binary op l' r').compile t := by
      rw [compile_binary hop, compile_binary hop, hl.compile_eq, hr.compile_eq]
    exact of_compile rfl hcompile rfl (if_neg hop) (if_neg hop) rfl rfl

/-- Both sides of a comma may be replaced. -/
theorem sequence {l r l' r' : Expr} (hl : Interchangeable t l l') (hr : Interchangeable t r r') :
    Interchangeable t (.sequence l r) (.sequence l' r') := by
  have hwrites : ∀ b, (Expr.sequenceLeaves (.sequence l r)).foldlM (addLeaf t) b =
      (Expr.sequenceLeaves (.sequence l' r')).foldlM (addLeaf t) b := by
    intro b
    rw [Expr.sequenceLeaves_sequence, Expr.sequenceLeaves_sequence, List.foldlM_append,
      List.foldlM_append, hl.writes_eq]
    exact bind_congr hr.writes_eq
  have hcompile : (Expr.sequence l r).compile t = (Expr.sequence l' r').compile t := by
    rw [compile_sequence, compile_sequence, hwrites]
  exact ⟨rfl, hcompile, filters_eq_of_compile hcompile rfl rfl, hwrites⟩

theorem refl (e : Expr) : Interchangeable t e e := ⟨rfl, rfl, rfl, fun _ => rfl⟩

/-- **A frame does not tell interchangeable trees apart.** -/
theorem fill_frame (h : Interchangeable t e e') (frame : Expr.Frame) :
    Interchangeable t (frame.fill e) (frame.fill e') := by
  cases frame with
  | program before after =>
      refine of_compile rfl ?_ rfl rfl rfl rfl rfl
      simp only [Expr.Frame.fill, Expr.compile, compileAll_eq h.compile_eq]
  | statement =>
      refine of_compile rfl ?_ rfl rfl rfl rfl rfl
      simp only [Expr.Frame.fill, Expr.compile, h.compile_eq]
  | base property =>
      refine of_compile rfl ?_ rfl rfl rfl rfl rfl
      simp only [Expr.Frame.fill, Expr.compile, h.compile_eq]
  | left op right => exact h.binary (refl right) op
  | right op left => exact (refl left).binary h op
  | operand op =>
      refine of_compile rfl ?_ ?_ rfl rfl rfl rfl
      · simp only [Expr.Frame.fill, Expr.compile, h.compile_eq]
      · cases op <;> rfl
  | item before after =>
      refine of_compile rfl ?_ rfl rfl rfl rfl rfl
      simp only [Expr.Frame.fill, Expr.compile, compileAll_eq h.compile_eq]
  | receiver method args =>
      refine of_compile rfl ?_ rfl rfl rfl rfl rfl
      simp only [Expr.Frame.fill, Expr.compile, h.compile_eq]
  | argument field method before after =>
      refine of_compile rfl ?_ rfl rfl rfl rfl rfl
      simp only [Expr.Frame.fill, Expr.compile, compileAll_eq h.compile_eq]
  | detached before after =>
      refine of_compile rfl ?_ rfl rfl rfl rfl rfl
      simp only [Expr.Frame.fill, Expr.compile]
  | target op value =>
      refine of_compile rfl ?_ rfl rfl rfl rfl rfl
      simp only [Expr.Frame.fill, Expr.compile, h.compile_eq]
  | assigned op target =>
      refine of_compile rfl ?_ rfl rfl rfl rfl rfl
      simp only [Expr.Frame.fill, Expr.compile, h.compile_eq]
  | first right => exact h.sequence (refl right)
  | second left => exact (refl left).sequence h

/-- **No place in a tree tells interchangeable trees apart.** The induction is on the frames around
the place, from the inside out. -/
theorem fill (h : Interchangeable t e e') (C : Expr.Context) :
    Interchangeable t (C.fill e) (C.fill e') := by
  induction C generalizing e e' with
  | nil => exact h
  | cons frame C ih => exact ih (h.fill_frame frame)

/-- Interchangeable trees have the same document or the same refusal. -/
theorem compileTree_eq (h : Interchangeable t e e') :
    Query.compileTree t e = Query.compileTree t e' := by
  have hhole : ∀ {x : Expr}, x.kind = .invalid → x = .hole := by
    intro x hx
    cases x <;> first | rfl | cases hx
  have hdocument : e.toDocument t = e'.toDocument t := by
    by_cases he : e = .hole
    · rw [hhole (h.kind_eq ▸ he ▸ rfl : e'.kind = .invalid), he]
    · have he' : e' ≠ .hole := by
        rintro rfl
        exact he (hhole h.kind_eq)
      rw [Expr.toDocument.eq_2 _ _ he, Expr.toDocument.eq_2 _ _ he', h.compile_eq, h.kind_eq]
  rw [Query.compileTree, Query.compileTree, hdocument]

end Interchangeable

/-- **Regrouping changes nothing.** At any place of a tree, a conjunction may be replaced by any
conjunction with the same leaves, and a comma chain by any chain with the same leaves; so may a
conjunction by the left-leaning one of its leaves, and a comma chain by the right-leaning one. The
document is the same, or the refusal is. -/
theorem regrouping_changes_nothing (t : Tables) (C : Expr.Context) (l r : Expr) :
    (∀ l' r', Expr.andLeaves (.binary "&&" l r) = Expr.andLeaves (.binary "&&" l' r') →
      Query.compileTree t (C.fill (.binary "&&" l r)) =
        Query.compileTree t (C.fill (.binary "&&" l' r'))) ∧
    (∀ l' r', Expr.sequenceLeaves (.sequence l r) = Expr.sequenceLeaves (.sequence l' r') →
      Query.compileTree t (C.fill (.sequence l r)) =
        Query.compileTree t (C.fill (.sequence l' r'))) ∧
    Query.compileTree t (C.fill (.binary "&&" l r)) =
      Query.compileTree t (C.fill (.all (Expr.andLeaves (.binary "&&" l r)))) ∧
    Query.compileTree t (C.fill (.sequence l r)) =
      Query.compileTree t (C.fill (.chain (Expr.sequenceLeaves (.sequence l r)))) := by
  have hand : ∀ l' r', Expr.andLeaves (.binary "&&" l r) = Expr.andLeaves (.binary "&&" l' r') →
      Query.compileTree t (C.fill (.binary "&&" l r)) =
        Query.compileTree t (C.fill (.binary "&&" l' r')) :=
    fun l' r' h => ((Interchangeable.of_andLeaves h).fill C).compileTree_eq
  have hcomma : ∀ l' r', Expr.sequenceLeaves (.sequence l r) = Expr.sequenceLeaves (.sequence l' r') →
      Query.compileTree t (C.fill (.sequence l r)) =
        Query.compileTree t (C.fill (.sequence l' r')) :=
    fun l' r' h => ((Interchangeable.of_sequenceLeaves h).fill C).compileTree_eq
  obtain ⟨l₁, r₁, hall, hleaves⟩ := exists_all_eq_binary l r
  obtain ⟨l₂, r₂, hchain, hmembers⟩ := exists_chain_eq_sequence l r
  refine ⟨hand, hcomma, ?_, ?_⟩
  · exact (hand l₁ r₁ hleaves).trans (congrArg (fun e => Query.compileTree t (C.fill e)) hall.symm)
  · rw [hchain]
    exact hcomma l₂ r₂ hmembers

/-- Chains of three leaves, grouped to the left and to the right: `a == 1 && b > 2 && a < 9` on the
right of a disjunction, and `x = 1, ++y, x += 2`, which both groupings refuse, in a program. -/
theorem three_leaves_regrouped :
    let x : Expr := .binary "==" (.identifier "a") (.number "1")
    let y : Expr := .binary ">" (.identifier "b") (.number "2")
    let z : Expr := .binary "<" (.identifier "a") (.number "9")
    let u : Expr := .assign "=" (.identifier "x") (.number "1")
    let v : Expr := .unary .increment (.identifier "y")
    let w : Expr := .assign "+=" (.identifier "x") (.number "2")
    Expr.andLeaves (.binary "&&" (.binary "&&" x y) z) =
        Expr.andLeaves (.binary "&&" x (.binary "&&" y z)) ∧
      Expr.sequenceLeaves (.sequence (.sequence u v) w) =
        Expr.sequenceLeaves (.sequence u (.sequence v w)) ∧
      Query.compileTree .standard (.binary "||" x (.binary "&&" (.binary "&&" x y) z)) =
        Query.compileTree .standard (.binary "||" x (.binary "&&" x (.binary "&&" y z))) ∧
      Query.compileTree .standard (.program [.statement (.sequence (.sequence u v) w)]) =
        Query.compileTree .standard (.program [.statement (.sequence u (.sequence v w))]) := by
  intro x y z u v w
  have hand : Expr.andLeaves (.binary "&&" (.binary "&&" x y) z) =
      Expr.andLeaves (.binary "&&" x (.binary "&&" y z)) := by
    have hsplit : ∀ l r, Expr.andLeaves (.binary "&&" l r) = l.andLeaves ++ r.andLeaves :=
      Expr.andLeaves_binary
    simp only [hsplit, List.append_assoc]
  have hcomma : Expr.sequenceLeaves (.sequence (.sequence u v) w) =
      Expr.sequenceLeaves (.sequence u (.sequence v w)) := by
    simp only [Expr.sequenceLeaves_sequence, List.append_assoc]
  exact ⟨hand, hcomma,
    (regrouping_changes_nothing .standard [.right "||" x] (.binary "&&" x y) z).1 _ _ hand,
    (regrouping_changes_nothing .standard [.statement, .program [] []] (.sequence u v) w).2.1 _ _
      hcomma⟩

end DocQuery
