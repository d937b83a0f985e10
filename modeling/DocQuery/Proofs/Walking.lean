import DocQuery.Expr.Walk
import DocQuery.Proofs.Subtrees

/-!
# DocQuery.Proofs.Walking

**A walk has one order, and the visitor only decides where it ends.** The order is the `tour` of a
tree: every node is entered before its children and left after them, children from left to right.
What a visitor can object to is said moment by moment (`obstacle`): a missing node, a call without
callee and an unhandled conjunction or comma expression when they are entered, everything else when
it is left. A walk is the tour up to its first obstacle (`walk_eq_follow`), and the nodes that it
leaves on the way are logged in post-order.
-/

namespace DocQuery.Expr

/-! ### The order -/

/-- A moment of a walk. -/
inductive Moment where
  /-- A node is entered, before its children. -/
  | enter (n : Expr)
  /-- A node is left, after its children. -/
  | leave (n : Expr)

/-- The moments of a walk through a whole tree. -/
def tour (e : Expr) : List Moment :=
  .enter e :: (e.children.attach.flatMap fun ⟨c, _⟩ => c.tour) ++ [.leave e]
termination_by sizeOf e
decreasing_by exact sizeOf_lt_of_mem_children ‹_›

/-- The nodes of a tree, each after its children. -/
def postorder (e : Expr) : List Expr :=
  (e.children.attach.flatMap fun ⟨c, _⟩ => c.postorder) ++ [e]
termination_by sizeOf e
decreasing_by exact sizeOf_lt_of_mem_children ‹_›

theorem tour_eq (e : Expr) : e.tour = .enter e :: e.children.flatMap tour ++ [.leave e] := by
  rw [tour, List.flatMap_subtype (g := tour) (fun _ _ => rfl), List.unattach_attach]

theorem postorder_eq (e : Expr) : e.postorder = e.children.flatMap postorder ++ [e] := by
  rw [postorder, List.flatMap_subtype (g := postorder) (fun _ _ => rfl), List.unattach_attach]

/-- The node that is left at a moment. -/
def Moment.left? : Moment → Option Expr
  | .enter _ => none
  | .leave n => some n

/-- **A tour leaves the nodes of a tree in post-order.** -/
theorem filterMap_left?_tour (e : Expr) : e.tour.filterMap Moment.left? = e.postorder := by
  induction e using childInduction with
  | step e ih =>
      rw [tour_eq, postorder_eq, List.cons_append,
        List.filterMap_cons_none (show (Moment.enter e).left? = none from rfl),
        List.filterMap_append, List.filterMap_flatMap]
      congr 1
      exact List.flatMap_congr ih

/-! ### What a visit is and what it answers -/

/-- The visit that a node is for; nothing where there is none. -/
def visit? : Expr → Option Visit
  | .hole => none
  | .program _ => some .program
  | .statement _ => some .statement
  | .string _ => some .string
  | .number _ => some .number
  | .bool _ => some .boolean
  | .null => some .null
  | .identifier _ => some .identifier
  | .member _ _ => some .member
  | .binary op _ _ => some (if op = andToken then .and else .binary)
  | .unary op _ => Visit.ofUnary? op
  | .array _ => some .array
  | .call _ _ _ => some .call
  | .detachedCall _ => none
  | .assign _ _ _ => some .assign
  | .sequence _ _ => some .sequence

/-- What the visit of a node answers when its children have answered `results`. -/
def resultFrom : Expr → (results : List String) → String
  | .program _, rs => String.intercalate "; " rs
  | .statement _, [r] => r
  | .string value, _ => "\"" ++ value ++ "\""
  | .number literal, _ => literal
  | .bool value, _ => if value then "true" else "false"
  | .null, _ => "null"
  | .identifier name, _ => name
  | .member _ property, [b] => b ++ "." ++ property
  | .binary op _ _, [l, r] => "(" ++ l ++ " " ++ op ++ " " ++ r ++ ")"
  | .unary op _, [o] => unaryText op o
  | .array _, rs => "[" ++ String.intercalate ", " rs ++ "]"
  | .call _ method _, f :: rs => f ++ "." ++ method ++ "(" ++ String.intercalate ", " rs ++ ")"
  | .assign op _ _, [t, v] => t ++ " " ++ op ++ " " ++ v
  | .sequence _ _, [l, r] => l ++ ", " ++ r
  | _, _ => ""

/-- What the visit of a node answers. -/
def result (e : Expr) : String :=
  e.resultFrom (e.children.attach.map fun ⟨c, _⟩ => c.result)
termination_by sizeOf e
decreasing_by exact sizeOf_lt_of_mem_children ‹_›

theorem result_eq (e : Expr) : e.result = e.resultFrom (e.children.map result) := by
  rw [result, List.map_subtype (g := result) (fun _ _ => rfl), List.unattach_attach]

/-- The line of the log for a node. -/
def logLine? (n : Expr) : Option (Visit × String) := n.visit?.map (·, n.result)

/-! ### Obstacles -/

/-- What a visitor objects to at a moment, by the kind it reports. -/
def obstacle (handled : Visit → Bool) : Moment → Option Kind
  | .enter .hole => some .invalid
  | .enter (.detachedCall _) => some .call
  | .enter (.binary op _ _) => if op = andToken ∧ handled .and = false then some .binary else none
  | .enter (.sequence _ _) => if handled .sequence then none else some .sequence
  | .enter _ => none
  | .leave n =>
    match n.visit? with
    | some v => if handled v then none else some v.kind
    | none => some n.kind

/-- A walk along moments that answers `a` when nothing stops it. -/
def follow {α : Type} (handled : Visit → Bool) : List Moment → α → Walked α
  | [], a => .done a
  | m :: ms, a =>
    match obstacle handled m with
    | some k => .stop k
    | none =>
      let rest := follow handled ms a
      { log := (m.left?.bind logLine?).toList ++ rest.log, outcome := rest.outcome }

variable {α β : Type} {handled : Visit → Bool}

theorem follow_of_obstacle {m : Moment} {k : Kind} (h : obstacle handled m = some k)
    (ms : List Moment) (a : α) : follow handled (m :: ms) a = .stop k := by
  rw [follow, h]

theorem follow_enter {n : Expr} (h : obstacle handled (.enter n) = none) (ms : List Moment)
    (a : α) : follow handled (.enter n :: ms) a = follow handled ms a := by
  rw [follow, h]
  rfl

/-- Two walks one after the other are one walk. -/
theorem andThen_follow {ms ns : List Moment} {a : α} {b : β} {next : α → Walked β}
    (h : next a = follow handled ns b) :
    (follow handled ms a).andThen next = follow handled (ms ++ ns) b := by
  induction ms with
  | nil => simp [follow, Walked.done, Walked.andThen, h]
  | cons m ms ih =>
      rw [List.cons_append, follow, follow, ← ih]
      cases obstacle handled m with
      | some k => rfl
      | none =>
          simp only [Walked.andThen]
          cases (follow handled ms a).outcome <;> simp

theorem follow_andThen_done (f : α → β) {ms : List Moment} {a : α} :
    ((follow handled ms a).andThen fun a => .done (f a)) = follow handled ms (f a) := by
  rw [← List.append_nil ms]
  have h := @andThen_follow α β handled ms [] a (f a) (fun a => .done (f a)) rfl
  simpa using h

/-- The visit of a node is the moment at which it is left. -/
theorem visit_eq_follow {n : Expr} {v : Visit} {r : String} (hv : n.visit? = some v)
    (hr : r = n.result) : visit handled v r = follow handled [.leave n] n.result := by
  subst hr
  simp only [visit, follow, obstacle, hv]
  cases handled v with
  | true => simp [Walked.done, Moment.left?, logLine?, hv]
  | false => rfl

/-! ### Walks -/

@[simp] theorem done_andThen (a : α) (next : α → Walked β) :
    (Walked.done a).andThen next = next a := by
  simp [Walked.done, Walked.andThen]

@[simp] theorem andThen_assoc {γ : Type} (w : Walked α) (f : α → Walked β) (g : β → Walked γ) :
    (w.andThen f).andThen g = w.andThen fun a => (f a).andThen g := by
  simp only [Walked.andThen]
  cases w.outcome with
  | error k => rfl
  | ok a =>
      simp only
      cases (f a).outcome with
      | error k => rfl
      | ok b => simp [List.append_assoc]

section Equations

attribute [local simp] walk walkAll children resultFrom

/-- One rule for all kinds of nodes: a node that may be entered is visited after its children. -/
theorem walk_eq {e : Expr} {v : Visit} (henter : obstacle handled (.enter e) = none)
    (hv : e.visit? = some v) :
    e.walk handled =
      (walkAll handled e.children).andThen fun rs => visit handled v (e.resultFrom rs) := by
  cases e with
  | hole => cases henter
  | detachedCall args => cases henter
  | binary op left right =>
      simp only [visit?, Option.some.injEq] at hv
      subst hv
      by_cases hop : op = andToken
      · subst hop
        have hand : handled .and = true := by simpa [obstacle] using henter
        have htoken (l r : String) :
            "(" ++ l ++ " && " ++ r ++ ")" = "(" ++ l ++ " " ++ andToken ++ " " ++ r ++ ")" := by
          have hspaced : " && " = " " ++ andToken ++ " " := by decide
          simp only [hspaced, String.append_assoc]
        simp [hand, htoken]
      · simp [hop]
  | sequence left right =>
      cases hv
      have hsequence : handled .sequence = true := by simpa [obstacle] using henter
      simp [hsequence]
  | unary op operand =>
      have hop : Visit.ofUnary? op = some v := hv
      simp [hop]
  | _ =>
      cases hv
      simp

theorem walkAll_eq_follow {es : List Expr}
    (h : ∀ e ∈ es, e.walk handled = follow handled e.tour e.result) :
    walkAll handled es = follow handled (es.flatMap tour) (es.map result) := by
  induction es with
  | nil => rw [walkAll, List.flatMap_nil, follow, List.map_nil]
  | cons e es ih =>
      rw [List.forall_mem_cons] at h
      rw [walkAll, h.1, ih h.2, List.flatMap_cons]
      refine andThen_follow ?_
      exact follow_andThen_done (e.result :: ·)

/-- What keeps a node from being entered ends the walk. -/
theorem walk_of_obstacle {e : Expr} {k : Kind} (h : obstacle handled (.enter e) = some k) :
    e.walk handled = .stop k := by
  cases e with
  | hole => cases h; rw [walk]
  | detachedCall args => cases h; rw [walk]
  | binary op left right =>
      rw [obstacle] at h
      split at h
      · next hop =>
        cases h
        simp [hop.1, hop.2]
      · cases h
  | sequence left right =>
      rw [obstacle] at h
      cases hsequence : handled .sequence with
      | true => simp [hsequence] at h
      | false =>
          rw [hsequence] at h
          cases h
          simp [hsequence]
  | _ => cases h

/-- A node without a visit that may be entered is a prefix operator that there is not. -/
theorem eq_unary_of_visit?_eq_none {e : Expr} (henter : obstacle handled (.enter e) = none)
    (hv : e.visit? = none) : ∃ op operand, e = .unary op operand ∧ Visit.ofUnary? op = none := by
  cases e with
  | unary op operand => exact ⟨op, operand, rfl, hv⟩
  | hole => cases henter
  | detachedCall args => cases henter
  | _ => cases hv

/-- **A walk is the tour of a tree up to its first obstacle.** -/
theorem walk_eq_follow (handled : Visit → Bool) (e : Expr) :
    e.walk handled = follow handled e.tour e.result := by
  induction e using childInduction with
  | step e ih =>
      rw [tour_eq, List.cons_append]
      cases henter : obstacle handled (.enter e) with
      | some k => rw [follow_of_obstacle henter, walk_of_obstacle henter]
      | none =>
          rw [follow_enter henter]
          cases hv : e.visit? with
          | some v =>
              rw [walk_eq henter hv, walkAll_eq_follow ih]
              exact andThen_follow (visit_eq_follow hv (result_eq e).symm)
          | none =>
              obtain ⟨op, operand, rfl, hop⟩ := eq_unary_of_visit?_eq_none henter hv
              have hleave : obstacle handled (.leave (.unary op operand)) = some .unary := by
                rw [obstacle, hv]
                rfl
              rw [walk, ih operand (List.mem_singleton_self operand), children,
                List.flatMap_singleton]
              refine andThen_follow ?_
              rw [hop, follow_of_obstacle hleave]

end Equations

/-! ### Logs and outcomes -/

theorem follow_log (ms : List Moment) (a : α) :
    (follow handled ms a).log =
      (ms.takeWhile fun m => (obstacle handled m).isNone).filterMap (·.left?.bind logLine?) := by
  induction ms with
  | nil => rfl
  | cons m ms ih =>
      rw [follow]
      cases hm : obstacle handled m with
      | some k => simp [hm, Walked.stop]
      | none =>
          simp only [ih, List.takeWhile_cons, hm, Option.isNone_none, if_true, List.filterMap_cons]
          cases m.left?.bind logLine? <;> rfl

theorem follow_outcome (ms : List Moment) (a : α) :
    (follow handled ms a).outcome =
      match ms.findSome? (obstacle handled) with
      | some k => .error k
      | none => .ok a := by
  induction ms with
  | nil => rfl
  | cons m ms ih =>
      rw [follow, List.findSome?_cons]
      cases hm : obstacle handled m with
      | some k => rfl
      | none => exact ih

/-- Where some visitor goes on, one that handles everything goes on. -/
theorem obstacle_all_eq_none {m : Moment} (h : obstacle handled m = none) :
    obstacle (fun _ => true) m = none := by
  cases m with
  | enter n => cases n <;> simp_all [obstacle]
  | leave n =>
      rw [obstacle] at h ⊢
      cases hv : n.visit? with
      | some v => rfl
      | none => rw [hv] at h; cases h

theorem takeWhile_isPrefix {p q : α → Bool} (h : ∀ a, p a → q a) {l : List α} :
    l.takeWhile p <+: l.takeWhile q := by
  have hboth : (fun a => decide (p a = true ∧ q a = true)) = p := by
    funext a
    cases hp : p a with
    | true => simp [h a hp]
    | false => simp
  rw [← hboth, ← List.takeWhile_takeWhile]
  exact List.takeWhile_prefix _

/-- The log of a visitor begins the log of the visitor that handles everything. -/
theorem walk_log_isPrefix (handled : Visit → Bool) (e : Expr) :
    (e.walk handled).log <+: (e.walk fun _ => true).log := by
  rw [walk_eq_follow, walk_eq_follow, follow_log, follow_log]
  refine List.IsPrefix.filterMap _ ?_
  refine takeWhile_isPrefix fun m hm => ?_
  rw [obstacle_all_eq_none (Option.isNone_iff_eq_none.1 hm), Option.isNone_none]

/-- The node of a moment. -/
def Moment.node : Moment → Expr
  | .enter n => n
  | .leave n => n

theorem contains_node_of_mem_tour {e : Expr} {m : Moment} (h : m ∈ e.tour) :
    e.Contains m.node := by
  induction e using childInduction with
  | step e ih =>
      rw [tour_eq, List.cons_append, List.mem_cons, List.mem_append, List.mem_flatMap,
        List.mem_singleton] at h
      rcases h with rfl | ⟨c, hc, hm⟩ | rfl
      · exact .root
      · exact .child hc (ih c hc hm)
      · exact .root

theorem mem_postorder_of_contains {e n : Expr} (h : e.Contains n) : n ∈ e.postorder := by
  induction h with
  | root => rw [postorder_eq]; exact List.mem_append_right _ (List.mem_singleton_self _)
  | child hc _ ih =>
      rw [postorder_eq]
      exact List.mem_append_left _ (List.mem_flatMap.2 ⟨_, hc, ih⟩)

theorem contains_of_mem_postorder {e n : Expr} (h : n ∈ e.postorder) : e.Contains n := by
  induction e using childInduction with
  | step e ih =>
      rw [postorder_eq, List.mem_append, List.mem_flatMap, List.mem_singleton] at h
      rcases h with ⟨c, hc, hn⟩ | rfl
      · exact .child hc (ih c hc hn)
      · exact .root

/-- Only a node without a visit stops a visitor that handles everything. -/
theorem obstacle_all_of_visit? {m : Moment} (h : m.node.visit?.isSome) :
    obstacle (fun _ => true) m = none := by
  cases m with
  | enter n => cases n <;> simp_all [obstacle, Moment.node, visit?]
  | leave n =>
      obtain ⟨v, hv⟩ := Option.isSome_iff_exists.1 h
      have hv : n.visit? = some v := hv
      rw [obstacle, hv]
      rfl

theorem map_some_filterMap {f : α → Option β} {l : List α} (h : ∀ a ∈ l, (f a).isSome) :
    (l.filterMap f).map some = l.map f := by
  induction l with
  | nil => rfl
  | cons a l ih =>
      rw [List.forall_mem_cons] at h
      obtain ⟨b, hb⟩ := Option.isSome_iff_exists.1 h.1
      rw [List.filterMap_cons_some hb, List.map_cons, List.map_cons, ih h.2, hb]

/-- What the visitor that handles everything logs is the beginning of the post-order. -/
theorem walk_all_log_isPrefix (e : Expr) :
    (e.walk fun _ => true).log <+: e.postorder.filterMap logLine? := by
  rw [walk_eq_follow, follow_log, ← filterMap_left?_tour, List.filterMap_filterMap]
  exact (List.takeWhile_prefix _).filterMap _

/-- **The visitor that handles everything logs the whole post-order**, a line for each node, exactly
when there is a visit for each node. -/
theorem walk_all_log_iff (e : Expr) :
    (e.walk fun _ => true).log.map some = e.postorder.map logLine? ↔
      ∀ n, e.Contains n → n.visit?.isSome := by
  constructor
  · intro h n hn
    have hmem : logLine? n ∈ (e.walk fun _ => true).log.map some := by
      rw [h]
      exact List.mem_map_of_mem (mem_postorder_of_contains hn)
    obtain ⟨line, -, hline⟩ := List.mem_map.1 hmem
    rw [logLine?, eq_comm, Option.map_eq_some_iff] at hline
    obtain ⟨v, hv, -⟩ := hline
    rw [hv, Option.isSome_some]
  · intro h
    have hfree : ∀ m ∈ e.tour, (obstacle (fun _ => true) m).isNone := by
      intro m hm
      rw [obstacle_all_of_visit? (h _ (contains_node_of_mem_tour hm)), Option.isNone_none]
    rw [walk_eq_follow, follow_log, List.takeWhile_eq_self_iff.2 hfree,
      ← List.filterMap_filterMap, filterMap_left?_tour]
    refine map_some_filterMap fun n hn => ?_
    rw [logLine?, Option.isSome_map]
    exact h n (contains_of_mem_postorder hn)

/-- **Walks visit in one order and stop at the first obstacle.** For every tree and every set of
handled visits:

* the log begins the log of the visitor that handles everything, which begins the post-order of the
  nodes, and is all of it exactly when there is a visit for every node;
* the log holds the nodes that are left before the first obstacle of the tour;
* the walk answers when the tour has no obstacle, and otherwise fails with the kind of the first. -/
theorem walk_visits_in_order (handled : Visit → Bool) (e : Expr) :
    (e.walk handled).log <+: (e.walk fun _ => true).log ∧
      (e.walk fun _ => true).log <+: e.postorder.filterMap logLine? ∧
      ((e.walk fun _ => true).log.map some = e.postorder.map logLine? ↔
        ∀ n, e.Contains n → n.visit?.isSome) ∧
      (e.walk handled).log =
        (e.tour.takeWhile fun m => (obstacle handled m).isNone).filterMap (·.left?.bind logLine?) ∧
      (∀ r, (e.walk handled).outcome = .ok r ↔
        r = e.result ∧ ∀ m ∈ e.tour, obstacle handled m = none) ∧
      ∀ k, (e.walk handled).outcome = .error k ↔
        ∃ before m after, e.tour = before ++ m :: after ∧ obstacle handled m = some k ∧
          ∀ m' ∈ before, obstacle handled m' = none := by
  refine ⟨walk_log_isPrefix handled e, walk_all_log_isPrefix e, walk_all_log_iff e, ?_, ?_, ?_⟩
  · rw [walk_eq_follow, follow_log]
  · intro r
    rw [walk_eq_follow, follow_outcome, ← List.findSome?_eq_none_iff]
    cases e.tour.findSome? (obstacle handled) <;> simp [eq_comm]
  · intro k
    rw [walk_eq_follow, follow_outcome, ← List.findSome?_eq_some_iff]
    cases e.tour.findSome? (obstacle handled) <;> simp

end DocQuery.Expr
