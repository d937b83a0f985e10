import DocQuery.Proofs.Subtrees
import DocQuery.Proofs.TableChecks

/-!
# DocQuery.Proofs.TableUse

**What a compilation uses of its tables.** Two tables that have the same entries for the operators
and methods that occur in a tree compile the tree alike: to the same document, or to failures that
say the same and differ at most in the alternatives they list.

The compiler reads its tables in two places, `lookupOperator` and `call`; everything else is one and
the same computation of what these give. So the proof is a congruence: `Agree` relates two
computations with the same outcome, sequencing keeps it (`Agree.bind`, and from it `Agree.mapM` and
`Agree.foldlM` for the leaves of chains), and an induction on the size of the tree carries it from
the two places to whole trees.
-/

namespace DocQuery

open Compile

/-! ### Outcomes that say the same -/

/-- Two causes that say the same and may list different alternatives. -/
structure Cause.Alike (c c' : Cause) : Prop where
  /-- They are of one kind. -/
  kind : c.kind = c'.kind
  /-- They blame the same construct. -/
  subject : c.subject = c'.subject
  /-- They say the same in words. -/
  message : c.message = c'.message

/-- Two computations with the same outcome, up to the alternatives that a failure lists. -/
inductive Agree {α : Type} : Except Cause α → Except Cause α → Prop where
  /-- Both give the same result. -/
  | ok (a : α) : Agree (.ok a) (.ok a)
  /-- Both fail and say the same. -/
  | error {c c' : Cause} (h : c.Alike c') : Agree (.error c) (.error c')

namespace Agree

variable {α β : Type} {x y : Except Cause α}

theorem refl (x : Except Cause α) : Agree x x := by
  cases x with
  | ok a => exact .ok a
  | error c => exact .error ⟨rfl, rfl, rfl⟩

theorem bind {f g : α → Except Cause β} (h : Agree x y) (hfg : ∀ a, Agree (f a) (g a)) :
    Agree (x >>= f) (y >>= g) := by
  cases h with
  | ok a => exact hfg a
  | error h => exact .error h

theorem mapM {f g : α → Except Cause β} {as : List α} (h : ∀ a ∈ as, Agree (f a) (g a)) :
    Agree (as.mapM f) (as.mapM g) := by
  induction as with
  | nil => exact refl _
  | cons a rest ih =>
      rw [List.forall_mem_cons] at h
      rw [List.mapM_cons, List.mapM_cons]
      exact h.1.bind fun b => (ih h.2).bind fun bs => refl _

theorem foldlM {f g : β → α → Except Cause β} {as : List α}
    (h : ∀ a ∈ as, ∀ b, Agree (f b a) (g b a)) (b : β) :
    Agree (as.foldlM f b) (as.foldlM g b) := by
  induction as generalizing b with
  | nil => exact refl _
  | cons a rest ih =>
      rw [List.forall_mem_cons] at h
      rw [List.foldlM_cons, List.foldlM_cons]
      exact (h.1 b).bind fun b' => ih h.2 b'

end Agree

/-! ### Entries that a tree uses -/

/-- Two tables have the same entries for all operators and methods that occur in a tree. -/
structure Tables.AgreeOn (t t' : Tables) (e : Expr) : Prop where
  /-- The operators. -/
  operator : ∀ {token : String} {l r : Expr}, e.Contains (.binary token l r) →
    t.operator? token = t'.operator? token
  /-- The methods. -/
  method : ∀ {name : String} {field : Expr} {args : List Expr}, e.Contains (.call field name args) →
    t.method? name = t'.method? name

variable {t t' : Tables}

theorem Tables.AgreeOn.node {e x : Expr} (h : t.AgreeOn t' e) (hx : e.Contains x) :
    t.AgreeOn t' x :=
  ⟨fun hbinary => h.operator (hx.trans hbinary), fun hcall => h.method (hx.trans hcall)⟩

/-- Where both tables have the same entry for a token, they differ at most in the tokens listed. -/
theorem agree_lookupOperator {token : String} (h : t.operator? token = t'.operator? token) :
    Agree (lookupOperator t token) (lookupOperator t' token) := by
  unfold lookupOperator
  rw [h]
  cases t'.operator? token with
  | none => exact .error ⟨rfl, rfl, rfl⟩
  | some op =>
      dsimp only
      split
      · exact .ok op
      · exact .error ⟨rfl, rfl, rfl⟩

theorem agree_binary {token : String} (h : t.operator? token = t'.operator? token)
    (l r : Fragment) : Agree (Compile.binary t token l r) (Compile.binary t' token l r) :=
  (agree_lookupOperator h).bind fun _ => .refl _

theorem agree_call {name : String} (h : t.method? name = t'.method? name) (field : Fragment)
    (args : List Fragment) :
    Agree (Compile.call t name field args) (Compile.call t' name field args) := by
  unfold Compile.call
  rw [h]
  cases t'.method? name with
  | none => exact .error ⟨rfl, rfl, rfl⟩
  | some m => exact .refl _

/-- **Fragments depend on the entries that occur in the tree.** -/
theorem agree_compile {e : Expr} (h : t.AgreeOn t' e) : Agree (e.compile t) (e.compile t') := by
  -- the compiler goes to children, and to leaves of chains: all are smaller nodes
  have smaller {x : Expr} (hx : e.Contains x) (hlt : sizeOf x < sizeOf e) :
      Agree (x.compile t) (x.compile t') := agree_compile (h.node hx)
  have child {c : Expr} (hc : c ∈ e.children) : Agree (c.compile t) (c.compile t') :=
    smaller (.of_child hc) (Expr.sizeOf_lt_of_mem_children hc)
  have all {cs : List Expr} (hcs : ∀ c ∈ cs, c ∈ e.children) :
      Agree (compileAll t cs) (compileAll t' cs) := by
    rw [compileAll_eq_mapM, compileAll_eq_mapM]
    exact .mapM fun c hc => child (hcs c hc)
  cases e with
  | hole => rw [Expr.compile, Expr.compile]; exact .refl _
  | program body =>
      rw [Expr.compile, Expr.compile]
      exact (all fun _ hc => hc).bind fun _ => .refl _
  | statement inner =>
      rw [Expr.compile, Expr.compile]
      exact child (List.mem_singleton_self inner)
  | string value => rw [Expr.compile, Expr.compile]; exact .refl _
  | number literal => rw [Expr.compile, Expr.compile]; exact .refl _
  | bool value => rw [Expr.compile, Expr.compile]; exact .refl _
  | null => rw [Expr.compile, Expr.compile]; exact .refl _
  | identifier name => rw [Expr.compile, Expr.compile]; exact .refl _
  | member base property =>
      rw [Expr.compile, Expr.compile]
      exact (child (List.mem_singleton_self base)).bind fun _ => .refl _
  | binary token l r =>
      have hop := h.operator .root
      by_cases htoken : token = Expr.andToken
      · subst htoken
        rw [compile_and, compile_and]
        refine (agree_lookupOperator hop).bind fun _ => Agree.bind (.mapM ?_) fun _ => .refl _
        intro leaf hleaf
        rw [← Expr.andLeaves_binary] at hleaf
        have hcompile := smaller (Expr.contains_of_mem_andLeaves hleaf)
          (Expr.sizeOf_lt_of_mem_andLeaves rfl hleaf)
        exact hcompile.bind fun _ => .refl _
      · rw [compile_binary htoken, compile_binary htoken]
        refine (child (List.mem_cons_self ..)).bind fun f => ?_
        exact (child (by simp [Expr.children])).bind fun g => agree_binary hop f g
  | unary op operand =>
      rw [Expr.compile, Expr.compile]
      exact (child (List.mem_singleton_self operand)).bind fun _ => .refl _
  | array elements =>
      rw [Expr.compile, Expr.compile]
      exact (all fun _ hc => hc).bind fun _ => .refl _
  | call field name args =>
      rw [Expr.compile, Expr.compile]
      refine (child (List.mem_cons_self ..)).bind fun f => ?_
      refine (all fun _ hc => List.mem_cons_of_mem _ hc).bind fun fs => ?_
      exact agree_call (h.method .root) f fs
  | detachedCall args => rw [Expr.compile, Expr.compile]; exact .refl _
  | assign op target value =>
      rw [Expr.compile, Expr.compile]
      refine (child (List.mem_cons_self ..)).bind fun _ => ?_
      exact (child (by simp [Expr.children])).bind fun _ => .refl _
  | sequence l r =>
      rw [compile_sequence, compile_sequence]
      refine Agree.bind (.foldlM ?_ _) fun _ => .refl _
      intro leaf hleaf b
      have hcompile := smaller (Expr.contains_of_mem_sequenceLeaves hleaf)
        (Expr.sizeOf_lt_of_mem_sequenceLeaves hleaf)
      exact (Agree.refl _).bind fun _ => hcompile.bind fun _ => .refl _
termination_by sizeOf e

theorem agree_toDocument {e : Expr} (h : t.AgreeOn t' e) :
    Agree (e.toDocument t) (e.toDocument t') := by
  by_cases hole : e = .hole
  · rw [hole]
    exact .refl _
  · rw [Expr.toDocument.eq_2 _ _ hole, Expr.toDocument.eq_2 _ _ hole]
    exact (agree_compile h).bind fun _ => .refl _

/-! ### Whole trees -/

/-- Two compilations of a tree with the same outcome: the same document, or two diagnostics that
differ in the alternatives they list at most. -/
inductive SameOutcome : Except QueryError Document → Except QueryError Document → Prop where
  /-- The same document. -/
  | document (d : Document) : SameOutcome (.ok d) (.ok d)
  /-- Diagnostics of the same kind, subject and message. -/
  | diagnostic {d d' : Diagnostic} (hkind : d.kind = d'.kind) (hsubject : d.subject = d'.subject)
      (hmessage : d.message = d'.message) :
      SameOutcome (.error (.rejected d)) (.error (.rejected d'))

theorem sameOutcome_compileTree {e : Expr} (h : t.AgreeOn t' e) :
    SameOutcome (Query.compileTree t e) (Query.compileTree t' e) := by
  have hagree := agree_toDocument h
  unfold Query.compileTree
  generalize e.toDocument t = x at hagree ⊢
  generalize e.toDocument t' = y at hagree ⊢
  cases hagree with
  | ok d => exact .document d
  | error h => exact .diagnostic (congrArg some h.kind) h.subject h.message

/-- Entries that are appended change no look-up but their own. -/
theorem agreeOn_append {e : Expr} {ops ops' : List Operator} {ms ms' : List Method}
    (hops : ∀ op ∈ ops', ∀ l r, ¬e.Contains (.binary op.token l r))
    (hms : ∀ m ∈ ms', ∀ field args, ¬e.Contains (.call field m.name args)) :
    Tables.AgreeOn ⟨ops, ms⟩ ⟨ops ++ ops', ms ++ ms'⟩ e := by
  constructor
  · intro token l r hbinary
    have hnone : ops'.find? (fun op => op.token == token) = none := by
      rw [List.find?_eq_none]
      intro op hop htoken
      rw [← beq_iff_eq.1 htoken] at hbinary
      exact hops op hop l r hbinary
    rw [Tables.operator?, Tables.operator?, List.find?_append, hnone, Option.or_none]
  · intro name field args hcall
    have hnone : ms'.find? (fun m => m.name == name) = none := by
      rw [List.find?_eq_none]
      intro m hm hname
      rw [← beq_iff_eq.1 hname] at hcall
      exact hms m hm field args hcall
    rw [Tables.method?, Tables.method?, List.find?_append, hnone, Option.or_none]

/-- **Compilation uses only the entries that a tree mentions.** Tables with the same entries for the
operators and methods of a tree compile it to the same document, or reject it with the same kind,
subject and message. So entries appended to tables change nothing for a tree that does not mention
them. -/
theorem compilation_uses_mentioned_entries (e : Expr) :
    (∀ t t' : Tables,
      (∀ token l r, e.Contains (.binary token l r) → t.operator? token = t'.operator? token) →
      (∀ field name args, e.Contains (.call field name args) → t.method? name = t'.method? name) →
      SameOutcome (Query.compileTree t e) (Query.compileTree t' e)) ∧
    ∀ ops ops' ms ms' t t', Tables.new ops ms = .ok t →
      Tables.new (ops ++ ops') (ms ++ ms') = .ok t' →
      (∀ op ∈ ops', ∀ l r, ¬e.Contains (.binary op.token l r)) →
      (∀ m ∈ ms', ∀ field args, ¬e.Contains (.call field m.name args)) →
      SameOutcome (Query.compileTree t e) (Query.compileTree t' e) := by
  refine ⟨?_, ?_⟩
  · intro t t' hoperator hmethod
    exact sameOutcome_compileTree
      ⟨fun hbinary => hoperator _ _ _ hbinary, fun hcall => hmethod _ _ _ hcall⟩
  · intro ops ops' ms ms' t t' ht ht' hops hms
    rw [(Tables.new_eq_ok_iff.1 ht).2, (Tables.new_eq_ok_iff.1 ht').2]
    exact sameOutcome_compileTree (agreeOn_append hops hms)

/-- An operator that is appended to the built-in tables is listed by a failure that does not concern
it, and the failure is the same otherwise. -/
theorem appended_operator_listed :
    let e : Expr := .binary "~" (.identifier "a") .null
    ∃ t' d d', Tables.new (Tables.standard.operators ++ [⟨"=~", "$regex", true⟩])
        (Tables.standard.methods ++ []) = .ok t' ∧
      Query.compileTree .standard e = .error (.rejected d) ∧
      Query.compileTree t' e = .error (.rejected d') ∧
      SameOutcome (Query.compileTree .standard e) (Query.compileTree t' e) ∧
      d'.supported = d.supported ++ ["=~"] := by
  intro e
  have hfail {t : Tables} (h : t.operator? "~" = none) : Query.compileTree t e =
      .error (.rejected (Cause.unknownOperator "~" t.supportedOperators).diagnostic) := by
    rw [Query.compileTree, Expr.toDocument.eq_2 _ _ Expr.noConfusion, compile_binary (by decide),
      Expr.compile, Expr.compile, ok_bind, ok_bind, Compile.binary, lookupOperator, h]
    rfl
  have hnone (l r : Expr) : ¬e.Contains (.binary "=~" l r) := by
    have hnodes : ∀ x, e.Contains x → x ≠ .binary "=~" l r := by
      refine Expr.forall_contains_iff.2 ⟨by simp [e], ?_⟩
      simp only [e, Expr.children, List.forall_mem_cons]
      refine ⟨Expr.forall_contains_iff.2 ?_, Expr.forall_contains_iff.2 ?_, ?_⟩ <;>
        simp [Expr.children]
    exact fun h => hnodes _ h rfl
  refine ⟨_, _, _, rfl, hfail (by decide), hfail (by decide), ?_, by decide⟩
  exact (compilation_uses_mentioned_entries e).2 _ [⟨"=~", "$regex", true⟩] _ [] _ _
    Tables.new_standard rfl (by simpa using hnone) (by simp)

end DocQuery
