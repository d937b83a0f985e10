import DocQuery.Proofs.Acceptance
import DocQuery.Proofs.Subtrees
import DocQuery.Proofs.TableChecks

/-!
# DocQuery.Proofs.Blame

**What a failed compilation blames is there.** `Faulty t x kind subject supported` says of one node
what is wrong with it under the tables `t`, by which kind of failure it is reported, what the report
names and which alternatives it lists. It speaks about trees and tables only: what a part of the
node stands for is said by the grammar of `Derives`.

Every failure has such a node (`exists_faulty_of_compile`): the rules of the compiler are gone
through one by one, each with the roles of its parts, and a comma chain is a run in which the writes
before the failing member are known (`failed_member`). Two failures are about the whole tree
instead: there is none, or it stands for a field or a value.
-/

namespace DocQuery

open Compile

/-! ### What can be wrong with a node -/

/-- Whether a role is that of a field. -/
def Role.isField : Role → Bool
  | .field _ => true
  | _ => false

/-- Whether a prefix operator applies to what has a role: the sign to numbers, others to fields. -/
def UnaryOp.takes : UnaryOp → Role → Bool
  | .negate, role => role = .value true
  | .other _, _ => false
  | _, role => role.isField

/-- Whether a comparison can be made between what has two roles: a field and a value. -/
def Role.comparable (l r : Role) : Bool := l.isField && r.isValue || l.isValue && r.isField

/-- Whether a method of a shape refuses a number of arguments, whatever they are. -/
def Shape.refusesCount : Shape → Nat → Bool
  | .two, count => count = 0
  | .expr, count => count ≠ 1
  | _, _ => false

/-- The arguments that a method of a shape wants to be values. -/
def Shape.valueArgs : Shape → List Expr → List Expr
  | .array, args => args
  | .single, args => args.take 1
  | .two, args => args.take 2
  | _, _ => []

/-- What a member of a comma chain is called: a prefix operator by its token, anything else by its
kind. -/
def Expr.memberName : Expr → String
  | .unary op _ => op.token
  | e => e.kind.name

/-- A member of a comma chain writes to the field with a path. -/
def Expr.WritesTo (t : Tables) (path : String) (leaf : Expr) : Prop :=
  ∃ target, leaf.writeTarget? = some target ∧ Derives t (.field path) target

/-- What is wrong with a node, the kind of failure that reports it, what the report names, and the
alternatives it lists. -/
inductive Faulty (t : Tables) : Expr → ErrorKind → String → List String → Prop where
  /-- A node that is missing. -/
  | missing : Faulty t .hole .nodeKind Kind.invalid.name []
  /-- A call without a callee. -/
  | detachedCall {args : List Expr} : Faulty t (.detachedCall args) .nodeKind Kind.call.name []
  /-- A prefix operator that is none of the four. -/
  | unknownUnary {code : Int} {operand : Expr} :
      Faulty t (.unary (.other code) operand) .nodeKind Kind.unary.name []
  /-- A program of several statements. -/
  | severalStatements {body : List Expr} (h : 2 ≤ body.length) :
      Faulty t (.program body) .nodeKind Kind.program.name []
  /-- A program without statements. -/
  | noStatement : Faulty t (.program []) .emptyExpression Kind.program.name []
  /-- An operator that the tables lack or do not allow. -/
  | operator {token : String} {l r : Expr} (h : ∀ op, ¬t.Allows token op) :
      Faulty t (.binary token l r) .operator token t.supportedOperators
  /-- A method that the tables lack. -/
  | unknownMethod {name : String} {field : Expr} {args : List Expr} (h : t.method? name = none) :
      Faulty t (.call field name args) .method name t.methodSignatures
  /-- A method called with a number of arguments that its shape refuses. -/
  | wrongArity {m : Method} {field : Expr} {args : List Expr} (hm : t.method? m.name = some m)
      (h : m.shape.refusesCount args.length = true) :
      Faulty t (.call field m.name args) .method m.name [m.signature]
  /-- An assignment operator other than the two. -/
  | assignmentOperator {op : String} {target value : Expr} (hset : op ≠ "=") (hadd : op ≠ "+=") :
      Faulty t (.assign op target value) .assignmentOperator op ["=", "+="]
  /-- A prefix operator on something that it does not apply to. -/
  | unaryForm {op : UnaryOp} {operand : Expr} {role : Role} (hop : op ∈ UnaryOp.all)
      (hrole : Derives t role operand) (h : op.takes role = false) :
      Faulty t (.unary op operand) .unaryForm op.token []
  /-- A comma chain with a member that is no removal, increment or assignment. -/
  | chainMember {l r leaf : Expr} (hleaf : leaf ∈ Expr.sequenceLeaves (.sequence l r))
      (h : leaf.isWrite = false) : Faulty t (.sequence l r) .sequenceMember leaf.memberName []
  /-- A comma chain with two members that write to one field. -/
  | conflict {l r earlier later : Expr} {path : String}
      (h : [earlier, later].Sublist (Expr.sequenceLeaves (.sequence l r)))
      (hearlier : earlier.WritesTo t path) (hlater : later.WritesTo t path) :
      Faulty t (.sequence l r) .sequenceMember path []
  /-- A number literal that is no number. -/
  | number {literal : String} (h : ¬Json.NumberText literal.toList) :
      Faulty t (.number literal) .operand Kind.number.name []
  /-- A property of something that is no field. -/
  | member {base : Expr} {property : String} {role : Role} (hrole : Derives t role base)
      (h : role.isField = false) : Faulty t (.member base property) .operand Kind.member.name []
  /-- A conjunction with an operand that is no condition. -/
  | conjunct {op : Operator} {l r leaf : Expr} {role : Role} (hop : t.Allows "&&" op)
      (hleaf : leaf ∈ Expr.andLeaves (.binary "&&" l r)) (hrole : Derives t role leaf)
      (h : role ≠ .condition) : Faulty t (.binary "&&" l r) .operand "&&" []
  /-- Another logical operator on something that is no condition. -/
  | logical {token : String} {op : Operator} {l r side : Expr} {role : Role}
      (hop : t.Allows token op) (hlogical : op.isLogical = true) (hside : side = l ∨ side = r)
      (hrole : Derives t role side) (h : role ≠ .condition) :
      Faulty t (.binary token l r) .operand token []
  /-- A comparison that is not between a field and a value. -/
  | comparison {token : String} {op : Operator} {l r : Expr} {left right : Role}
      (hop : t.Allows token op) (hlogical : op.isLogical = false) (hl : Derives t left l)
      (hr : Derives t right r) (h : left.comparable right = false) :
      Faulty t (.binary token l r) .operand token []
  /-- An array with an element that is no value. -/
  | element {elements : List Expr} {element : Expr} {role : Role} (hmem : element ∈ elements)
      (hrole : Derives t role element) (h : role.isValue = false) :
      Faulty t (.array elements) .operand Kind.array.name []
  /-- A method called on something that is no field. -/
  | receiver {name : String} {m : Method} {field : Expr} {args : List Expr} {role : Role}
      (hm : t.method? name = some m) (hrole : Derives t role field) (h : role.isField = false) :
      Faulty t (.call field name args) .operand name []
  /-- An argument that should be a value and is none. -/
  | argument {m : Method} {field arg : Expr} {args : List Expr} {role : Role}
      (hm : t.method? m.name = some m) (hmem : arg ∈ m.shape.valueArgs args)
      (hrole : Derives t role arg) (h : role.isValue = false) :
      Faulty t (.call field m.name args) .operand (m.name ++ "()") []
  /-- The only argument, which should be a condition and is none. -/
  | conditionArgument {m : Method} {field arg : Expr} {role : Role}
      (hm : t.method? m.name = some m) (hshape : m.shape = .expr) (hrole : Derives t role arg)
      (h : role ≠ .condition) : Faulty t (.call field m.name [arg]) .operand m.name []
  /-- An assignment to something that is no field. -/
  | target {op : String} {target value : Expr} {role : Role} (hop : op = "=" ∨ op = "+=")
      (hrole : Derives t role target) (h : role.isField = false) :
      Faulty t (.assign op target value) .operand op []
  /-- An assignment of something that is no value, or an increment by no number. -/
  | assigned {op : String} {target value : Expr} {role : Role} (hop : op = "=" ∨ op = "+=")
      (hrole : Derives t role value) (h : role.isValue = false ∨ op = "+=" ∧ role ≠ .value true) :
      Faulty t (.assign op target value) .operand op []

variable {t : Tables} {c : Cause}

/-- A cause has a kind and a subject and lists alternatives. -/
structure Cause.Reports (c : Cause) (kind : ErrorKind) (subject : String)
    (supported : List String) : Prop where
  /-- The kind. -/
  kind : c.kind = kind
  /-- The subject. -/
  subject : c.subject = subject
  /-- The alternatives. -/
  supported : c.supported = supported

theorem Faulty.of_reports {x : Expr} {kind : ErrorKind} {subject : String} {supported : List String}
    (h : Faulty t x kind subject supported) (hc : c.Reports kind subject supported) :
    Faulty t x c.kind c.subject c.supported := by
  rw [hc.kind, hc.subject, hc.supported]
  exact h

/-! ### The rules of the compiler, where they fail -/

theorem faulty_of_program {body : List Expr} {fs : List Fragment}
    (hbody : List.Forall₂ (fun e f => e.compile t = .ok f) body fs)
    (h : Compile.program fs = .error c) :
    Faulty t (.program body) c.kind c.subject c.supported := by
  match body, fs, hbody with
  | [], [], _ =>
      cases h
      exact .noStatement
  | [_], [_], _ => cases h
  | _ :: _ :: _, _ :: _ :: _, _ =>
      cases h
      exact .severalStatements (by simp)

theorem faulty_of_member {base : Expr} {property : String} {f : Fragment}
    (hbase : base.compile t = .ok f) (h : Compile.member property f = .error c) :
    Faulty t (.member base property) c.kind c.subject c.supported := by
  have hrole := derives_of_compile hbase
  cases f <;> cases h <;> exact .member hrole rfl

/-- An operator that cannot be looked up is lacking or not allowed. -/
theorem faulty_of_lookupOperator {token : String} (l r : Expr)
    (h : lookupOperator t token = .error c) :
    Faulty t (.binary token l r) c.kind c.subject c.supported := by
  have hnone : ∀ op, ¬t.Allows token op := by
    intro op hop
    rw [lookupOperator_eq_ok_iff.2 hop] at h
    cases h
  unfold lookupOperator at h
  split at h
  · cases h
    exact .operator hnone
  · split at h
    · cases h
    · cases h
      exact .operator hnone

theorem asCondition_eq_error {token : String} {f : Fragment} (h : asCondition token f = .error c) :
    f.role ≠ .condition ∧ c.Reports .operand token [] := by
  cases f <;> cases h <;> exact ⟨by simp [Fragment.role], rfl, rfl, rfl⟩

theorem asValue_eq_error {subject : String} {i : Nat} {f : Fragment}
    (h : asValue subject i f = .error c) :
    f.role.isValue = false ∧ c.Reports .operand subject [] := by
  cases f <;> cases h <;> exact ⟨rfl, rfl, rfl, rfl⟩

/-- Fragments that are not all values have one that is none. -/
theorem asValues_eq_error {subject : String} {i : Nat} {fs : List Fragment}
    (h : asValues subject i fs = .error c) :
    ∃ f ∈ fs, f.role.isValue = false ∧ c.Reports .operand subject [] := by
  induction fs generalizing i with
  | nil => cases h
  | cons f rest ih =>
      simp only [asValues, bind_eq_error_iff] at h
      rcases h with hf | ⟨v, -, hrest | ⟨_, -, h⟩⟩
      · exact ⟨f, List.mem_cons_self .., asValue_eq_error hf⟩
      · obtain ⟨g, hmem, hg⟩ := ih hrest
        exact ⟨g, List.mem_cons_of_mem _ hmem, hg⟩
      · cases h

theorem comparison_eq_error {token target : String} {l r : Fragment}
    (h : comparison token target l r = .error c) :
    l.role.comparable r.role = false ∧ c.Reports .operand token [] := by
  cases l <;> cases r <;> cases h <;> exact ⟨rfl, rfl, rfl, rfl⟩

theorem faulty_of_binary {token : String} {l r : Expr} {f g : Fragment}
    (hl : l.compile t = .ok f) (hr : r.compile t = .ok g)
    (h : Compile.binary t token f g = .error c) :
    Faulty t (.binary token l r) c.kind c.subject c.supported := by
  rw [Compile.binary, bind_eq_error_iff] at h
  rcases h with hop | ⟨op, hop, h⟩
  · exact faulty_of_lookupOperator l r hop
  · rw [lookupOperator_eq_ok_iff] at hop
    cases hlogical : op.isLogical with
    | true =>
        have hlogical' := hlogical
        rw [Operator.isLogical] at hlogical'
        rw [if_pos hlogical', bind_eq_error_iff] at h
        rcases h with h | ⟨d, -, h⟩
        · obtain ⟨hwrong, hc⟩ := asCondition_eq_error h
          exact .of_reports (.logical hop hlogical (Or.inl rfl) (derives_of_compile hl) hwrong) hc
        · rw [bind_eq_error_iff] at h
          rcases h with h | ⟨_, -, h⟩
          · obtain ⟨hwrong, hc⟩ := asCondition_eq_error h
            exact .of_reports (.logical hop hlogical (Or.inr rfl) (derives_of_compile hr) hwrong) hc
          · cases h
    | false =>
        have hlogical' := hlogical
        rw [Operator.isLogical] at hlogical'
        rw [if_neg (by rw [hlogical']; exact Bool.false_ne_true)] at h
        obtain ⟨hwrong, hc⟩ := comparison_eq_error h
        refine .of_reports (.comparison hop hlogical ?_ ?_ hwrong) hc
        · exact derives_of_compile hl
        · exact derives_of_compile hr

theorem faulty_of_unary {op : UnaryOp} {operand : Expr} {f : Fragment}
    (hoperand : operand.compile t = .ok f) (h : Compile.unary op f = .error c) :
    Faulty t (.unary op operand) c.kind c.subject c.supported := by
  have hrole := derives_of_compile hoperand
  cases op with
  | negate =>
      cases f with
      | literal v => cases v <;> cases h <;> exact .unaryForm (by decide) hrole rfl
      | _ => cases h; exact .unaryForm (by decide) hrole rfl
  | other code => cases h; exact .unknownUnary
  | _ => cases f <;> cases h <;> exact .unaryForm (by decide) hrole rfl

theorem faulty_of_assign {op : String} {target value : Expr} {f g : Fragment}
    (htarget : target.compile t = .ok f) (hvalue : value.compile t = .ok g)
    (h : Compile.assign op f g = .error c) :
    Faulty t (.assign op target value) c.kind c.subject c.supported := by
  rw [Compile.assign, bind_eq_error_iff] at h
  rcases h with hgroup | ⟨group, hgroup, h⟩
  · unfold assignGroup at hgroup
    split at hgroup
    · cases hgroup
    · next hset =>
      split at hgroup
      · cases hgroup
      · next hadd =>
        cases hgroup
        exact .assignmentOperator hset hadd
  · have hop : op = "=" ∨ op = "+=" := by
      unfold assignGroup at hgroup
      grind
    cases f with
    | field path =>
        have hrole := derives_of_compile hvalue
        cases g with
        | literal v =>
            dsimp only at h
            split at h
            · next hnumber =>
              simp only [Bool.and_eq_true, decide_eq_true_eq, Bool.not_eq_true'] at hnumber
              cases h
              refine .assigned hop hrole (Or.inr ⟨?_, ?_⟩)
              · refine hop.resolve_left ?_
                rintro rfl
                cases hgroup
                exact absurd hnumber.1 (by decide)
              · simp [Fragment.role, hnumber.2]
            · cases h
        | _ => cases h; exact .assigned hop hrole (Or.inl rfl)
    | _ => cases h; exact .target hop (derives_of_compile htarget) rfl

/-- The arguments of a call that its shape refuses, where the method has a shape. -/
theorem faulty_of_methodOperand {m : Method} (field : Expr) {args : List Expr} {fs : List Fragment}
    (hm : t.method? m.name = some m) (hshape : m.shape.isKnown = true)
    (hargs : List.Forall₂ (fun e f => e.compile t = .ok f) args fs)
    (h : methodOperand m fs = .error c) :
    Faulty t (.call field m.name args) c.kind c.subject c.supported := by
  -- an argument that should be a value and compiles to something else
  have hvalue {arg : Expr} {f : Fragment} (hmem : arg ∈ m.shape.valueArgs args)
      (harg : arg.compile t = .ok f)
      (hf : f.role.isValue = false ∧ c.Reports .operand (m.name ++ "()") []) :
      Faulty t (.call field m.name args) c.kind c.subject c.supported :=
    .of_reports (.argument hm hmem (derives_of_compile harg) hf.1) hf.2
  unfold methodOperand at h
  cases hcase : m.shape with
  | array =>
      simp only [hcase, bind_eq_error_iff] at h
      rcases h with h | ⟨_, -, h⟩
      · obtain ⟨f, hf, hwrong⟩ := asValues_eq_error h
        obtain ⟨arg, hmem, harg⟩ := exists_mem_of_forall₂ hargs hf
        exact hvalue (by rw [hcase]; exact hmem) harg hwrong
      · cases h
  | single =>
      cases hargs with
      | nil => rw [hcase] at h; cases h
      | cons hfirst _ =>
          simp only [hcase, bind_eq_error_iff] at h
          rcases h with h | ⟨_, -, h⟩
          · exact hvalue (by rw [hcase]; simp [Shape.valueArgs]) hfirst (asValue_eq_error h)
          · cases h
  | two =>
      cases hargs with
      | nil =>
          rw [hcase] at h
          cases h
          exact .wrongArity hm (by rw [hcase]; rfl)
      | cons hfirst hrest =>
          cases hrest with
          | nil =>
              simp only [hcase, bind_eq_error_iff] at h
              rcases h with h | ⟨_, -, h⟩
              · exact hvalue (by rw [hcase]; simp [Shape.valueArgs]) hfirst (asValue_eq_error h)
              · cases h
          | cons hsecond _ =>
              simp only [hcase, bind_eq_error_iff] at h
              rcases h with h | ⟨_, -, h | ⟨_, -, h⟩⟩
              · exact hvalue (by rw [hcase]; simp [Shape.valueArgs]) hfirst (asValue_eq_error h)
              · exact hvalue (by rw [hcase]; simp [Shape.valueArgs]) hsecond (asValue_eq_error h)
              · cases h
  | expr =>
      cases hargs with
      | nil =>
          rw [hcase] at h
          cases h
          exact .wrongArity hm (by rw [hcase]; rfl)
      | @cons arg f _ _ harg hrest =>
          cases hrest with
          | nil =>
              rw [hcase] at h
              have hrole := derives_of_compile harg
              cases f <;> cases h <;>
                exact .conditionArgument hm hcase hrole (by simp [Fragment.role])
          | cons _ _ =>
              rw [hcase] at h
              cases f <;> cases h <;>
                exact .wrongArity hm (by rw [hcase]; simp [Shape.refusesCount])
  | other code => rw [hcase] at hshape; cases hshape

/-- Whether all methods of tables have shapes. -/
def Tables.HasShapes (t : Tables) : Prop := ∀ m ∈ t.methods, m.shape.isKnown = true

theorem faulty_of_call (ht : t.HasShapes) {name : String} {field : Expr} {args : List Expr}
    {f : Fragment} {fs : List Fragment} (hfield : field.compile t = .ok f)
    (hargs : List.Forall₂ (fun e f => e.compile t = .ok f) args fs)
    (h : Compile.call t name f fs = .error c) :
    Faulty t (.call field name args) c.kind c.subject c.supported := by
  unfold Compile.call at h
  cases hm : t.method? name with
  | none =>
      rw [hm] at h
      cases h
      exact .unknownMethod hm
  | some m =>
      have hname : m.name = name := by simpa using List.find?_some hm
      have hshape := ht m (List.mem_of_find?_eq_some hm)
      subst hname
      rw [hm] at h
      cases f with
      | field path =>
          simp only [bind_eq_error_iff] at h
          rcases h with h | ⟨_, -, h⟩
          · exact faulty_of_methodOperand field hm hshape hargs h
          · cases h
      | _ => cases h; exact .receiver hm (derives_of_compile hfield) rfl

/-! ### Comma chains -/

theorem checkSequenceMember_eq_error {leaf : Expr} (h : checkSequenceMember leaf = .error c) :
    leaf.isWrite = false ∧ c.Reports .sequenceMember leaf.memberName [] := by
  cases leaf with
  | unary op operand => cases op <;> cases h <;> exact ⟨rfl, rfl, rfl, rfl⟩
  | assign op target value => cases h
  | _ => cases h; exact ⟨rfl, rfl, rfl, rfl⟩

/-- A removal, an increment or an assignment that compiles writes to the field of its write. -/
theorem writesTo_of_compile {leaf : Expr} {w : Write} (hwrite : leaf.isWrite = true)
    (h : leaf.compile t = .ok (.update w.toUpdate)) : leaf.WritesTo t w.field := by
  obtain ⟨target, htarget⟩ := Option.isSome_iff_exists.1 hwrite
  obtain ⟨w', hw', hfield⟩ := write_of_compile htarget h
  obtain rfl := Write.toUpdate_inj.1 (Fragment.update.inj hw')
  exact ⟨target, htarget, derives_of_compile hfield⟩

/-- A run over members that fails stops at a member that is not allowed or does not compile, or at
one that writes to the field of an earlier one. The induction is on the members still to come; of
those done, the builder holds the writes. -/
theorem failed_member {b : UpdateBuilder} {done rest : List Expr} {ws : List Write}
    (hb : b.Holds ws)
    (hdone : List.Forall₂ (fun leaf w => leaf.isWrite = true ∧
      leaf.compile t = .ok (.update w.toUpdate)) done ws)
    (h : rest.foldlM (addLeaf t) b = .error c) :
    (∃ leaf ∈ rest, checkSequenceMember leaf = .error c ∨ leaf.compile t = .error c) ∨
      ∃ earlier later path, [earlier, later].Sublist (done ++ rest) ∧ earlier.WritesTo t path ∧
        later.WritesTo t path ∧ c.Reports .sequenceMember path [] := by
  induction rest generalizing b done ws with
  | nil => cases h
  | cons leaf rest ih =>
      rw [List.foldlM_cons] at h
      cases hcheck : checkSequenceMember leaf with
      | error c' =>
          rw [addLeaf, hcheck] at h
          cases h
          exact Or.inl ⟨leaf, List.mem_cons_self .., Or.inl hcheck⟩
      | ok _ =>
          have hwrite := checkSequenceMember_eq_ok_iff.1 hcheck
          cases hcompile : leaf.compile t with
          | error c' =>
              rw [addLeaf, hcheck, ok_bind, hcompile] at h
              cases h
              exact Or.inl ⟨leaf, List.mem_cons_self .., Or.inr hcompile⟩
          | ok f =>
              obtain ⟨target, htarget⟩ := Option.isSome_iff_exists.1 hwrite
              obtain ⟨w, rfl, -⟩ := write_of_compile htarget hcompile
              rw [addLeaf_eq_writeOne hwrite hcompile] at h
              by_cases hw : w.field ∈ ws.map (·.field)
              · -- the field is known, so an earlier member has written to it
                obtain ⟨v, hv, hfield⟩ := List.mem_map.1 hw
                rw [hb.write_again hv hfield] at h
                cases h
                obtain ⟨earlier, hmem, hwrite', hcompile'⟩ := exists_mem_of_forall₂ hdone hv
                refine Or.inr ⟨earlier, leaf, w.field, ?_, ?_, ?_, rfl, rfl, rfl⟩
                · exact (List.singleton_sublist.2 hmem).append
                    (List.singleton_sublist.2 (List.mem_cons_self ..))
                · rw [← hfield]
                  exact writesTo_of_compile hwrite' hcompile'
                · exact writesTo_of_compile hwrite hcompile
              · -- the field is new, and the member joins those done
                obtain ⟨b', hb', hholds⟩ := hb.write_new hw
                rw [hb', ok_bind] at h
                have hdone' := List.rel_append hdone (.cons ⟨hwrite, hcompile⟩ .nil)
                rcases ih hholds hdone' h with ⟨bad, hmem, hbad⟩ | hconflict
                · exact Or.inl ⟨bad, List.mem_cons_of_mem _ hmem, hbad⟩
                · rw [List.append_assoc] at hconflict
                  exact Or.inr hconflict

/-! ### Whole trees -/

/-- **Every failure has a faulty node.** -/
theorem exists_faulty_of_compile (ht : t.HasShapes) {e : Expr} (h : e.compile t = .error c) :
    ∃ x, e.Contains x ∧ Faulty t x c.kind c.subject c.supported := by
  -- where a part fails, the node is in the part; parts are children and leaves of chains
  have smaller {p : Expr} (hp : e.Contains p) (hlt : sizeOf p < sizeOf e)
      (hc : p.compile t = .error c) :
      ∃ x, e.Contains x ∧ Faulty t x c.kind c.subject c.supported := by
    obtain ⟨x, hx, hfaulty⟩ := exists_faulty_of_compile ht hc
    exact ⟨x, hp.trans hx, hfaulty⟩
  have child {p : Expr} (hp : p ∈ e.children) (hc : p.compile t = .error c) :
      ∃ x, e.Contains x ∧ Faulty t x c.kind c.subject c.supported :=
    smaller (.of_child hp) (Expr.sizeOf_lt_of_mem_children hp) hc
  have all {ps : List Expr} (hps : ∀ p ∈ ps, p ∈ e.children) (hc : compileAll t ps = .error c) :
      ∃ x, e.Contains x ∧ Faulty t x c.kind c.subject c.supported := by
    rw [compileAll_eq_mapM] at hc
    obtain ⟨p, hp, hc⟩ := exists_error_of_mapM hc
    exact child (hps p hp) hc
  cases e with
  | hole =>
      rw [Expr.compile] at h
      cases h
      exact ⟨_, .root, .missing⟩
  | program body =>
      rw [Expr.compile, bind_eq_error_iff] at h
      rcases h with h | ⟨fs, hfs, h⟩
      · exact all (fun _ hp => hp) h
      · exact ⟨_, .root, faulty_of_program (compileAll_eq_ok_iff.1 hfs) h⟩
  | statement inner =>
      rw [Expr.compile] at h
      exact child (List.mem_singleton_self inner) h
  | string value => rw [Expr.compile] at h; cases h
  | number literal =>
      rw [Expr.compile] at h
      split at h
      · cases h
      · next hnumber =>
        cases h
        exact ⟨_, .root, .number fun hn => hnumber ((Json.isNumberChars_iff _).2 hn)⟩
  | bool value => rw [Expr.compile] at h; cases h
  | null => rw [Expr.compile] at h; cases h
  | identifier name => rw [Expr.compile] at h; cases h
  | member base property =>
      rw [Expr.compile, bind_eq_error_iff] at h
      rcases h with h | ⟨f, hf, h⟩
      · exact child (List.mem_singleton_self base) h
      · exact ⟨_, .root, faulty_of_member hf h⟩
  | binary token l r =>
      by_cases htoken : token = Expr.andToken
      · subst htoken
        rw [compile_and, bind_eq_error_iff] at h
        rcases h with h | ⟨op, hop, h⟩
        · exact ⟨_, .root, faulty_of_lookupOperator l r h⟩
        · rw [bind_eq_error_iff] at h
          rcases h with h | ⟨_, -, h⟩
          · obtain ⟨leaf, hleaf, h⟩ := exists_error_of_mapM h
            rw [← Expr.andLeaves_binary] at hleaf
            rw [compileFilter, bind_eq_error_iff] at h
            rcases h with h | ⟨f, hf, h⟩
            · exact smaller (Expr.contains_of_mem_andLeaves hleaf)
                (Expr.sizeOf_lt_of_mem_andLeaves rfl hleaf) h
            · obtain ⟨hwrong, hc⟩ := asCondition_eq_error h
              have hop := lookupOperator_eq_ok_iff.1 hop
              exact ⟨_, .root,
                .of_reports (.conjunct hop hleaf (derives_of_compile hf) hwrong) hc⟩
          · cases h
      · rw [compile_binary htoken, bind_eq_error_iff] at h
        rcases h with h | ⟨f, hf, h⟩
        · exact child (List.mem_cons_self ..) h
        · rw [bind_eq_error_iff] at h
          rcases h with h | ⟨g, hg, h⟩
          · exact child (by simp [Expr.children]) h
          · exact ⟨_, .root, faulty_of_binary hf hg h⟩
  | unary op operand =>
      rw [Expr.compile, bind_eq_error_iff] at h
      rcases h with h | ⟨f, hf, h⟩
      · exact child (List.mem_singleton_self operand) h
      · exact ⟨_, .root, faulty_of_unary hf h⟩
  | array elements =>
      rw [Expr.compile, bind_eq_error_iff] at h
      rcases h with h | ⟨fs, hfs, h⟩
      · exact all (fun _ hp => hp) h
      · rw [bind_eq_error_iff] at h
        rcases h with h | ⟨_, -, h⟩
        · obtain ⟨f, hf, hwrong, hc⟩ := asValues_eq_error h
          obtain ⟨element, hmem, helement⟩ :=
            exists_mem_of_forall₂ (compileAll_eq_ok_iff.1 hfs) hf
          exact ⟨_, .root, .of_reports (.element hmem (derives_of_compile helement) hwrong) hc⟩
        · cases h
  | call field name args =>
      rw [Expr.compile, bind_eq_error_iff] at h
      rcases h with h | ⟨f, hf, h⟩
      · exact child (List.mem_cons_self ..) h
      · rw [bind_eq_error_iff] at h
        rcases h with h | ⟨fs, hfs, h⟩
        · exact all (fun _ hp => List.mem_cons_of_mem _ hp) h
        · exact ⟨_, .root, faulty_of_call ht hf (compileAll_eq_ok_iff.1 hfs) h⟩
  | detachedCall args =>
      rw [Expr.compile] at h
      cases h
      exact ⟨_, .root, .detachedCall⟩
  | assign op target value =>
      rw [Expr.compile, bind_eq_error_iff] at h
      rcases h with h | ⟨f, hf, h⟩
      · exact child (List.mem_cons_self ..) h
      · rw [bind_eq_error_iff] at h
        rcases h with h | ⟨g, hg, h⟩
        · exact child (by simp [Expr.children]) h
        · exact ⟨_, .root, faulty_of_assign hf hg h⟩
  | sequence l r =>
      rw [compile_sequence, bind_eq_error_iff] at h
      rcases h with h | ⟨_, -, h⟩
      · rcases failed_member UpdateBuilder.holds_empty .nil h with ⟨leaf, hleaf, h | h⟩ |
          ⟨earlier, later, path, hsublist, hearlier, hlater, hc⟩
        · obtain ⟨hwrite, hc⟩ := checkSequenceMember_eq_error h
          exact ⟨_, .root, .of_reports (.chainMember hleaf hwrite) hc⟩
        · exact smaller (Expr.contains_of_mem_sequenceLeaves hleaf)
            (Expr.sizeOf_lt_of_mem_sequenceLeaves hleaf) h
        · exact ⟨_, .root, .of_reports (.conflict hsublist hearlier hlater) hc⟩
      · cases h
termination_by sizeOf e

/-- What a rejection of a tree blames: a faulty node, or the whole tree. -/
inductive Blames (t : Tables) (e : Expr) : ErrorKind → String → List String → Prop where
  /-- A node of the tree. -/
  | node {x : Expr} {kind : ErrorKind} {subject : String} {supported : List String}
      (hx : e.Contains x) (h : Faulty t x kind subject supported) :
      Blames t e kind subject supported
  /-- There is no tree. -/
  | empty (h : e = .hole) : Blames t e .emptyExpression Kind.invalid.name []
  /-- The tree stands for a field or a value. -/
  | role {role : Role} (hrole : Derives t role e) (h : role ≠ .condition ∧ role ≠ .update) :
      Blames t e .operand e.kind.name []

theorem blames_of_toDocument (ht : t.HasShapes) {e : Expr} (h : e.toDocument t = .error c) :
    Blames t e c.kind c.subject c.supported := by
  by_cases hole : e = .hole
  · rw [hole] at h
    cases h
    exact .empty hole
  · rw [Expr.toDocument.eq_2 _ _ hole, bind_eq_error_iff] at h
    rcases h with h | ⟨f, hf, h⟩
    · obtain ⟨x, hx, hfaulty⟩ := exists_faulty_of_compile ht h
      exact .node hx hfaulty
    · have hrole := derives_of_compile hf
      cases f <;> cases h <;> exact .role hrole (by simp [Fragment.role])

/-- Methods that are checked have shapes. -/
theorem hasShapes_of_new {ops : List Operator} {ms : List Method} (h : Tables.new ops ms = .ok t) :
    t.HasShapes := by
  obtain ⟨⟨-, hmethods⟩, rfl⟩ := Tables.new_eq_ok_iff.1 h
  intro m hm
  obtain ⟨⟨-, -, hshape, -⟩, -⟩ := hmethods.1 m hm
  exact hshape

theorem Cause.kind_ne_malformedSource (c : Cause) : c.kind ≠ .malformedSource := by
  cases c <;> exact ErrorKind.noConfusion

theorem ErrorKind.code_ne {kind : ErrorKind} (h : kind ≠ .malformedSource) :
    kind.code ≠ "E200" ∧ kind.code ≠ "E208" := by
  cases kind with
  | malformedSource => exact absurd rfl h
  | _ => exact ⟨by decide, by decide⟩

/-- **Failures blame something that is there.** A tree that checked tables reject is rejected with a
code of its own, neither that of an unclassified failure nor that of a malformed source, and with a
diagnostic whose kind, subject and alternatives are those of a fault of the tree. -/
theorem rejection_blames_fault {ops : List Operator} {ms : List Method} {e : Expr}
    {err : QueryError} (ht : Tables.new ops ms = .ok t) (h : Query.compileTree t e = .error err) :
    (ErrorKind.codeOf err.kind ≠ "E200" ∧ ErrorKind.codeOf err.kind ≠ "E208") ∧
      ∃ d kind, err = .rejected d ∧ d.kind = some kind ∧ Blames t e kind d.subject d.supported := by
  unfold Query.compileTree at h
  cases hdocument : e.toDocument t with
  | ok d => rw [hdocument] at h; cases h
  | error c =>
      rw [hdocument] at h
      cases h
      exact ⟨ErrorKind.code_ne c.kind_ne_malformedSource, c.diagnostic, c.kind, rfl, rfl,
        blames_of_toDocument (hasShapes_of_new ht) hdocument⟩

/-- A call deep in a tree that lacks its argument is blamed, with the signature of its method. -/
theorem missing_argument_blamed :
    let e : Expr := .statement (.binary "||" (.call (.identifier "a") "regex" []) .null)
    (∃ d, Query.compileTree .standard e = .error (.rejected d) ∧ d.subject = "regex") ∧
      Blames .standard e .method "regex" ["regex(value, value)"] := by
  intro e
  have h : Query.compileTree .standard e = .error (.rejected (Cause.wrongArity
      ⟨"regex", "$regex", .two, "$options"⟩ "at least one argument").diagnostic) := by
    rw [Query.compileTree, Expr.toDocument.eq_2 _ _ Expr.noConfusion, Expr.compile,
      compile_binary (by decide), Expr.compile, Expr.compile, compileAll, Expr.compile]
    rfl
  obtain ⟨-, d, kind, herr, hkind, hblames⟩ := rejection_blames_fault Tables.new_standard h
  cases herr
  cases hkind
  exact ⟨⟨_, h, rfl⟩, hblames⟩

end DocQuery
