import DocQuery.Proofs.TableChecks

/-!
# DocQuery.Proofs.MethodOperands

**What a method call compiles to.** A call is a filter with one field, and under it the operand that
the method makes of its arguments. `Method.Keeps` says, shape by shape, which operand has every
argument that the shape uses: each under a key of its own, in the order of the arguments.

A method of the shape `two` has a key for its first argument and one for its second, and nothing that
tables are checked for keeps the two apart. Where they are one key, the second argument replaces the
first. This is the only exception (`methodOperand_eq_ok_iff`), and `call_keeps_arguments` says what it
means for calls.
-/

namespace DocQuery

open Compile

variable {t : Tables}

/-! ### Operands -/

/-- An operand that has the arguments of a method: all of them in one array; the first one, or true
when there is none; the first one and, when there is a second, that one behind it under the option;
the one condition as a whole. -/
def Method.Keeps (m : Method) (args : List Fragment) (operand : Document) : Prop :=
  match m.shape with
  | .array => ∃ vs, args = vs.map .literal ∧ operand = [(m.target, .array vs)]
  | .single =>
    args = [] ∧ operand = [(m.target, .bool true)] ∨
      ∃ v rest, args = .literal v :: rest ∧ operand = [(m.target, v)]
  | .two =>
    (∃ v, args = [.literal v] ∧ operand = [(m.target, v)]) ∨
      ∃ v w rest, args = .literal v :: .literal w :: rest ∧
        operand = [(m.target, v), (m.option, w)]
  | .expr => ∃ d, args = [.condition d] ∧ operand = [(m.target, .document d)]
  | .other _ => False

/-- A method that puts the first two of its arguments under one key. -/
def Method.Overwrites (m : Method) (args : List Fragment) : Prop :=
  m.shape = .two ∧ m.option = m.target ∧ 2 ≤ args.length

/-- An operand that has the second argument of a method in place of the first. -/
def Method.LosesFirst (m : Method) (args : List Fragment) (operand : Document) : Prop :=
  ∃ v w rest, args = .literal v :: .literal w :: rest ∧ operand = [(m.target, w)]

theorem set_option_eq (m : Method) (v w : Value) :
    Document.set m.option w [(m.target, v)] =
      if m.option = m.target then [(m.target, w)] else [(m.target, v), (m.option, w)] := by
  rw [Document.set, Document.set]
  by_cases h : m.option = m.target
  · rw [if_pos h.symm, if_pos h]
  · rw [if_neg (Ne.symm h), if_neg h]

/-- **A method keeps its arguments**, unless it puts two of them under one key. -/
theorem methodOperand_eq_ok_iff {m : Method} {args : List Fragment} {operand : Document} :
    methodOperand m args = .ok operand ↔
      m.Overwrites args ∧ m.LosesFirst args operand ∨
        ¬ m.Overwrites args ∧ m.Keeps args operand := by
  unfold methodOperand Method.Overwrites Method.LosesFirst Method.Keeps
  cases m.shape with
  | array => simp [bind_eq_ok_iff, asValues_eq_ok_iff, eq_comm (a := operand)]
  | single => cases args <;> simp [bind_eq_ok_iff, asValue_eq_ok_iff, eq_comm (a := operand)]
  | two =>
      match args with
      | [] => simp
      | [f] => simp [bind_eq_ok_iff, asValue_eq_ok_iff, eq_comm (a := operand)]
      | f :: g :: rest =>
          -- the only case that sets a key behind another one
          simp only [bind_eq_ok_iff, asValue_eq_ok_iff, set_option_eq, Except.ok.injEq]
          by_cases hkey : m.option = m.target
          · simp [hkey, eq_comm (a := operand), and_assoc]
          · simp [hkey, eq_comm (a := operand), and_assoc]
  | expr =>
      match args with
      | [] => simp
      | [f] => cases f <;> simp [eq_comm (a := operand)]
      | f :: g :: rest => cases f <;> simp
  | other code => simp

/-- An operand that has lost an argument has not kept both. -/
theorem not_keeps_of_losesFirst {m : Method} {args : List Fragment} {operand : Document}
    (hshape : m.shape = .two) (h : m.LosesFirst args operand) : ¬ m.Keeps args operand := by
  obtain ⟨v, w, rest, rfl, rfl⟩ := h
  unfold Method.Keeps
  rw [hshape]
  rintro (⟨_, h, -⟩ | ⟨_, _, _, -, h⟩)
  · cases h
  · cases h

/-! ### Calls -/

/-- A call of a method of checked tables compiles to one field with the operand of the method. -/
theorem compile_call_eq_ok {ops : List Operator} {ms : List Method} (ht : Tables.new ops ms = .ok t)
    {m : Method} (hm : m ∈ t.methods) {field : Expr} {args : List Expr} {f : Fragment}
    (h : (Expr.call field m.name args).compile t = .ok f) :
    ∃ path fs operand, field.compile t = .ok (.field path) ∧
      List.Forall₂ (fun e f => e.compile t = .ok f) args fs ∧
      methodOperand m fs = .ok operand ∧ f = .condition [(path, .document operand)] := by
  rw [Expr.compile, bind_eq_ok_iff] at h
  obtain ⟨base, hbase, h⟩ := h
  rw [bind_eq_ok_iff] at h
  obtain ⟨fs, hfs, h⟩ := h
  rw [Compile.call, Tables.method?_of_mem ht hm] at h
  cases base with
  | field path =>
      simp only [bind_eq_ok_iff, Except.ok.injEq] at h
      obtain ⟨operand, hoperand, rfl⟩ := h
      exact ⟨path, fs, operand, hbase, compileAll_eq_ok_iff.1 hfs, hoperand, rfl⟩
  | literal v => cases h
  | condition d => cases h
  | update u => cases h

/-- **Calls keep their arguments.** A call of a method of checked tables that compiles is a filter of
one field, with the operand of the method under it. The operand has the arguments that the method
uses, in order and under the keys of the method, exactly when the method does not put two of them
under one key; if it does, the second argument stands in the place of the first. -/
theorem call_keeps_arguments {ops : List Operator} {ms : List Method}
    (ht : Tables.new ops ms = .ok t) {m : Method} (hm : m ∈ t.methods) {field : Expr}
    {args : List Expr} {d : Document}
    (hd : Query.compileTree t (.call field m.name args) = .ok d) :
    ∃ path fs operand, field.compile t = .ok (.field path) ∧
      List.Forall₂ (fun e f => e.compile t = .ok f) args fs ∧ d = [(path, .document operand)] ∧
      (m.Keeps fs operand ↔ ¬ m.Overwrites fs) ∧
      (m.Overwrites fs → m.LosesFirst fs operand) := by
  obtain ⟨f, hf, hfilter⟩ : ∃ f, (Expr.call field m.name args).compile t = .ok f ∧
      (f = .condition d ∨ ∃ u, f = .update u) := by
    rcases compileTree_eq_ok_iff.1 hd with h | ⟨u, h, -⟩
    · exact ⟨_, h, Or.inl rfl⟩
    · exact ⟨_, h, Or.inr ⟨u, rfl⟩⟩
  obtain ⟨path, fs, operand, hfield, hargs, hoperand, rfl⟩ := compile_call_eq_ok ht hm hf
  have hdocument : d = [(path, .document operand)] := by
    rcases hfilter with h | ⟨u, h⟩
    · exact (Fragment.condition.inj h).symm
    · cases h
  refine ⟨path, fs, operand, hfield, hargs, hdocument, ?_⟩
  rcases methodOperand_eq_ok_iff.1 hoperand with ⟨hover, hlost⟩ | ⟨hover, hkept⟩
  · have hnot := not_keeps_of_losesFirst hover.1 hlost
    exact ⟨⟨fun h => absurd h hnot, fun h => absurd hover h⟩, fun _ => hlost⟩
  · exact ⟨⟨fun _ => hover, fun _ => hkept⟩, fun h => absurd h hover⟩

/-- Checked tables may give a method one key for two arguments: `a.near(1, 2)` with a method `near`
whose target and option are both `$near` has the second argument only. -/
theorem near_loses_first_argument :
    let near : Method := ⟨"near", "$near", .two, "$near"⟩
    let call : Expr := .call (.identifier "a") "near" [.number "1", .number "2"]
    ∃ t, Tables.new [] [near] = .ok t ∧
      Query.compileTree t call = .ok [("a", .document [("$near", .number "2")])] ∧
      near.Overwrites [.literal (.number "1"), .literal (.number "2")] ∧
      ¬ near.Keeps [.literal (.number "1"), .literal (.number "2")] [("$near", .number "2")] := by
  intro near call
  have ht : Tables.new [] [near] = .ok ⟨[], [near]⟩ := by decide
  have hd : Query.compileTree ⟨[], [near]⟩ call =
      .ok [("a", .document [("$near", .number "2")])] := by cbv
  have hover : near.Overwrites [.literal (.number "1"), .literal (.number "2")] :=
    ⟨rfl, rfl, Nat.le_refl 2⟩
  refine ⟨_, ht, hd, hover, ?_⟩
  obtain ⟨path, fs, operand, -, hargs, hdocument, hkeeps, -⟩ :=
    call_keeps_arguments (m := near) ht (List.mem_singleton_self near) hd
  have hfs : fs = [.literal (.number "1"), .literal (.number "2")] := by
    have hall : compileAll ⟨[], [near]⟩ [.number "1", .number "2"] =
        .ok [.literal (.number "1"), .literal (.number "2")] := by cbv
    rw [← compileAll_eq_ok_iff, hall] at hargs
    exact (Except.ok.inj hargs).symm
  cases hdocument
  rw [← hfs]
  exact fun h => hkeeps.1 h (hfs ▸ hover)

end DocQuery
