import DocQuery.Script.Convert

/-!
# DocQuery.Proofs.Spelling

The source text of an expression tree. `Expr.lexemes` spells a tree as a list of lexemes and
`Expr.spelling` writes them with one blank between two of them; `Spellable` holds of the trees that
can be spelled.

Design points:

* how tightly an expression binds is a level, from the comma chain (1) up to literals and names
  (15); every place in a tree asks for a level, and an expression of a lower one is put in
  parentheses there (`Expr.lexemesAt`), so that there are no other parentheses;
* the left side of an operator asks for the level of the operator and its right side for the next
  one, since operators group to the left; a comma chain and an assignment group to the right;
* both sides of a comparison ask for more than the level of a comparison.
-/

namespace DocQuery

namespace Script

/-! ## Lexemes -/

/-- A token of a source, by how it is spelled. -/
inductive Lexeme where
  /-- A name or a keyword. -/
  | word (text : String)
  /-- A number literal. -/
  | number (literal : String)
  /-- A string literal, by its value. -/
  | string (value : String)
  /-- Punctuation. -/
  | mark (text : String)
deriving Repr, DecidableEq

/-- Whether a character has to be written as a code inside quotes: a control or a line end. -/
def needsCode (c : Char) : Bool :=
  c.toNat < 0x20 || (0x7f ≤ c.toNat && c.toNat ≤ 0x9f) || Text.isLineEnd c

/-- A character inside quotes. -/
def quoteChar (c : Char) : List Char :=
  if c == '"' || c == '\\' then ['\\', c]
  else if needsCode c then '\\' :: 'u' :: Text.hexDigits 4 c.toNat
  else [c]

namespace Lexeme

/-- The characters of a lexeme. -/
def text : Lexeme → List Char
  | .word text => text.toList
  | .number literal => literal.toList
  | .string value => '"' :: (value.toList.flatMap quoteChar ++ ['"'])
  | .mark text => text.toList

/-- The kind of the token that a lexeme is. -/
def kind : Lexeme → TokenKind
  | .word text => (wordKind? text).getD .identifier
  | .number _ => .number
  | .string _ => .string
  | .mark text => .mark text

/-- What the token that a lexeme is means. -/
def meaning : Lexeme → String
  | .word text => text
  | .number _ => ""
  | .string value => value
  | .mark _ => ""

/-- Lexemes with a blank before each of them. -/
def spaced : List Lexeme → List Char
  | [] => []
  | l :: ls => ' ' :: (l.text ++ spaced ls)

/-- Lexemes with a blank between two of them. -/
def join : List Lexeme → List Char
  | [] => []
  | l :: ls => l.text ++ spaced ls

end Lexeme

/-! ## Levels -/

/-- How tightly a mark binds what stands before it. A closing bracket does not bind at all, and
marks that do not follow an expression bind tightest. -/
def markLevel : String → Nat
  | ")" | "]" => 0
  | "," => 1
  | "=" | "+=" | "-=" | "*=" | "/=" | "%=" | "&=" | "|=" | "^=" => 2
  | "||" => 3
  | "&&" => 4
  | "|" => 5
  | "^" => 6
  | "&" => 7
  | "==" | "!=" | "===" | "!==" => 8
  | "<" | ">" | "<=" | ">=" => 9
  | "<<" | ">>" | ">>>" => 10
  | "+" | "-" => 11
  | "*" | "/" | "%" => 12
  | "." => 14
  | _ => 15

/-- The operators with two operands. -/
def binaryOperators : List String :=
  ["||", "&&", "|", "^", "&", "==", "!=", "===", "!==", "<", ">", "<=", ">=", "<<", ">>", ">>>",
    "+", "-", "*", "/", "%"]

/-- The operators that assign. -/
def assignOperators : List String := ["=", "+=", "-=", "*=", "/=", "%=", "&=", "|=", "^="]

/-- The level of comparisons, which do not group. -/
def comparisonLevel : Nat := 9

/-- The level that the left side of an operator asks for. -/
def leftLevel (op : String) : Nat :=
  if markLevel op = comparisonLevel then comparisonLevel + 1 else markLevel op

/-- Lexemes in parentheses. -/
def parenthesize (ls : List Lexeme) : List Lexeme := .mark "(" :: (ls ++ [.mark ")"])

/-- The lexemes of an expression of the given level in a place that asks for level `p`. -/
def placeAt (p level : Nat) (ls : List Lexeme) : List Lexeme :=
  if level < p then parenthesize ls else ls

/-- The lexeme of a prefix operator. -/
def operatorLexeme (op : UnaryOp) : Lexeme :=
  if op = .delete then .word op.token else .mark op.token

end Script

/-! ## Trees -/

namespace Expr

open Script

/-- How tightly an expression binds. -/
def level : Expr → Nat
  | .sequence _ _ => 1
  | .assign _ _ _ => 2
  | .binary op _ _ => markLevel op
  | .unary _ _ => 13
  | .member _ _ => 14
  | .call _ _ _ => 14
  | _ => 15

mutual

/-- The lexemes of an expression. -/
def lexemes : Expr → List Lexeme
  | .string value => [.string value]
  | .number literal => [.number literal]
  | .bool value => [.word (if value then "true" else "false")]
  | .null => [.word "null"]
  | .identifier name => [.word name]
  | .member base property => placeAt 14 base.level base.lexemes ++ [.mark ".", .word property]
  | .binary op left right =>
    placeAt (leftLevel op) left.level left.lexemes ++
      .mark op :: placeAt (markLevel op + 1) right.level right.lexemes
  | .unary op operand => operatorLexeme op :: placeAt 13 operand.level operand.lexemes
  | .array elements => .mark "[" :: (listLexemes elements ++ [.mark "]"])
  | .call field method args =>
    placeAt 14 field.level field.lexemes ++
      .mark "." :: .word method :: .mark "(" :: (listLexemes args ++ [.mark ")"])
  | .assign op target value =>
    placeAt 14 target.level target.lexemes ++ .mark op :: placeAt 2 value.level value.lexemes
  | .sequence left right =>
    placeAt 2 left.level left.lexemes ++ .mark "," :: placeAt 1 right.level right.lexemes
  | .hole | .program _ | .statement _ | .detachedCall _ => []

/-- The lexemes of items with commas between them. -/
def listLexemes : List Expr → List Lexeme
  | [] => []
  | [e] => placeAt 2 e.level e.lexemes
  | e :: rest => placeAt 2 e.level e.lexemes ++ .mark "," :: listLexemes rest

end

/-- The lexemes of an expression in a place that asks for level `p`. -/
def lexemesAt (p : Nat) (e : Expr) : List Lexeme := placeAt p e.level e.lexemes

/-- The source text of an expression. -/
def spelling (e : Expr) : String := String.ofList (Lexeme.join e.lexemes)

/-- A name, or a property of a field path. -/
def IsFieldPath : Expr → Prop
  | .identifier _ => True
  | .member base _ => base.IsFieldPath
  | _ => False

end Expr

namespace Script

/-- Whether an ASCII character can start a name. -/
def isAsciiStart (c : Char) : Bool := c.isAlpha || c == '$' || c == '_'

/-- Whether an ASCII character can stand inside a name. -/
def isAsciiPart (c : Char) : Bool := c.isAlphanum || c == '$' || c == '_'

/-- Whether a text is a name in ASCII. -/
def isAsciiName (name : String) : Bool :=
  match name.toList with
  | [] => false
  | c :: cs => isAsciiStart c && cs.all isAsciiPart

/-- An expression that can be spelled. Any name will do after a point, but where an expression may
begin it must not be a keyword. -/
inductive Spellable : Expr → Prop where
  /-- A string literal. -/
  | string (value : String) : Spellable (.string value)
  /-- A number literal without a sign. -/
  | number {literal : String} (hnumber : Decimal.isNumber literal = true)
      (hsign : literal.toList.head? ≠ some '-') : Spellable (.number literal)
  /-- A boolean literal. -/
  | bool (value : Bool) : Spellable (.bool value)
  /-- A null literal. -/
  | null : Spellable .null
  /-- A name. -/
  | identifier {name : String} (hname : isAsciiName name = true) (hplain : wordKind? name = none) :
      Spellable (.identifier name)
  /-- A property. -/
  | member {base : Expr} {property : String} (hbase : Spellable base)
      (hname : isAsciiName property = true) : Spellable (.member base property)
  /-- A binary operator. -/
  | binary {op : String} {left right : Expr} (hop : op ∈ binaryOperators) (hleft : Spellable left)
      (hright : Spellable right) : Spellable (.binary op left right)
  /-- A prefix operator other than the increment. -/
  | unary {op : UnaryOp} {operand : Expr} (hop : op ∈ [.negate, .not, .delete])
      (hoperand : Spellable operand) : Spellable (.unary op operand)
  /-- The increment of a field. -/
  | increment {operand : Expr} (hoperand : Spellable operand) (hpath : operand.IsFieldPath) :
      Spellable (.unary .increment operand)
  /-- An array literal. -/
  | array {elements : List Expr} (h : ∀ e ∈ elements, Spellable e) : Spellable (.array elements)
  /-- A method call. -/
  | call {field : Expr} {method : String} {args : List Expr} (hfield : Spellable field)
      (hname : isAsciiName method = true) (hargs : ∀ a ∈ args, Spellable a) :
      Spellable (.call field method args)
  /-- An assignment to a field. -/
  | assign {op : String} {target value : Expr} (hop : op ∈ assignOperators)
      (htarget : Spellable target) (hpath : target.IsFieldPath) (hvalue : Spellable value) :
      Spellable (.assign op target value)
  /-- A comma chain. -/
  | sequence {left right : Expr} (hleft : Spellable left) (hright : Spellable right) :
      Spellable (.sequence left right)

end Script

/-! ## The lexemes of a place -/

namespace Expr

open Script

theorem lexemesAt_of_le {p : Nat} {e : Expr} (h : p ≤ e.level) : e.lexemesAt p = e.lexemes :=
  if_neg (Nat.not_lt.2 h)

theorem lexemesAt_of_lt {p : Nat} {e : Expr} (h : e.level < p) :
    e.lexemesAt p = parenthesize e.lexemes := if_pos h

/-- A place that asks for a little more gets the same lexemes, unless the expression has the very
level that it is asked for. -/
theorem lexemesAt_succ {p : Nat} {e : Expr} (h : e.level ≠ p) :
    e.lexemesAt (p + 1) = e.lexemesAt p := by
  rcases Nat.lt_or_gt_of_ne h with h | h
  · rw [lexemesAt_of_lt h, lexemesAt_of_lt (Nat.lt_succ_of_lt h)]
  · rw [lexemesAt_of_le h, lexemesAt_of_le (Nat.le_of_lt h)]

theorem lexemes_member (base : Expr) (property : String) :
    (member base property).lexemes = base.lexemesAt 14 ++ [.mark ".", .word property] := by
  rw [lexemes]; rfl

theorem lexemes_binary (op : String) (left right : Expr) :
    (binary op left right).lexemes =
      left.lexemesAt (leftLevel op) ++ .mark op :: right.lexemesAt (markLevel op + 1) := by
  rw [lexemes]; rfl

theorem lexemes_unary (op : UnaryOp) (operand : Expr) :
    (unary op operand).lexemes = operatorLexeme op :: operand.lexemesAt 13 := by
  rw [lexemes]; rfl

theorem lexemes_array (elements : List Expr) :
    (array elements).lexemes = .mark "[" :: (listLexemes elements ++ [.mark "]"]) := by
  rw [lexemes]

theorem lexemes_call (field : Expr) (method : String) (args : List Expr) :
    (call field method args).lexemes = field.lexemesAt 14 ++
      .mark "." :: .word method :: .mark "(" :: (listLexemes args ++ [.mark ")"]) := by
  rw [lexemes]; rfl

theorem lexemes_assign (op : String) (target value : Expr) :
    (assign op target value).lexemes = target.lexemesAt 14 ++ .mark op :: value.lexemesAt 2 := by
  rw [lexemes]; rfl

theorem lexemes_sequence (left right : Expr) :
    (sequence left right).lexemes = left.lexemesAt 2 ++ .mark "," :: right.lexemesAt 1 := by
  rw [lexemes]; rfl

theorem listLexemes_singleton (e : Expr) : listLexemes [e] = e.lexemesAt 2 := by
  rw [listLexemes]; rfl

theorem listLexemes_cons (e : Expr) {rest : List Expr} (h : rest ≠ []) :
    listLexemes (e :: rest) = e.lexemesAt 2 ++ .mark "," :: listLexemes rest := by
  rw [listLexemes]
  · rfl
  · exact h

end Expr

/-! ## The first lexeme -/

namespace Script

/-- The tokens that can open a literal, a name or a bracket. -/
def primaryOpeners : List TokenKind :=
  [.identifier, .boolean, .null, .number, .string, .mark "(", .mark "["]

/-- The tokens that can open an expression that is spelled. -/
def expressionOpeners : List TokenKind :=
  primaryOpeners ++ [.mark "-", .mark "!", .mark "++", .word "delete"]

/-- The first lexeme of an expression opens it. -/
def Opened (e : Expr) : Prop :=
  ∃ l ls, e.lexemes = l :: ls ∧ l.kind ∈ expressionOpeners ∧
    (14 ≤ e.level → l.kind ∈ primaryOpeners)

theorem Opened.of_primary {e : Expr} {l : Lexeme} {ls : List Lexeme} (h : e.lexemes = l :: ls)
    (hl : l.kind ∈ primaryOpeners) : Opened e :=
  ⟨l, ls, h, List.mem_append_left _ hl, fun _ => hl⟩

theorem Opened.lexemesAt {e : Expr} (h : Opened e) (p : Nat) :
    ∃ l ls, e.lexemesAt p = l :: ls ∧ l.kind ∈ expressionOpeners ∧
      (14 ≤ p → l.kind ∈ primaryOpeners) := by
  obtain ⟨l, ls, hlexemes, hexpression, hprimary⟩ := h
  by_cases hlevel : e.level < p
  · exact ⟨.mark "(", _, Expr.lexemesAt_of_lt hlevel, by decide, fun _ => by decide⟩
  · rw [Expr.lexemesAt_of_le (Nat.not_lt.1 hlevel)]
    exact ⟨l, ls, hlexemes, hexpression, fun hp => hprimary (Nat.le_trans hp (Nat.not_lt.1 hlevel))⟩

theorem level_binary_lt : ∀ op ∈ binaryOperators, markLevel op < 14 := by decide

theorem Spellable.opened {e : Expr} (h : Spellable e) : Opened e := by
  induction h with
  | string value => exact .of_primary (by rw [Expr.lexemes]) (by simp [Lexeme.kind, primaryOpeners])
  | number _ _ => exact .of_primary (by rw [Expr.lexemes]) (by simp [Lexeme.kind, primaryOpeners])
  | bool value =>
      refine .of_primary (by rw [Expr.lexemes]) ?_
      cases value <;> decide
  | null => exact .of_primary (by rw [Expr.lexemes]) (by decide)
  | identifier _ hplain =>
      refine .of_primary (by rw [Expr.lexemes]) ?_
      simp [Lexeme.kind, hplain, primaryOpeners]
  | member _ _ ih =>
      obtain ⟨l, ls, hlexemes, -, hprimary⟩ := ih.lexemesAt 14
      exact .of_primary (by rw [Expr.lexemes_member, hlexemes, List.cons_append])
        (hprimary (Nat.le_refl _))
  | @binary op _ _ hop _ _ ih _ =>
      obtain ⟨l, ls, hlexemes, hopens, -⟩ := ih.lexemesAt (leftLevel op)
      refine ⟨l, _, by rw [Expr.lexemes_binary, hlexemes, List.cons_append], hopens, ?_⟩
      exact fun hlevel => absurd (level_binary_lt op hop) (Nat.not_lt.2 hlevel)
  | @unary op operand hop _ _ =>
      refine ⟨operatorLexeme op, _, Expr.lexemes_unary op operand, ?_,
        fun h => absurd h (by decide : ¬14 ≤ 13)⟩
      exact (by decide : ∀ op ∈ [UnaryOp.negate, .not, .delete],
        (operatorLexeme op).kind ∈ expressionOpeners) op hop
  | increment _ _ _ =>
      exact ⟨_, _, Expr.lexemes_unary _ _, by decide, fun h => absurd h (by decide : ¬14 ≤ 13)⟩
  | array _ _ => exact .of_primary (Expr.lexemes_array _) (by decide)
  | call _ _ _ ih _ =>
      obtain ⟨l, ls, hlexemes, -, hprimary⟩ := ih.lexemesAt 14
      exact .of_primary (by rw [Expr.lexemes_call, hlexemes, List.cons_append])
        (hprimary (Nat.le_refl _))
  | assign _ _ _ _ ih _ =>
      obtain ⟨l, ls, hlexemes, hopens, -⟩ := ih.lexemesAt 14
      exact ⟨l, _, by rw [Expr.lexemes_assign, hlexemes, List.cons_append], hopens,
        fun h => absurd h (by decide : ¬14 ≤ 2)⟩
  | sequence _ _ ih _ =>
      obtain ⟨l, ls, hlexemes, hopens, -⟩ := ih.lexemesAt 2
      exact ⟨l, _, by rw [Expr.lexemes_sequence, hlexemes, List.cons_append], hopens,
        fun h => absurd h (by decide : ¬14 ≤ 1)⟩

end Script

end DocQuery
