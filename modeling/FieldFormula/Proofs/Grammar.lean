import FieldFormula.Token
import FieldFormula.Tree

/-! The grammar of formulas as rules that derive trees from lexemes, one rule for each production.
Nothing here refers to the parser or to the precedence it reads off an operator. -/

namespace FieldFormula.Grammar

/-- The operators that join the operands of a level. Level 0 is an expression as a whole and level 6
an operand; logic, equality, comparison, sums and products lie between them. -/
def operatorsAt : Nat → List Operator
  | 1 => [.and, .or]
  | 2 => [.equal, .notEqual]
  | 3 => [.greater, .less, .greaterEqual, .lessEqual]
  | 4 => [.add, .subtract]
  | 5 => [.multiply, .divide, .modulo]
  | _ => []

/-- The tree of a minus sign before an operand. A sign directly before a numeral is part of it. -/
def negate (sign : Lexeme) (operand : List Lexeme) (tree : Tree) : Tree :=
  match operand.map Lexeme.token with
  | [.integer text] => .integer ("-" ++ text) sign.position
  | [.decimal text] => .decimal ("-" ++ text) sign.position
  | _ => .negation tree sign.position

mutual

/-- An expression of a level: operands of the next one, joined from left to right. -/
inductive Expression : Nat → List Lexeme → Tree → Prop
  | operand {lexemes : List Lexeme} {tree : Tree} (operand : Operand lexemes tree) :
      Expression 6 lexemes tree
  | chain {level : Nat} {first rest : List Lexeme} {left tree : Tree} (below : level < 6)
      (head : Expression (level + 1) first left) (tail : Chain level left rest tree) :
      Expression level (first ++ rest) tree

/-- Any number of operators of one level with their right operands, behind a left operand. -/
inductive Chain : Nat → Tree → List Lexeme → Tree → Prop
  | done {level : Nat} {left : Tree} : Chain level left [] left
  | more {level : Nat} {left right tree : Tree} {sign : Lexeme} {op : Operator}
      {lexemes rest : List Lexeme} (spelled : sign.token = .operator op)
      (joins : op ∈ operatorsAt level) (operand : Expression (level + 1) lexemes right)
      (tail : Chain level (.binary op left right sign.position) rest tree) :
      Chain level left (sign :: (lexemes ++ rest)) tree

/-- A primary expression behind any number of minus signs. -/
inductive Operand : List Lexeme → Tree → Prop
  | minus {sign : Lexeme} {lexemes : List Lexeme} {tree : Tree}
      (spelled : sign.token = .operator .subtract) (operand : Operand lexemes tree) :
      Operand (sign :: lexemes) (negate sign lexemes tree)
  | primary {lexemes : List Lexeme} {tree : Tree} (primary : Primary lexemes tree) :
      Operand lexemes tree

/-- An expression without operators outside brackets. -/
inductive Primary : List Lexeme → Tree → Prop
  | string {lexeme : Lexeme} {literal : Quoted} (spelled : lexeme.token = .string literal) :
      Primary [lexeme] (.string literal lexeme.position)
  | integer {lexeme : Lexeme} {text : String} (spelled : lexeme.token = .integer text) :
      Primary [lexeme] (.integer text lexeme.position)
  | decimal {lexeme : Lexeme} {text : String} (spelled : lexeme.token = .decimal text) :
      Primary [lexeme] (.decimal text lexeme.position)
  | boolean {lexeme : Lexeme} {value : Bool} (spelled : lexeme.token = .boolean value) :
      Primary [lexeme] (.boolean value lexeme.position)
  | brackets {opening closing : Lexeme} {lexemes : List Lexeme} {inner : Tree}
      (opens : opening.token = .openBracket) (expression : Expression 0 lexemes inner)
      (closes : closing.token = .closeBracket) :
      Primary (opening :: (lexemes ++ [closing])) (.brackets inner opening.position)
  | field {keyword opening name closing : Lexeme} {literal : Quoted}
      (spelled : keyword.token = .field) (opens : opening.token = .openBracket)
      (named : name.token = .string literal) (closes : closing.token = .closeBracket) :
      Primary [keyword, opening, name, closing] (.field literal keyword.position)
  | lookup {keyword opening link comma name closing : Lexeme} {via target : Quoted}
      (spelled : keyword.token = .lookup) (opens : opening.token = .openBracket)
      (linked : link.token = .string via) (separated : comma.token = .comma)
      (named : name.token = .string target) (closes : closing.token = .closeBracket) :
      Primary [keyword, opening, link, comma, name, closing] (.lookup via target keyword.position)
  | fieldById {keyword opening number closing : Lexeme} {id : String}
      (spelled : keyword.token = .fieldById) (opens : opening.token = .openBracket)
      (numbered : number.token = .integer id) (closes : closing.token = .closeBracket) :
      Primary [keyword, opening, number, closing] (.fieldById id keyword.position)
  | emptyCall {name opening closing : Lexeme} {text : String}
      (named : name.token = .identifier text) (opens : opening.token = .openBracket)
      (closes : closing.token = .closeBracket) :
      Primary [name, opening, closing] (.call text [] name.position)
  | call {name opening closing : Lexeme} {text : String} {lexemes : List Lexeme}
      {args : List Tree} (named : name.token = .identifier text)
      (opens : opening.token = .openBracket) (arguments : Arguments lexemes args)
      (closes : closing.token = .closeBracket) :
      Primary (name :: opening :: (lexemes ++ [closing])) (.call text args name.position)

/-- One or more expressions with commas between them. -/
inductive Arguments : List Lexeme → List Tree → Prop
  | last {lexemes : List Lexeme} {tree : Tree} (expression : Expression 0 lexemes tree) :
      Arguments lexemes [tree]
  | more {lexemes rest : List Lexeme} {comma : Lexeme} {tree : Tree} {trees : List Tree}
      (expression : Expression 0 lexemes tree) (separated : comma.token = .comma)
      (others : Arguments rest trees) : Arguments (lexemes ++ comma :: rest) (tree :: trees)

end

/-- A formula: one expression, and the end of the input behind it. -/
inductive Root : List Lexeme → Tree → Prop
  | intro {lexemes : List Lexeme} {final : Lexeme} {tree : Tree}
      (expression : Expression 0 lexemes tree) (ended : final.token = .endOfInput) :
      Root (lexemes ++ [final]) tree

variable {level looser : Nat} {lexemes rest : List Lexeme} {left right tree : Tree} {sign : Lexeme}
  {op : Operator}

/-- The levels of the grammar are the precedences of the operators. -/
theorem mem_operatorsAt_iff : op ∈ operatorsAt level ↔ op.precedence = level := by
  constructor
  · intro member
    unfold operatorsAt at member
    split at member <;> simp only [List.mem_cons, List.not_mem_nil, or_false] at member
    all_goals rcases member with rfl | rfl | rfl | rfl
    all_goals rfl
  · rintro rfl
    cases op <;> decide

theorem precedence_lt (op : Operator) : op.precedence < 6 := by
  cases op <;> decide

/-- A chain can be continued at its end. -/
theorem Chain.snoc (spelled : sign.token = .operator op) (joins : op ∈ operatorsAt level)
    (operand : Expression (level + 1) rest right) :
    ∀ {left : Tree} {lexemes : List Lexeme}, Chain level left lexemes tree →
      Chain level left (lexemes ++ sign :: rest) (.binary op tree right sign.position)
  | _, _, .done => by
    simpa only [List.append_nil, List.nil_append] using Chain.more spelled joins operand .done
  | _, _, .more first firstJoins firstOperand tail => by
    simpa only [List.cons_append, List.append_assoc] using
      Chain.more first firstJoins firstOperand (tail.snoc spelled joins operand)

namespace Expression

theorem level_le : Expression level lexemes tree → level ≤ 6
  | .operand _ => Nat.le_refl 6
  | .chain below _ _ => Nat.le_of_lt below

/-- An expression of tighter operators is one of looser operators too. -/
theorem loosen (expression : Expression level lexemes tree) (below : looser ≤ level) :
    Expression looser lexemes tree := by
  obtain ⟨steps, rfl⟩ := Nat.exists_eq_add_of_le below
  induction steps generalizing looser with
  | zero => exact expression
  | succ steps ih =>
    have bound := expression.level_le
    have next : Expression (looser + 1) lexemes tree := by
      apply ih _ (Nat.le_add_right _ _)
      simpa only [Nat.add_assoc, Nat.add_comm 1] using expression
    simpa only [List.append_nil] using Expression.chain (by omega) next .done

/-- Operators of one level group to the left. -/
theorem join (expression : Expression level lexemes left) (spelled : sign.token = .operator op)
    (joins : op ∈ operatorsAt level) (operand : Expression (level + 1) rest right) :
    Expression level (lexemes ++ sign :: rest) (.binary op left right sign.position) := by
  cases expression with
  | operand _ => simp [operatorsAt] at joins
  | chain below head tail =>
    simpa only [List.append_assoc] using
      Expression.chain below head (tail.snoc spelled joins operand)

end Expression

section Negation

variable {lexeme : Lexeme} {text : String}

theorem negate_integer (spelled : lexeme.token = .integer text) :
    negate sign [lexeme] tree = .integer ("-" ++ text) sign.position := by
  simp only [negate, List.map_cons, List.map_nil, spelled]

theorem negate_decimal (spelled : lexeme.token = .decimal text) :
    negate sign [lexeme] tree = .decimal ("-" ++ text) sign.position := by
  simp only [negate, List.map_cons, List.map_nil, spelled]

/-- Whether a token is no numeral. -/
def NoNumeral (token : Token) : Prop :=
  (∀ text, token ≠ .integer text) ∧ ∀ text, token ≠ .decimal text

theorem numeral_cases (token : Token) :
    (∃ text, token = .integer text) ∨ (∃ text, token = .decimal text) ∨ NoNumeral token := by
  cases token <;> simp [NoNumeral]

theorem negate_other (other : NoNumeral lexeme.token) :
    negate sign (lexeme :: lexemes) tree = .negation tree sign.position := by
  unfold negate
  split
  · next same => exact absurd (List.cons.inj same).1 (other.1 _)
  · next same => exact absurd (List.cons.inj same).1 (other.2 _)
  · rfl

theorem height_negate_le : (negate sign lexemes tree).height ≤ tree.height + 1 := by
  unfold negate
  split <;> simp [Tree.height]

/-- An operand that starts with a numeral consists of it. -/
theorem Operand.eq_nil_of_numeral (operand : Operand (lexeme :: lexemes) tree)
    (numeral : lexeme.token = .integer text ∨ lexeme.token = .decimal text) : lexemes = [] := by
  cases operand with
  | minus spelled _ => simp [spelled] at numeral
  | primary primary => cases primary <;> simp_all

end Negation

/-- No expression starts with a closing bracket, so a call without arguments can be told apart. -/
theorem Operand.head_ne_close (operand : Operand lexemes tree) :
    ∃ first rest, lexemes = first :: rest ∧ first.token ≠ .closeBracket := by
  cases operand with
  | minus spelled _ => exact ⟨_, _, rfl, by simp [spelled]⟩
  | primary primary => cases primary <;> exact ⟨_, _, rfl, by simp [*]⟩

theorem Expression.head_ne_close {level : Nat} {lexemes : List Lexeme} {tree : Tree} :
    Expression level lexemes tree →
      ∃ first rest, lexemes = first :: rest ∧ first.token ≠ .closeBracket
  | .operand inner => inner.head_ne_close
  | .chain _ head _ => by
    obtain ⟨first, rest, rfl, other⟩ := head.head_ne_close
    exact ⟨first, _, rfl, other⟩

theorem Arguments.head_ne_close {trees : List Tree} (arguments : Arguments lexemes trees) :
    ∃ first rest, lexemes = first :: rest ∧ first.token ≠ .closeBracket := by
  cases arguments with
  | last expression => exact expression.head_ne_close
  | more expression _ _ =>
    obtain ⟨first, rest, rfl, other⟩ := expression.head_ne_close
    exact ⟨first, _, rfl, other⟩

mutual

/-- Every level of a tree takes a lexeme of its own. -/
theorem Expression.height_lt {level : Nat} {lexemes : List Lexeme} {tree : Tree} :
    Expression level lexemes tree → tree.height < lexemes.length
  | .operand operand => operand.height_lt
  | .chain _ head tail => by
    have first := head.height_lt
    have others := tail.height_le
    rw [List.length_append]
    omega

theorem Chain.height_le {level : Nat} {lexemes : List Lexeme} {left tree : Tree} :
    Chain level left lexemes tree → tree.height ≤ left.height + lexemes.length
  | .done => Nat.le_add_right _ _
  | .more _ _ operand tail => by
    have first := operand.height_lt
    have others := tail.height_le
    simp only [Tree.height] at others
    rw [List.length_cons, List.length_append]
    omega

theorem Operand.height_lt {lexemes : List Lexeme} {tree : Tree} :
    Operand lexemes tree → tree.height < lexemes.length
  | @Operand.minus sign lexemes inner _ operand => by
    have nested := operand.height_lt
    have grown : (negate sign lexemes inner).height ≤ inner.height + 1 := height_negate_le
    rw [List.length_cons]
    omega
  | .primary primary => primary.height_lt

theorem Primary.height_lt {lexemes : List Lexeme} {tree : Tree} :
    Primary lexemes tree → tree.height < lexemes.length
  | .string _ | .integer _ | .decimal _ | .boolean _ | .field .. | .lookup .. | .fieldById .. => by
    simp [Tree.height]
  | .emptyCall .. => by simp [Tree.height, Tree.heightUnder]
  | .brackets _ expression _ => by
    have nested := expression.height_lt
    simp only [Tree.height, List.length_cons, List.length_append, List.length_nil]
    omega
  | .call _ _ arguments _ => by
    have nested := arguments.height_le
    simp only [Tree.height, List.length_cons, List.length_append, List.length_nil]
    omega

theorem Arguments.height_le {lexemes : List Lexeme} {trees : List Tree} :
    Arguments lexemes trees → Tree.heightUnder trees ≤ lexemes.length
  | .last expression => by
    have nested := expression.height_lt
    simp only [Tree.heightUnder]
    omega
  | .more expression _ others => by
    have nested := expression.height_lt
    have rest := others.height_le
    simp only [Tree.heightUnder, List.length_append, List.length_cons]
    omega

end

mutual

/-- The end of the input is part of no expression. -/
theorem Expression.ne_end {level : Nat} {lexemes : List Lexeme} {tree : Tree} :
    Expression level lexemes tree → ∀ lexeme ∈ lexemes, lexeme.token ≠ .endOfInput
  | .operand operand => operand.ne_end
  | .chain _ head tail => List.forall_mem_append.2 ⟨head.ne_end, tail.ne_end⟩

theorem Chain.ne_end {level : Nat} {lexemes : List Lexeme} {left tree : Tree} :
    Chain level left lexemes tree → ∀ lexeme ∈ lexemes, lexeme.token ≠ .endOfInput
  | .done => nofun
  | .more spelled _ operand tail => by
    rw [List.forall_mem_cons, List.forall_mem_append]
    exact ⟨by simp [spelled], operand.ne_end, tail.ne_end⟩

theorem Operand.ne_end {lexemes : List Lexeme} {tree : Tree} :
    Operand lexemes tree → ∀ lexeme ∈ lexemes, lexeme.token ≠ .endOfInput
  | .minus spelled operand => List.forall_mem_cons.2 ⟨by simp [spelled], operand.ne_end⟩
  | .primary primary => primary.ne_end

theorem Primary.ne_end {lexemes : List Lexeme} {tree : Tree} :
    Primary lexemes tree → ∀ lexeme ∈ lexemes, lexeme.token ≠ .endOfInput
  | .string _ | .integer _ | .decimal _ | .boolean _ | .field .. | .lookup .. | .fieldById ..
  | .emptyCall .. => by simp [*]
  | .brackets opens expression closes => by
    rw [List.forall_mem_cons, List.forall_mem_append]
    exact ⟨by simp [opens], expression.ne_end, by simp [closes]⟩
  | .call named opens arguments closes => by
    rw [List.forall_mem_cons, List.forall_mem_cons, List.forall_mem_append]
    exact ⟨by simp [named], by simp [opens], arguments.ne_end, by simp [closes]⟩

theorem Arguments.ne_end {lexemes : List Lexeme} {trees : List Tree} :
    Arguments lexemes trees → ∀ lexeme ∈ lexemes, lexeme.token ≠ .endOfInput
  | .last expression => expression.ne_end
  | .more expression separated others => by
    rw [List.forall_mem_append, List.forall_mem_cons]
    exact ⟨expression.ne_end, by simp [separated], others.ne_end⟩

end

theorem Arguments.ne_nil {lexemes : List Lexeme} {trees : List Tree} :
    Arguments lexemes trees → lexemes ≠ []
  | .last expression => List.ne_nil_of_length_pos (Nat.zero_lt_of_lt expression.height_lt)
  | .more .. => by simp

/-- Every argument takes a lexeme. -/
theorem Arguments.length_le {lexemes : List Lexeme} {trees : List Tree} :
    Arguments lexemes trees → trees.length ≤ lexemes.length
  | .last expression => Nat.succ_le_of_lt (Nat.zero_lt_of_lt expression.height_lt)
  | .more _ _ others => by
    have fewer := others.length_le
    simp only [List.length_cons, List.length_append]
    omega

end FieldFormula.Grammar
