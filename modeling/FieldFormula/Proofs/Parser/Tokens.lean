import FieldFormula.Proofs.Parser.Exactness
import FieldFormula.Proofs.Quoted

/-! The tokens that a parsed tree keeps are among its lexemes: the text of each literal can stand
between its quotes, and the name of each call is read as an identifier. -/

namespace FieldFormula

namespace Token

variable {text spelling rest : List Char} {token : Token} {literal : Quoted}

theorem ofName_ne_string (name : List Char) : ofName name ≠ .string literal := by
  simp only [ofName]
  repeat' split
  all_goals exact nofun

theorem ofName_eq_identifier {name : List Char} {found : String}
    (named : ofName name = .identifier found) : found = String.ofList name := by
  simp only [ofName] at named
  repeat' split at named
  all_goals cases named
  rfl

/-- What is known of a token that has been read: a literal can stand between its quotes, and an
identifier is read from its own name. -/
def Genuine : Token → Prop
  | .string literal => literal.WellFormed
  | .identifier name => ofName name.toList = .identifier name
  | _ => True

theorem genuine_symbol : ∀ symbol ∈ symbols, symbol.2.Genuine := by
  intro symbol member
  rcases List.mem_append.1 member with bracket | operator
  · simp only [List.mem_cons, List.not_mem_nil, or_false] at bracket
    rcases bracket with rfl | rfl | rfl <;> exact trivial
  · obtain ⟨op, _, rfl⟩ := List.mem_map.1 operator
    exact trivial

theorem genuine_ofName (name : List Char) : (ofName name).Genuine := by
  cases read : ofName name with
  | string literal => exact absurd read (ofName_ne_string name)
  | identifier found =>
    have same := ofName_eq_identifier read
    rw [same] at read ⊢
    rw [Genuine, String.toList_ofList, read]
  | _ => exact trivial

theorem genuine_of_readString {quote : QuoteStyle}
    (read : readString quote text = .read token spelling rest) : token.Genuine := by
  unfold readString at read
  split at read
  · next body after split =>
    cases read
    simpa only [Genuine, Quoted.WellFormed, String.toList_ofList] using isBody_of_splitString? split
  · cases read

theorem genuine_of_readFront (read : readFront text = .read token spelling rest) :
    token.Genuine := by
  unfold readFront at read
  split at read
  · cases read
    exact trivial
  · next c tail =>
    split at read
    · next found =>
      cases read
      exact genuine_symbol _ (List.mem_of_find?_eq_some found)
    · split at read
      · exact genuine_of_readString read
      split at read
      · exact genuine_of_readString read
      split at read
      · simp only [readNumber, Reading.read.injEq] at read
        rw [← read.1]
        split <;> exact trivial
      split at read
      · cases read
        exact genuine_ofName _
      · cases read

end Token

/-- Every lexeme among the answers of a scanner has been read as one. -/
theorem Feed.genuine_of_mem_collect {room : Nat} {scanner : Scanner} {lexeme : Lexeme}
    (member : .ok lexeme ∈ (collect room scanner).steps) : lexeme.token.Genuine := by
  induction room generalizing scanner with
  | zero => cases member
  | succ room ih =>
    rw [collect] at member
    split at member
    · simp at member
    · next first rest answered =>
      split at member
      · cases member
      · rcases List.mem_cons.1 member with same | others
        · cases same
          obtain ⟨_, _, _, _, read⟩ := Scanner.next_eq_ok answered
          exact Token.genuine_of_readFront read
        · exact ih others

namespace Tree

mutual

/-- Every token that a tree keeps has a property, be it a literal, the literal name of a field or the
name of a function. -/
def EachToken (p : Token → Prop) : Tree → Prop
  | string literal _ => p (.string literal)
  | field name _ => p (.string name)
  | lookup via target _ => p (.string via) ∧ p (.string target)
  | brackets inner _ => inner.EachToken p
  | negation operand _ => operand.EachToken p
  | binary _ left right _ => left.EachToken p ∧ right.EachToken p
  | call name args _ => p (.identifier name) ∧ EachTokenOfAll p args
  | _ => True

def EachTokenOfAll (p : Token → Prop) : List Tree → Prop
  | [] => True
  | arg :: args => arg.EachToken p ∧ EachTokenOfAll p args

end

end Tree

namespace Grammar

variable {p : Token → Prop} {lexemes : List Lexeme} {tree : Tree}

theorem eachToken_negate {sign : Lexeme} (each : tree.EachToken p) :
    (negate sign lexemes tree).EachToken p := by
  unfold negate
  split
  · exact trivial
  · exact trivial
  · exact each

mutual

theorem Expression.eachToken {level : Nat} {lexemes : List Lexeme} {tree : Tree} :
    Expression level lexemes tree → (∀ lexeme ∈ lexemes, p lexeme.token) → tree.EachToken p
  | .operand operand, each => operand.eachToken each
  | .chain _ head tail, each =>
    tail.eachToken (fun _ member => each _ (List.mem_append_right _ member))
      (head.eachToken fun _ member => each _ (List.mem_append_left _ member))

theorem Chain.eachToken {level : Nat} {left tree : Tree} {lexemes : List Lexeme} :
    Chain level left lexemes tree → (∀ lexeme ∈ lexemes, p lexeme.token) → left.EachToken p →
      tree.EachToken p
  | .done, _, before => before
  | .more _ _ operand tail, each, before => by
    have right := operand.eachToken fun _ member =>
      each _ (List.mem_cons_of_mem _ (List.mem_append_left _ member))
    exact tail.eachToken
      (fun _ member => each _ (List.mem_cons_of_mem _ (List.mem_append_right _ member)))
      ⟨before, right⟩

theorem Operand.eachToken {lexemes : List Lexeme} {tree : Tree} :
    Operand lexemes tree → (∀ lexeme ∈ lexemes, p lexeme.token) → tree.EachToken p
  | .minus _ operand, each =>
    eachToken_negate (operand.eachToken fun _ member => each _ (List.mem_cons_of_mem _ member))
  | .primary primary, each => primary.eachToken each

theorem Primary.eachToken {lexemes : List Lexeme} {tree : Tree} :
    Primary lexemes tree → (∀ lexeme ∈ lexemes, p lexeme.token) → tree.EachToken p
  | .string spelled, each => (congrArg p spelled).mp (each _ List.mem_cons_self)
  | .integer _, _ | .decimal _, _ | .boolean _, _ | .fieldById .., _ => trivial
  | .brackets _ expression _, each =>
    expression.eachToken fun _ member =>
      each _ (List.mem_cons_of_mem _ (List.mem_append_left _ member))
  | .field _ _ named _, each => (congrArg p named).mp (each _ (by simp))
  | .lookup _ _ linked _ named _, each =>
    ⟨(congrArg p linked).mp (each _ (by simp)), (congrArg p named).mp (each _ (by simp))⟩
  | .emptyCall named _ _, each => ⟨(congrArg p named).mp (each _ List.mem_cons_self), trivial⟩
  | .call named _ arguments _, each =>
    ⟨(congrArg p named).mp (each _ List.mem_cons_self), arguments.eachToken fun _ member =>
      each _ (List.mem_cons_of_mem _ (List.mem_cons_of_mem _ (List.mem_append_left _ member)))⟩

theorem Arguments.eachToken {lexemes : List Lexeme} {trees : List Tree} :
    Arguments lexemes trees → (∀ lexeme ∈ lexemes, p lexeme.token) → Tree.EachTokenOfAll p trees
  | .last expression, each => ⟨expression.eachToken each, trivial⟩
  | .more expression _ others, each =>
    ⟨expression.eachToken fun _ member => each _ (List.mem_append_left _ member),
      others.eachToken fun _ member =>
        each _ (List.mem_append_right _ (List.mem_cons_of_mem _ member))⟩

end

end Grammar

/-- The tokens of a parsed tree have been read from its source. -/
theorem Tree.genuine_of_parse {limits : Limits} {source : String} {tree : Tree}
    (parsed : Tree.parse limits source = .ok tree) : tree.EachToken Token.Genuine := by
  obtain ⟨lexemes, final, fed, _, derived⟩ := Tree.parse_sound parsed
  refine derived.eachToken fun lexeme member => ?_
  have given : .ok lexeme ∈ (Feed.ofSource source).steps := by
    rw [fed]
    exact List.mem_map_of_mem member
  exact Feed.genuine_of_mem_collect given

end FieldFormula
