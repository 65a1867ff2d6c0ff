import FieldFormula.Proofs.Parser.Cursor
import FieldFormula.Proofs.Parser.Demand

/-! On lexemes that the grammar derives a tree from, the parser returns that tree if its budget
covers the demand of the tree, and otherwise gives up because of size. So a budget only ever decides
between the one tree and a rejection. -/

namespace FieldFormula.Parse

open Cursor Grammar

variable {α β : Type}

/-- A result that is `success` on a condition, and else a rejection because of size. -/
structure Outcome (fits : Prop) (result success : EStateM.Result Error Cursor α) : Prop where
  ok : fits → result = success
  tooLarge : ¬ fits → ∃ cursor, result = .error .tooLarge cursor

namespace Outcome

variable {fits others : Prop} {result success : EStateM.Result Error Cursor α}

theorem congr (outcome : Outcome fits result success) (same : fits ↔ others) :
    Outcome others result success :=
  ⟨fun fit => outcome.ok (same.2 fit), fun unfit => outcome.tooLarge (mt same.1 unfit)⟩

theorem step {next : EStateM.Result Error Cursor α} (same : result = next)
    (outcome : Outcome fits next success) : Outcome fits result success :=
  same ▸ outcome

theorem trans {next : EStateM.Result Error Cursor α} (front : Outcome fits result next)
    (back : fits → Outcome others next success) (needs : others → fits) :
    Outcome others result success := by
  by_cases fit : fits
  · rw [front.ok fit]
    exact back fit
  · exact ⟨fun other => absurd (needs other) fit, fun _ => front.tooLarge fit⟩

theorem always (holds : fits) (same : result = success) : Outcome fits result success :=
  ⟨fun _ => same, fun unfit => absurd holds unfit⟩

theorem never (fails : ¬ fits) {cursor : Cursor} (same : result = .error .tooLarge cursor) :
    Outcome fits result success :=
  ⟨fun fit => absurd fit fails, fun _ => ⟨cursor, same⟩⟩

variable {first : Parse α} {second : α → Parse β} {cursor middle : Cursor} {value : α}
  {final : EStateM.Result Error Cursor β}

/-- A rejection of the first parser is one of both. -/
theorem bind {total : Prop} (front : Outcome fits (first cursor) (.ok value middle))
    (back : fits → Outcome others (second value middle) final) (same : fits ∧ others ↔ total) :
    Outcome total ((first >>= second) cursor) final := by
  by_cases fit : fits
  · rw [bind_of_ok (front.ok fit)]
    exact (back fit).congr (by simp [← same, fit])
  · obtain ⟨last, failed⟩ := front.tooLarge fit
    exact never (by simp [← same, fit]) (bind_of_error failed)

theorem bind_ok (front : Outcome fits (first cursor) (.ok value middle))
    (back : second value middle = final) : Outcome fits ((first >>= second) cursor) final :=
  front.bind (fun _ => always trivial back) (by simp)

end Outcome

variable {final lexeme : Lexeme} {lexemes rest : List Lexeme} {tree : Tree}

theorem advance_before :
    advance (before final (lexeme :: lexemes)) = .ok lexeme (before final lexemes) := by
  cases lexemes <;> rfl

theorem expect_before {token : Token} {expecting : Expectation} (spelled : lexeme.token = token) :
    expect token expecting (before final (lexeme :: lexemes)) = .ok () (before final lexemes) := by
  unfold expect
  rw [current_bind, current_before_cons, if_pos spelled, bind_of_ok advance_before]
  rfl

theorem quoted_before {literal : Quoted} (spelled : lexeme.token = .string literal) :
    quoted (before final (lexeme :: lexemes)) = .ok literal (before final lexemes) := by
  unfold quoted
  rw [current_bind, current_before_cons, spelled]
  exact bind_of_ok advance_before

theorem integer_before {text : String} (spelled : lexeme.token = .integer text) :
    integer (before final (lexeme :: lexemes)) = .ok text (before final lexemes) := by
  unfold integer
  rw [current_bind, current_before_cons, spelled]
  exact bind_of_ok advance_before

theorem advance_return_before :
    (do let _ ← advance; return tree : Parse Tree) (before final (lexeme :: lexemes)) =
      .ok tree (before final lexemes) :=
  bind_of_ok advance_before

theorem room_before :
    room (before final (lexeme :: lexemes)) =
      .ok (lexemes.length + 1) (before final (lexeme :: lexemes)) := by
  simp [room, before]

/-- A parser returns a tree from lexemes whatever follows them, if its budget allows for it. -/
def Reads (parser : Nat → Parse Tree) (lexemes : List Lexeme) (tree : Tree) : Prop :=
  ∀ budget rest final, Outcome (tree.demand ≤ budget + 1)
    (parser budget (before final (lexemes ++ rest))) (.ok tree (before final rest))

/-- Parsing lexemes of a level goes on as a chain behind their tree. The operators left in view may
belong to the level, but not to a tighter one, which the last operand would have taken in. -/
def ReadsLevel (level : Nat) (lexemes : List Lexeme) (tree : Tree) : Prop :=
  ∀ budget lowest rest final, lowest ≤ level → (before final rest).Stops (level + 1) →
    Outcome (tree.demand ≤ budget + 1)
      (Parse.level (budget + 1) lowest (before final (lexemes ++ rest)))
      (chain (Parse.level budget) lowest (budget - tree.chained) tree (before final rest))

/-- Folding the lexemes of a chain onto a left operand goes on as a chain behind their tree. -/
def ReadsChain (level : Nat) (left : Tree) (lexemes : List Lexeme) (tree : Tree) : Prop :=
  ∀ budget lowest rest final, lowest ≤ level → (before final rest).Stops (level + 1) →
    left.demand ≤ budget + 1 →
    Outcome (tree.demand ≤ budget + 1)
      (chain (Parse.level budget) lowest (budget - left.chained) left
        (before final (lexemes ++ rest)))
      (chain (Parse.level budget) lowest (budget - tree.chained) tree (before final rest))

/-- Arguments are read up to and including the closing bracket. -/
def ReadsArguments (lexemes : List Lexeme) (trees : List Tree) : Prop :=
  ∀ budget room closing rest final, trees.length ≤ room → closing.token = .closeBracket →
    Outcome (Tree.demandUnder trees ≤ budget + 1)
      (arguments (Parse.level budget 0) room (before final (lexemes ++ closing :: rest)))
      (.ok trees (before final rest))

/-- The primary expressions of a budget, whose nested expressions have one less. -/
abbrev primaryWith (budget : Nat) : Parse Tree := primary (level budget 0)

abbrev signedWith (budget : Nat) : Parse Tree := signed (level budget 0) (unary budget)

theorem ReadsLevel.level {level lowest : Nat} (reads : ReadsLevel level lexemes tree)
    (budget : Nat) (below : lowest ≤ level) (stops : (before final rest).Stops lowest) :
    Outcome (tree.demand ≤ budget) (Parse.level budget lowest (before final (lexemes ++ rest)))
      (.ok tree (before final rest)) := by
  cases budget with
  | zero =>
    have positive := tree.demand_pos
    exact .never (by omega) rfl
  | succ budget =>
    rw [← chain_stop stops]
    exact reads budget lowest rest final below (stops.mono (by omega))

theorem Reads.unary (reads : Reads signedWith lexemes tree) (budget : Nat) :
    Outcome (tree.demand ≤ budget) (Parse.unary budget (before final (lexemes ++ rest)))
      (.ok tree (before final rest)) := by
  cases budget with
  | zero =>
    have positive := tree.demand_pos
    exact .never (by omega) rfl
  | succ budget => exact reads budget rest final

section Primary

variable {keyword opening closing name link comma : Lexeme} {inner : Tree} {text : String}

/-- A literal is a lexeme whose tree is returned once it is passed. -/
theorem reads_literal (flat : tree.demand = 1)
    (dispatch : ∀ inner cursor, cursor.current = lexeme →
      primary inner cursor = (do let _ ← advance; return tree : Parse Tree) cursor) :
    Reads primaryWith [lexeme] tree := by
  intro budget rest final
  refine .always (by omega) ?_
  exact (dispatch _ _ rfl).trans advance_return_before

theorem reads_string {literal : Quoted} (spelled : lexeme.token = .string literal) :
    Reads primaryWith [lexeme] (.string literal lexeme.position) := by
  refine reads_literal rfl fun inner cursor same => ?_
  rw [primary, current_bind, same, spelled]

theorem reads_integer (spelled : lexeme.token = .integer text) :
    Reads primaryWith [lexeme] (.integer text lexeme.position) := by
  refine reads_literal rfl fun inner cursor same => ?_
  rw [primary, current_bind, same, spelled]

theorem reads_decimal (spelled : lexeme.token = .decimal text) :
    Reads primaryWith [lexeme] (.decimal text lexeme.position) := by
  refine reads_literal rfl fun inner cursor same => ?_
  rw [primary, current_bind, same, spelled]

theorem reads_boolean {value : Bool} (spelled : lexeme.token = .boolean value) :
    Reads primaryWith [lexeme] (.boolean value lexeme.position) := by
  refine reads_literal rfl fun inner cursor same => ?_
  rw [primary, current_bind, same, spelled]

theorem reads_brackets (opens : opening.token = .openBracket)
    (reads : ReadsLevel 0 lexemes inner) (closes : closing.token = .closeBracket) :
    Reads primaryWith (opening :: (lexemes ++ [closing])) (.brackets inner opening.position) := by
  intro budget rest final
  have stops : (before final (closing :: rest)).Stops 0 := by simp [Stops, closes]
  have nested := reads.level budget (Nat.zero_le 0) stops
  unfold primaryWith primary
  rw [List.cons_append, List.append_assoc, current_bind, current_before_cons, opens]
  simp only [brackets]
  rw [bind_of_ok advance_before]
  refine (nested.bind_ok ?_).congr (by simp [Tree.demand])
  exact bind_of_ok (expect_before closes)

theorem reads_field {literal : Quoted} (spelled : keyword.token = .field)
    (opens : opening.token = .openBracket) (named : name.token = .string literal)
    (closes : closing.token = .closeBracket) :
    Reads primaryWith [keyword, opening, name, closing] (.field literal keyword.position) := by
  intro budget rest final
  refine .always (Nat.le_add_left 1 budget) ?_
  unfold primaryWith primary
  rw [List.cons_append, current_bind, current_before_cons, spelled]
  simp only [field, List.cons_append, List.nil_append]
  rw [bind_of_ok advance_before, bind_of_ok (expect_before opens), bind_of_ok (quoted_before named)]
  exact bind_of_ok (expect_before closes)

theorem reads_lookup {via target : Quoted} (spelled : keyword.token = .lookup)
    (opens : opening.token = .openBracket) (linked : link.token = .string via)
    (separated : comma.token = .comma) (named : name.token = .string target)
    (closes : closing.token = .closeBracket) :
    Reads primaryWith [keyword, opening, link, comma, name, closing]
      (.lookup via target keyword.position) := by
  intro budget rest final
  refine .always (Nat.le_add_left 1 budget) ?_
  unfold primaryWith primary
  rw [List.cons_append, current_bind, current_before_cons, spelled]
  simp only [lookup, List.cons_append, List.nil_append]
  rw [bind_of_ok advance_before, bind_of_ok (expect_before opens), bind_of_ok (quoted_before linked),
    bind_of_ok (expect_before separated), bind_of_ok (quoted_before named)]
  exact bind_of_ok (expect_before closes)

theorem reads_fieldById (spelled : keyword.token = .fieldById)
    (opens : opening.token = .openBracket) (numbered : name.token = .integer text)
    (closes : closing.token = .closeBracket) :
    Reads primaryWith [keyword, opening, name, closing] (.fieldById text keyword.position) := by
  intro budget rest final
  refine .always (Nat.le_add_left 1 budget) ?_
  unfold primaryWith primary
  rw [List.cons_append, current_bind, current_before_cons, spelled]
  simp only [fieldById, List.cons_append, List.nil_append]
  rw [bind_of_ok advance_before, bind_of_ok (expect_before opens),
    bind_of_ok (integer_before numbered)]
  exact bind_of_ok (expect_before closes)

theorem reads_emptyCall (named : name.token = .identifier text)
    (opens : opening.token = .openBracket) (closes : closing.token = .closeBracket) :
    Reads primaryWith [name, opening, closing] (.call text [] name.position) := by
  intro budget rest final
  refine .always (Nat.le_add_left 1 budget) ?_
  unfold primaryWith primary
  rw [List.cons_append, current_bind, current_before_cons, named]
  simp only [call, List.cons_append, List.nil_append]
  rw [bind_of_ok advance_before, bind_of_ok (expect_before opens), current_bind,
    current_before_cons, if_pos closes]
  exact advance_return_before

/-- There is room for all arguments, as each of them takes a lexeme at least. -/
theorem reads_call {args : List Tree} (named : name.token = .identifier text)
    (opens : opening.token = .openBracket) (arguments : Arguments lexemes args)
    (reads : ReadsArguments lexemes args) (closes : closing.token = .closeBracket) :
    Reads primaryWith (name :: opening :: (lexemes ++ [closing]))
      (.call text args name.position) := by
  intro budget rest final
  have fewer := arguments.length_le
  obtain ⟨first, others, rfl, opened⟩ := arguments.head_ne_close
  have nested := reads budget ((others ++ closing :: rest).length + 1) closing rest final
    (by simp only [List.length_append, List.length_cons] at fewer ⊢; omega) closes
  unfold primaryWith primary
  rw [List.cons_append, current_bind, current_before_cons, named]
  simp only [call, List.cons_append, List.append_assoc, List.nil_append] at nested ⊢
  rw [bind_of_ok advance_before, bind_of_ok (expect_before opens), current_bind,
    current_before_cons, if_neg opened, bind_of_ok (room_before)]
  exact nested.bind_ok rfl

end Primary

theorem reads_lastArgument (reads : ReadsLevel 0 lexemes tree) : ReadsArguments lexemes [tree] := by
  intro budget room closing rest final enough closes
  have stops : (before final (closing :: rest)).Stops 0 := by simp [Stops, closes]
  have nested := reads.level budget (Nat.zero_le 0) stops
  cases room with
  | zero => simp at enough
  | succ room =>
    simp only [arguments]
    refine (nested.bind_ok ?_).congr ?_
    · rw [current_bind, current_before_cons, closes]
      exact bind_of_ok advance_before
    · simp only [Tree.demandUnder]
      omega

theorem reads_moreArguments {comma : Lexeme} {trees : List Tree}
    (reads : ReadsLevel 0 lexemes tree) (separated : comma.token = .comma)
    (others : ReadsArguments rest trees) :
    ReadsArguments (lexemes ++ comma :: rest) (tree :: trees) := by
  intro budget room closing after final enough closes
  have stops : (before final (comma :: (rest ++ closing :: after))).Stops 0 := by
    simp [Stops, separated]
  have nested := reads.level budget (Nat.zero_le 0) stops
  cases room with
  | zero => simp at enough
  | succ room =>
    have following := others budget room closing after final (by simpa using enough) closes
    simp only [arguments, List.append_assoc, List.cons_append]
    refine nested.bind (fun _ => (?_ : Outcome (Tree.demandUnder trees ≤ budget + 1) _ _)) ?_
    · rw [current_bind, current_before_cons, separated]
      simp only
      rw [bind_of_ok advance_before]
      exact following.bind_ok rfl
    · simp only [Tree.demandUnder]
      omega

/-- No primary expression starts with a sign. -/
theorem reads_unsigned (derived : Primary lexemes tree) (reads : Reads primaryWith lexemes tree) :
    Reads signedWith lexemes tree := by
  intro budget rest final
  have unsigned : (before final (lexemes ++ rest)).current.token ≠ .operator .subtract := by
    cases derived <;> simp [*]
  exact (reads budget rest final).step (signed_primary unsigned)

/-- A sign folds into the numeral behind it and is a level of its own before anything else. -/
theorem reads_minus {sign : Lexeme} (spelled : sign.token = .operator .subtract)
    (derived : Operand lexemes tree) (reads : Reads signedWith lexemes tree) :
    Reads signedWith (sign :: lexemes) (negate sign lexemes tree) := by
  intro budget rest final
  obtain ⟨first, others, rfl, _⟩ := derived.head_ne_close
  have moved : advance (before final (sign :: (first :: others ++ rest))) =
    .ok sign (before final (first :: others ++ rest)) := advance_before
  obtain ⟨text, numeral⟩ | ⟨text, numeral⟩ | other := numeral_cases first.token
  · obtain rfl := derived.eq_nil_of_numeral (.inl numeral)
    rw [negate_integer numeral]
    refine .always (Nat.le_add_left 1 budget) ?_
    exact (signed_integer spelled moved numeral).trans advance_return_before
  · obtain rfl := derived.eq_nil_of_numeral (.inr numeral)
    rw [negate_decimal numeral]
    refine .always (Nat.le_add_left 1 budget) ?_
    exact (signed_decimal spelled moved numeral).trans advance_return_before
  · rw [negate_other other]
    refine Outcome.step (signed_negation spelled moved other) ?_
    exact ((reads.unary budget).bind_ok rfl).congr (by simp [Tree.demand])

section Chain

variable {level : Nat} {left right : Tree} {sign : Lexeme} {op : Operator}

theorem chained_of_operand (derived : Operand lexemes tree) : tree.chained = 0 := by
  cases derived with
  | minus spelled _ =>
    unfold negate
    split <;> rfl
  | primary primary => cases primary <;> rfl

theorem demand_le_of_chain (derived : Chain level left lexemes tree) :
    left.demand ≤ tree.demand := by
  generalize counted : lexemes.length = count
  induction count using Nat.strongRecOn generalizing left lexemes with
  | ind count ih =>
    cases derived with
    | done => exact Nat.le_refl _
    | more _ _ _ tail =>
      simp only [List.length_cons, List.length_append] at counted
      have grown := ih _ (by omega) tail rfl
      simp only [Tree.demand] at grown
      omega

/-- What stands behind the operands of a chain binds no tighter than its level. -/
theorem stops_before_chain (derived : Chain level left lexemes tree)
    (stops : (before final rest).Stops (level + 1)) :
    (before final (lexemes ++ rest)).Stops (level + 1) := by
  cases derived with
  | done => exact stops
  | more spelled joins _ _ =>
    intro other same
    have tight := mem_operatorsAt_iff.1 joins
    simp only [List.cons_append, current_before_cons, spelled, Token.operator.injEq] at same
    rw [← same]
    omega

theorem reads_operand (derived : Operand lexemes tree) (reads : Reads signedWith lexemes tree) :
    ReadsLevel 6 lexemes tree := by
  intro budget lowest rest final _ _
  rw [chained_of_operand derived]
  exact (reads budget rest final).bind_ok rfl

theorem reads_chain {first : List Lexeme} (head : ReadsLevel (level + 1) first left)
    (derived : Chain level left rest tree) (tail : ReadsChain level left rest tree) :
    ReadsLevel level (first ++ rest) tree := by
  intro budget lowest after final below stops
  have stopped := stops_before_chain derived stops
  have front := head budget lowest (rest ++ after) final (by omega) (stopped.mono (by omega))
  rw [List.append_assoc]
  refine front.trans (tail budget lowest after final below stops) ?_
  exact Nat.le_trans (demand_le_of_chain derived)

theorem reads_chainDone : ReadsChain level left [] left := by
  intro budget lowest rest final _ _ fit
  exact .always fit rfl

/-- Each operator of a chain takes one unit off what is left of the budget, and its right operand
is read with the next smaller one. -/
theorem reads_chainMore (spelled : sign.token = .operator op) (joins : op ∈ operatorsAt level)
    (operand : ReadsLevel (level + 1) lexemes right)
    (derived : Chain level (.binary op left right sign.position) rest tree)
    (tail : ReadsChain level (.binary op left right sign.position) rest tree) :
    ReadsChain level left (sign :: (lexemes ++ rest)) tree := by
  intro budget lowest after final below stops fit
  obtain rfl := mem_operatorsAt_iff.1 joins
  have grown := demand_le_of_chain derived
  have chained := left.chained_lt_demand
  simp only [Tree.demand] at grown
  rw [List.cons_append, List.append_assoc]
  cases left_over : budget - left.chained with
  | zero =>
    exact .never (by omega) ((chain_zero spelled below).trans (bind_of_ok advance_before))
  | succ room =>
    have following := operand.level budget (Nat.le_refl _) (stops_before_chain derived stops)
    have folded : room = budget - (Tree.binary op left right sign.position).chained := by
      simp only [Tree.chained]
      omega
    refine Outcome.step ((chain_succ spelled below).trans (bind_of_ok advance_before)) ?_
    rw [folded]
    refine following.bind (fun fits => tail budget lowest after final below stops ?_) (by omega)
    simp only [Tree.demand]
    omega

end Chain

mutual

theorem readsLevel_of_expression {level : Nat} {lexemes : List Lexeme} {tree : Tree} :
    Expression level lexemes tree → ReadsLevel level lexemes tree
  | .operand operand => reads_operand operand (reads_of_operand operand)
  | .chain _ head tail => reads_chain (readsLevel_of_expression head) tail (readsChain_of_chain tail)

theorem readsChain_of_chain {level : Nat} {lexemes : List Lexeme} {left tree : Tree} :
    Chain level left lexemes tree → ReadsChain level left lexemes tree
  | .done => reads_chainDone
  | .more spelled joins operand tail =>
    reads_chainMore spelled joins (readsLevel_of_expression operand) tail (readsChain_of_chain tail)

theorem reads_of_operand {lexemes : List Lexeme} {tree : Tree} :
    Operand lexemes tree → Reads signedWith lexemes tree
  | .minus spelled operand => reads_minus spelled operand (reads_of_operand operand)
  | .primary primary => reads_unsigned primary (reads_of_primary primary)

theorem reads_of_primary {lexemes : List Lexeme} {tree : Tree} :
    Primary lexemes tree → Reads primaryWith lexemes tree
  | .string spelled => reads_string spelled
  | .integer spelled => reads_integer spelled
  | .decimal spelled => reads_decimal spelled
  | .boolean spelled => reads_boolean spelled
  | .brackets opens expression closes =>
    reads_brackets opens (readsLevel_of_expression expression) closes
  | .field spelled opens named closes => reads_field spelled opens named closes
  | .lookup spelled opens linked separated named closes =>
    reads_lookup spelled opens linked separated named closes
  | .fieldById spelled opens numbered closes => reads_fieldById spelled opens numbered closes
  | .emptyCall named opens closes => reads_emptyCall named opens closes
  | .call named opens arguments closes =>
    reads_call named opens arguments (readsArguments_of_arguments arguments) closes

theorem readsArguments_of_arguments {lexemes : List Lexeme} {trees : List Tree} :
    Arguments lexemes trees → ReadsArguments lexemes trees
  | .last expression => reads_lastArgument (readsLevel_of_expression expression)
  | .more expression separated others =>
    reads_moreArguments (readsLevel_of_expression expression) separated
      (readsArguments_of_arguments others)

end

/-- A derived formula is parsed exactly if the limit covers its demand. -/
theorem formula_complete (limits : Limits) (derived : Expression 0 lexemes tree)
    (ended : final.token = .endOfInput) :
    Outcome (tree.demand ≤ limits.maxDepth + 1) (formula limits (before final lexemes))
      (.ok tree (before final [])) := by
  have stops : (before final []).Stops 0 := by simp [Stops, ended]
  have parsed := (readsLevel_of_expression derived).level (limits.maxDepth + 1) (Nat.zero_le 0) stops
  rw [List.append_nil] at parsed
  refine parsed.bind_ok ?_
  rw [current_bind, current_before_nil, if_pos ended]
  rfl

end FieldFormula.Parse
