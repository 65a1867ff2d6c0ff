import FieldFormula.Proofs.Feed
import FieldFormula.Proofs.Parser.Completeness
import FieldFormula.Proofs.Parser.Soundness

/-! The parser accepts exactly the formulas of the grammar, and returns their tree. Since it is a
function, no sequence of lexemes has two trees. -/

namespace FieldFormula

open Grammar

variable {limits : Limits} {source : String} {tree : Tree} {lexemes : List Lexeme} {final : Lexeme}

/-- A source that is parsed has no faults, and its lexemes derive the tree. -/
theorem Tree.parse_sound (parsed : Tree.parse limits source = .ok tree) :
    ∃ lexemes final, Feed.ofSource source = .ofLexemes lexemes final ∧
      final.token = .endOfInput ∧ Expression 0 lexemes tree := by
  unfold Tree.parse Parse.start at parsed
  split at parsed
  · next current feed moved =>
    simp only [bind, Except.bind] at parsed
    split at parsed
    · next last succeeded =>
      cases parsed
      obtain ⟨lexemes, passes, derived, ended⟩ := Parse.formula_sound succeeded
      have same := (Feed.ofSource_regular source).eq_ofLexemes moved passes derived.ne_end ended
      exact ⟨lexemes, last.current, same, ended, derived⟩
    · cases parsed
  · cases parsed

theorem Parse.start_of_ofLexemes (fed : Feed.ofSource source = .ofLexemes lexemes final) :
    Parse.start source = .ok (.before final lexemes) := by
  unfold Parse.start
  rw [fed]
  cases lexemes <;> rfl

/-- The limit decides between the tree of a source and its rejection. -/
theorem Tree.parse_complete (limits : Limits) (fed : Feed.ofSource source = .ofLexemes lexemes final)
    (ended : final.token = .endOfInput) (derived : Expression 0 lexemes tree) :
    Tree.parse limits source =
      if tree.demand ≤ limits.maxDepth + 1 then .ok tree else .error .tooLarge := by
  have outcome := Parse.formula_complete limits derived ended
  unfold Tree.parse
  rw [Parse.start_of_ofLexemes fed]
  simp only [bind, Except.bind]
  by_cases fits : tree.demand ≤ limits.maxDepth + 1
  · rw [outcome.ok fits, if_pos fits]
  · obtain ⟨cursor, failed⟩ := outcome.tooLarge fits
    rw [failed, if_neg fits]

/-- Every level of the tree takes a character of the source. -/
theorem Tree.height_lt_of_derived (fed : Feed.ofSource source = .ofLexemes lexemes final)
    (derived : Expression 0 lexemes tree) : tree.height < source.length := by
  have taken := Feed.ofSource_length_le source
  rw [fed] at taken
  simp only [Feed.ofLexemes, List.length_map] at taken
  exact Nat.lt_of_lt_of_le derived.height_lt taken

/-- With a limit of the length of the source, every derived tree is returned. -/
theorem Tree.parse_of_derived (enough : source.length ≤ limits.maxDepth)
    (fed : Feed.ofSource source = .ofLexemes lexemes final) (ended : final.token = .endOfInput)
    (derived : Expression 0 lexemes tree) : Tree.parse limits source = .ok tree := by
  have levels := Tree.height_lt_of_derived fed derived
  have demand := tree.demand_le_height
  rw [Tree.parse_complete limits fed ended derived, if_pos (by omega)]

/-- The parser reads both trees with a limit that covers their demands, so they are one. -/
theorem Grammar.Expression.unique {first second : Tree} (one : Expression 0 lexemes first)
    (other : Expression 0 lexemes second) : first = second := by
  let limits : Limits := ⟨first.demand + second.demand, 0⟩
  let final : Lexeme := ⟨.endOfInput, "", .start⟩
  have parsedFirst := (Parse.formula_complete limits one (rfl : final.token = _)).ok
    (by simp only [limits]; omega)
  have parsedSecond := (Parse.formula_complete limits other (rfl : final.token = _)).ok
    (by simp only [limits]; omega)
  cases parsedFirst.symm.trans parsedSecond
  rfl

/-- The parser accepts exactly the lexemes that the grammar derives as a formula and returns their
tree, which is the only one. -/
theorem Tree.parse_eq_ok_iff_root (limits : Limits) (source : String)
    (enough : source.length ≤ limits.maxDepth) :
    (∀ tree, Tree.parse limits source = .ok tree ↔
      ∃ lexemes, (Feed.ofSource source).lexemes = .ok lexemes ∧ Root lexemes tree) ∧
    ∀ lexemes first second, Root lexemes first → Root lexemes second → first = second := by
  refine ⟨fun tree => ⟨?_, ?_⟩, ?_⟩
  · intro parsed
    obtain ⟨lexemes, final, fed, ended, derived⟩ := Tree.parse_sound parsed
    rw [fed]
    exact ⟨lexemes ++ [final], Feed.lexemes_ofLexemes lexemes final, .intro derived ended⟩
  · rintro ⟨all, read, @⟨lexemes, final, _, derived, ended⟩⟩
    obtain ⟨others, last, fed, split, _⟩ := (Feed.ofSource_regular source).of_lexemes read
    obtain ⟨rfl, same⟩ := List.append_inj' split rfl
    cases same
    exact Tree.parse_of_derived enough fed ended derived
  · rintro all first second ⟨derived, _⟩ other
    generalize same : _ ++ [_] = all at other
    obtain ⟨otherDerived, _⟩ := other
    obtain ⟨rfl, _⟩ := List.append_inj' same rfl
    exact derived.unique otherDerived

/-- A sign is folded into its numeral, and equal operators group to the left. -/
theorem Tree.parse_signed_differences :
    "-1-2-3".length ≤ 6 ∧ Tree.parse ⟨6, 0⟩ "-1-2-3" =
      .ok (.binary .subtract (.binary .subtract (.integer "-1" ⟨1, 0⟩) (.integer "2" ⟨1, 3⟩)
        ⟨1, 2⟩) (.integer "3" ⟨1, 5⟩) ⟨1, 4⟩) := by
  let minus (column : Nat) : Lexeme := ⟨.operator .subtract, "-", 1, column⟩
  let numeral (digit : String) (column : Nat) : Lexeme := ⟨.integer digit, digit, 1, column⟩
  have read : (Feed.ofSource "-1-2-3").lexemes = .ok ([minus 0, numeral "1" 1, minus 2,
      numeral "2" 3, minus 4, numeral "3" 5] ++ [⟨.endOfInput, "", 1, 6⟩]) := rfl
  have operand (digit : String) (column : Nat) :
      Expression 5 [numeral digit column] (.integer digit ⟨1, column⟩) :=
    (Expression.operand (.primary (.integer rfl))).loosen (by decide)
  have signed : Expression 5 [minus 0, numeral "1" 1] (.integer "-1" ⟨1, 0⟩) :=
    (Expression.operand (.minus rfl (.primary (.integer rfl)))).loosen (by decide)
  have spelled (column : Nat) : (minus column).token = .operator .subtract := rfl
  have joins : .subtract ∈ operatorsAt 4 := by decide
  have derived := Expression.chain (by decide) signed
    (.more (spelled 2) joins (operand "2" 3) (.more (spelled 4) joins (operand "3" 5) .done))
  have enough : "-1-2-3".length ≤ 6 := by decide
  refine ⟨enough, ((Tree.parse_eq_ok_iff_root _ _ enough).1 _).2 ⟨_, read, ?_⟩⟩
  exact .intro (derived.loosen (by decide)) rfl

end FieldFormula
