import Mathlib.Control.Monad.Basic
import FieldFormula.Compiler
import FieldFormula.Proofs.Expr.Check
import FieldFormula.Proofs.Parser.Cursor

/-! Limits cut off and do nothing else. Under wider limits every function of the compiler goes through
the same steps as under tighter ones, up to the place where the tighter limits end it; so a result
that no limit is the reason for is the result under all wider limits. -/

namespace FieldFormula

/-- Whether a limit is the reason for an error. -/
def Error.isLimit : Error → Bool
  | tooLarge | stringTooLong _ => true
  | _ => false

/-- A result under tight limits is the one under wide limits, unless a limit has cut it off. -/
inductive CutShort {α : Type} : Except Error α → Except Error α → Prop
  | same {result : Except Error α} : CutShort result result
  | cut {error : Error} {result : Except Error α} (limit : error.isLimit = true) :
      CutShort (.error error) result

theorem CutShort.bind {α β : Type} {tight wide : Except Error α} {next nextWide : α → Except Error β}
    (start : CutShort tight wide) (step : ∀ value, CutShort (next value) (nextWide value)) :
    CutShort (tight >>= next) (wide >>= nextWide) := by
  cases start with
  | cut limit => exact .cut limit
  | same =>
    cases tight with
    | error error => exact .same
    | ok value => exact step value

theorem CutShort.eq {α : Type} {tight wide : Except Error α} (short : CutShort tight wide)
    (whole : ∀ error, error.isLimit = true → tight ≠ .error error) : wide = tight := by
  cases short with
  | same => rfl
  | cut limit => exact absurd rfl (whole _ limit)

namespace Parse

variable {α β : Type}

/-- A parser with a small budget does what one with a large budget does, unless it gives up. -/
def StopsShort (tight wide : Parse α) : Prop :=
  ∀ cursor, tight cursor = wide cursor ∨ ∃ last, tight cursor = .error .tooLarge last

theorem StopsShort.refl (parser : Parse α) : StopsShort parser parser :=
  fun _ => .inl rfl

theorem StopsShort.bind {tight wide : Parse α} {next nextWide : α → Parse β}
    (start : StopsShort tight wide) (step : ∀ value, StopsShort (next value) (nextWide value)) :
    StopsShort (tight >>= next) (wide >>= nextWide) := by
  intro cursor
  rcases start cursor with same | ⟨last, cut⟩
  · cases reached : tight cursor with
    | ok value middle =>
      rw [bind_of_ok reached, bind_of_ok (same.symm.trans reached)]
      exact step value middle
    | error error last =>
      rw [bind_of_error reached, bind_of_error (same.symm.trans reached)]
      exact .inl rfl
  · exact .inr ⟨last, bind_of_error cut⟩

theorem brackets_stopsShort {tight wide : Parse Tree} (inner : StopsShort tight wide)
    (position : Position) : StopsShort (brackets tight position) (brackets wide position) :=
  (StopsShort.refl advance).bind fun _ => inner.bind fun _ => .refl _

theorem arguments_stopsShort {tight wide : Parse Tree} (argument : StopsShort tight wide)
    (room : Nat) : StopsShort (arguments tight room) (arguments wide room) := by
  induction room with
  | zero => exact .refl _
  | succ room ih =>
    rw [arguments, arguments]
    refine argument.bind fun first => (StopsShort.refl current).bind fun found => ?_
    cases found.token with
    | comma => exact (StopsShort.refl advance).bind fun _ => ih.bind fun _ => .refl _
    | _ => exact .refl _

theorem call_stopsShort {tight wide : Parse Tree} (argument : StopsShort tight wide) (name : String)
    (position : Position) : StopsShort (call tight name position) (call wide name position) := by
  refine (StopsShort.refl advance).bind fun _ => (StopsShort.refl _).bind fun _ =>
    (StopsShort.refl current).bind fun found => ?_
  by_cases closed : found.token = .closeBracket
  · rw [if_pos closed, if_pos closed]
    exact .refl _
  · rw [if_neg closed, if_neg closed]
    exact (StopsShort.refl room).bind fun room =>
      (arguments_stopsShort argument room).bind fun _ => .refl _

theorem primary_stopsShort {tight wide : Parse Tree} (inner : StopsShort tight wide) :
    StopsShort (primary tight) (primary wide) := by
  refine (StopsShort.refl current).bind fun first => ?_
  cases first.token with
  | openBracket => exact brackets_stopsShort inner _
  | identifier name => exact call_stopsShort inner name _
  | _ => exact .refl _

theorem signed_stopsShort {tight wide tightOperand wideOperand : Parse Tree}
    (inner : StopsShort tight wide) (operand : StopsShort tightOperand wideOperand) :
    StopsShort (signed tight tightOperand) (signed wide wideOperand) := by
  refine (StopsShort.refl current).bind fun first => ?_
  by_cases sign : first.token = .operator .subtract
  · rw [if_pos sign, if_pos sign]
    refine (StopsShort.refl advance).bind fun _ => (StopsShort.refl current).bind fun second => ?_
    cases second.token with
    | integer | decimal => exact .refl _
    | _ => exact operand.bind fun _ => .refl _
  · rw [if_neg sign, if_neg sign]
    exact primary_stopsShort inner

theorem join_stopsShort {tight wide : Operator → Position → Parse Tree}
    (next : ∀ op position, StopsShort (tight op position) (wide op position)) (lowest : Nat)
    (left : Tree) : StopsShort (join lowest left tight) (join lowest left wide) := by
  unfold join
  refine (StopsShort.refl current).bind fun found => ?_
  cases found.token.operator? with
  | none => exact .refl _
  | some op =>
    simp only
    split
    · exact .refl _
    · exact (StopsShort.refl advance).bind fun _ => next op found.position

/-- A chain that has no room left gives up at its next operator. -/
theorem chain_stopsShort {tight wide : Nat → Parse Tree}
    (operand : ∀ lowest, StopsShort (tight lowest) (wide lowest)) (lowest : Nat) {room more : Nat}
    (enough : room ≤ more) (left : Tree) :
    StopsShort (chain tight lowest room left) (chain wide lowest more left) := by
  induction room generalizing more left with
  | zero =>
    cases more with
    | zero => exact join_stopsShort (fun _ _ => .refl _) lowest left
    | succ more => exact join_stopsShort (fun _ _ cursor => .inr ⟨cursor, rfl⟩) lowest left
  | succ room ih =>
    obtain ⟨more, rfl⟩ := Nat.exists_eq_add_of_le' (Nat.le_trans (Nat.le_add_left 1 room) enough)
    refine join_stopsShort (fun op position => ?_) lowest left
    exact (operand _).bind fun right => ih (Nat.le_of_succ_le_succ enough) _

/-- Both kinds of expressions go one unit of the budget deeper at a time. -/
theorem unary_level_stopsShort (budget : Nat) : ∀ more, budget ≤ more →
    StopsShort (unary budget) (unary more) ∧
      ∀ lowest, StopsShort (level budget lowest) (level more lowest) := by
  induction budget with
  | zero =>
    intro more _
    exact ⟨fun cursor => .inr ⟨cursor, rfl⟩, fun _ cursor => .inr ⟨cursor, rfl⟩⟩
  | succ budget ih =>
    intro more enough
    obtain ⟨more, rfl⟩ := Nat.exists_eq_add_of_le' (Nat.le_trans (Nat.le_add_left 1 budget) enough)
    obtain ⟨unary, level⟩ := ih more (Nat.le_of_succ_le_succ enough)
    have operand := signed_stopsShort (level 0) unary
    refine ⟨operand, fun lowest => ?_⟩
    exact operand.bind fun left => chain_stopsShort level lowest (Nat.le_of_succ_le_succ enough) left

variable {tight wide : Limits}

theorem formula_stopsShort (deeper : tight.maxDepth ≤ wide.maxDepth) :
    StopsShort (formula tight) (formula wide) := by
  have level := (unary_level_stopsShort (tight.maxDepth + 1) _ (Nat.succ_le_succ deeper)).2 0
  exact StopsShort.bind level fun _ => .refl _

end Parse

variable {tight wide : Limits}

/-- What is more than a wide limit admits is more than a tight one admits. -/
theorem CutShort.within {α : Type} {most mostWide amount : Nat} {error errorWide : Error}
    {result resultWide : Except Error α} (wider : most ≤ mostWide) (limit : error.isLimit = true)
    (inner : CutShort result resultWide) :
    CutShort (if most < amount then .error error else result)
      (if mostWide < amount then .error errorWide else resultWide) := by
  by_cases exceeds : most < amount
  · rw [if_pos exceeds]
    exact .cut limit
  · have holds : ¬ mostWide < amount := by omega
    rw [if_neg exceeds, if_neg holds]
    exact inner

theorem Tree.parse_cutShort (deeper : tight.maxDepth ≤ wide.maxDepth) (source : String) :
    CutShort (Tree.parse tight source) (Tree.parse wide source) := by
  refine CutShort.same.bind fun cursor => ?_
  rcases Parse.formula_stopsShort deeper cursor with same | ⟨last, cut⟩
  · rw [same]
    exact .same
  · rw [cut]
    exact .cut rfl

namespace Expr

theorem readString_cutShort (longer : tight.maxStringLength ≤ wide.maxStringLength)
    (literal : Quoted) : CutShort (readString tight literal) (readString wide literal) := by
  unfold readString
  exact .within longer rfl .same

variable {α : Type} {registry : Registry} {resolve : Resolver}

mutual

theorem buildAt_cutShort (deeper : tight.maxDepth ≤ wide.maxDepth)
    (longer : tight.maxStringLength ≤ wide.maxStringLength) (depth : Nat) : (tree : Tree) →
    CutShort (buildAt registry tight depth tree) (buildAt registry wide depth tree)
  | .string literal position => by
    rw [buildAt, buildAt]
    exact .within deeper rfl ((readString_cutShort longer literal).bind fun _ => .same)
  | .integer text position | .decimal text position | .boolean value position
  | .fieldById id position => by
    rw [buildAt, buildAt]
    exact .within deeper rfl .same
  | .brackets inner position => by
    rw [buildAt, buildAt]
    exact .within deeper rfl (buildAt_cutShort deeper longer (depth + 1) inner)
  | .negation operand position => by
    rw [buildAt, buildAt]
    refine .within deeper rfl (CutShort.same.bind fun definition => ?_)
    exact (buildAt_cutShort deeper longer (depth + 1) operand).bind fun _ => .same
  | .binary op left right position => by
    rw [buildAt, buildAt]
    refine .within deeper rfl ?_
    cases op.function? with
    | none => exact .same
    | some function =>
      refine CutShort.same.bind fun definition => ?_
      exact (buildAt_cutShort deeper longer (depth + 1) left).bind fun _ =>
        (buildAt_cutShort deeper longer (depth + 1) right).bind fun _ => .same
  | .call name args position => by
    rw [buildAt, buildAt]
    refine .within deeper rfl (CutShort.same.bind fun definition => ?_)
    exact (buildAllAt_cutShort deeper longer (depth + 1) args).bind fun _ => .same
  | .field name position => by
    rw [buildAt, buildAt]
    exact .within deeper rfl ((readString_cutShort longer name).bind fun _ => .same)
  | .lookup via target position => by
    rw [buildAt, buildAt]
    exact .within deeper rfl ((readString_cutShort longer via).bind fun _ =>
      (readString_cutShort longer target).bind fun _ => .same)

theorem buildAllAt_cutShort (deeper : tight.maxDepth ≤ wide.maxDepth)
    (longer : tight.maxStringLength ≤ wide.maxStringLength) (depth : Nat) : (trees : List Tree) →
    CutShort (buildAllAt registry tight depth trees) (buildAllAt registry wide depth trees)
  | [] => .same
  | tree :: trees => by
    rw [buildAllAt, buildAllAt]
    exact (buildAt_cutShort deeper longer depth tree).bind fun _ =>
      (buildAllAt_cutShort deeper longer depth trees).bind fun _ => .same

end

theorem checkAllAt_cutShort {depth : Nat} {args : List (Expr α)}
    (each : ∀ arg ∈ args, CutShort (checkAt registry resolve tight depth arg)
      (checkAt registry resolve wide depth arg)) :
    CutShort (checkAllAt registry resolve tight depth args)
      (checkAllAt registry resolve wide depth args) := by
  induction args with
  | nil => exact .same
  | cons arg args ih =>
    rw [checkAllAt, checkAllAt]
    refine (each arg List.mem_cons_self).bind fun _ => ?_
    exact (ih fun other member => each other (List.mem_cons_of_mem _ member)).bind fun _ => .same

theorem checkAt_cutShort (deeper : tight.maxDepth ≤ wide.maxDepth) (depth : Nat) (expr : Expr α) :
    CutShort (checkAt registry resolve tight depth expr)
      (checkAt registry resolve wide depth expr) := by
  induction expr using induction_on_args generalizing depth with
  | string | integer | decimal | boolean | reference =>
    rw [checkAt, checkAt]
    exact .within deeper rfl .same
  | call function args note ih =>
    rw [checkAt, checkAt]
    refine .within deeper rfl (CutShort.same.bind fun definition => ?_)
    exact (checkAllAt_cutShort fun arg member => ih arg member (depth + 1)).bind fun _ => .same

end Expr

namespace Compiler

theorem compile_cutShort {registry : Registry} {resolve : Resolver}
    (deeper : tight.maxDepth ≤ wide.maxDepth)
    (longer : tight.maxStringLength ≤ wide.maxStringLength) (source : String) :
    CutShort (compile ⟨registry, tight⟩ resolve source)
      (compile ⟨registry, wide⟩ resolve source) := by
  have read : CutShort (Compiler.read ⟨registry, tight⟩ source)
      (Compiler.read ⟨registry, wide⟩ source) :=
    (Tree.parse_cutShort deeper source).bind fun tree =>
      Expr.buildAt_cutShort deeper longer 0 tree
  exact read.bind fun expr => (Expr.checkAt_cutShort deeper 0 expr).bind fun _ => .same

/-- A formula that compiles, or that fails for another reason than a limit, does so with the same
result under all wider limits. -/
theorem compile_of_wider_limits (registry : Registry) (resolve : Resolver) (source : String)
    (tight wide : Limits) (deeper : tight.maxDepth ≤ wide.maxDepth)
    (longer : tight.maxStringLength ≤ wide.maxStringLength)
    (notTooLarge : compile ⟨registry, tight⟩ resolve source ≠ .error .tooLarge)
    (notTooLong : ∀ most, compile ⟨registry, tight⟩ resolve source ≠ .error (.stringTooLong most)) :
    compile ⟨registry, wide⟩ resolve source = compile ⟨registry, tight⟩ resolve source := by
  refine (compile_cutShort deeper longer source).eq fun error limit failed => ?_
  cases error with
  | tooLarge => exact notTooLarge failed
  | stringTooLong most => exact notTooLong most failed
  | _ => cases limit

/-- A text that is too long goes unnoticed where the formula is malformed behind it. -/
theorem compile_of_wider_limits_of_malformed :
    compile ⟨.empty, ⟨0, 1⟩⟩ Schema.empty.resolve "'ab'" = .error (.stringTooLong 1) ∧
    compile ⟨.empty, ⟨100, 10000⟩⟩ Schema.empty.resolve "'ab' 1" =
      .error (.malformed ⟨.mismatched "1" .endOfFormula, ⟨1, 5⟩⟩) := by
  have tight : compile ⟨.empty, ⟨0, 1⟩⟩ Schema.empty.resolve "'ab' 1" =
      .error (.malformed ⟨.mismatched "1" .endOfFormula, ⟨1, 5⟩⟩) := by
    decide +kernel
  refine ⟨by decide +kernel, ?_⟩
  rw [← tight]
  refine compile_of_wider_limits .empty _ _ ⟨0, 1⟩ ⟨100, 10000⟩ (by decide) (by decide) ?_ ?_
  · rw [tight]
    rintro ⟨⟩
  · rw [tight]
    rintro most ⟨⟩

end Compiler

end FieldFormula
