import FieldFormula.Proofs.Expr.Build
import FieldFormula.Proofs.Name
import FieldFormula.Proofs.Numeral
import FieldFormula.Proofs.Parser.Tokens
import FieldFormula.Proofs.Registry

/-! What sources are built to: expressions that keep to the limits, whose texts can be written as
literals, and whose calls bear the names that their functions are registered under and called by. -/

namespace FieldFormula

namespace Expr

/-- A text that keeps to the limit and can be written as a literal. -/
structure Writable (limits : Limits) (text : String) : Prop where
  short : text.length ≤ limits.maxStringLength
  quoted : ∃ literal, Quoted.ofValue? text = some literal

theorem writable_of_readString {limits : Limits} {literal : Quoted} {text : String}
    (wellFormed : literal.WellFormed) (read : readString limits literal = .ok text) :
    Writable limits text := by
  unfold readString at read
  split at read
  · cases read
  · next short =>
    cases read
    exact ⟨Nat.not_lt.1 short, Quoted.exists_ofValue? wellFormed⟩

theorem callable_of_resolveFunction {registry : Registry} {name : String} {count : Nat}
    {definition : Definition} (spelled : Token.ofName name.toList = .identifier name)
    (resolved : resolveFunction registry name count = .ok definition) :
    Token.Callable definition.name := by
  obtain ⟨found, _⟩ := resolveFunction_eq_ok_iff.1 resolved
  rcases Registry.get?_eq_some found with held | held
  · exact .inl (Registry.eq_name_of_functions_get? held ▸ spelled)
  · exact .inr ⟨name, (Registry.eq_name_of_functions_get? held).symm⟩

mutual

/-- An expression that lies so many levels deep can have been built from a source. -/
inductive Admissible (registry : Registry) (limits : Limits) : Nat → Expr Unit → Prop
  | string {depth : Nat} {value : String} (within : depth ≤ limits.maxDepth)
      (writable : Writable limits value) : Admissible registry limits depth (.string value ())
  | integer {depth : Nat} {value : Int64} (within : depth ≤ limits.maxDepth) :
      Admissible registry limits depth (.integer value ())
  | decimal {depth : Nat} {value : Decimal} (within : depth ≤ limits.maxDepth)
      (large : value.scale = 0 → ¬ (Int64.minValue.toInt ≤ value.coefficient ∧
        value.coefficient ≤ Int64.maxValue.toInt)) :
      Admissible registry limits depth (.decimal value ())
  | boolean {depth : Nat} {value : Bool} (within : depth ≤ limits.maxDepth) :
      Admissible registry limits depth (.boolean value ())
  | field {depth : Nat} {field : String} (within : depth ≤ limits.maxDepth)
      (writable : Writable limits field) :
      Admissible registry limits depth (.reference field none ())
  | lookup {depth : Nat} {field link : String} (within : depth ≤ limits.maxDepth)
      (linkWritable : Writable limits link) (fieldWritable : Writable limits field)
      (named : ¬ (link.isEmpty || field.isEmpty)) :
      Admissible registry limits depth (.reference field (some link) ())
  | call {depth : Nat} {definition : Definition} {args : List (Expr Unit)}
      (within : depth ≤ limits.maxDepth)
      (resolved : resolveFunction registry definition.name args.length = .ok definition)
      (callable : Token.Callable definition.name)
      (inside : AdmissibleAll registry limits (depth + 1) args) :
      Admissible registry limits depth (.call definition.name args ())

inductive AdmissibleAll (registry : Registry) (limits : Limits) : Nat → List (Expr Unit) → Prop
  | nil {depth : Nat} : AdmissibleAll registry limits depth []
  | cons {depth : Nat} {arg : Expr Unit} {args : List (Expr Unit)}
      (first : Admissible registry limits depth arg)
      (others : AdmissibleAll registry limits depth args) :
      AdmissibleAll registry limits depth (arg :: args)

end

variable {registry : Registry} {limits : Limits}

mutual

/-- Brackets leave no trace, so an expression lies at most as deep as its tree. -/
theorem Builds.admissible {start : Nat} {tree : Tree} {expr : Expr Unit} :
    Builds registry limits start tree expr → tree.EachToken Token.Genuine →
      ∀ depth ≤ start, Admissible registry limits depth expr
  | .string within read, genuine => fun _ above =>
    .string (Nat.le_trans above within) (writable_of_readString genuine read)
  | .integer within _, _ => fun _ above => .integer (Nat.le_trans above within)
  | .decimal within read, _ => fun _ above =>
    .decimal (Nat.le_trans above within) (Decimal.out_of_range_of_readDecimal read)
  | .boolean within, _ => fun _ above => .boolean (Nat.le_trans above within)
  | .brackets _ inside, genuine => fun _ above =>
    inside.admissible genuine _ (Nat.le_succ_of_le above)
  | .negation within resolved inside, genuine => fun _ above =>
    .call (Nat.le_trans above within) (resolveFunction_name resolved)
      (callable_of_resolveFunction (by decide) resolved)
      (.cons (.integer (Nat.le_trans (Nat.succ_le_succ above) inside.within))
        (.cons (inside.admissible genuine _ (Nat.succ_le_succ above)) .nil))
  | .binary within stands resolved left right, genuine => fun _ above =>
    .call (Nat.le_trans above within) (resolveFunction_name resolved)
      (callable_of_resolveFunction (Token.ofName_function stands) resolved)
      (.cons (left.admissible genuine.1 _ (Nat.succ_le_succ above))
        (.cons (right.admissible genuine.2 _ (Nat.succ_le_succ above)) .nil))
  | .call within resolved inside, genuine => fun _ above =>
    .call (Nat.le_trans above within)
      (by rw [inside.length_eq]; exact resolveFunction_name resolved)
      (callable_of_resolveFunction genuine.1 resolved)
      (inside.admissible genuine.2 _ (Nat.succ_le_succ above))
  | .field within read, genuine => fun _ above =>
    .field (Nat.le_trans above within) (writable_of_readString genuine read)
  | .lookup within readLink readField named, genuine => fun _ above =>
    .lookup (Nat.le_trans above within) (writable_of_readString genuine.1 readLink)
      (writable_of_readString genuine.2 readField) named

theorem BuildsAll.admissible {start : Nat} {trees : List Tree} {exprs : List (Expr Unit)} :
    BuildsAll registry limits start trees exprs → Tree.EachTokenOfAll Token.Genuine trees →
      ∀ depth ≤ start, AdmissibleAll registry limits depth exprs
  | .nil, _ => fun _ _ => .nil
  | .cons first others, genuine => fun depth above =>
    .cons (first.admissible genuine.1 depth above) (others.admissible genuine.2 depth above)

end

end Expr

end FieldFormula
