import FieldFormula.Expr.Build

/-! What building can do: one rule for each kind of tree, with all that has been checked on the way.
Whatever holds of built expressions is shown by induction on these rules. -/

namespace FieldFormula

/-- Both steps of a computation have to succeed. -/
theorem bind_eq_ok_iff {ε α β : Type} {first : Except ε α} {next : α → Except ε β} {result : β} :
    (first >>= next) = .ok result ↔ ∃ value, first = .ok value ∧ next value = .ok result := by
  cases first with
  | error error => simp [bind, Except.bind]
  | ok value => simp [bind, Except.bind]

theorem ok_bind {ε α β : Type} (value : α) (next : α → Except ε β) :
    (Except.ok value >>= next) = next value := rfl

namespace Expr

mutual

/-- A tree that lies so many levels deep is built to an expression. -/
inductive Builds (registry : Registry) (limits : Limits) : Nat → Tree → Expr Unit → Prop
  | string {depth : Nat} {literal : Quoted} {position : Position} {value : String}
      (within : depth ≤ limits.maxDepth) (read : readString limits literal = .ok value) :
      Builds registry limits depth (.string literal position) (.string value ())
  | integer {depth : Nat} {text : String} {position : Position} {value : Int64}
      (within : depth ≤ limits.maxDepth) (read : readInteger text position = .ok value) :
      Builds registry limits depth (.integer text position) (.integer value ())
  | decimal {depth : Nat} {text : String} {position : Position} {value : Decimal}
      (within : depth ≤ limits.maxDepth) (read : readDecimal text position = .ok value) :
      Builds registry limits depth (.decimal text position) (.decimal value ())
  | boolean {depth : Nat} {value : Bool} {position : Position}
      (within : depth ≤ limits.maxDepth) :
      Builds registry limits depth (.boolean value position) (.boolean value ())
  | brackets {depth : Nat} {inner : Tree} {position : Position} {expr : Expr Unit}
      (within : depth ≤ limits.maxDepth) (inside : Builds registry limits (depth + 1) inner expr) :
      Builds registry limits depth (.brackets inner position) expr
  | negation {depth : Nat} {operand : Tree} {position : Position} {definition : Definition}
      {value : Expr Unit} (within : depth ≤ limits.maxDepth)
      (resolved : resolveFunction registry "minus" 2 = .ok definition)
      (inside : Builds registry limits (depth + 1) operand value) :
      Builds registry limits depth (.negation operand position)
        (.call definition.name [.integer 0 (), value] ())
  | binary {depth : Nat} {op : Operator} {left right : Tree} {position : Position}
      {function : String} {definition : Definition} {first second : Expr Unit}
      (within : depth ≤ limits.maxDepth) (stands : op.function? = some function)
      (resolved : resolveFunction registry function 2 = .ok definition)
      (leftInside : Builds registry limits (depth + 1) left first)
      (rightInside : Builds registry limits (depth + 1) right second) :
      Builds registry limits depth (.binary op left right position)
        (.call definition.name [first, second] ())
  | call {depth : Nat} {name : String} {args : List Tree} {position : Position}
      {definition : Definition} {values : List (Expr Unit)} (within : depth ≤ limits.maxDepth)
      (resolved : resolveFunction registry name args.length = .ok definition)
      (inside : BuildsAll registry limits (depth + 1) args values) :
      Builds registry limits depth (.call name args position) (.call definition.name values ())
  | field {depth : Nat} {name : Quoted} {position : Position} {field : String}
      (within : depth ≤ limits.maxDepth) (read : readString limits name = .ok field) :
      Builds registry limits depth (.field name position) (.reference field none ())
  | lookup {depth : Nat} {via target : Quoted} {position : Position} {link field : String}
      (within : depth ≤ limits.maxDepth) (readLink : readString limits via = .ok link)
      (readField : readString limits target = .ok field)
      (named : ¬ (link.isEmpty || field.isEmpty)) :
      Builds registry limits depth (.lookup via target position) (.reference field (some link) ())

inductive BuildsAll (registry : Registry) (limits : Limits) :
    Nat → List Tree → List (Expr Unit) → Prop
  | nil {depth : Nat} : BuildsAll registry limits depth [] []
  | cons {depth : Nat} {tree : Tree} {trees : List Tree} {expr : Expr Unit}
      {exprs : List (Expr Unit)} (first : Builds registry limits depth tree expr)
      (others : BuildsAll registry limits depth trees exprs) :
      BuildsAll registry limits depth (tree :: trees) (expr :: exprs)

end

variable {registry : Registry} {limits : Limits}

theorem BuildsAll.length_eq {depth : Nat} {trees : List Tree} {exprs : List (Expr Unit)} :
    BuildsAll registry limits depth trees exprs → exprs.length = trees.length
  | .nil => rfl
  | .cons _ others => congrArg Nat.succ others.length_eq

theorem Builds.within {depth : Nat} {tree : Tree} {expr : Expr Unit}
    (built : Builds registry limits depth tree expr) : depth ≤ limits.maxDepth := by
  cases built <;> assumption

theorem within_of_buildAt {depth : Nat} {tree : Tree} {expr : Expr Unit}
    (built : buildAt registry limits depth tree = .ok expr) : depth ≤ limits.maxDepth := by
  unfold buildAt at built
  split at built
  · cases built
  · next within => exact Nat.not_lt.1 within

mutual

theorem builds_of_buildAt {depth : Nat} : (tree : Tree) → {expr : Expr Unit} →
    buildAt registry limits depth tree = .ok expr → Builds registry limits depth tree expr
  | .string literal position, expr, built => by
    have within := within_of_buildAt built
    rw [buildAt, if_neg (Nat.not_lt.2 within)] at built
    obtain ⟨value, read, same⟩ := bind_eq_ok_iff.1 built
    cases same
    exact .string within read
  | .integer text position, expr, built => by
    have within := within_of_buildAt built
    rw [buildAt, if_neg (Nat.not_lt.2 within)] at built
    obtain ⟨value, read, same⟩ := bind_eq_ok_iff.1 built
    cases same
    exact .integer within read
  | .decimal text position, expr, built => by
    have within := within_of_buildAt built
    rw [buildAt, if_neg (Nat.not_lt.2 within)] at built
    obtain ⟨value, read, same⟩ := bind_eq_ok_iff.1 built
    cases same
    exact .decimal within read
  | .boolean value position, expr, built => by
    have within := within_of_buildAt built
    rw [buildAt, if_neg (Nat.not_lt.2 within)] at built
    cases built
    exact .boolean within
  | .brackets inner position, expr, built => by
    have within := within_of_buildAt built
    rw [buildAt, if_neg (Nat.not_lt.2 within)] at built
    exact .brackets within (builds_of_buildAt inner built)
  | .negation operand position, expr, built => by
    have within := within_of_buildAt built
    rw [buildAt, if_neg (Nat.not_lt.2 within)] at built
    obtain ⟨definition, resolved, built⟩ := bind_eq_ok_iff.1 built
    obtain ⟨value, inside, same⟩ := bind_eq_ok_iff.1 built
    cases same
    exact .negation within resolved (builds_of_buildAt operand inside)
  | .binary op left right position, expr, built => by
    have within := within_of_buildAt built
    rw [buildAt, if_neg (Nat.not_lt.2 within)] at built
    cases stands : op.function? with
    | none =>
      rw [stands] at built
      cases built
    | some function =>
      rw [stands] at built
      obtain ⟨definition, resolved, built⟩ := bind_eq_ok_iff.1 built
      obtain ⟨first, leftInside, built⟩ := bind_eq_ok_iff.1 built
      obtain ⟨second, rightInside, same⟩ := bind_eq_ok_iff.1 built
      cases same
      exact .binary within stands resolved (builds_of_buildAt left leftInside)
        (builds_of_buildAt right rightInside)
  | .call name args position, expr, built => by
    have within := within_of_buildAt built
    rw [buildAt, if_neg (Nat.not_lt.2 within)] at built
    obtain ⟨definition, resolved, built⟩ := bind_eq_ok_iff.1 built
    obtain ⟨values, inside, same⟩ := bind_eq_ok_iff.1 built
    cases same
    exact .call within resolved (buildsAll_of_buildAllAt args inside)
  | .field name position, expr, built => by
    have within := within_of_buildAt built
    rw [buildAt, if_neg (Nat.not_lt.2 within)] at built
    obtain ⟨value, read, same⟩ := bind_eq_ok_iff.1 built
    cases same
    exact .field within read
  | .lookup via target position, expr, built => by
    have within := within_of_buildAt built
    rw [buildAt, if_neg (Nat.not_lt.2 within)] at built
    obtain ⟨link, readLink, built⟩ := bind_eq_ok_iff.1 built
    obtain ⟨field, readField, built⟩ := bind_eq_ok_iff.1 built
    split at built
    · cases built
    · next named =>
      cases built
      exact .lookup within readLink readField named
  | .fieldById id position, expr, built => by
    have within := within_of_buildAt built
    rw [buildAt, if_neg (Nat.not_lt.2 within)] at built
    cases built

theorem buildsAll_of_buildAllAt {depth : Nat} : (trees : List Tree) → {exprs : List (Expr Unit)} →
    buildAllAt registry limits depth trees = .ok exprs →
      BuildsAll registry limits depth trees exprs
  | [], exprs, built => by
    cases built
    exact .nil
  | tree :: trees, exprs, built => by
    rw [buildAllAt] at built
    obtain ⟨first, inside, built⟩ := bind_eq_ok_iff.1 built
    obtain ⟨others, outside, same⟩ := bind_eq_ok_iff.1 built
    cases same
    exact .cons (builds_of_buildAt tree inside) (buildsAll_of_buildAllAt trees outside)

end

end Expr

end FieldFormula
