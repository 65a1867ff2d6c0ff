import FieldFormula.Proofs.Expr.Admissible

/-! Trees that write expressions out, node for node, as printed formulas do. They are built to these
expressions again, unless a decimal without places behind its point reads as a whole number. -/

namespace FieldFormula

namespace Expr

mutual

def decimals {α : Type} : Expr α → List Decimal
  | decimal value _ => [value]
  | call _ args _ => decimalsOfAll args
  | _ => []

def decimalsOfAll {α : Type} : List (Expr α) → List Decimal
  | [] => []
  | arg :: args => arg.decimals ++ decimalsOfAll args

end

mutual

/-- A tree writes an expression out, with calls for operators and no brackets. -/
inductive Mirrors : Tree → Expr Unit → Prop
  | string {literal : Quoted} {position : Position} :
      Mirrors (.string literal position) (.string literal.value ())
  | integer {value : Int64} {position : Position} :
      Mirrors (.integer (toString value.toInt) position) (.integer value ())
  | decimal {value : Decimal} {position : Position} (fractional : 0 < value.scale) :
      Mirrors (.decimal value.text position) (.decimal value ())
  | whole {value : Decimal} {position : Position} (flat : value.scale = 0) :
      Mirrors (.integer value.text position) (.decimal value ())
  | boolean {value : Bool} {position : Position} :
      Mirrors (.boolean value position) (.boolean value ())
  | field {name : Quoted} {position : Position} :
      Mirrors (.field name position) (.reference name.value none ())
  | lookup {via target : Quoted} {position : Position} :
      Mirrors (.lookup via target position) (.reference target.value (some via.value) ())
  | call {name : String} {trees : List Tree} {args : List (Expr Unit)} {position : Position}
      (inside : MirrorsAll trees args) : Mirrors (.call name trees position) (.call name args ())

inductive MirrorsAll : List Tree → List (Expr Unit) → Prop
  | nil : MirrorsAll [] []
  | cons {tree : Tree} {trees : List Tree} {expr : Expr Unit} {exprs : List (Expr Unit)}
      (first : Mirrors tree expr) (others : MirrorsAll trees exprs) :
      MirrorsAll (tree :: trees) (expr :: exprs)

end

theorem MirrorsAll.length_eq {trees : List Tree} {exprs : List (Expr Unit)} :
    MirrorsAll trees exprs → trees.length = exprs.length
  | .nil => rfl
  | .cons _ others => congrArg Nat.succ others.length_eq

variable {registry : Registry} {limits : Limits}

mutual

/-- A tree that writes out an admissible expression stays within the limit on nesting. -/
theorem Mirrors.height_le {depth : Nat} {tree : Tree} {expr : Expr Unit} :
    Mirrors tree expr → Admissible registry limits depth expr →
      depth + tree.height ≤ limits.maxDepth
  | .string, .string within _ | .integer, .integer within | .decimal _, .decimal within _
  | .whole _, .decimal within _ | .boolean, .boolean within | .field, .field within _
  | .lookup, .lookup within _ _ _ => within
  | .call inside, .call within _ _ admissible => inside.heightUnder_le within admissible

theorem MirrorsAll.heightUnder_le {depth : Nat} {trees : List Tree} {exprs : List (Expr Unit)} :
    MirrorsAll trees exprs → depth ≤ limits.maxDepth →
      AdmissibleAll registry limits (depth + 1) exprs →
        depth + Tree.heightUnder trees ≤ limits.maxDepth
  | .nil, within, .nil => within
  | .cons first others, within, .cons admissible admissibleOthers => by
    have head := first.height_le admissible
    have tail := others.heightUnder_le within admissibleOthers
    rw [Tree.heightUnder]
    omega

end

/-- A result that is the value itself if all decimals have places behind their points, and a fault
in the syntax if one has none. -/
structure Restores {α : Type} (decimals : List Decimal) (value : α) (result : Except Error α) :
    Prop where
  same : (∀ decimal ∈ decimals, 0 < decimal.scale) → result = .ok value
  malformed : (∃ decimal ∈ decimals, decimal.scale = 0) → ∃ error, result = .error (.malformed error)

namespace Restores

variable {α β : Type} {value : α} {other : β} {decimals others : List Decimal}

theorem ok {result : Except Error α} (succeeded : result = .ok value) :
    Restores [] value result :=
  ⟨fun _ => succeeded, nofun⟩

/-- The first part that fails decides. -/
theorem bind {result : Except Error α} {next : α → Except Error β}
    (first : Restores decimals value result) (second : Restores others other (next value)) :
    Restores (decimals ++ others) other (result >>= next) := by
  constructor
  · intro fractional
    rw [first.same fun decimal member => fractional decimal (List.mem_append_left _ member)]
    exact second.same fun decimal member => fractional decimal (List.mem_append_right _ member)
  · rintro ⟨decimal, member, flat⟩
    by_cases early : ∃ decimal ∈ decimals, decimal.scale = 0
    · obtain ⟨error, failed⟩ := first.malformed early
      exact ⟨error, by rw [failed]; rfl⟩
    · have fractional (decimal : Decimal) (member : decimal ∈ decimals) : 0 < decimal.scale :=
        Nat.pos_of_ne_zero fun flat => early ⟨decimal, member, flat⟩
      rw [first.same fractional]
      rcases List.mem_append.1 member with inside | behind
      · exact absurd flat (Nat.pos_iff_ne_zero.1 (fractional decimal inside))
      · exact second.malformed ⟨decimal, behind, flat⟩

theorem map {result : Except Error α} (f : α → β) (first : Restores decimals value result) :
    Restores decimals (f value) (result >>= fun value => pure (f value)) := by
  have joined : Restores (decimals ++ []) (f value) (result >>= fun value => pure (f value)) :=
    first.bind (ok rfl)
  rwa [List.append_nil] at joined

end Restores

theorem readString_of_short {literal : Quoted} (short : literal.value.length ≤ limits.maxStringLength) :
    readString limits literal = .ok literal.value :=
  if_neg (Nat.not_lt.2 short)

theorem readInteger_toString (value : Int64) (position : Position) :
    readInteger (toString value.toInt) position = .ok value := by
  rw [readInteger_of_digits (Numeral.toList_toString _),
    if_pos ⟨value.minValue_le_toInt, value.toInt_le⟩, Int64.ofInt_toInt]

theorem readDecimal_text {value : Decimal} (fractional : 0 < value.scale) (position : Position) :
    readDecimal value.text position = .ok value := by
  obtain ⟨whole, fraction, wholeValid, fractionValid, spelled, read⟩ :=
    Decimal.exists_toList_text fractional
  exact readDecimal_of_digits spelled wholeValid fractionValid read position

mutual

/-- A tree that writes out an admissible expression is built to it. -/
theorem Mirrors.restores {depth : Nat} {tree : Tree} {expr : Expr Unit} :
    Mirrors tree expr → Admissible registry limits depth expr →
      Restores expr.decimals expr (buildAt registry limits depth tree)
  | .string, .string within writable => by
    rw [buildAt, if_neg (Nat.not_lt.2 within), readString_of_short writable.short]
    exact .ok rfl
  | .integer, .integer within => by
    rw [buildAt, if_neg (Nat.not_lt.2 within), readInteger_toString]
    exact .ok rfl
  | .decimal fractional, .decimal within _ => by
    rw [buildAt, if_neg (Nat.not_lt.2 within), readDecimal_text fractional]
    refine ⟨fun _ => rfl, ?_⟩
    rintro ⟨_, member, flat⟩
    cases List.mem_singleton.1 member
    omega
  | .whole flat, .decimal within large => by
    rw [buildAt, if_neg (Nat.not_lt.2 within),
      readInteger_of_digits (Decimal.toList_text_of_whole flat), if_neg (large flat)]
    refine ⟨fun fractional => ?_, fun _ => ⟨_, rfl⟩⟩
    have := fractional _ (List.mem_singleton.2 rfl)
    omega
  | .boolean, .boolean within => by
    rw [buildAt, if_neg (Nat.not_lt.2 within)]
    exact .ok rfl
  | .field, .field within writable => by
    rw [buildAt, if_neg (Nat.not_lt.2 within), readString_of_short writable.short]
    exact .ok rfl
  | .lookup, .lookup within linkWritable fieldWritable named => by
    rw [buildAt, if_neg (Nat.not_lt.2 within), readString_of_short linkWritable.short,
      readString_of_short fieldWritable.short, ok_bind, ok_bind, if_neg named]
    exact .ok rfl
  | .call inside, .call within resolved _ admissible => by
    rw [buildAt, if_neg (Nat.not_lt.2 within), inside.length_eq, resolved, ok_bind]
    exact (inside.restores admissible).map fun values => call _ values ()

theorem MirrorsAll.restores {depth : Nat} {trees : List Tree} {exprs : List (Expr Unit)} :
    MirrorsAll trees exprs → AdmissibleAll registry limits depth exprs →
      Restores (decimalsOfAll exprs) exprs (buildAllAt registry limits depth trees)
  | .nil, .nil => by
    rw [buildAllAt]
    exact .ok rfl
  | .cons first others, .cons admissible admissibleOthers => by
    rw [buildAllAt]
    exact (first.restores admissible).bind ((others.restores admissibleOthers).map _)

end

end Expr

end FieldFormula
