import FieldFormula.Expr.Check
import FieldFormula.Proofs.Expr.Build

/-! What checking can do: a call is typed once its function has been found, its arguments have been
typed and their types have passed the rules of the function. -/

namespace FieldFormula

/-- A computation fails in its first step, or in the one after it. -/
theorem bind_eq_error_iff {ε α β : Type} {first : Except ε α} {next : α → Except ε β} {error : ε} :
    (first >>= next) = .error error ↔
      first = .error error ∨ ∃ value, first = .ok value ∧ next value = .error error := by
  cases first with
  | error other => simp [bind, Except.bind]
  | ok value => simp [bind, Except.bind]

namespace Expr

variable {α : Type}

/-- What is shown of a call may use what holds of its arguments. -/
@[elab_as_elim]
theorem induction_on_args {motive : Expr α → Prop}
    (string : ∀ value note, motive (.string value note))
    (integer : ∀ value note, motive (.integer value note))
    (decimal : ∀ value note, motive (.decimal value note))
    (boolean : ∀ value note, motive (.boolean value note))
    (reference : ∀ field via note, motive (.reference field via note))
    (call : ∀ function args note, (∀ arg ∈ args, motive arg) → motive (.call function args note)) :
    (expr : Expr α) → motive expr
  | .string value note => string value note
  | .integer value note => integer value note
  | .decimal value note => decimal value note
  | .boolean value note => boolean value note
  | .reference field via note => reference field via note
  | .call function args note => call function args note fun arg _member =>
      induction_on_args string integer decimal boolean reference call arg
termination_by expr => sizeOf expr
decreasing_by
  have smaller := List.sizeOf_lt_of_mem _member
  simp only [Expr.call.sizeOf_spec]
  omega

variable {registry : Registry} {resolve : Resolver} {limits : Limits} {depth : Nat}

theorem checkAt_eq_error_of_deep (expr : Expr α) (deep : limits.maxDepth < depth) :
    checkAt registry resolve limits depth expr = .error .tooLarge := by
  unfold checkAt
  rw [if_pos deep]

/-- An argument that fails is the reason why all of them do. -/
theorem exists_of_checkAllAt_eq_error {args : List (Expr α)} {error : Error}
    (failed : checkAllAt registry resolve limits depth args = .error error) :
    ∃ arg ∈ args, checkAt registry resolve limits depth arg = .error error := by
  induction args with
  | nil => cases failed
  | cons arg args ih =>
    rw [checkAllAt] at failed
    rcases bind_eq_error_iff.1 failed with here | ⟨first, _, failed⟩
    · exact ⟨arg, List.mem_cons_self, here⟩
    · rcases bind_eq_error_iff.1 failed with behind | ⟨others, _, impossible⟩
      · obtain ⟨other, member, there⟩ := ih behind
        exact ⟨other, List.mem_cons_of_mem _ member, there⟩
      · cases impossible

theorem referenceType_of_found {field : String} {via : Option String} {type : Ty}
    (found : resolve field via = .found type) :
    referenceType resolve field via = if via.isSome then type.lookedUp else type := by
  unfold referenceType
  rw [found]
  cases via <;> rfl

theorem referenceType_of_not_found {field : String} {via : Option String}
    (missing : ∀ type, resolve field via ≠ .found type) :
    ∃ message, referenceType resolve field via = .error message := by
  unfold referenceType
  cases answer : resolve field via with
  | found type => exact absurd answer (missing type)
  | notFound => cases via <;> exact ⟨_, rfl⟩
  | notALink => exact ⟨_, rfl⟩

theorem callType_eq_ok_iff {definition : Definition} {types : List Ty} {type : Ty} :
    callType definition types = .ok type ↔ definition.checkArgs types = .ok () ∧
      (types.find? Ty.isError).getD (definition.returnType types) = type := by
  unfold callType
  cases definition.checkArgs types with
  | error failure => simp
  | ok passed => simp

/-- An argument of a wrong type is all that a call can be rejected for by its types. -/
theorem callType_eq_error_iff {definition : Definition} {types : List Ty} {error : Error} :
    callType definition types = .error error ↔
      ∃ index expected, definition.checkArgs types = .error (index, expected) ∧
        .argumentType definition.name index expected (types[index]?.getD .untyped) = error := by
  unfold callType
  cases definition.checkArgs types with
  | error failure =>
    constructor
    · rintro ⟨⟩
      exact ⟨failure.1, failure.2, rfl, rfl⟩
    · rintro ⟨index, expected, ⟨⟩, rfl⟩
      rfl
  | ok passed => simp

end Expr

end FieldFormula
