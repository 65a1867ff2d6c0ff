import FieldFormula.Catalogue
import FieldFormula.Proofs.Registry

/-! How the functions of the catalogue treat what is not known. Where the type of an argument is lost,
the type of the result stays or is lost as well, but never becomes another one; and results have no
errors inside unless arguments have. -/

namespace FieldFormula

namespace Ty

/-- Whether no error stands anywhere in a type. -/
def isSound : Ty → Bool
  | error _ => false
  | array element | lookup element => element.isSound
  | _ => true

/-- A type is the same or not known any more. -/
inductive Blurs : Ty → Ty → Prop
  | same {type : Ty} : Blurs type type
  | unknown {type : Ty} : Blurs type .untyped

theorem isSound_of_element? {type element : Ty} (sound : type.isSound = true)
    (held : type.element? = some element) : element.isSound = true := by
  cases type <;> cases held <;> exact sound

theorem isSound_mostPrecise (types : List Ty) : (mostPrecise types).isSound = true := by
  unfold mostPrecise
  split <;> rfl

theorem eq_or_untyped_mem_of_blurs {types others : List Ty} (all : List.Forall₂ Blurs types others) :
    others = types ∨ .untyped ∈ others := by
  induction all with
  | nil => exact .inl rfl
  | cons head _ ih =>
    cases head with
    | unknown => exact .inr List.mem_cons_self
    | same => exact ih.imp (congrArg _) (List.mem_cons_of_mem _)

theorem getElem?_blurs {types others : List Ty} (all : List.Forall₂ Blurs types others) (index : Nat) :
    others[index]? = types[index]? ∨ others[index]? = some .untyped := by
  induction all generalizing index with
  | nil => exact .inl rfl
  | cons head _ ih =>
    cases index with
    | succ index => exact ih index
    | zero =>
      cases head with
      | same => exact .inl rfl
      | unknown => exact .inr rfl

end Ty

namespace ReturnRule

/-- A rule that gives types without errors for such types, and that loses a type only if it is to
lose the type of an argument. -/
structure Lenient (rule : ReturnRule) : Prop where
  sound : ∀ types, (∀ type ∈ types, type.isSound = true) → (rule.resolve types).isSound = true
  blurs : ∀ types others, List.Forall₂ Ty.Blurs types others →
    Ty.Blurs (rule.resolve types) (rule.resolve others)

variable {types : List Ty}

theorem lenient_fixed {type : Ty} (sound : type.isSound = true) : (fixed type).Lenient :=
  ⟨fun _ _ => sound, fun _ _ _ => .same⟩

theorem lenient_sameAsArg (index : Nat) : (sameAsArg index).Lenient := by
  constructor
  · intro types sound
    simp only [resolve]
    cases held : types[index]? with
    | none => rfl
    | some type => exact sound type (List.mem_of_getElem? held)
  · intro types others all
    simp only [resolve]
    rcases Ty.getElem?_blurs all index with same | unknown
    · rw [same]
      exact .same
    · rw [unknown]
      exact .unknown

theorem lenient_elementOf (index : Nat) : (elementOf index).Lenient := by
  constructor
  · intro types sound
    simp only [resolve]
    cases held : types[index]?.bind Ty.element? with
    | none => rfl
    | some element =>
      obtain ⟨type, found, inside⟩ := Option.bind_eq_some_iff.1 held
      exact Ty.isSound_of_element? (sound type (List.mem_of_getElem? found)) inside
  · intro types others all
    simp only [resolve]
    rcases Ty.getElem?_blurs all index with same | unknown
    · rw [same]
      exact .same
    · rw [unknown]
      exact .unknown

/-- A rule is lenient if one argument whose type is not known is enough for it to know nothing. -/
theorem lenient_of_strict {rule : ReturnRule}
    (sound : ∀ types, (∀ type ∈ types, type.isSound = true) → (rule.resolve types).isSound = true)
    (strict : ∀ types, .untyped ∈ types → rule.resolve types = .untyped) : rule.Lenient := by
  refine ⟨sound, fun types others all => ?_⟩
  rcases Ty.eq_or_untyped_mem_of_blurs all with rfl | unknown
  · exact .same
  · rw [strict others unknown]
    exact .unknown

theorem lenient_maxDecimalPlaces : maxDecimalPlaces.Lenient := by
  refine lenient_of_strict (fun types _ => Ty.isSound_mostPrecise types) fun types unknown => ?_
  have any : types.any Ty.isUntyped = true := List.any_eq_true.2 ⟨_, unknown, rfl⟩
  simp only [resolve, Ty.mostPrecise, any, if_true]

def isPlain : ReturnRule → Bool
  | fixed type => type.isSound
  | sameAsArg _ | elementOf _ | maxDecimalPlaces => true
  | computed _ => false

theorem lenient_of_isPlain {rule : ReturnRule} (plain : rule.isPlain = true) : rule.Lenient := by
  cases rule with
  | fixed type => exact lenient_fixed plain
  | sameAsArg index => exact lenient_sameAsArg index
  | elementOf index => exact lenient_elementOf index
  | maxDecimalPlaces => exact lenient_maxDecimalPlaces
  | computed compute => cases plain

end ReturnRule

namespace Catalogue

open ReturnRule

/-- A rule for two arguments has to be tried on these only: it knows nothing of other calls, and it
has to know nothing if one of the two is not known. -/
theorem lenient_of_pair {compute : List Ty → Ty}
    (pair : ∀ types, compute types = .untyped ∨ ∃ first second, types = [first, second])
    (left : ∀ second, compute [.untyped, second] = .untyped)
    (right : ∀ first, compute [first, .untyped] = .untyped)
    (sound : ∀ first second, (compute [first, second]).isSound = true) :
    (computed compute).Lenient := by
  refine lenient_of_strict (fun types _ => ?_) fun types unknown => ?_
  · rcases pair types with nothing | ⟨first, second, rfl⟩
    · rw [resolve, nothing]
      rfl
    · exact sound first second
  · rcases pair types with nothing | ⟨first, second, rfl⟩
    · exact nothing
    · simp only [List.mem_cons, List.not_mem_nil, or_false] at unknown
      rcases unknown with rfl | rfl
      · exact left second
      · exact right first

theorem lenient_arithmetic {compute : List Ty → Ty}
    (member : compute ∈ [sumType, differenceType, productType, quotientType]) :
    (computed compute).Lenient := by
  simp only [List.mem_cons, List.not_mem_nil, or_false] at member
  refine lenient_of_pair (fun types => ?_) (fun second => ?_) (fun first => ?_) fun first second => ?_
  · have single (type : Ty) : compute [type] = .untyped := by
      rcases member with rfl | rfl | rfl | rfl <;> cases type <;> rfl
    have more (first second third : Ty) (rest : List Ty) :
        compute (first :: second :: third :: rest) = .untyped := by
      rcases member with rfl | rfl | rfl | rfl <;> cases first <;> cases second <;> rfl
    match types with
    | [] => rcases member with rfl | rfl | rfl | rfl <;> exact .inl rfl
    | [type] => exact .inl (single type)
    | [first, second] => exact .inr ⟨first, second, rfl⟩
    | first :: second :: third :: rest => exact .inl (more first second third rest)
  · rcases member with rfl | rfl | rfl | rfl <;> rfl
  · rcases member with rfl | rfl | rfl | rfl <;> cases first <;> rfl
  · rcases member with rfl | rfl | rfl | rfl <;> cases first <;> cases second <;> rfl

theorem isSound_branchType {types : List Ty} (sound : ∀ type ∈ types, type.isSound = true) :
    (branchType types).isSound = true := by
  unfold branchType
  split
  · next condition first second =>
    split
    · rfl
    · split
      · exact Ty.isSound_mostPrecise _
      · split
        · exact sound first (by simp)
        · rfl
  · rfl

/-- The type of the condition does not matter. -/
theorem branchType_blurs {types others : List Ty} :
    List.Forall₂ Ty.Blurs types others → Ty.Blurs (branchType types) (branchType others)
  | .cons _ (.cons first (.cons second .nil)) => by
    cases first with
    | unknown => exact .unknown
    | same =>
      cases second with
      | same => exact .same
      | unknown =>
        simp only [branchType, Ty.isUntyped, Bool.or_true, if_true]
        exact .unknown
  | .nil | .cons _ .nil | .cons _ (.cons _ .nil) | .cons _ (.cons _ (.cons _ (.cons _ _))) => .same

theorem lenient_branchType : (computed branchType).Lenient :=
  ⟨fun _ => isSound_branchType, fun _ _ => branchType_blurs⟩

theorem lenient_collectedType : (computed collectedType).Lenient := by
  constructor
  · intro types sound
    simp only [resolve, collectedType]
    split
    · next element held =>
      obtain ⟨type, found, inside⟩ := Option.bind_eq_some_iff.1 held
      rw [Ty.isSound]
      exact Ty.isSound_of_element? (sound type (List.mem_of_head? found)) inside
    · rfl
  · intro types others all
    simp only [resolve, collectedType, List.head?_eq_getElem?]
    rcases Ty.getElem?_blurs all 0 with same | unknown
    · rw [same]
      exact .same
    · rw [unknown]
      exact .unknown

/-- The rules of the catalogue that do compute something. -/
theorem computed_returns :
    (definitions.map Definition.returns).filter (fun rule => !rule.isPlain) =
      [computed sumType, computed differenceType, computed productType, computed quotientType,
        computed branchType, computed collectedType] := rfl

theorem lenient_of_mem {definition : Definition} (member : definition ∈ definitions) :
    definition.returns.Lenient := by
  by_cases plain : definition.returns.isPlain = true
  · exact lenient_of_isPlain plain
  · have computing : definition.returns ∈
        (definitions.map Definition.returns).filter fun rule => !rule.isPlain :=
      List.mem_filter.2 ⟨List.mem_map_of_mem member, by simpa using plain⟩
    rw [computed_returns] at computing
    simp only [List.mem_cons, List.not_mem_nil, or_false] at computing
    rcases computing with rule | rule | rule | rule | rule | rule <;> rw [rule]
    · exact lenient_arithmetic (by simp)
    · exact lenient_arithmetic (by simp)
    · exact lenient_arithmetic (by simp)
    · exact lenient_arithmetic (by simp)
    · exact lenient_branchType
    · exact lenient_collectedType

/-- No two functions of the catalogue share a name, so each of them is found under its own. -/
theorem get?_standard_of_mem {name : String} {definition : Definition}
    (member : definition ∈ definitions) (named : definition.name = name) :
    Registry.standard.get? name = some definition :=
  named ▸ Registry.get?_ofDefinitions_of_mem (by decide +kernel) member

end Catalogue

theorem Registry.lenient_of_get?_standard {name : String} {definition : Definition}
    (found : Registry.standard.get? name = some definition) : definition.returns.Lenient :=
  Catalogue.lenient_of_mem (Registry.mem_of_mem_ofDefinitions (Registry.mem_of_get? found))

end FieldFormula
