import FieldFormula.Proofs.Catalogue
import FieldFormula.Proofs.Signature
import FieldFormula.Proofs.Typed

/-! Checking keeps types in a normal form, in which numbers have no more decimal places than there can
be and arrays and lookups hold known single values. It loses no knowledge either: the rules for the
arguments of a function of the catalogue let pass only what the rule for its result covers, so that
the type of a call is unknown only where that of a reference below it is. -/

namespace FieldFormula

namespace Ty

/-- Whether an array or lookup may hold a type, which is then known and no lookup itself. -/
def isElement : Ty → Bool
  | untyped | error _ | lookup _ => false
  | _ => true

/-- Whether numbers have no more decimal places than there can be, and arrays and lookups hold nothing
but what they may. -/
def isNormal : Ty → Bool
  | number decimalPlaces => decimalPlaces ≤ maxDecimalPlaces
  | array element | lookup element => element.isElement && element.isNormal
  | _ => true

theorem isNormal_array_iff {element : Ty} :
    (array element).isNormal = true ↔ element.isElement = true ∧ element.isNormal = true := by
  rw [isNormal, Bool.and_eq_true]

theorem isNormal_lookup_iff {element : Ty} :
    (lookup element).isNormal = true ↔ element.isElement = true ∧ element.isNormal = true := by
  rw [isNormal, Bool.and_eq_true]

theorem ne_untyped_of_isElement {type : Ty} (held : type.isElement = true) : type ≠ .untyped := by
  rintro rfl
  cases held

@[simp] theorem isNormal_numberWith (decimalPlaces : UInt32) :
    (numberWith decimalPlaces).isNormal = true := by
  simp only [numberWith, isNormal, decide_eq_true_eq]
  split
  · next within => exact within
  · exact UInt32.le_refl _

@[simp] theorem isNormal_mostPrecise (types : List Ty) : (mostPrecise types).isNormal = true := by
  unfold mostPrecise
  split
  · rfl
  · exact isNormal_numberWith _

theorem isUntyped_iff {type : Ty} : type.isUntyped = true ↔ type = .untyped := by
  cases type <;> simp [isUntyped]

theorem mostPrecise_eq_untyped_iff {types : List Ty} :
    mostPrecise types = .untyped ↔ .untyped ∈ types := by
  have unknown : types.any isUntyped = true ↔ .untyped ∈ types := by
    simp only [List.any_eq_true, isUntyped_iff, exists_eq_right]
  rw [← unknown, mostPrecise]
  split
  · next any => simp [any]
  · next all => simp [all, numberWith]

theorem isNormal_lookedUp {type : Ty} (normal : type.isNormal = true) :
    type.lookedUp.isNormal = true := by
  cases type with
  | untyped | error | lookup => exact normal
  | text | number | boolean | date | duration | link | array =>
    exact isNormal_lookup_iff.2 ⟨rfl, normal⟩

/-- A type that follows from those of arguments: it is normal, and unknown only if one of them is. -/
structure Warranted (types : List Ty) (result : Ty) : Prop where
  normal : result.isNormal = true
  known : result = .untyped → .untyped ∈ types

theorem Warranted.of_mem {types : List Ty} {type : Ty} (member : type ∈ types)
    (normal : ∀ type ∈ types, type.isNormal = true) : Warranted types type :=
  ⟨normal type member, fun unknown => unknown ▸ member⟩

theorem warranted_mostPrecise {types others : List Ty} (part : ∀ type ∈ others, type ∈ types) :
    Warranted types (mostPrecise others) :=
  ⟨isNormal_mostPrecise others, fun unknown => part _ (mostPrecise_eq_untyped_iff.1 unknown)⟩

end Ty

def ArgCount.least : ArgCount → Nat
  | exactly count => count
  | atLeast least | between least _ => least

theorem ArgCount.least_le {count : ArgCount} {actual : Nat} (accepted : count.accepts actual = true) :
    count.least ≤ actual := by
  cases count with
  | exactly count => exact Nat.le_of_eq (beq_iff_eq.1 accepted).symm
  | atLeast least => exact of_decide_eq_true accepted
  | between least most => exact of_decide_eq_true (Bool.and_eq_true_iff.1 accepted).1

namespace Definition

variable {definition : Definition} {types : List Ty}

/-- What a call gets its type from: as many types as the function takes, which have passed its rules
and of which none is an error. -/
structure Accepts (definition : Definition) (types : List Ty) : Prop where
  count : definition.argCount.accepts types.length = true
  passed : definition.checkArgs types = .ok ()
  typed : ∀ type ∈ types, type.isError = false

theorem Accepts.rule (accepted : definition.Accepts types) {index : Nat} {type : Ty}
    (held : types[index]? = some type) :
    (definition.argRule index).check type types.head? = .ok () := by
  rcases checkArgs_eq_ok_iff.1 accepted.passed index type held with error | rule
  · rw [accepted.typed type (List.mem_of_getElem? held)] at error
    cases error
  · exact rule

theorem Accepts.exists_getElem? (accepted : definition.Accepts types) {index : Nat}
    (filled : index < definition.argCount.least) : ∃ type, types[index]? = some type := by
  have enough := definition.argCount.least_le accepted.count
  exact ⟨_, List.getElem?_eq_getElem (Nat.lt_of_lt_of_le filled enough)⟩

theorem Accepts.eq_untyped (accepted : definition.Accepts types) {type : Ty} (member : type ∈ types)
    (unknown : type.kind? = none) : type = .untyped := by
  have typed := accepted.typed type member
  cases type with
  | untyped => rfl
  | error message => cases typed
  | _ => cases unknown

/-- An argument that has to be a lookup is one, unless its type is not known. -/
theorem Accepts.lookup_or_untyped (accepted : definition.Accepts types) {index : Nat} {type : Ty}
    {kinds : List Kind} (held : types[index]? = some type)
    (asked : definition.argRule index = .lookupOf kinds) :
    type = .untyped ∨ ∃ element, type = .lookup element := by
  have rule := accepted.rule held
  rw [asked] at rule
  cases type with
  | lookup element => exact .inr ⟨element, rfl⟩
  | untyped | error => exact .inl (accepted.eq_untyped (List.mem_of_getElem? held) rfl)
  | text | number | boolean | date | duration | link | array => cases rule

/-- The first operand is of a kind that is listed, and the second of one that is related to it,
unless the type of either is not known. -/
theorem Accepts.operands {kinds : List Kind} {relation : Relation}
    (rules : definition.argRules = [.oneOf kinds, .operand relation])
    (accepted : definition.Accepts types) {first second : Ty} (pair : types = [first, second]) :
    .untyped ∈ types ∨ ∃ firstKind secondKind, first.kind? = some firstKind ∧
      second.kind? = some secondKind ∧ firstKind ∈ kinds ∧
      secondKind ∈ firstKind.related relation := by
  subst pair
  have firstRule := accepted.rule (rfl : [first, second][0]? = some first)
  have secondRule := accepted.rule (rfl : [first, second][1]? = some second)
  simp only [argRule, rules, ArgRule.check] at firstRule secondRule
  cases firstIs : first.kind? with
  | none => exact .inl (accepted.eq_untyped (by simp) firstIs ▸ List.mem_cons_self)
  | some firstKind =>
    cases secondIs : second.kind? with
    | none => exact .inl (accepted.eq_untyped (by simp) secondIs ▸ by simp)
    | some secondKind =>
      simp [firstIs, secondIs] at firstRule secondRule
      exact .inr ⟨firstKind, secondKind, rfl, rfl, firstRule, secondRule⟩

/-- Whether the type of the result stands in the signature itself: it is fixed and known, or taken
from an argument that has to be there, and from a lookup where its element is taken. -/
def isDirect (definition : Definition) : Bool :=
  match definition.returns with
  | .fixed type => type.isNormal && !type.isUntyped
  | .sameAsArg index => index < definition.argCount.least
  | .elementOf index => index < definition.argCount.least &&
      match definition.argRule index with
      | .lookupOf _ => true
      | _ => false
  | .maxDecimalPlaces => true
  | .computed _ => false

theorem Accepts.warranted_of_isDirect (direct : definition.isDirect = true)
    (accepted : definition.Accepts types) (normal : ∀ type ∈ types, type.isNormal = true) :
    Ty.Warranted types (definition.returnType types) := by
  unfold isDirect at direct
  unfold returnType
  cases returns : definition.returns with
  | fixed type =>
    simp only [returns, Bool.and_eq_true, Bool.not_eq_true'] at direct
    refine ⟨direct.1, ?_⟩
    rintro rfl
    cases direct.2
  | sameAsArg index =>
    simp only [returns, decide_eq_true_eq] at direct
    obtain ⟨type, held⟩ := accepted.exists_getElem? direct
    simp only [ReturnRule.resolve, held, Option.getD_some]
    exact .of_mem (List.mem_of_getElem? held) normal
  | elementOf index =>
    simp only [returns, Bool.and_eq_true, decide_eq_true_eq] at direct
    obtain ⟨type, held⟩ := accepted.exists_getElem? direct.1
    have member := List.mem_of_getElem? held
    simp only [ReturnRule.resolve, held, Option.bind_some]
    have kept := direct.2
    split at kept
    · next kinds asked =>
      rcases accepted.lookup_or_untyped held asked with rfl | ⟨element, rfl⟩
      · exact .of_mem member normal
      · obtain ⟨single, inside⟩ := Ty.isNormal_lookup_iff.1 (normal _ member)
        exact ⟨inside, fun unknown => absurd unknown (Ty.ne_untyped_of_isElement single)⟩
    · cases kept
  | maxDecimalPlaces => exact Ty.warranted_mostPrecise fun _ => id
  | computed compute => simp [returns] at direct

end Definition

namespace Catalogue

/-- The functions of two operands that compute the type of their result, each with the kinds that its
first operand may have and the relation of the second operand to it. -/
def arithmetic : List (List Kind × Relation × (List Ty → Ty)) :=
  [([.text, .number, .date, .duration], .addable, sumType),
    ([.number, .date, .duration], .subtractable, differenceType),
    (numeric, .multipliable, productType), (numeric, .dividable, quotientType)]

/-- All that is asked of the arguments of the functions that compute the type of their result. -/
theorem computed_signatures :
    (definitions.map fun definition =>
        (definition.argCount, definition.argRules, definition.returns)).filter
      (fun signature => !signature.2.2.isPlain) =
      arithmetic.map (fun entry =>
        (.exactly 2, [.oneOf entry.1, .operand entry.2.1], .computed entry.2.2)) ++
      [(.exactly 3, [.oneOf [.boolean], .any, .any], .computed branchType),
        (.exactly 1, [.lookupOf []], .computed collectedType)] := rfl

theorem isDirect_of_isPlain : ∀ definition ∈ definitions, definition.returns.isPlain = true →
    definition.isDirect = true := by
  decide +kernel

variable {kinds : List Kind} {relation : Relation} {compute : List Ty → Ty}

theorem untyped_of_arithmetic (member : (kinds, relation, compute) ∈ arithmetic) {first second : Ty}
    (unknown : .untyped ∈ [first, second]) : compute [first, second] = .untyped := by
  simp only [arithmetic, List.mem_cons, Prod.mk.injEq, List.not_mem_nil, or_false] at member unknown
  rcases unknown with rfl | rfl
  · rcases member with ⟨-, -, rfl⟩ | ⟨-, -, rfl⟩ | ⟨-, -, rfl⟩ | ⟨-, -, rfl⟩ <;> rfl
  · rcases member with ⟨-, -, rfl⟩ | ⟨-, -, rfl⟩ | ⟨-, -, rfl⟩ | ⟨-, -, rfl⟩ <;> cases first <;> rfl

/-- Whatever operands are related, the type of the result is known. -/
theorem known_of_related (member : (kinds, relation, compute) ∈ arithmetic) {first second : Ty}
    {firstKind secondKind : Kind} (firstIs : first.kind? = some firstKind)
    (secondIs : second.kind? = some secondKind) (takes : firstKind ∈ kinds)
    (related : secondKind ∈ firstKind.related relation) :
    (compute [first, second]).isNormal = true ∧ compute [first, second] ≠ .untyped := by
  simp only [arithmetic, List.mem_cons, Prod.mk.injEq, List.not_mem_nil, or_false] at member
  rcases member with ⟨rfl, rfl, rfl⟩ | ⟨rfl, rfl, rfl⟩ | ⟨rfl, rfl, rfl⟩ | ⟨rfl, rfl, rfl⟩ <;>
    cases first <;> cases firstIs <;> cases second <;> cases secondIs <;>
    simp [numeric, Kind.related] at takes related
  all_goals refine ⟨?_, by rintro ⟨⟩⟩
  -- Numbers have their places cut, and no other result has parts that could break the form.
  all_goals first | exact Ty.isNormal_numberWith _ | rfl

variable {definition : Definition} {types : List Ty}

theorem warranted_arithmetic (member : (kinds, relation, compute) ∈ arithmetic)
    (count : definition.argCount = .exactly 2)
    (rules : definition.argRules = [.oneOf kinds, .operand relation])
    (returns : definition.returns = .computed compute) (accepted : definition.Accepts types) :
    Ty.Warranted types (definition.returnType types) := by
  rw [Definition.returnType, returns, ReturnRule.resolve]
  have two := accepted.count
  rw [count, ArgCount.accepts, beq_iff_eq, List.length_eq_two] at two
  obtain ⟨first, second, pair⟩ := two
  rcases accepted.operands rules pair with unknown | ⟨_, _, firstIs, secondIs, takes, related⟩
  · rw [pair] at unknown ⊢
    rw [untyped_of_arithmetic member unknown]
    exact ⟨rfl, fun _ => unknown⟩
  · obtain ⟨normal, known⟩ := known_of_related member firstIs secondIs takes related
    rw [pair]
    exact ⟨normal, fun unknown => absurd unknown known⟩

theorem warranted_branchType (count : definition.argCount = .exactly 3)
    (returns : definition.returns = .computed branchType) (accepted : definition.Accepts types)
    (normal : ∀ type ∈ types, type.isNormal = true) :
    Ty.Warranted types (definition.returnType types) := by
  rw [Definition.returnType, returns, ReturnRule.resolve]
  have three := accepted.count
  rw [count, ArgCount.accepts, beq_iff_eq, List.length_eq_three] at three
  obtain ⟨condition, first, second, rfl⟩ := three
  simp only [branchType]
  split
  · next unknown =>
    rw [Bool.or_eq_true, Ty.isUntyped_iff, Ty.isUntyped_iff] at unknown
    refine ⟨rfl, fun _ => ?_⟩
    rcases unknown with rfl | rfl <;> simp
  · split
    · exact Ty.warranted_mostPrecise (by simp)
    · split
      · exact .of_mem (by simp) normal
      · refine ⟨rfl, ?_⟩
        rintro ⟨⟩

theorem warranted_collectedType (count : definition.argCount = .exactly 1)
    (rules : definition.argRules = [.lookupOf []])
    (returns : definition.returns = .computed collectedType) (accepted : definition.Accepts types)
    (normal : ∀ type ∈ types, type.isNormal = true) :
    Ty.Warranted types (definition.returnType types) := by
  rw [Definition.returnType, returns, ReturnRule.resolve]
  have one := accepted.count
  rw [count, ArgCount.accepts, beq_iff_eq, List.length_eq_one_iff] at one
  obtain ⟨type, rfl⟩ := one
  have asked : definition.argRule 0 = .lookupOf [] := by simp [Definition.argRule, rules]
  rcases accepted.lookup_or_untyped (rfl : [type][0]? = some type) asked with rfl | ⟨element, rfl⟩
  · exact .of_mem List.mem_cons_self normal
  · have inside := Ty.isNormal_lookup_iff.1 (normal _ List.mem_cons_self)
    refine ⟨Ty.isNormal_array_iff.2 inside, ?_⟩
    rintro ⟨⟩

/-- The rule for the result of each function covers whatever the rules for its arguments let pass. -/
theorem warranted_of_mem (member : definition ∈ definitions) (accepted : definition.Accepts types)
    (normal : ∀ type ∈ types, type.isNormal = true) :
    Ty.Warranted types (definition.returnType types) := by
  by_cases plain : definition.returns.isPlain = true
  · exact accepted.warranted_of_isDirect (isDirect_of_isPlain definition member plain) normal
  · have computing : (definition.argCount, definition.argRules, definition.returns) ∈
        (definitions.map fun definition =>
          (definition.argCount, definition.argRules, definition.returns)).filter
            (fun signature => !signature.2.2.isPlain) :=
      List.mem_filter.2 ⟨List.mem_map_of_mem member, by simpa using plain⟩
    rw [computed_signatures, List.mem_append, List.mem_map] at computing
    rcases computing with ⟨⟨kinds, relation, compute⟩, entry, signature⟩ | others
    · simp only [Prod.mk.injEq] at signature
      obtain ⟨count, rules, returns⟩ := signature
      exact warranted_arithmetic entry count.symm rules.symm returns.symm accepted
    · simp only [List.mem_cons, List.not_mem_nil, or_false, Prod.mk.injEq] at others
      rcases others with ⟨count, _, returns⟩ | ⟨count, rules, returns⟩
      · exact warranted_branchType count returns accepted normal
      · exact warranted_collectedType count rules returns accepted normal

end Catalogue

theorem Registry.warranted_of_get?_standard {name : String} {definition : Definition}
    {types : List Ty} (found : Registry.standard.get? name = some definition)
    (accepted : definition.Accepts types) (normal : ∀ type ∈ types, type.isNormal = true) :
    Ty.Warranted types (definition.returnType types) :=
  Catalogue.warranted_of_mem (mem_of_mem_ofDefinitions (mem_of_get? found)) accepted normal

namespace Expr

variable {resolve : Resolver}

theorem isNormal_referenceType
    (normal : ∀ field via type, resolve field via = .found type → type.isNormal = true)
    (field : String) (via : Option String) : (referenceType resolve field via).isNormal = true := by
  by_cases found : ∃ type, resolve field via = .found type
  · obtain ⟨type, answer⟩ := found
    have inside := normal field via type answer
    rw [referenceType_of_found answer]
    split
    · exact Ty.isNormal_lookedUp inside
    · exact inside
  · obtain ⟨message, failed⟩ := referenceType_of_not_found (not_exists.1 found)
    rw [failed]
    rfl

/-- A node whose type is normal, and unknown only because of a reference at or below it. -/
def Traceable (node : Expr Ty) : Prop :=
  node.note.isNormal = true ∧
    (node.note = .untyped → ∃ level field via, LiesAt node level (.reference field via .untyped))

/-- An unknown type is handed up from an argument to the call, and so back to a reference. -/
theorem traceable_call {function : String} {args : List (Expr Ty)} {type : Ty}
    (justified : Justified .standard resolve (.call function args type))
    (inside : ∀ arg ∈ args, Traceable arg) : Traceable (.call function args type) := by
  obtain ⟨definition, found, _, count, called⟩ := justified
  obtain ⟨passed, result⟩ := callType_eq_ok_iff.1 called
  cases failed : (args.map note).find? Ty.isError with
  | some error =>
    rw [failed, Option.getD_some] at result
    subst result
    have isError := List.find?_some failed
    cases error <;> cases isError
    refine ⟨rfl, ?_⟩
    rintro ⟨⟩
  | none =>
    rw [failed, Option.getD_none] at result
    subst result
    have typed : ∀ type ∈ args.map note, type.isError = false := by
      simpa [List.find?_eq_none] using failed
    have accepted : definition.Accepts (args.map note) :=
      ⟨by rw [List.length_map]; exact count, passed, typed⟩
    have warranted := Registry.warranted_of_get?_standard found accepted fun type member => by
      obtain ⟨arg, there, rfl⟩ := List.mem_map.1 member
      exact (inside arg there).1
    refine ⟨warranted.normal, fun unknown => ?_⟩
    obtain ⟨arg, member, untyped⟩ := List.mem_map.1 (warranted.known unknown)
    obtain ⟨level, field, via, lies⟩ := (inside arg member).2 untyped
    exact ⟨level + 1, field, via, .argument member lies⟩

theorem traceable_of_justified
    (normal : ∀ field via type, resolve field via = .found type → type.isNormal = true)
    {typed : Expr Ty} (justified : Everywhere (Justified .standard resolve) typed) :
    Everywhere Traceable typed := by
  induction typed using induction_on_args with
  | string | boolean =>
    have type := justified.root
    rintro level node ⟨⟩
    simp only [Justified] at type
    subst type
    refine ⟨rfl, ?_⟩
    rintro ⟨⟩
  | integer | decimal =>
    have type := justified.root
    rintro level node ⟨⟩
    simp only [Justified] at type
    subst type
    refine ⟨Ty.isNormal_numberWith _, ?_⟩
    rintro ⟨⟩
  | reference field via type =>
    have own : type = referenceType resolve field via := justified.root
    rintro level node ⟨⟩
    refine ⟨?_, fun unknown => ⟨0, field, via, ?_⟩⟩
    · exact own ▸ isNormal_referenceType normal field via
    · cases unknown
      exact .root
  | call function args type ih =>
    obtain ⟨here, below⟩ := everywhere_call_iff.1 justified
    have inside (arg : Expr Ty) (member : arg ∈ args) := ih arg member (below arg member)
    refine everywhere_call_iff.2 ⟨?_, inside⟩
    exact traceable_call here fun arg member => (inside arg member).root

end Expr

namespace Compiler

/-- No function of the catalogue loses the types of arguments that are known and have passed. So with
a schema that knows normal types only, all types of an expression are normal, and one is unknown only
where a reference at or below the node is. -/
theorem check_normal :
    (∀ name definition types, Registry.standard.get? name = some definition →
      definition.argCount.accepts types.length = true → definition.checkArgs types = .ok () →
      (∀ type ∈ types, type.kind? ≠ none ∧ type.isNormal = true) →
      definition.returnType types ≠ .untyped) ∧
    ∀ (limits : Limits) (α : Type) (expr : Expr α) (resolve : Resolver) (typed : Expr Ty),
      (∀ field via type, resolve field via = .found type → type.isNormal = true) →
      Compiler.check ⟨.standard, limits⟩ resolve expr = .ok typed →
      ∀ level node, Expr.LiesAt typed level node → node.note.isNormal = true ∧
        (node.note = .untyped →
          ∃ below field via, Expr.LiesAt node below (.reference field via .untyped)) := by
  constructor
  · intro name definition types found count passed known unknown
    have typed (type : Ty) (member : type ∈ types) : type.isError = false := by
      cases type with
      | error message => exact absurd rfl (known _ member).1
      | _ => rfl
    have warranted := Registry.warranted_of_get?_standard found ⟨count, passed, typed⟩
      fun type member => (known type member).2
    exact (known _ (warranted.known unknown)).1 rfl
  · intro limits α expr resolve typed normal succeeded
    exact Expr.traceable_of_justified normal (Expr.justified_of_checkAt succeeded)

/-- The sum of a lookup is known, but not what it adds up to with a field of unknown type. -/
theorem check_normal_of_total :
    ∃ definition typed,
      Registry.standard.get? "add" = some definition ∧
      definition.returnType [.number 2, .number 3] ≠ .untyped ∧
      Compiler.check {} (fun _ via => .found (if via.isSome then .number 2 else .untyped))
        (.call "add" [.call "sum" [.reference "a" (some "b") ()] (), .reference "c" none ()] () :
          Expr Unit) = .ok typed ∧
      typed.note = .untyped ∧
      ∃ below field via, Expr.LiesAt typed below (.reference field via .untyped) := by
  let resolve : Resolver := fun _ via => .found (if via.isSome then .number 2 else .untyped)
  have found : Registry.standard.get? "add" = some Catalogue.operators[0] :=
    Catalogue.get?_standard_of_mem (by simp [Catalogue.definitions]) (by decide)
  have foundSum : Registry.standard.get? "sum" = some Catalogue.aggregates[0] :=
    Catalogue.get?_standard_of_mem (by simp [Catalogue.definitions]) (by decide)
  have summed : Expr.checkAt .standard resolve {} 1
      (.call "sum" [.reference "a" (some "b") ()] () : Expr Unit) =
        .ok (.call "sum" [.reference "a" (some "b") (.lookup (.number 2))] (.number 2)) := by
    rw [Expr.checkAt_call_eq_ok_iff]
    exact ⟨by decide, _, _, _, Expr.resolveFunction_eq_ok_iff.2 ⟨foundSum, rfl⟩, rfl, rfl, rfl⟩
  have total : Compiler.check {} resolve (.call "add" [.call "sum" [.reference "a" (some "b") ()] (),
      .reference "c" none ()] () : Expr Unit) = .ok (.call "add" [.call "sum"
        [.reference "a" (some "b") (.lookup (.number 2))] (.number 2),
        .reference "c" none .untyped] .untyped) := by
    have inside : Expr.checkAllAt .standard resolve {} 1
        [.call "sum" [.reference "a" (some "b") ()] (), (.reference "c" none () : Expr Unit)] =
          .ok [.call "sum" [.reference "a" (some "b") (.lookup (.number 2))] (.number 2),
            .reference "c" none .untyped] := by
      rw [Expr.checkAllAt, summed]
      rfl
    rw [check, Expr.check, Expr.checkAt_call_eq_ok_iff]
    exact ⟨by decide, _, _, _, Expr.resolveFunction_eq_ok_iff.2 ⟨found, rfl⟩, inside, rfl, rfl⟩
  have normal : ∀ field via type, resolve field via = .found type → type.isNormal = true := by
    intro field via type answer
    cases via <;> cases answer <;> rfl
  exact ⟨_, _, found, check_normal.1 "add" _ _ found rfl rfl (by decide), total, rfl,
    (check_normal.2 {} Unit _ resolve _ normal total 0 _ .root).2 rfl⟩

end Compiler

end FieldFormula
