import FieldFormula.Proofs.Catalogue
import FieldFormula.Proofs.Signature
import FieldFormula.Proofs.Simulation

/-! Less knowledge about fields never breaks a formula. A type that is not known passes every rule,
and an error is passed over by them, so what was accepted stays accepted; only the types of the calls
above fade as those of the references did. -/

namespace FieldFormula

namespace Ty

/-- No error stands inside an array or lookup. -/
def NoErrorInside (type : Ty) : Prop :=
  ∀ element, type.element? = some element → element.isSound = true

/-- A type is the same, an error or not known any more; an error stays an error. -/
inductive Fades : Ty → Ty → Prop
  | same {type : Ty} : Fades type type
  | error {type : Ty} {message : String} : Fades type (.error message)
  | unknown {type : Ty} (typed : type.isError = false) : Fades type .untyped

/-- A type is the same or an error. -/
inductive Breaks : Ty → Ty → Prop
  | same {type : Ty} : Breaks type type
  | error {type : Ty} {message : String} : Breaks type (.error message)

theorem Breaks.fades {type other : Ty} (breaks : Breaks type other) : Fades type other := by
  cases breaks with
  | same => exact .same
  | error => exact .error

theorem isSound_iff {type : Ty} :
    type.isSound = true ↔ type.isError = false ∧ type.NoErrorInside := by
  cases type <;> simp [isSound, isError, NoErrorInside, element?]

theorem NoErrorInside.lookedUp {type : Ty} (sound : type.NoErrorInside) :
    type.lookedUp.NoErrorInside := by
  cases type with
  | untyped | error | lookup => exact sound
  | array element =>
    rintro _ ⟨⟩
    exact sound element rfl
  | text | number | boolean | date | duration | link =>
    rintro _ ⟨⟩
    rfl

theorem eq_error_of_isError {type : Ty} (failed : type.isError = true) :
    ∃ message, type = .error message := by
  cases type with
  | error message => exact ⟨message, rfl⟩
  | _ => cases failed

/-- A relation between types under which knowledge can only be lost. -/
structure Losing (related : Ty → Ty → Prop) : Prop where
  sound : ∀ type, type.isSound = true → related type type
  refl : ∀ type other, related type other → related type type
  error : ∀ type other message, related type other → related type (.error message)
  passes : ∀ type other, related type other → other = type ∨ other.kind? = none
  stays : ∀ type other, related type other → type.isError = true → other.isError = true

end Ty

/-- What has no kind passes every rule. -/
theorem ArgRule.check_of_kind?_eq_none {rule : ArgRule} {actual : Ty} {first : Option Ty}
    (unknown : actual.kind? = none) : rule.check actual first = .ok () := by
  unfold check
  rw [unknown]

/-- An operand that passes also does if the first argument loses its kind. -/
theorem ArgRule.check_of_first_lost {rule : ArgRule} {actual : Ty} {first second : Option Ty}
    (lost : second = first ∨ second.bind Ty.kind? = none)
    (passed : rule.check actual first = .ok ()) : rule.check actual second = .ok () := by
  rcases lost with rfl | unknown
  · exact passed
  · cases rule with
    | operand relation =>
      unfold check
      rw [unknown]
      cases actual.kind? <;> rfl
    | any | oneOf | lookupOf => exact passed

namespace Definition

variable {definition : Definition} {related : Ty → Ty → Prop}

theorem checkFrom_of_losing (losing : Ty.Losing related) {first second : Option Ty}
    {types others : List Ty} {start : Nat} (lost : second = first ∨ second.bind Ty.kind? = none)
    (all : List.Forall₂ related types others)
    (passed : definition.checkFrom first start types = .ok ()) :
    definition.checkFrom second start others = .ok () := by
  induction all generalizing start with
  | nil => rfl
  | @cons type other types others head _ ih =>
    obtain ⟨here, behind⟩ := checkFrom_cons_eq_ok_iff.1 passed
    refine checkFrom_cons_eq_ok_iff.2 ⟨?_, ih behind⟩
    rcases losing.passes _ _ head with rfl | unknown
    · exact here.imp_right (ArgRule.check_of_first_lost lost)
    · exact .inr (ArgRule.check_of_kind?_eq_none unknown)

theorem checkArgs_of_losing (losing : Ty.Losing related) {types others : List Ty}
    (all : List.Forall₂ related types others) (passed : definition.checkArgs types = .ok ()) :
    definition.checkArgs others = .ok () := by
  refine checkFrom_of_losing losing ?_ all passed
  cases all with
  | nil => exact .inl rfl
  | cons head _ => exact (losing.passes _ _ head).imp (congrArg some) id

end Definition

namespace Expr

variable {registry : Registry} {related : Ty → Ty → Prop}

/-- Where no error is reached, the relation may take this into account. -/
theorem forall₂_of_typed {sharper : Ty → Ty → Prop} {types others : List Ty}
    (sharpen : ∀ type other, related type other → other.isError = false → sharper type other)
    (all : List.Forall₂ related types others) (typed : ∀ other ∈ others, other.isError = false) :
    List.Forall₂ sharper types others := by
  induction all with
  | nil => exact .nil
  | cons head _ ih =>
    rw [List.forall_mem_cons] at typed
    exact .cons (sharpen _ _ head typed.1) (ih typed.2)

theorem isError_of_losing (losing : Ty.Losing related) {types others : List Ty}
    (all : List.Forall₂ related types others) (typed : ∀ other ∈ others, other.isError = false) :
    ∀ type ∈ types, type.isError = false := by
  have before : List.Forall₂ (fun type other => type.isError = false ∧ related type other)
      types others := by
    refine forall₂_of_typed (fun type other head well => ⟨?_, head⟩) all typed
    by_contra failed
    have fails := losing.stays _ _ head (by simpa using failed)
    rw [well] at fails
    cases fails
  exact ((List.forall₂_and_left _ _).1 before).1

theorem find?_isError_eq_none_iff {types : List Ty} :
    types.find? Ty.isError = none ↔ ∀ type ∈ types, type.isError = false := by
  simp [List.find?_eq_none]

/-- What is left to show of a relation under which knowledge is lost is that the types of results,
where no argument is an error, lose no more than those of the arguments. -/
theorem inherited_of_losing (losing : Ty.Losing related)
    (results : ∀ name definition, registry.get? name = some definition →
      ∀ types others, List.Forall₂ related types others →
        (∀ other ∈ others, other.isError = false) →
          related (definition.returnType types) (definition.returnType others)) :
    Inherited registry (fun _ => False) related where
  text := losing.sound _ rfl
  number _ := losing.sound _ rfl
  boolean := losing.sound _ rfl
  call name definition found types others all := by
    constructor
    · intro type succeeded
      obtain ⟨passed, rfl⟩ := callType_eq_ok_iff.1 succeeded
      refine ⟨_, callType_eq_ok_iff.2 ⟨definition.checkArgs_of_losing losing all passed, rfl⟩, ?_⟩
      have itself : ∀ type ∈ types, related type type :=
        ((List.forall₂_and_left _ _).1 (all.imp fun _ _ head => ⟨losing.refl _ _ head, head⟩)).1
      cases lost : others.find? Ty.isError with
      | none =>
        have typed := find?_isError_eq_none_iff.1 lost
        have typedBefore := isError_of_losing losing all typed
        rw [find?_isError_eq_none_iff.2 typedBefore]
        exact results name definition found types others all typed
      | some error =>
        obtain ⟨message, rfl⟩ := Ty.eq_error_of_isError (List.find?_some lost)
        -- Whatever the call was, it takes over the leftmost error.
        cases before : types.find? Ty.isError with
        | some own => exact losing.error _ _ message (itself own (List.mem_of_find?_eq_some before))
        | none =>
          have unchanged := results name definition found types types (List.forall₂_same.2 itself)
            (find?_isError_eq_none_iff.1 before)
          exact losing.error _ _ message unchanged
    · intro error impossible
      cases impossible

/-- The types of references that break break those of calls, for functions of any kind: as long as no
argument is an error, nothing has changed. -/
theorem inherited_breaks : Inherited registry (fun _ => False) Ty.Breaks := by
  refine inherited_of_losing ⟨fun _ _ => .same, fun _ _ _ => .same, fun _ _ _ _ => .error, ?_, ?_⟩ ?_
  · intro type other breaks
    cases breaks with
    | same => exact .inl rfl
    | error => exact .inr rfl
  · intro type other breaks failed
    cases breaks with
    | same => exact failed
    | error => rfl
  · intro name definition _ types others all typed
    have unchanged : List.Forall₂ Eq types others := by
      refine forall₂_of_typed (fun type other breaks well => ?_) all typed
      cases breaks with
      | same => rfl
      | error => cases well
    rw [List.forall₂_eq_eq_eq] at unchanged
    rw [unchanged]
    exact .same

theorem losing_fades : Ty.Losing fun type other => Ty.Fades type other ∧ type.NoErrorInside where
  sound type sound := ⟨.same, (Ty.isSound_iff.1 sound).2⟩
  refl type other both := ⟨.same, both.2⟩
  error type other message both := ⟨.error, both.2⟩
  passes type other both := by
    cases both.1 with
    | same => exact .inl rfl
    | error | unknown => exact .inr rfl
  stays type other both failed := by
    cases both.1 with
    | same => exact failed
    | error => rfl
    | unknown typed =>
      rw [typed] at failed
      cases failed

/-- With the functions of the catalogue, the types of references may fade as well, as long as no
function can take an error out of an array or lookup. -/
theorem inherited_fades :
    Inherited .standard (fun _ => False) fun type other => Ty.Fades type other ∧ type.NoErrorInside := by
  refine inherited_of_losing losing_fades ?_
  intro name definition found types others all typed
  have lenient := Registry.lenient_of_get?_standard found
  have wellBefore := isError_of_losing losing_fades all typed
  have inside : ∀ type ∈ types, type.NoErrorInside :=
    ((List.forall₂_and_left _ _).1 (all.imp fun _ _ both => both.symm)).1
  have sound : (definition.returnType types).isSound = true :=
    lenient.sound types fun type member =>
      Ty.isSound_iff.2 ⟨wellBefore type member, inside type member⟩
  have blurred : List.Forall₂ Ty.Blurs types others := by
    refine forall₂_of_typed (fun type other both well => ?_) all typed
    cases both.1 with
    | same => exact .same
    | error => cases well
    | unknown => exact .unknown
  refine ⟨?_, (Ty.isSound_iff.1 sound).2⟩
  have result := lenient.blurs types others blurred
  unfold Definition.returnType at sound ⊢
  generalize definition.returns.resolve others = other at result ⊢
  cases result with
  | same => exact .same
  | unknown => exact .unknown (Ty.isSound_iff.1 sound).1

theorem noErrorInside_referenceType {resolve : Resolver}
    (sound : ∀ field via type, resolve field via = .found type → type.NoErrorInside)
    (field : String) (via : Option String) : (referenceType resolve field via).NoErrorInside := by
  by_cases found : ∃ type, resolve field via = .found type
  · obtain ⟨type, answer⟩ := found
    have inside := sound field via type answer
    rw [referenceType_of_found answer]
    split
    · exact inside.lookedUp
    · exact inside
  · obtain ⟨message, failed⟩ := referenceType_of_not_found (not_exists.1 found)
    rw [failed]
    rintro _ ⟨⟩

end Expr

/-- All fields and links of the first schema are in the second one, with the same types. -/
structure Schema.PartOf (smaller larger : Schema) : Prop where
  fields : ∀ name type, smaller.fields.get? name = some type → larger.fields.get? name = some type
  links : ∀ name targets, smaller.links.get? name = some targets →
    ∃ others, larger.links.get? name = some others ∧
      ∀ field type, targets.get? field = some type → others.get? field = some type

/-- What the smaller schema knows at all, the larger one knows as well. -/
theorem Schema.PartOf.resolve_eq {smaller larger : Schema} (part : smaller.PartOf larger)
    {field : String} {via : Option String} {type : Ty}
    (found : smaller.resolve field via = .found type) : larger.resolve field via = .found type := by
  cases via with
  | none =>
    simp only [resolve] at found ⊢
    cases entry : smaller.fields.get? field with
    | none => simp [entry] at found
    | some own =>
      rw [entry] at found
      rw [part.fields field own entry]
      exact found
  | some link =>
    simp only [resolve] at found ⊢
    cases entry : smaller.links.get? link with
    | none =>
      rw [entry] at found
      simp only at found
      split at found <;> cases found
    | some targets =>
      obtain ⟨others, linked, wider⟩ := part.links link targets entry
      rw [entry] at found
      simp only at found
      rw [linked]
      simp only
      cases target : targets.get? field with
      | none => simp [target] at found
      | some own =>
        rw [target] at found
        rw [wider field own target]
        exact found

theorem Schema.PartOf.breaks {smaller larger : Schema} (part : smaller.PartOf larger)
    (field : String) (via : Option String) :
    Ty.Breaks (Expr.referenceType larger.resolve field via)
      (Expr.referenceType smaller.resolve field via) := by
  by_cases known : ∃ type, smaller.resolve field via = .found type
  · obtain ⟨type, found⟩ := known
    rw [Expr.referenceType_of_found found, Expr.referenceType_of_found (part.resolve_eq found)]
    exact .same
  · obtain ⟨message, failed⟩ := Expr.referenceType_of_not_found (not_exists.1 known)
    rw [failed]
    exact .error

namespace Compiler

/-- A formula that is accepted stays accepted when less is known about the fields it refers to, and
at every node its type stays, becomes an error or is not known any more. Fields and links that are
deleted from a schema are one way to know less. -/
theorem check_fades :
    (∀ (limits : Limits) (α : Type) (expr : Expr α) (first second : Resolver) (typed : Expr Ty),
      (∀ field via type, first field via = .found type → type.NoErrorInside) →
      (∀ dependency ∈ expr.dependencies,
        Ty.Fades (Expr.referenceType first dependency.field dependency.via)
          (Expr.referenceType second dependency.field dependency.via)) →
      Compiler.check ⟨.standard, limits⟩ first expr = .ok typed →
      ∃ faded, Compiler.check ⟨.standard, limits⟩ second expr = .ok faded ∧
        Expr.Alike Ty.Fades typed faded) ∧
    ∀ (compiler : Compiler) (α : Type) (expr : Expr α) (larger smaller : Schema) (typed : Expr Ty),
      smaller.PartOf larger → compiler.check larger.resolve expr = .ok typed →
      ∃ faded, compiler.check smaller.resolve expr = .ok faded ∧
        Expr.Alike Ty.Fades typed faded := by
  constructor
  · intro limits α expr first second typed sound fades succeeded
    have follows : Follows (fun _ => False)
        (Expr.Alike fun type other => Ty.Fades type other ∧ type.NoErrorInside)
        (Compiler.check ⟨.standard, limits⟩ first expr)
        (Compiler.check ⟨.standard, limits⟩ second expr) :=
      check_follows Expr.inherited_fades fun dependency member =>
        ⟨fades dependency member,
          Expr.noErrorInside_referenceType sound dependency.field dependency.via⟩
    obtain ⟨faded, checked, alike⟩ := follows.ok typed succeeded
    exact ⟨faded, checked, alike.mono fun _ _ both => both.1⟩
  · intro compiler α expr larger smaller typed part succeeded
    have follows : Follows (fun _ => False) (Expr.Alike Ty.Breaks)
        (compiler.check larger.resolve expr) (compiler.check smaller.resolve expr) :=
      check_follows Expr.inherited_breaks fun dependency _ =>
        part.breaks dependency.field dependency.via
    obtain ⟨faded, checked, alike⟩ := follows.ok typed succeeded
    exact ⟨faded, checked, alike.mono fun _ _ => Ty.Breaks.fades⟩

/-- The type of a sum is lost with that of what it sums, and the sum breaks without the link. -/
theorem check_fades_of_sum :
    ∃ expr : Expr Unit, ∃ typed,
      Compiler.check {} (Schema.empty.withLink "a" [("b", .number 2)]).resolve expr = .ok typed ∧
      typed.note = .number 2 ∧
      (∃ faded, Compiler.check {} (Schema.empty.withLink "a" [("b", .untyped)]).resolve expr =
        .ok faded ∧ Expr.Alike Ty.Fades typed faded) ∧
      ∃ faded, Compiler.check {} (Schema.empty.withField "a" (.array .link)).resolve expr =
        .ok faded ∧ Expr.Alike Ty.Fades typed faded := by
  let schema := Schema.empty.withLink "a" [("b", .number 2)]
  let blurred := Schema.empty.withLink "a" [("b", .untyped)]
  let expr : Expr Unit := .call "sum" [.reference "b" (some "a") ()] ()
  have typed : Compiler.check {} schema.resolve expr = .ok
      (.call "sum" [.reference "b" (some "a") (.lookup (.number 2))] (.number 2)) := by decide +kernel
  have sound : ∀ field via type, schema.resolve field via = .found type → type.NoErrorInside := by
    intro field via type found
    have known : type = .number 2 ∨ type = .array .link := by
      cases via <;> grind [Schema.resolve, Schema.withLink, Schema.empty, Table.contains,
        Table.ofList, Table.get?_insert, Table.get?_empty]
    rcases known with rfl | rfl <;> rintro _ ⟨⟩
    rfl
  have fades : ∀ dependency ∈ expr.dependencies,
      Ty.Fades (Expr.referenceType schema.resolve dependency.field dependency.via)
        (Expr.referenceType blurred.resolve dependency.field dependency.via) := by
    intro dependency member
    have reads := Expr.mem_dependencies.1 member
    simp only [expr, Expr.reads_call_iff, List.mem_cons, List.not_mem_nil, or_false,
      exists_eq_left, Expr.reads_reference_iff] at reads
    subst reads
    have lost : Expr.referenceType blurred.resolve "b" (some "a") = .untyped := by decide
    rw [lost]
    exact .unknown (by decide)
  have part : (Schema.empty.withField "a" (.array .link)).PartOf schema := by
    refine ⟨fun _ _ found => found, ?_⟩
    intro name targets impossible
    cases impossible
  exact ⟨expr, _, typed, rfl, check_fades.1 {} Unit expr _ _ _ sound fades typed,
    check_fades.2 {} Unit expr _ _ _ part typed⟩

end Compiler

end FieldFormula
