import FieldFormula.Proofs.Catalogue
import FieldFormula.Proofs.Signature
import FieldFormula.Proofs.Typed

/-! Where lookups may stand. No rule of a function that is not an aggregate names lookups, so these
are turned away; only the rule for a second operand lets everything pass, a lookup as well, when the
type of the first operand is not known. -/

namespace FieldFormula

/-- Whether a rule names lookups among what it lets pass. -/
def ArgRule.namesLookups : ArgRule → Bool
  | any | operand _ => false
  | oneOf kinds => kinds.contains .lookup
  | lookupOf _ => true

theorem Kind.lookup_notMem_related (kind : Kind) (relation : Relation) :
    .lookup ∉ kind.related relation := by
  cases kind <;> cases relation <;> decide

/-- A rule that does not name lookups lets one pass for a single reason: it follows the first operand,
and does not know what that is. -/
theorem ArgRule.check_lookup_eq_ok_iff {rule : ArgRule} (single : rule.namesLookups = false)
    (element : Ty) (first : Option Ty) :
    rule.check (.lookup element) first = .ok () ↔
      (∃ relation, rule = .operand relation) ∧ first.bind Ty.kind? = none := by
  cases rule with
  | any => simp [check, Ty.kind?]
  | oneOf kinds =>
    have unlisted : .lookup ∉ kinds := by simpa [namesLookups] using single
    simp [check, Ty.kind?, unlisted]
  | lookupOf kinds => cases single
  | operand relation =>
    cases known : first.bind Ty.kind? with
    | none => simp [check, Ty.kind?, known]
    | some kind => simp [check, Ty.kind?, known, kind.lookup_notMem_related relation]

theorem Catalogue.single_of_mem {definition : Definition} (member : definition ∈ definitions)
    (plain : definition.isAggregate = false) (index : Nat) :
    (definition.argRule index).namesLookups = false := by
  have listed : ∀ definition ∈ definitions, definition.isAggregate = false →
      ∀ rule ∈ definition.argRules, rule.namesLookups = false := by
    decide +kernel
  rcases definition.argRule_mem_or_any index with rule | any
  · exact listed definition member plain _ rule
  · rw [any]
    rfl

theorem Registry.single_of_get?_standard {name : String} {definition : Definition}
    (found : Registry.standard.get? name = some definition)
    (plain : definition.isAggregate = false) (index : Nat) :
    (definition.argRule index).namesLookups = false :=
  Catalogue.single_of_mem (mem_of_mem_ofDefinitions (mem_of_get? found)) plain index

/-- Arguments that passed have passed one by one, a lookup by the rule for its place. -/
theorem Expr.Justified.check_lookup {registry : Registry} {resolve : Resolver} {function : String}
    {args : List (Expr Ty)} {type : Ty} {definition : Definition}
    (justified : Justified registry resolve (.call function args type))
    (found : registry.get? function = some definition) {index : Nat} {arg : Expr Ty} {element : Ty}
    (held : args[index]? = some arg) (lookup : arg.note = .lookup element) :
    (definition.argRule index).check (.lookup element) (args.head?.map note) = .ok () := by
  obtain ⟨own, ownFound, _, _, called⟩ := justified
  cases found.symm.trans ownFound
  obtain ⟨passed, _⟩ := callType_eq_ok_iff.1 called
  have place : (args.map note)[index]? = some (.lookup element) := by
    rw [List.getElem?_map, held, Option.map_some, lookup]
  rcases Definition.checkArgs_eq_ok_iff.1 passed index _ place with error | rule
  · cases error
  · rw [List.head?_map] at rule
    exact rule

namespace Compiler

/-- In a call of a function that is not an aggregate, a lookup stands only where the rule follows the
first operand and the type of that is not known; and nothing but such a rule, behind such an operand,
lets a lookup pass. -/
theorem check_lookup_operand {α : Type} (limits : Limits) (resolve : Resolver) (expr : Expr α)
    (typed : Expr Ty) (succeeded : Compiler.check ⟨.standard, limits⟩ resolve expr = .ok typed)
    (level : Nat) (function : String) (args : List (Expr Ty)) (type : Ty)
    (lies : Expr.LiesAt typed level (.call function args type)) (definition : Definition)
    (found : Registry.standard.get? function = some definition)
    (plain : definition.isAggregate = false) :
    (∀ index arg element, args[index]? = some arg → arg.note = .lookup element →
      (∃ relation, definition.argRule index = .operand relation) ∧
        ∃ first, args.head? = some first ∧ first.note.kind? = none) ∧
    ∀ index element first, (definition.argRule index).check (.lookup element) first = .ok () ↔
      (∃ relation, definition.argRule index = .operand relation) ∧ first.bind Ty.kind? = none := by
  have exactly (index : Nat) (element : Ty) (first : Option Ty) :=
    ArgRule.check_lookup_eq_ok_iff (Registry.single_of_get?_standard found plain index) element first
  refine ⟨?_, exactly⟩
  intro index arg element held lookup
  have justified := Expr.justified_of_checkAt succeeded level _ lies
  obtain ⟨operand, unknown⟩ := (exactly index element _).1 (justified.check_lookup found held lookup)
  refine ⟨operand, ?_⟩
  cases args with
  | nil => cases held
  | cons first others => exact ⟨first, rfl, unknown⟩

/-- A lookup is added to a field that is missing; behind a text it would not pass. -/
theorem check_lookup_operand_of_sum :
    ∃ typed definition,
      Compiler.check {} (Schema.empty.withLink "a" [("b", .number 2)]).resolve
        (.call "add" [.reference "c" none (), .reference "b" (some "a") ()] () : Expr Unit) =
          .ok typed ∧
      Registry.standard.get? "add" = some definition ∧
      (∃ relation, definition.argRule 1 = .operand relation) ∧
      (definition.argRule 1).check (.lookup (.number 2)) (some .text) ≠ .ok () := by
  have found : Registry.standard.get? "add" = some Catalogue.operators[0] :=
    Catalogue.get?_standard_of_mem (by simp [Catalogue.definitions]) (by decide)
  have typed : Compiler.check {} (Schema.empty.withLink "a" [("b", .number 2)]).resolve
      (.call "add" [.reference "c" none (), .reference "b" (some "a") ()] () : Expr Unit) =
        .ok (.call "add" [
          .reference "c" none (.error "references the deleted or unknown field c"),
          .reference "b" (some "a") (.lookup (.number 2))]
          (.error "references the deleted or unknown field c")) := by
    rw [check, Expr.check, Expr.checkAt_call_eq_ok_iff]
    exact ⟨by decide, _, _, _, Expr.resolveFunction_eq_ok_iff.2 ⟨found, rfl⟩, rfl, rfl, rfl⟩
  obtain ⟨places, exactly⟩ :=
    check_lookup_operand {} _ _ _ typed 0 "add" _ _ .root _ found rfl
  refine ⟨_, _, typed, found, (places 1 _ (.number 2) rfl rfl).1, fun passed => ?_⟩
  cases ((exactly 1 _ _).1 passed).2

/-- A lookup is compared with a field of unknown type, although equality is no aggregate. -/
theorem check_lookup_behind_untyped :
    ∃ args type definition arg,
      Compiler.check {}
        ((Schema.empty.withField "a" .untyped).withLink "b" [("c", .number 2)]).resolve
        (.call "equal" [.reference "a" none (), .reference "c" (some "b") ()] () : Expr Unit) =
          .ok (.call "equal" args type) ∧
      Registry.standard.get? "equal" = some definition ∧ definition.isAggregate = false ∧
      arg ∈ args ∧ arg.note = .lookup (.number 2) := by
  have found : Registry.standard.get? "equal" = some Catalogue.operators[4] :=
    Catalogue.get?_standard_of_mem (by simp [Catalogue.definitions]) (by decide)
  have typed : Compiler.check {}
      ((Schema.empty.withField "a" .untyped).withLink "b" [("c", .number 2)]).resolve
      (.call "equal" [.reference "a" none (), .reference "c" (some "b") ()] () : Expr Unit) =
        .ok (.call "equal" [.reference "a" none .untyped,
          .reference "c" (some "b") (.lookup (.number 2))] .boolean) := by
    rw [check, Expr.check, Expr.checkAt_call_eq_ok_iff]
    exact ⟨by decide, _, _, _, Expr.resolveFunction_eq_ok_iff.2 ⟨found, rfl⟩, rfl, rfl, rfl⟩
  exact ⟨_, _, _, _, typed, found, rfl, List.mem_cons_of_mem _ List.mem_cons_self, rfl⟩

end Compiler

end FieldFormula
