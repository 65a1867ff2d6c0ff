import FieldFormula.Proofs.Simulation

/-! Renaming commutes with checking. Names reach the types of an expression only through the messages
of errors, and these reach nothing else: neither the rules for arguments nor the types of results
look at them. -/

namespace FieldFormula

/-- Types are the same up to what an error says. -/
inductive Ty.SameButMessage : Ty → Ty → Prop
  | refl {type : Ty} : SameButMessage type type
  | error {message other : String} : SameButMessage (.error message) (.error other)

theorem Ty.SameButMessage.kind?_eq {type other : Ty} (same : SameButMessage type other) :
    other.kind? = type.kind? := by
  cases same <;> rfl

/-- The rule of an operand looks at nothing but the kind of the first argument. -/
theorem ArgRule.check_congr {rule : ArgRule} {actual : Ty} {first second : Option Ty}
    (kinds : second.bind Ty.kind? = first.bind Ty.kind?) :
    rule.check actual second = rule.check actual first := by
  unfold check
  rw [kinds]

namespace Definition

variable {definition : Definition} {first second : Option Ty} {types others : List Ty}

theorem checkFrom_congr (kinds : second.bind Ty.kind? = first.bind Ty.kind?)
    (same : List.Forall₂ Ty.SameButMessage types others) (start : Nat) :
    definition.checkFrom second start others = definition.checkFrom first start types := by
  induction same generalizing start with
  | nil => rfl
  | cons head _ ih =>
    cases head with
    | refl => rw [checkFrom, checkFrom, ih, ArgRule.check_congr kinds]
    | error => exact ih (start + 1)

theorem checkArgs_congr (same : List.Forall₂ Ty.SameButMessage types others) :
    definition.checkArgs others = definition.checkArgs types := by
  refine checkFrom_congr ?_ same 0
  cases same with
  | nil => rfl
  | cons head _ => exact head.kind?_eq

/-- The argument that is reported is none of those that are passed over, so it is the same. -/
theorem getElem?_of_checkFrom_eq_error {start index : Nat} {expected : Expected}
    (same : List.Forall₂ Ty.SameButMessage types others)
    (failed : definition.checkFrom first start types = .error (index, expected)) :
    ∃ offset, index = start + offset ∧ others[offset]? = types[offset]? := by
  induction same generalizing start with
  | nil => cases failed
  | @cons type other types others head _ ih =>
    have later (failed : definition.checkFrom first (start + 1) types = .error (index, expected)) :
        ∃ offset, index = start + offset ∧ (other :: others)[offset]? = (type :: types)[offset]? := by
      obtain ⟨offset, rfl, element⟩ := ih failed
      exact ⟨offset + 1, by omega, by simpa using element⟩
    cases head with
    | error => exact later failed
    | refl =>
      rw [checkFrom] at failed
      split at failed
      · exact later failed
      · split at failed
        · exact later failed
        · cases failed
          exact ⟨0, rfl, rfl⟩

end Definition

/-- Errors stand at the same places, and where there are none the types are the same. -/
theorem Ty.find?_isError_of_same {types others : List Ty}
    (same : List.Forall₂ SameButMessage types others) :
    (∃ message other, types.find? isError = some (.error message) ∧
      others.find? isError = some (.error other)) ∨
    types.find? isError = none ∧ others = types := by
  induction same with
  | nil => exact .inr ⟨rfl, rfl⟩
  | @cons type other types others head _ ih =>
    cases head with
    | error => exact .inl ⟨_, _, rfl, rfl⟩
    | refl =>
      cases type with
      | error message => exact .inl ⟨message, message, rfl, rfl⟩
      | _ =>
        rcases ih with found | ⟨none, rfl⟩
        · exact .inl found
        · exact .inr ⟨none, rfl⟩

namespace Expr

variable {α : Type} {registry : Registry} {newName : String → String} {link : Option String}

theorem callType_follows_sameButMessage {definition : Definition} {types others : List Ty}
    (same : List.Forall₂ Ty.SameButMessage types others) :
    Follows (fun _ => True) Ty.SameButMessage (callType definition types)
      (callType definition others) := by
  constructor
  · intro type succeeded
    obtain ⟨passed, result⟩ := callType_eq_ok_iff.1 succeeded
    refine ⟨_, callType_eq_ok_iff.2 ⟨(definition.checkArgs_congr same).trans passed, rfl⟩, ?_⟩
    subst result
    rcases Ty.find?_isError_of_same same with ⟨message, other, found, foundSecond⟩ | ⟨none, rfl⟩
    · rw [found, foundSecond]
      exact .error
    · exact .refl
  · intro error _ failed
    obtain ⟨index, expected, mismatch, rfl⟩ := callType_eq_error_iff.1 failed
    obtain ⟨offset, place, element⟩ := definition.getElem?_of_checkFrom_eq_error same mismatch
    rw [Nat.zero_add] at place
    subst place
    refine callType_eq_error_iff.2
      ⟨index, expected, (definition.checkArgs_congr same).trans mismatch, ?_⟩
    rw [element]

theorem inherited_sameButMessage :
    Inherited registry (fun _ => True) Ty.SameButMessage where
  text := .refl
  number _ := .refl
  boolean := .refl
  call _ _ _ _ _ same := callType_follows_sameButMessage same

theorem inherited_eq : Inherited registry (fun _ => True) Eq where
  text := rfl
  number _ := rfl
  boolean := rfl
  call _ definition _ types others same := by
    rw [List.forall₂_eq_eq_eq] at same
    rw [same]
    cases callType definition others with
    | error error => exact .of_error error
    | ok type => exact .of_ok rfl

end Expr

/-- Renaming makes no lookup of a field and no field of a lookup. -/
theorem Dependency.via_rename (newName : String → String) (link : Option String)
    (dependency : Dependency) :
    (dependency.rename newName link).via.isSome = dependency.via.isSome := by
  obtain ⟨field, via⟩ := dependency
  cases link with
  | none => cases via <;> rfl
  | some link =>
    cases via with
    | none => rfl
    | some via =>
      simp only [rename]
      split <;> rfl

namespace Expr

variable {first second : Resolver} {dependency renamed : Dependency}

theorem referenceType_eq_of_found {type : Ty}
    (lookup : renamed.via.isSome = dependency.via.isSome)
    (answer : second renamed.field renamed.via = first dependency.field dependency.via)
    (found : first dependency.field dependency.via = .found type) :
    referenceType first dependency.field dependency.via =
      referenceType second renamed.field renamed.via := by
  rw [referenceType_of_found found, referenceType_of_found (answer.trans found), lookup]

theorem referenceType_same (lookup : renamed.via.isSome = dependency.via.isSome)
    (answer : second renamed.field renamed.via = first dependency.field dependency.via) :
    Ty.SameButMessage (referenceType first dependency.field dependency.via)
      (referenceType second renamed.field renamed.via) := by
  cases own : first dependency.field dependency.via with
  | found type =>
    rw [referenceType_eq_of_found lookup answer own]
    exact .refl
  | notFound =>
    unfold referenceType
    rw [answer, own]
    cases dependency.via <;> cases renamed.via <;> exact .error
  | notALink =>
    unfold referenceType
    rw [answer, own]
    exact .refl

end Expr

/-- What a schema says about a reference after its renaming: without a link the names of the table
itself are new, link fields among them, and with one those behind it. -/
theorem Dependency.resolve_rename {newName : String → String} {link : Option String}
    {first second : Resolver} {field : String} {via : Option String}
    (answers : match link, via with
      | none, none => second (newName field) none = first field none
      | none, some via => second field (some (newName via)) = first field (some via)
      | some link, via =>
        second (if via = some link then newName field else field) via = first field via) :
    second (rename newName link ⟨field, via⟩).field (rename newName link ⟨field, via⟩).via =
      first field via := by
  cases link with
  | none => cases via <;> exact answers
  | some link =>
    cases via with
    | none => exact answers
    | some via =>
      by_cases same : via = link
      · simpa [rename, same] using answers
      · simpa [rename, same] using answers

namespace Compiler

/-- If a schema answers for the renamed references as another one does for the original ones, the
renamed expression is checked as the original one is: it is rejected with the same errors, and
accepted with the renamed types, but for the messages of references that lead nowhere. -/
theorem check_rename (compiler : Compiler) {α : Type} (expr : Expr α) (newName : String → String)
    (link : Option String) (first second : Resolver)
    (answers : ∀ field via, ⟨field, via⟩ ∈ expr.dependencies →
      match link, via with
      | none, none => second (newName field) none = first field none
      | none, some via => second field (some (newName via)) = first field (some via)
      | some link, via =>
        second (if via = some link then newName field else field) via = first field via) :
    (∀ error, compiler.check second (expr.rename newName link) = .error error ↔
      compiler.check first expr = .error error) ∧
    (∀ typed, compiler.check first expr = .ok typed →
      ∃ renamed, compiler.check second (expr.rename newName link) = .ok renamed ∧
        Expr.Alike Ty.SameButMessage (typed.rename newName link) renamed) ∧
    ((∀ dependency ∈ expr.dependencies,
      ∃ type, first dependency.field dependency.via = .found type) →
      compiler.check second (expr.rename newName link) =
        (compiler.check first expr).map (Expr.rename newName link)) := by
  have lookup := Dependency.via_rename newName link
  have answered (dependency : Dependency) (member : dependency ∈ expr.dependencies) :
      second (dependency.rename newName link).field (dependency.rename newName link).via =
        first dependency.field dependency.via :=
    Dependency.resolve_rename (answers dependency.field dependency.via member)
  have follows : Follows (fun _ => True)
      (fun typed other => Expr.Alike Ty.SameButMessage (typed.rename newName link) other)
      (compiler.check first expr) (compiler.check second (expr.rename newName link)) := by
    refine check_follows_renamed Expr.inherited_sameButMessage fun dependency member => ?_
    exact Expr.referenceType_same (lookup dependency) (answered dependency member)
  refine ⟨fun error => ⟨fun failed => ?_, follows.error error trivial⟩, follows.ok, fun found => ?_⟩
  · cases own : compiler.check first expr with
    | error other =>
      have same := follows.error other trivial own
      rw [failed] at same
      exact same.symm
    | ok typed =>
      obtain ⟨renamed, succeeded, _⟩ := follows.ok typed own
      rw [failed] at succeeded
      cases succeeded
  · have exactly : Follows (fun _ => True)
        (fun typed other => Expr.Alike Eq (typed.rename newName link) other)
        (compiler.check first expr) (compiler.check second (expr.rename newName link)) := by
      refine check_follows_renamed Expr.inherited_eq fun dependency member => ?_
      obtain ⟨type, known⟩ := found dependency member
      exact Expr.referenceType_eq_of_found (lookup dependency) (answered dependency member) known
    cases own : compiler.check first expr with
    | error error => exact exactly.error error trivial own
    | ok typed =>
      obtain ⟨renamed, succeeded, alike⟩ := exactly.ok typed own
      rw [succeeded, ← alike.eq]
      rfl

/-- Behind a link one field has a new name and another is missing under both of its names, while the
field of the table itself that is named like the first stays. -/
theorem check_rename_of_missing_field :
    let first := (Schema.empty.withField "a" .text).withLink "link" [("a", .number 2)]
    let second := (Schema.empty.withField "a" .text).withLink "link" [("b", .number 2)]
    ∃ registry typed renamed,
      Compiler.check ⟨registry, 1, 9⟩ first.resolve
        (.call "list" [.reference "a" none (), .reference "a" (some "link") (),
          .reference "c" (some "link") ()] () : Expr Unit) = .ok typed ∧
      Compiler.check ⟨registry, 1, 9⟩ second.resolve
        (.call "list" [.reference "a" none (), .reference "b" (some "link") (),
          .reference "d" (some "link") ()] () : Expr Unit) = .ok renamed ∧
      Expr.Alike Ty.SameButMessage
        (typed.rename (Expr.newNameIn (.ofList [("a", "b"), ("c", "d")])) (some "link")) renamed ∧
      typed.note ≠ renamed.note := by
  intro first second
  let registry := Registry.ofDefinitions
    [(Definition.ofName "list" (.exactly 3) (.fixed .untyped)).withArgs
      [.any, .lookupOf [.number], .any]]
  let newName := Expr.newNameIn (.ofList [("a", "b"), ("c", "d")])
  let expr : Expr Unit := .call "list" [.reference "a" none (), .reference "a" (some "link") (),
    .reference "c" (some "link") ()] ()
  have answers : ∀ dependency ∈ expr.dependencies,
      second.resolve
        (if dependency.via = some "link" then newName dependency.field else dependency.field)
        dependency.via = first.resolve dependency.field dependency.via := by decide +kernel
  have typed : Compiler.check ⟨registry, 1, 9⟩ first.resolve expr =
      .ok (.call "list" [.reference "a" none .text,
        .reference "a" (some "link") (.lookup (.number 2)), .reference "c" (some "link")
          (.error "references the deleted or unknown field c through link")]
        (.error "references the deleted or unknown field c through link")) := by decide +kernel
  have renamed : Compiler.check ⟨registry, 1, 9⟩ second.resolve
      (.call "list" [.reference "a" none (), .reference "b" (some "link") (),
        .reference "d" (some "link") ()] () : Expr Unit) =
      .ok (.call "list" [.reference "a" none .text,
        .reference "b" (some "link") (.lookup (.number 2)), .reference "d" (some "link")
          (.error "references the deleted or unknown field d through link")]
        (.error "references the deleted or unknown field d through link")) := by decide +kernel
  obtain ⟨_, succeeded, _⟩ := check_rename ⟨registry, 1, 9⟩ expr newName (some "link") _ _
    fun field via member => answers ⟨field, via⟩ member
  obtain ⟨other, checked, alike⟩ := succeeded _ typed
  cases renamed.symm.trans checked
  exact ⟨registry, _, _, typed, renamed, alike, by decide⟩

end Compiler

end FieldFormula
