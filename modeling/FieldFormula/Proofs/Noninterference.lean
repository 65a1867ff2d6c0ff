import FieldFormula.Compiler
import FieldFormula.Proofs.Expr.Build
import FieldFormula.Proofs.Expr.Collect

/-! Checking an expression asks for nothing but its dependencies. Schemas that agree on the fields
of the table itself which these read cannot be told apart by it. -/

namespace FieldFormula

namespace Expr

variable {α : Type} {registry : Registry} {limits : Limits} {first second : Resolver}

def SameAnswer (first second : Resolver) (dependency : Dependency) : Prop :=
  first dependency.field dependency.via = second dependency.field dependency.via

mutual

theorem checkAt_congr {depth : Nat} : (expr : Expr α) →
    (∀ dependency, Reads expr dependency → SameAnswer first second dependency) →
      checkAt registry first limits depth expr = checkAt registry second limits depth expr
  | string value note, _ | integer value note, _ | decimal value note, _
  | boolean value note, _ => by rw [checkAt, checkAt]
  | reference field via note, same => by
    have answer : first field via = second field via := same _ .reference
    have type : referenceType first field via = referenceType second field via := by
      unfold referenceType
      rw [answer]
    rw [checkAt, checkAt, type]
  | call function args note, same => by
    rw [checkAt, checkAt, checkAllAt_congr args fun arg member dependency inside =>
      same dependency (.argument member inside)]

theorem checkAllAt_congr {depth : Nat} : (args : List (Expr α)) →
    (∀ arg ∈ args, ∀ dependency, Reads arg dependency → SameAnswer first second dependency) →
      checkAllAt registry first limits depth args = checkAllAt registry second limits depth args
  | [], _ => by rw [checkAllAt, checkAllAt]
  | arg :: args, same => by
    rw [checkAllAt, checkAllAt, checkAt_congr arg (same arg List.mem_cons_self),
      checkAllAt_congr args fun other member => same other (List.mem_cons_of_mem _ member)]

end

end Expr

/-- Two schemas have the same entries for a name: the field of that name, and the fields that the
link of that name leads to. -/
structure Schema.AgreesOn (first second : Schema) (name : String) : Prop where
  field : first.fields.get? name = second.fields.get? name
  link : (first.links.get? name).map Table.get? = (second.links.get? name).map Table.get?

/-- A lookup depends on the link of its name and, for want of it, on whether a field has that name. -/
theorem Schema.AgreesOn.sameAnswer {first second : Schema} : (dependency : Dependency) →
    first.AgreesOn second dependency.ownField →
      Expr.SameAnswer first.resolve second.resolve dependency
  | ⟨field, none⟩, agree => by
    have entry : first.fields.get? field = second.fields.get? field := agree.field
    simp only [Expr.SameAnswer, resolve, entry]
  | ⟨field, some via⟩, agree => by
    have entry : first.fields.get? via = second.fields.get? via := agree.field
    have targets : (first.links.get? via).map Table.get? = (second.links.get? via).map Table.get? :=
      agree.link
    simp only [Expr.SameAnswer, resolve, Table.contains, entry]
    cases linked : first.links.get? via with
    | none =>
      cases linkedSecond : second.links.get? via with
      | none => rfl
      | some other => simp [linked, linkedSecond] at targets
    | some table =>
      cases linkedSecond : second.links.get? via with
      | none => simp [linked, linkedSecond] at targets
      | some other =>
        have entries : table.get? = other.get? := by simpa [linked, linkedSecond] using targets
        simp only [entries]

namespace Compiler

variable {α : Type}

theorem check_congr (compiler : Compiler) {first second : Resolver} {expr : Expr α}
    (same : ∀ dependency ∈ expr.dependencies, Expr.SameAnswer first second dependency) :
    compiler.check first expr = compiler.check second expr :=
  Expr.checkAt_congr expr fun dependency inside =>
    same dependency (Expr.mem_dependencies.2 inside)

theorem check_congr_of_agreesOn (compiler : Compiler) {first second : Schema} {expr : Expr α}
    (agree : ∀ name ∈ Dependency.ownFields expr.dependencies, first.AgreesOn second name) :
    compiler.check first.resolve expr = compiler.check second.resolve expr := by
  refine compiler.check_congr fun dependency member => ?_
  refine Schema.AgreesOn.sameAnswer dependency (agree _ ?_)
  exact mem_sortedSet.2 (List.mem_map_of_mem member)

/-- The result of a check is decided by the answers for the dependencies; for schemas, so are the
results of checking and of compiling by the entries for the fields that the dependencies read. -/
theorem check_noninterference (compiler : Compiler) :
    (∀ (α : Type) (expr : Expr α) (first second : Resolver),
      (∀ dependency ∈ expr.dependencies, first dependency.field dependency.via =
        second dependency.field dependency.via) →
      compiler.check first expr = compiler.check second expr) ∧
    (∀ (α : Type) (expr : Expr α) (first second : Schema),
      (∀ name ∈ Dependency.ownFields expr.dependencies, first.AgreesOn second name) →
      compiler.check first.resolve expr = compiler.check second.resolve expr) ∧
    ∀ (source : String) (expr : Expr Unit) (first second : Schema),
      compiler.read source = .ok expr →
      (∀ name ∈ Dependency.ownFields expr.dependencies, first.AgreesOn second name) →
      compiler.compile first.resolve source = compiler.compile second.resolve source := by
  refine ⟨fun _ _ _ _ same => compiler.check_congr same,
    fun _ _ _ _ agree => compiler.check_congr_of_agreesOn agree, ?_⟩
  intro source expr first second read agree
  unfold compile
  rw [read, ok_bind, ok_bind, compiler.check_congr_of_agreesOn agree]

/-- A lookup of `b` through `a` does not see the field `b` of the table itself. -/
theorem check_noninterference_of_lookup :
    ((Schema.empty.withLink "a" [("b", .text)]).withField "b" .text).resolve "b" none ≠
      ((Schema.empty.withLink "a" [("b", .text)]).withField "b" .boolean).resolve "b" none ∧
    Compiler.compile ⟨.empty, 0, 9⟩
        ((Schema.empty.withLink "a" [("b", .text)]).withField "b" .text).resolve
        "lookup('a', 'b')" =
      Compiler.compile ⟨.empty, 0, 9⟩
        ((Schema.empty.withLink "a" [("b", .text)]).withField "b" .boolean).resolve
        "lookup('a', 'b')" := by
  have read : Compiler.read ⟨.empty, 0, 9⟩ "lookup('a', 'b')" =
      .ok (.reference "b" (some "a") ()) := by decide +kernel
  refine ⟨by decide, (check_noninterference ⟨.empty, 0, 9⟩).2.2 _ _ _ _ read fun name member => ?_⟩
  have own : name = "a" := by
    simpa [Expr.dependencies, Expr.collectReferences, Dependency.ownFields, sortedSet, insertSorted,
      Dependency.ownField] using member
  subst own
  exact ⟨by decide, by simp [Schema.withField]⟩

end Compiler

end FieldFormula
