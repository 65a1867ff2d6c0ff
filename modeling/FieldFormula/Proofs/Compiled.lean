import FieldFormula.Proofs.RoundTrip
import FieldFormula.Proofs.Typed

/-! What a compiled formula says about its source. It is put together from the typed expression; but
types aside this is the expression that was read, since a source is read to calls of functions by
their own names. So everything in it is about what was read. -/

namespace FieldFormula

namespace Expr

variable {α β : Type}

/-- Notes have no part in what is referred to. -/
theorem reads_mapNotes_iff {f : α → β} {expr : Expr α} {dependency : Dependency} :
    Reads (expr.mapNotes f) dependency ↔ Reads expr dependency := by
  induction expr using induction_on_args with
  | string value note | integer value note | decimal value note | boolean value note =>
    rw [mapNotes]
    constructor <;> rintro ⟨⟩
  | reference field via note => rw [mapNotes, reads_reference_iff, reads_reference_iff]
  | call function args note ih =>
    rw [mapNotes, mapNotesAll_eq_map, reads_call_iff, reads_call_iff]
    simp only [List.mem_map, exists_exists_and_eq_and]
    exact exists_congr fun arg => and_congr_right (ih arg)

theorem calls_mapNotes_iff {f : α → β} {expr : Expr α} {function : String} :
    Calls (expr.mapNotes f) function ↔ Calls expr function := by
  induction expr using induction_on_args with
  | string value note | integer value note | decimal value note | boolean value note
  | reference field via note =>
    rw [mapNotes]
    constructor <;> rintro ⟨⟩
  | call other args note ih =>
    rw [mapNotes, mapNotesAll_eq_map, calls_call_iff, calls_call_iff]
    simp only [List.mem_map, exists_exists_and_eq_and]
    exact or_congr_right (exists_congr fun arg => and_congr_right (ih arg))

theorem bare_eq_self (expr : Expr Unit) : expr.bare = expr := by
  induction expr using induction_on_args with
  | string value note | integer value note | decimal value note | boolean value note
  | reference field via note => rfl
  | call function args note ih =>
    have same : args.map bare = args := calc
      args.map bare = args.map id := List.map_congr_left ih
      _ = args := List.map_id args
    unfold bare at same ⊢
    rw [mapNotes, mapNotesAll_eq_map, same]

end Expr

/-- A compiled formula describes an expression: it holds this expression with types, and the fields,
the functions and the dependence on time that it reports are those of the expression. -/
structure Compiled.Describes (compiled : Compiled) (registry : Registry) (expr : Expr Unit) :
    Prop where
  bare_eq : compiled.expression.bare = expr
  type_eq : compiled.type = compiled.expression.note
  mem_dependencies : ∀ dependency, dependency ∈ compiled.dependencies ↔ Expr.Reads expr dependency
  dependencies_increasing : compiled.dependencies.Pairwise (· < ·)
  mem_functionsUsed : ∀ function, function ∈ compiled.functionsUsed ↔ Expr.Calls expr function
  functionsUsed_increasing : compiled.functionsUsed.Pairwise (· < ·)
  registered : ∀ function ∈ compiled.functionsUsed,
    ∃ definition, (function, definition) ∈ registry.functions.entries
  periodic_iff : compiled.needsPeriodicUpdate = true ↔
    ∃ function definition, Expr.Calls expr function ∧ registry.get? function = some definition ∧
      definition.needsPeriodicUpdate = true

namespace Compiler

variable {compiler : Compiler} {resolve : Resolver} {source : String} {compiled : Compiled}
  {expr : Expr Unit}

theorem compile_eq_ok_iff :
    compiler.compile resolve source = .ok compiled ↔
      ∃ expr typed, compiler.read source = .ok expr ∧ compiler.check resolve expr = .ok typed ∧
        compiler.describe typed = compiled := by
  constructor
  · intro succeeded
    obtain ⟨expr, read, succeeded⟩ := bind_eq_ok_iff.1 succeeded
    obtain ⟨typed, checked, same⟩ := bind_eq_ok_iff.1 succeeded
    cases same
    exact ⟨expr, typed, read, checked, rfl⟩
  · rintro ⟨expr, typed, read, checked, rfl⟩
    exact bind_eq_ok_iff.2 ⟨expr, read, bind_eq_ok_iff.2 ⟨typed, checked, rfl⟩⟩

/-- What is read calls registered functions, each by the name that it is kept under. -/
theorem exists_of_read_calls {function : String} (read : compiler.read source = .ok expr)
    (calls : Expr.Calls expr function) :
    ∃ definition, compiler.registry.get? function = some definition ∧
      definition.name = function := by
  obtain ⟨definition, found, named, _⟩ := (admissible_of_read read).exists_of_calls calls
  exact ⟨definition, found, named⟩

theorem bare_of_check (read : compiler.read source = .ok expr) {typed : Expr Ty}
    (checked : compiler.check resolve expr = .ok typed) : typed.bare = expr := by
  rw [Expr.bare_of_checkAt (fun _ calls => exists_of_read_calls read calls) checked]
  exact expr.bare_eq_self

/-- Every part of a compiled formula describes the expression that its source is read to. -/
theorem compile_describes (compiler : Compiler) (resolve : Resolver) (source : String)
    (compiled : Compiled) (succeeded : compiler.compile resolve source = .ok compiled) :
    ∃ expr, compiler.read source = .ok expr ∧ compiled.Describes compiler.registry expr := by
  obtain ⟨expr, typed, read, checked, rfl⟩ := compile_eq_ok_iff.1 succeeded
  have same := bare_of_check read checked
  have reads (dependency : Dependency) : Expr.Reads typed dependency ↔ Expr.Reads expr dependency := by
    rw [← same]
    exact Expr.reads_mapNotes_iff.symm
  have calls (function : String) : Expr.Calls typed function ↔ Expr.Calls expr function := by
    rw [← same]
    exact Expr.calls_mapNotes_iff.symm
  refine ⟨expr, read, ?_⟩
  constructor
  case bare_eq => exact same
  case type_eq => rfl
  case mem_dependencies =>
    intro dependency
    exact Expr.mem_dependencies.trans (reads dependency)
  case dependencies_increasing => exact typed.pairwise_dependencies
  case mem_functionsUsed =>
    intro function
    exact Expr.mem_functionsUsed.trans (calls function)
  case functionsUsed_increasing => exact typed.pairwise_functionsUsed
  case registered =>
    intro function used
    have called := (calls function).1 (Expr.mem_functionsUsed.1 used)
    obtain ⟨definition, found, rfl⟩ := exists_of_read_calls read called
    exact ⟨definition, Registry.mem_of_get? found⟩
  case periodic_iff =>
    simp only [← calls]
    exact Expr.needsPeriodicUpdate_eq_true_iff

/-- The sign calls a function as well, here one that changes with time. -/
theorem compile_describes_of_sign :
    ∃ registry compiled, Compiler.compile ⟨registry, {}⟩ (fun _ _ => .found (.number 2))
        "-field('b') - field('a')" = .ok compiled ∧
      compiled.dependencies = [⟨"a", none⟩, ⟨"b", none⟩] ∧ compiled.functionsUsed = ["minus"] ∧
      compiled.needsPeriodicUpdate = true ∧
      compiled.Describes registry (.call "minus" [
        .call "minus" [.integer 0 (), .reference "b" none ()] (), .reference "a" none ()] ()) := by
  let registry := Registry.ofDefinitions
    [(Definition.ofName "minus" (.exactly 2) (.fixed .duration)).periodic]
  have read : Compiler.read ⟨registry, {}⟩ "-field('b') - field('a')" =
      .ok (.call "minus" [
        .call "minus" [.integer 0 (), .reference "b" none ()] (), .reference "a" none ()] ()) := by
    decide +kernel
  have checked : Compiler.check ⟨registry, {}⟩ (fun _ _ => .found (.number 2))
      (.call "minus" [.call "minus" [.integer 0 (), .reference "b" none ()] (),
        .reference "a" none ()] () : Expr Unit) =
      .ok (.call "minus" [.call "minus" [.integer 0 (.number 0),
        .reference "b" none (.number 2)] .duration, .reference "a" none (.number 2)] .duration) := by
    decide +kernel
  have compiled := compile_eq_ok_iff.2 ⟨_, _, read, checked, rfl⟩
  obtain ⟨expr, readAgain, describes⟩ := compile_describes ⟨registry, {}⟩ _ _ _ compiled
  cases read.symm.trans readAgain
  exact ⟨registry, _, compiled, by decide +kernel, by decide +kernel, by decide +kernel, describes⟩

end Compiler

end FieldFormula
