import FieldFormula.Proofs.Expr.Check
import FieldFormula.Proofs.Expr.Collect
import FieldFormula.Proofs.RoundTrip

/-! Sources are read to well-formed expressions, in which every node keeps to the limits and every
call bears the name of a function that takes its arguments. Checking such an expression can fail for
nothing but the type of an argument. -/

namespace FieldFormula

/-- The names of a reference keep to the limit on texts, and a lookup leaves neither name empty. -/
structure Dependency.Usable (limits : Limits) (dependency : Dependency) : Prop where
  field_short : dependency.field.length ≤ limits.maxStringLength
  link_short : ∀ link, dependency.via = some link → link.length ≤ limits.maxStringLength
  named : ∀ link, dependency.via = some link → link ≠ "" ∧ dependency.field ≠ ""

/-- The type of an argument is wrong. -/
def Error.IsArgumentType (error : Error) : Prop :=
  ∃ function index expected actual, error = .argumentType function index expected actual

namespace Expr

variable {α : Type} {registry : Registry} {limits : Limits}

/-- A node lies so many levels below the root of an expression. -/
inductive LiesAt : Expr α → Nat → Expr α → Prop
  | root {expr : Expr α} : LiesAt expr 0 expr
  | argument {function : String} {args : List (Expr α)} {note : α} {arg node : Expr α} {level : Nat}
      (member : arg ∈ args) (inside : LiesAt arg level node) :
      LiesAt (.call function args note) (level + 1) node

/-- What a single node has to meet, whatever lies below it. -/
def Fits (registry : Registry) (limits : Limits) : Expr α → Prop
  | string value _ => value.length ≤ limits.maxStringLength
  | reference field via _ => Dependency.Usable limits ⟨field, via⟩
  | call function args _ => ∃ definition, registry.get? function = some definition ∧
      definition.name = function ∧ definition.argCount.accepts args.length = true
  | integer .. | decimal .. | boolean .. => True

theorem exists_liesAt_of_reads {expr : Expr α} {dependency : Dependency}
    (reads : Reads expr dependency) :
    ∃ level note, LiesAt expr level (.reference dependency.field dependency.via note) := by
  induction reads with
  | reference => exact ⟨_, _, .root⟩
  | argument member _ ih =>
    obtain ⟨level, note, inside⟩ := ih
    exact ⟨level + 1, note, .argument member inside⟩

/-- What lies in an admissible expression is admissible on the level it lies on. -/
theorem LiesAt.admissible {expr node : Expr Unit} {level start : Nat} (lies : LiesAt expr level node)
    (admissible : Admissible registry limits start expr) :
    Admissible registry limits (start + level) node := by
  induction lies generalizing start with
  | root => exact admissible
  | argument member _ ih =>
    cases admissible with
    | call _ _ _ inside =>
      rw [Nat.add_comm _ 1, ← Nat.add_assoc]
      exact ih (inside.of_mem member)

theorem Admissible.within {depth : Nat} {expr : Expr Unit}
    (admissible : Admissible registry limits depth expr) : depth ≤ limits.maxDepth := by
  cases admissible <;> assumption

theorem Admissible.fits {depth : Nat} {expr : Expr Unit}
    (admissible : Admissible registry limits depth expr) : expr.Fits registry limits := by
  cases admissible with
  | string _ writable => exact writable.short
  | integer | decimal | boolean => trivial
  | field _ writable => exact ⟨writable.short, nofun, nofun⟩
  | lookup _ linkWritable fieldWritable named =>
    refine ⟨fieldWritable.short, ?_, ?_⟩
    · rintro _ ⟨⟩
      exact linkWritable.short
    · rintro _ ⟨⟩
      simpa using named
  | call _ resolved _ _ =>
    obtain ⟨found, accepted⟩ := resolveFunction_eq_ok_iff.1 resolved
    exact ⟨_, found, rfl, accepted⟩

/-- A well-formed expression gives the checker no other reason to fail. The induction follows the
levels down, since the checker counts the depth of each node anew. -/
theorem isArgumentType_of_checkAt_eq_error {resolve : Resolver} {expr : Expr α} {depth : Nat}
    {error : Error}
    (formed : ∀ level node, LiesAt expr level node →
      depth + level ≤ limits.maxDepth ∧ node.Fits registry limits)
    (failed : checkAt registry resolve limits depth expr = .error error) :
    error.IsArgumentType := by
  have shallow : ¬ limits.maxDepth < depth := Nat.not_lt.2 (formed 0 expr .root).1
  induction expr using induction_on_args generalizing depth with
  | string | integer | decimal | boolean | reference =>
    rw [checkAt, if_neg shallow] at failed
    cases failed
  | call function args note ih =>
    obtain ⟨definition, found, _, accepted⟩ := (formed 0 _ .root).2
    have resolved := resolveFunction_eq_ok_iff.2 ⟨found, accepted⟩
    rw [checkAt, if_neg shallow, resolved, ok_bind] at failed
    rcases bind_eq_error_iff.1 failed with inside | ⟨typed, _, failed⟩
    · obtain ⟨arg, member, below⟩ := exists_of_checkAllAt_eq_error inside
      have formedBelow (level : Nat) (node : Expr α) (lies : LiesAt arg level node) :
          depth + 1 + level ≤ limits.maxDepth ∧ node.Fits registry limits := by
        rw [Nat.add_assoc, Nat.add_comm 1]
        exact formed _ _ (.argument member lies)
      exact ih arg member formedBelow below (Nat.not_lt.2 (formedBelow 0 arg .root).1)
    · rcases bind_eq_error_iff.1 failed with mismatch | ⟨type, _, impossible⟩
      · obtain ⟨index, expected, _, rfl⟩ := callType_eq_error_iff.1 mismatch
        exact ⟨_, _, _, _, rfl⟩
      · cases impossible

end Expr

namespace Compiler

/-- Every node of what is read lies within the limit on nesting and meets all that is asked of it, so
that no schema makes the checker fail for any reason but the type of an argument. -/
theorem read_wellFormed (compiler : Compiler) (source : String) (expr : Expr Unit)
    (read : compiler.read source = .ok expr) :
    (∀ level node, Expr.LiesAt expr level node → level ≤ compiler.limits.maxDepth ∧
      node.Fits compiler.registry compiler.limits) ∧
    ∀ resolve error, compiler.check resolve expr = .error error → error.IsArgumentType := by
  have admissible := admissible_of_read read
  have formed (level : Nat) (node : Expr Unit) (lies : Expr.LiesAt expr level node) :
      0 + level ≤ compiler.limits.maxDepth ∧ node.Fits compiler.registry compiler.limits :=
    have inside := lies.admissible admissible
    ⟨inside.within, inside.fits⟩
  constructor
  · intro level node lies
    simpa only [Nat.zero_add] using formed level node lies
  · intro resolve error failed
    exact Expr.isArgumentType_of_checkAt_eq_error formed failed

/-- The zero that a sign brings in lies where the operand does, within the limit, and a lookup is
still a wrong operand. -/
theorem read_wellFormed_of_sign :
    ∃ registry expr error, Compiler.read ⟨registry, 1, 1⟩ "-lookup('a', 'b')" = .ok expr ∧
      Expr.LiesAt expr 1 (.integer 0 ()) ∧ Expr.LiesAt expr 1 (.reference "b" (some "a") ()) ∧
      Dependency.Usable ⟨1, 1⟩ ⟨"b", some "a"⟩ ∧
      Compiler.check ⟨registry, 1, 1⟩ (fun _ _ => .found .text) expr = .error error ∧
      error.IsArgumentType := by
  let registry := Registry.ofDefinitions
    [(Definition.ofName "minus" (.exactly 2) (.fixed .untyped)).withArgs [.oneOf [.number]]]
  have read : Compiler.read ⟨registry, 1, 1⟩ "-lookup('a', 'b')" =
      .ok (.call "minus" [.integer 0 (), .reference "b" (some "a") ()] ()) := by decide +kernel
  have failed : Compiler.check ⟨registry, 1, 1⟩ (fun _ _ => .found .text)
      (.call "minus" [.integer 0 (), .reference "b" (some "a") ()] () : Expr Unit) =
        .error (.argumentType "minus" 1 (.oneOf [.number]) (.lookup .text)) := by decide +kernel
  have zero : Expr.LiesAt (.call "minus" [.integer 0 (), .reference "b" (some "a") ()] ()) 1
      (.integer 0 ()) := .argument (by simp) .root
  have lookup : Expr.LiesAt (.call "minus" [.integer 0 (), .reference "b" (some "a") ()] ()) 1
      (.reference "b" (some "a") ()) := .argument (by simp) .root
  obtain ⟨formed, mismatch⟩ := read_wellFormed ⟨registry, 1, 1⟩ _ _ read
  exact ⟨registry, _, _, read, zero, lookup, (formed 1 _ lookup).2, failed, mismatch _ _ failed⟩

end Compiler

end FieldFormula
