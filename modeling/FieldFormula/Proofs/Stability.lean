import Mathlib.Data.List.Forall2
import FieldFormula.Proofs.Typed

/-! Checking is stable. Notes have no part in it, so it can be repeated on what it returns; a typed
expression already calls functions by their own names and is returned as it is. The same goes for
every part of a typed expression, which is less deep by itself than it was in its place. -/

namespace FieldFormula

namespace Expr

variable {α β : Type} {registry : Registry} {resolve : Resolver} {limits roomier : Limits}
  {depth other : Nat}

theorem checkAllAt_mapNotes {f : α → β} {args : List (Expr α)}
    (each : ∀ arg ∈ args, checkAt registry resolve limits depth (arg.mapNotes f) =
      checkAt registry resolve limits depth arg) :
    checkAllAt registry resolve limits depth (args.map (mapNotes f)) =
      checkAllAt registry resolve limits depth args := by
  induction args with
  | nil => rw [List.map_nil, checkAllAt, checkAllAt]
  | cons arg args ih =>
    rw [List.forall_mem_cons] at each
    rw [List.map_cons, checkAllAt, checkAllAt, each.1, ih each.2]

/-- The notes that an expression had do not matter. -/
theorem checkAt_mapNotes (f : α → β) (expr : Expr α) (depth : Nat) :
    checkAt registry resolve limits depth (expr.mapNotes f) =
      checkAt registry resolve limits depth expr := by
  induction expr using induction_on_args generalizing depth with
  | string | integer | decimal | boolean | reference => rw [mapNotes, checkAt, checkAt]
  | call function args note ih =>
    rw [mapNotes, mapNotesAll_eq_map, checkAt, checkAt, List.length_map,
      checkAllAt_mapNotes fun arg member => ih arg member (depth + 1)]

/-- What is typed stays typed wherever there is at least as much room for it. -/
theorem checkAt_of_room {expr : Expr α} {typed : Expr Ty}
    (room : limits.maxDepth + other ≤ roomier.maxDepth + depth)
    (checked : checkAt registry resolve limits depth expr = .ok typed) :
    checkAt registry resolve roomier other expr = .ok typed := by
  induction expr using induction_on_args generalizing depth other typed with
  | string | integer | decimal | boolean | reference =>
    have shallow := not_deep_of_checkAt checked
    rw [checkAt, if_neg shallow] at checked
    rw [checkAt, if_neg (by omega), checked]
  | call function args note ih =>
    obtain ⟨shallow, definition, results, type, resolved, inside, called, rfl⟩ :=
      checkAt_call_eq_ok_iff.1 checked
    have each (arg : Expr α) (member : arg ∈ args) (result : Expr Ty)
        (below : checkAt registry resolve limits (depth + 1) arg = .ok result) :
        checkAt registry resolve roomier (other + 1) arg = .ok result :=
      ih arg member (by omega) below
    rw [checkAllAt_eq_ok_iff] at inside
    have again := ((List.forall₂_and_left _ _).2 ⟨each, inside⟩).imp fun _ result both =>
      both.1 result both.2
    exact checkAt_call_eq_ok_iff.2 ⟨by omega, definition, results, type, resolved,
      checkAllAt_eq_ok_iff.2 again, called, rfl⟩

/-- A typed expression is typed as it is. -/
theorem checkAt_typed {expr : Expr α} {typed : Expr Ty}
    (checked : checkAt registry resolve limits depth expr = .ok typed) :
    checkAt registry resolve limits depth typed = .ok typed := by
  induction expr using induction_on_args generalizing depth typed with
  | string | integer | decimal | boolean | reference =>
    have shallow := not_deep_of_checkAt checked
    rw [checkAt, if_neg shallow] at checked
    cases checked
    rw [checkAt, if_neg shallow]
  | call function args note ih =>
    obtain ⟨shallow, definition, results, type, resolved, inside, called, rfl⟩ :=
      checkAt_call_eq_ok_iff.1 checked
    rw [checkAllAt_eq_ok_iff] at inside
    have named := resolveFunction_name resolved
    rw [inside.length_eq] at named
    have each : ∀ result ∈ results,
        checkAt registry resolve limits (depth + 1) result = .ok result := by
      intro result member
      obtain ⟨arg, there, below⟩ := exists_left_of_forall₂ inside member
      exact ih arg there below
    exact checkAt_call_eq_ok_iff.2 ⟨shallow, definition, results, type, named,
      checkAllAt_eq_ok_iff.2 (List.forall₂_same.2 each), called, rfl⟩

/-- If an expression is typed as it is, so is every part of it in its place. -/
theorem LiesAt.checkAt_eq {expr node : Expr Ty} {level : Nat} (lies : LiesAt expr level node)
    (typed : checkAt registry resolve limits depth expr = .ok expr) :
    checkAt registry resolve limits (depth + level) node = .ok node := by
  induction lies generalizing depth with
  | root => exact typed
  | argument member _ ih =>
    obtain ⟨_, definition, results, type, _, inside, _, same⟩ := checkAt_call_eq_ok_iff.1 typed
    cases same
    have below := List.forall₂_same.1 (checkAllAt_eq_ok_iff.1 inside) _ member
    rw [Nat.add_comm _ 1, ← Nat.add_assoc]
    exact ih below

end Expr

namespace Compiler

/-- Checking asks for no notes, and whatever it returns it returns again, as a whole and part by
part: with the same types, and with functions under the same names. -/
theorem check_stable {α : Type} (compiler : Compiler) (resolve : Resolver) (expr : Expr α) :
    compiler.check resolve expr.bare = compiler.check resolve expr ∧
    ∀ typed, compiler.check resolve expr = .ok typed →
      ∀ level node, Expr.LiesAt typed level node → compiler.check resolve node = .ok node := by
  refine ⟨Expr.checkAt_mapNotes _ expr 0, fun typed succeeded level node lies => ?_⟩
  have whole := Expr.checkAt_typed succeeded
  exact Expr.checkAt_of_room (by omega) (lies.checkAt_eq whole)

/-- Names in capitals and wrong notes are gone after the first check, and what is left is kept. -/
theorem check_stable_of_capitals :
    ∃ registry : Registry,
      Compiler.check ⟨registry, {}⟩ (fun _ _ => .found .link)
        (.call "SAME" [.call "samE" [.reference "a" none .text] .boolean] .untyped : Expr Ty) =
          .ok (.call "same" [.call "same" [.reference "a" none .link] .link] .link) ∧
      Compiler.check ⟨registry, {}⟩ (fun _ _ => .found .link)
        (.call "same" [.reference "a" none .link] .link : Expr Ty) =
          .ok (.call "same" [.reference "a" none .link] .link) := by
  let registry := Registry.ofDefinitions [.ofName "Same" (.exactly 1) (.sameAsArg 0)]
  have typed : Compiler.check ⟨registry, {}⟩ (fun _ _ => .found .link)
      (.call "SAME" [.call "samE" [.reference "a" none .text] .boolean] .untyped : Expr Ty) =
        .ok (.call "same" [.call "same" [.reference "a" none .link] .link] .link) := by
    decide +kernel
  refine ⟨registry, typed, (check_stable _ _ _).2 _ typed 1 _ (.argument ?_ .root)⟩
  exact List.mem_singleton_self _

end Compiler

end FieldFormula
