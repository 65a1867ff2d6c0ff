import Mathlib.Data.List.Forall2
import FieldFormula.Proofs.Registry
import FieldFormula.Proofs.WellFormed

/-! What a check leaves behind. Every node of a typed expression has the type that it asks for by
itself, and every call bears the name of a function whose rules its arguments have passed; what holds
of typed expressions is shown from this alone. But for the names of functions, the expression is the
one that was checked. -/

namespace FieldFormula.Expr

variable {α : Type} {registry : Registry} {resolve : Resolver} {limits : Limits} {depth : Nat}

/-- Something holds of an expression and of all that lies below its root. -/
def Everywhere (holds : Expr α → Prop) (expr : Expr α) : Prop :=
  ∀ level node, LiesAt expr level node → holds node

theorem Everywhere.root {holds : Expr α → Prop} {expr : Expr α}
    (everywhere : Everywhere holds expr) : holds expr :=
  everywhere 0 expr .root

theorem everywhere_call_iff {holds : Expr α → Prop} {function : String} {args : List (Expr α)}
    {note : α} :
    Everywhere holds (.call function args note) ↔
      holds (.call function args note) ∧ ∀ arg ∈ args, Everywhere holds arg := by
  constructor
  · intro everywhere
    refine ⟨everywhere.root, fun arg member level node lies => ?_⟩
    exact everywhere (level + 1) node (.argument member lies)
  · rintro ⟨here, below⟩ level node lies
    cases lies with
    | root => exact here
    | argument member inside => exact below _ member _ _ inside

/-- The type of a node is the one that it asks for: by its literal, by the answer for its reference,
or by the types of its arguments, under the name of the function that they have passed. -/
def Justified (registry : Registry) (resolve : Resolver) : Expr Ty → Prop
  | string _ type => type = .text
  | integer _ type => type = .numberWith 0
  | decimal value type => type = .numberWith value.scale.toUInt32
  | boolean _ type => type = .boolean
  | reference field via type => type = referenceType resolve field via
  | call function args type => ∃ definition, registry.get? function = some definition ∧
      definition.name = function ∧ definition.argCount.accepts args.length = true ∧
      callType definition (args.map note) = .ok type

theorem not_deep_of_checkAt {expr : Expr α} {typed : Expr Ty}
    (checked : checkAt registry resolve limits depth expr = .ok typed) :
    ¬ limits.maxDepth < depth := by
  intro deep
  rw [checkAt_eq_error_of_deep expr deep] at checked
  cases checked

theorem checkAllAt_eq_ok_iff {args : List (Expr α)} {typed : List (Expr Ty)} :
    checkAllAt registry resolve limits depth args = .ok typed ↔
      List.Forall₂ (fun arg result => checkAt registry resolve limits depth arg = .ok result)
        args typed := by
  induction args generalizing typed with
  | nil =>
    rw [checkAllAt, List.forall₂_nil_left_iff]
    constructor
    · rintro ⟨⟩
      rfl
    · rintro rfl
      rfl
  | cons arg args ih =>
    rw [checkAllAt, bind_eq_ok_iff, List.forall₂_cons_left_iff]
    constructor
    · rintro ⟨first, here, rest⟩
      obtain ⟨others, behind, same⟩ := bind_eq_ok_iff.1 rest
      cases same
      exact ⟨first, others, here, ih.1 behind, rfl⟩
    · rintro ⟨first, others, here, behind, rfl⟩
      exact ⟨first, here, bind_eq_ok_iff.2 ⟨others, ih.2 behind, rfl⟩⟩

/-- A call is typed if it is not too deep, its function is found, its arguments are typed and their
types pass. -/
theorem checkAt_call_eq_ok_iff {function : String} {args : List (Expr α)} {note : α}
    {typed : Expr Ty} :
    checkAt registry resolve limits depth (.call function args note) = .ok typed ↔
      ¬ limits.maxDepth < depth ∧ ∃ definition results type,
        resolveFunction registry function args.length = .ok definition ∧
        checkAllAt registry resolve limits (depth + 1) args = .ok results ∧
        callType definition (results.map Expr.note) = .ok type ∧
        .call definition.name results type = typed := by
  constructor
  · intro checked
    have shallow := not_deep_of_checkAt checked
    rw [checkAt, if_neg shallow] at checked
    obtain ⟨definition, resolved, checked⟩ := bind_eq_ok_iff.1 checked
    obtain ⟨results, inside, checked⟩ := bind_eq_ok_iff.1 checked
    obtain ⟨type, called, same⟩ := bind_eq_ok_iff.1 checked
    cases same
    exact ⟨shallow, definition, results, type, resolved, inside, called, rfl⟩
  · rintro ⟨shallow, definition, results, type, resolved, inside, called, rfl⟩
    rw [checkAt, if_neg shallow, resolved, ok_bind, inside, ok_bind, called, ok_bind]
    rfl

theorem exists_left_of_forall₂ {α β : Type} {related : α → β → Prop} {left : List α}
    {right : List β} (all : List.Forall₂ related left right) {other : β} (member : other ∈ right) :
    ∃ item ∈ left, related item other := by
  induction all with
  | nil => cases member
  | cons head _ ih =>
    rcases List.mem_cons.1 member with rfl | behind
    · exact ⟨_, List.mem_cons_self, head⟩
    · obtain ⟨item, there, pair⟩ := ih behind
      exact ⟨item, List.mem_cons_of_mem _ there, pair⟩

/-- The one fact about checking that later proofs need: it justifies the type of every node. -/
theorem justified_of_checkAt {expr : Expr α} {typed : Expr Ty}
    (checked : checkAt registry resolve limits depth expr = .ok typed) :
    Everywhere (Justified registry resolve) typed := by
  induction expr using induction_on_args generalizing depth typed with
  | string | integer | decimal | boolean | reference =>
    have shallow := not_deep_of_checkAt checked
    rw [checkAt, if_neg shallow] at checked
    cases checked
    rintro level node ⟨⟩
    rfl
  | call function args note ih =>
    obtain ⟨_, definition, results, type, resolved, inside, called, rfl⟩ :=
      checkAt_call_eq_ok_iff.1 checked
    rw [checkAllAt_eq_ok_iff] at inside
    have canonical := resolveFunction_eq_ok_iff.1 (resolveFunction_name resolved)
    refine everywhere_call_iff.2 ⟨?_, fun result member => ?_⟩
    · rw [inside.length_eq] at canonical
      exact ⟨definition, canonical.1, rfl, canonical.2, called⟩
    · obtain ⟨arg, there, below⟩ := exists_left_of_forall₂ inside member
      exact ih arg there below

theorem mapNotesAll_eq_map {β : Type} (f : α → β) (args : List (Expr α)) :
    mapNotesAll f args = args.map (mapNotes f) := by
  induction args with
  | nil => rfl
  | cons arg args ih => rw [mapNotesAll, ih, List.map_cons]

/-- Without its types a typed expression is the one that was checked, if this calls functions by
their own names. -/
theorem bare_of_checkAt {expr : Expr α} {typed : Expr Ty}
    (named : ∀ function, Calls expr function →
      ∃ definition, registry.get? function = some definition ∧ definition.name = function)
    (checked : checkAt registry resolve limits depth expr = .ok typed) :
    typed.bare = expr.bare := by
  induction expr using induction_on_args generalizing depth typed with
  | string | integer | decimal | boolean | reference =>
    have shallow := not_deep_of_checkAt checked
    rw [checkAt, if_neg shallow] at checked
    cases checked
    rfl
  | call function args note ih =>
    obtain ⟨_, definition, results, type, resolved, inside, _, rfl⟩ :=
      checkAt_call_eq_ok_iff.1 checked
    rw [checkAllAt_eq_ok_iff] at inside
    obtain ⟨found, _⟩ := resolveFunction_eq_ok_iff.1 resolved
    obtain ⟨same, own, rfl⟩ := named function .call
    cases found.symm.trans own
    have each (arg : Expr α) (member : arg ∈ args) (result : Expr Ty)
        (below : checkAt registry resolve limits (depth + 1) arg = .ok result) :
        arg.bare = result.bare :=
      (ih arg member (fun other calls => named other (.argument member calls)) below).symm
    have args_eq : args.map bare = results.map bare := by
      rw [← List.forall₂_eq_eq_eq, List.forall₂_map_left_iff, List.forall₂_map_right_iff]
      exact ((List.forall₂_and_left _ _).2 ⟨each, inside⟩).imp fun _ result both =>
        both.1 result both.2
    unfold bare at args_eq ⊢
    rw [mapNotes, mapNotes, mapNotesAll_eq_map, mapNotesAll_eq_map]
    exact congrArg (call _ · ()) args_eq.symm

end FieldFormula.Expr
