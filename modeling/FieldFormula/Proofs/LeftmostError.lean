import FieldFormula.Proofs.Fading
import FieldFormula.Proofs.Typed

/-! Where error types come from. No function of the catalogue makes an error or hides one, so an
expression is in error exactly if one of its references is. A call takes over the first error among
its arguments, and each argument has the first error among its own references; over a whole tree,
this is the error of the leftmost reference that has one. -/

namespace FieldFormula

namespace Expr

variable {α : Type} {resolve : Resolver}

mutual

def referenceNotes : Expr α → List α
  | reference _ _ note => [note]
  | call _ args _ => referenceNotesOfAll args
  | _ => []

def referenceNotesOfAll : List (Expr α) → List α
  | [] => []
  | arg :: args => arg.referenceNotes ++ referenceNotesOfAll args

end

theorem referenceNotesOfAll_eq_flatMap (args : List (Expr α)) :
    referenceNotesOfAll args = args.flatMap referenceNotes := by
  induction args with
  | nil => rfl
  | cons arg args ih => rw [referenceNotesOfAll, ih, List.flatMap_cons]

/-- The notes that are listed are those of the references in the tree. -/
theorem mem_referenceNotes_iff {expr : Expr α} {note : α} :
    note ∈ expr.referenceNotes ↔
      ∃ level field via, LiesAt expr level (.reference field via note) := by
  induction expr using induction_on_args with
  | string | integer | decimal | boolean =>
    constructor
    · rintro ⟨⟩
    · rintro ⟨_, _, _, ⟨⟩⟩
  | reference field via own =>
    constructor
    · intro listed
      cases List.mem_singleton.1 listed
      exact ⟨0, field, via, .root⟩
    · rintro ⟨_, _, _, ⟨⟩⟩
      exact List.mem_singleton_self _
  | call function args own ih =>
    rw [referenceNotes, referenceNotesOfAll_eq_flatMap, List.mem_flatMap]
    constructor
    · rintro ⟨arg, member, listed⟩
      obtain ⟨level, field, via, lies⟩ := (ih arg member).1 listed
      exact ⟨level + 1, field, via, .argument member lies⟩
    · rintro ⟨_, field, via, lies⟩
      cases lies with
      | argument member inside => exact ⟨_, member, (ih _ member).2 ⟨_, field, via, inside⟩⟩

/-- The first error among the references of an expression is its own type, if that is one; and no
function can take another error out of it. -/
structure Blames (expr : Expr Ty) : Prop where
  inside : expr.note.NoErrorInside
  leftmost : expr.referenceNotes.find? Ty.isError = [expr.note].find? Ty.isError

/-- The first error among the references below arguments is the first among their types. -/
theorem find?_referenceNotesOfAll {args : List (Expr Ty)} (blames : ∀ arg ∈ args, Blames arg) :
    (referenceNotesOfAll args).find? Ty.isError = (args.map note).find? Ty.isError := by
  induction args with
  | nil => rfl
  | cons arg args ih =>
    rw [List.forall_mem_cons] at blames
    have split : (arg :: args).map note = [arg.note] ++ args.map note := rfl
    rw [referenceNotesOfAll, split, List.find?_append, List.find?_append, blames.1.leftmost,
      ih blames.2]

/-- A call has the first error among its arguments or, if there is none, a type without errors. -/
theorem blames_call {function : String} {args : List (Expr Ty)} {type : Ty}
    (justified : Justified .standard resolve (.call function args type))
    (blames : ∀ arg ∈ args, Blames arg) : Blames (.call function args type) := by
  obtain ⟨definition, found, _, _, called⟩ := justified
  obtain ⟨_, result⟩ := callType_eq_ok_iff.1 called
  have below := find?_referenceNotesOfAll blames
  cases failed : (args.map note).find? Ty.isError with
  | some error =>
    rw [failed] at result below
    have isError := List.find?_some failed
    obtain ⟨message, rfl⟩ := Ty.eq_error_of_isError isError
    subst result
    refine ⟨?_, below⟩
    rintro _ ⟨⟩
  | none =>
    rw [failed] at result below
    have sound : type.isSound = true := by
      rw [← result]
      refine (Registry.lenient_of_get?_standard found).sound _ fun other member => ?_
      obtain ⟨arg, there, rfl⟩ := List.mem_map.1 member
      exact Ty.isSound_iff.2
        ⟨find?_isError_eq_none_iff.1 failed _ member, (blames arg there).inside⟩
    obtain ⟨typed, inside⟩ := Ty.isSound_iff.1 sound
    refine ⟨inside, below.trans ?_⟩
    simp [note, typed]

theorem blames_of_justified
    (sound : ∀ field via type, resolve field via = .found type → type.NoErrorInside)
    {typed : Expr Ty} (justified : Everywhere (Justified .standard resolve) typed) :
    Everywhere Blames typed := by
  induction typed using induction_on_args with
  | string | integer | decimal | boolean =>
    have type := justified.root
    rintro level node ⟨⟩
    simp only [Justified] at type
    subst type
    refine ⟨?_, rfl⟩
    rintro _ ⟨⟩
  | reference field via type =>
    have own : type = referenceType resolve field via := justified.root
    rintro level node ⟨⟩
    exact ⟨own ▸ noErrorInside_referenceType sound field via, rfl⟩
  | call function args type ih =>
    obtain ⟨here, below⟩ := everywhere_call_iff.1 justified
    have inside (arg : Expr Ty) (member : arg ∈ args) := ih arg member (below arg member)
    refine everywhere_call_iff.2 ⟨?_, inside⟩
    exact blames_call here fun arg member => (inside arg member).root

/-- The type of the expression is the first error that is met from the left. -/
theorem Blames.note_eq_error_iff {expr : Expr Ty} (blames : Blames expr) {message : String} :
    expr.note = .error message ↔ ∃ before after,
      expr.referenceNotes = before ++ .error message :: after ∧
        ∀ type ∈ before, type.isError = false := by
  have first : expr.note = .error message ↔
      expr.referenceNotes.find? Ty.isError = some (.error message) := by
    rw [blames.leftmost]
    cases expr.note <;> simp [Ty.isError]
  rw [first, List.find?_eq_some_iff_append]
  simp [Ty.isError]

theorem Blames.isError_note_iff {expr : Expr Ty} (blames : Blames expr) :
    expr.note.isError = true ↔
      ∃ level field via message, LiesAt expr level (.reference field via (.error message)) := by
  have listed : expr.note.isError = true ↔ ∃ type ∈ expr.referenceNotes, type.isError = true := by
    rw [← List.find?_isSome, blames.leftmost, List.find?_isSome]
    simp
  rw [listed]
  constructor
  · rintro ⟨type, member, failed⟩
    obtain ⟨message, rfl⟩ := Ty.eq_error_of_isError failed
    obtain ⟨level, field, via, lies⟩ := mem_referenceNotes_iff.1 member
    exact ⟨level, field, via, message, lies⟩
  · rintro ⟨level, field, via, message, lies⟩
    exact ⟨.error message, mem_referenceNotes_iff.2 ⟨level, field, via, lies⟩, rfl⟩

end Expr

namespace Compiler

/-- With a schema that has no errors inside of arrays or lookups, a node of a typed expression is in
error exactly if a reference at or below it is, and then it has the error of the leftmost one. -/
theorem check_error_leftmost {α : Type} (limits : Limits) (resolve : Resolver) (expr : Expr α)
    (typed : Expr Ty)
    (sound : ∀ field via type, resolve field via = .found type → type.NoErrorInside)
    (succeeded : Compiler.check ⟨.standard, limits⟩ resolve expr = .ok typed) (level : Nat)
    (node : Expr Ty) (lies : Expr.LiesAt typed level node) :
    (node.note.isError = true ↔ ∃ below field via message,
      Expr.LiesAt node below (.reference field via (.error message))) ∧
    ∀ message, node.note = .error message ↔ ∃ before after,
      node.referenceNotes = before ++ .error message :: after ∧
        ∀ type ∈ before, type.isError = false := by
  have blames : node.Blames :=
    Expr.blames_of_justified sound (Expr.justified_of_checkAt succeeded) level node lies
  exact ⟨blames.isError_note_iff, fun message => blames.note_eq_error_iff⟩

/-- Of two fields that are missing the left one is to blame, though a field that is known stands
before it. -/
theorem check_error_leftmost_of_branches :
    ∃ typed, Compiler.check {} (Schema.empty.withField "a" .boolean).resolve
        (.call "if" [.reference "a" none (), .call "upper" [.reference "b" none ()] (),
          .reference "c" none ()] () : Expr Unit) = .ok typed ∧
      typed.note = .error "references the deleted or unknown field b" ∧
      ∃ before after, typed.referenceNotes =
          before ++ .error "references the deleted or unknown field b" :: after ∧
        ∀ type ∈ before, type.isError = false := by
  let schema := Schema.empty.withField "a" .boolean
  have typed : Compiler.check {} schema.resolve (.call "if" [.reference "a" none (),
      .call "upper" [.reference "b" none ()] (), .reference "c" none ()] () : Expr Unit) =
        .ok (.call "if" [.reference "a" none .boolean,
          .call "upper"
            [.reference "b" none (.error "references the deleted or unknown field b")]
            (.error "references the deleted or unknown field b"),
          .reference "c" none (.error "references the deleted or unknown field c")]
          (.error "references the deleted or unknown field b")) := by
    decide +kernel
  have sound : ∀ field via type, schema.resolve field via = .found type → type.NoErrorInside := by
    intro field via type found
    have known : type = .boolean := by
      cases via <;> grind [Schema.resolve, Schema.withField, Schema.empty, Table.contains,
        Table.get?_insert, Table.get?_empty]
    subst known
    rintro _ ⟨⟩
  obtain ⟨_, leftmost⟩ := check_error_leftmost {} _ _ _ sound typed 0 _ .root
  exact ⟨_, typed, rfl, (leftmost _).1 rfl⟩

end Compiler

end FieldFormula
