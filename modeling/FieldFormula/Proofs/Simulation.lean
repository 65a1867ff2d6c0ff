import Mathlib.Data.List.Forall2
import FieldFormula.Compiler
import FieldFormula.Proofs.Expr.Collect
import FieldFormula.Proofs.Expr.Rename

/-! Two checks side by side: one of an expression, and one of the same expression with its fields
renamed, against another schema. Where the types of the references are related, and calls pass the
relation on from their arguments to themselves, it holds at every node. -/

namespace FieldFormula

/-- The second computation succeeds where the first does, with a related value, and fails as the
first does where the error is one that is kept. -/
structure Follows {α β : Type} (kept : Error → Prop) (related : α → β → Prop)
    (first : Except Error α) (second : Except Error β) : Prop where
  ok : ∀ value, first = .ok value → ∃ other, second = .ok other ∧ related value other
  error : ∀ error, kept error → first = .error error → second = .error error

namespace Follows

variable {α β γ δ : Type} {kept : Error → Prop} {related : α → β → Prop} {result : γ → δ → Prop}

theorem of_ok {value : α} {other : β} (values : related value other) :
    Follows kept related (.ok value) (.ok other) := by
  constructor
  · rintro _ ⟨⟩
    exact ⟨other, rfl, values⟩
  · intro error _ impossible
    cases impossible

theorem of_error (error : Error) :
    Follows kept related (.error error : Except Error α) (.error error : Except Error β) := by
  constructor
  · intro value impossible
    cases impossible
  · intro other _ same
    cases same
    rfl

theorem bind {first : Except Error α} {second : Except Error β} {next : α → Except Error γ}
    {nextSecond : β → Except Error δ} (start : Follows kept related first second)
    (step : ∀ value other, related value other → Follows kept result (next value) (nextSecond other)) :
    Follows kept result (first >>= next) (second >>= nextSecond) := by
  constructor
  · intro final succeeded
    obtain ⟨value, reached, continued⟩ := bind_eq_ok_iff.1 succeeded
    obtain ⟨other, reachedSecond, values⟩ := start.ok value reached
    obtain ⟨finalSecond, continuedSecond, finals⟩ := (step value other values).ok final continued
    exact ⟨finalSecond, bind_eq_ok_iff.2 ⟨other, reachedSecond, continuedSecond⟩, finals⟩
  · intro error keeps failed
    refine bind_eq_error_iff.2 ?_
    rcases bind_eq_error_iff.1 failed with early | ⟨value, reached, late⟩
    · exact .inl (start.error error keeps early)
    · obtain ⟨other, reachedSecond, values⟩ := start.ok value reached
      exact .inr ⟨other, reachedSecond, (step value other values).error error keeps late⟩

end Follows

namespace Expr

/-- Expressions are the same node for node, but for notes, which are related. -/
inductive Alike {α β : Type} (related : α → β → Prop) : Expr α → Expr β → Prop
  | string {value : String} {note : α} {other : β} (notes : related note other) :
      Alike related (.string value note) (.string value other)
  | integer {value : Int64} {note : α} {other : β} (notes : related note other) :
      Alike related (.integer value note) (.integer value other)
  | decimal {value : Decimal} {note : α} {other : β} (notes : related note other) :
      Alike related (.decimal value note) (.decimal value other)
  | boolean {value : Bool} {note : α} {other : β} (notes : related note other) :
      Alike related (.boolean value note) (.boolean value other)
  | reference {field : String} {via : Option String} {note : α} {other : β}
      (notes : related note other) :
      Alike related (.reference field via note) (.reference field via other)
  | call {function : String} {args : List (Expr α)} {others : List (Expr β)} {note : α} {other : β}
      (notes : related note other) (inside : List.Forall₂ (Alike related) args others) :
      Alike related (.call function args note) (.call function others other)

section

variable {α β : Type} {related larger : α → β → Prop} {expr : Expr α} {other : Expr β}

theorem Alike.note (alike : Alike related expr other) : related expr.note other.note := by
  cases alike <;> assumption

theorem Alike.mono (wider : ∀ note other, related note other → larger note other)
    (alike : Alike related expr other) : Alike larger expr other := by
  induction expr using induction_on_args generalizing other with
  | string | integer | decimal | boolean | reference =>
    cases alike with
    | _ notes =>
      constructor
      exact wider _ _ notes
  | call function args note ih =>
    cases alike with
    | call notes inside =>
      have both := (List.forall₂_and_left _ _).2 ⟨fun arg member other => @ih arg member other, inside⟩
      exact .call (wider _ _ notes) (both.imp fun _ _ ⟨wide, alike⟩ => wide _ alike)

theorem forall₂_note {exprs : List (Expr α)} {others : List (Expr β)}
    (alike : List.Forall₂ (Alike related) exprs others) :
    List.Forall₂ related (exprs.map note) (others.map note) := by
  rw [List.forall₂_map_left_iff, List.forall₂_map_right_iff]
  exact alike.imp fun _ _ => Alike.note

end

theorem Alike.eq {α : Type} {expr other : Expr α} (alike : Alike Eq expr other) : expr = other := by
  induction expr using induction_on_args generalizing other with
  | string | integer | decimal | boolean | reference =>
    cases alike with
    | _ notes => rw [notes]
  | call function args note ih =>
    cases alike with
    | call notes inside =>
      have both := (List.forall₂_and_left _ _).2 ⟨fun arg member other => @ih arg member other, inside⟩
      have same : List.Forall₂ Eq args _ := both.imp fun _ _ ⟨equal, alike⟩ => equal _ alike
      rw [List.forall₂_eq_eq_eq] at same
      rw [notes, same]

/-- A relation that types of literals have to themselves and that calls pass on: if the types of
their arguments are related, so are their own. -/
structure Inherited (registry : Registry) (kept : Error → Prop) (related : Ty → Ty → Prop) :
    Prop where
  text : related .text .text
  number : ∀ decimalPlaces, related (.number decimalPlaces) (.number decimalPlaces)
  boolean : related .boolean .boolean
  call : ∀ name definition, registry.get? name = some definition →
    ∀ types others, List.Forall₂ related types others →
      Follows kept related (callType definition types) (callType definition others)

variable {α : Type} {registry : Registry} {kept : Error → Prop} {related : Ty → Ty → Prop}
  {first second : Resolver} {limits : Limits} {newName : String → String} {link : Option String}
  {depth : Nat}

theorem checkAllAt_follows {args : List (Expr α)}
    (each : ∀ arg ∈ args, Follows kept
      (fun typed other => Alike related (typed.rename newName link) other)
      (checkAt registry first limits depth arg)
      (checkAt registry second limits depth (arg.rename newName link))) :
    Follows kept
      (fun typed others => List.Forall₂ (Alike related) (typed.map (rename newName link)) others)
      (checkAllAt registry first limits depth args)
      (checkAllAt registry second limits depth (args.map (rename newName link))) := by
  induction args with
  | nil => exact .of_ok .nil
  | cons arg args ih =>
    rw [List.map_cons, checkAllAt, checkAllAt]
    refine (each arg List.mem_cons_self).bind fun typed other alike => ?_
    refine (ih fun arg member => each arg (List.mem_cons_of_mem _ member)).bind ?_
    intro typedOthers otherOthers alikeOthers
    exact .of_ok (.cons alike alikeOthers)

theorem checkAt_follows_of_shallow {result : Expr Ty → Expr Ty → Prop} {expr other : Expr α}
    (shallow : ¬ limits.maxDepth < depth → Follows kept result
      (checkAt registry first limits depth expr) (checkAt registry second limits depth other)) :
    Follows kept result (checkAt registry first limits depth expr)
      (checkAt registry second limits depth other) := by
  by_cases deep : limits.maxDepth < depth
  · rw [checkAt_eq_error_of_deep _ deep, checkAt_eq_error_of_deep _ deep]
    exact .of_error _
  · exact shallow deep

/-- The relation between the types of references is all that has to be known: it spreads from them
over the whole expression, and both checks fail alike. -/
theorem checkAt_follows (inherited : Inherited registry kept related) {expr : Expr α}
    (leaves : ∀ dependency, Reads expr dependency →
      related (referenceType first dependency.field dependency.via)
        (referenceType second (dependency.rename newName link).field
          (dependency.rename newName link).via)) :
    Follows kept (fun typed other => Alike related (typed.rename newName link) other)
      (checkAt registry first limits depth expr)
      (checkAt registry second limits depth (expr.rename newName link)) := by
  induction expr using induction_on_args generalizing depth with
  | string value note =>
    refine checkAt_follows_of_shallow fun shallow => ?_
    simp only [rename, checkAt, if_neg shallow]
    exact .of_ok (.string inherited.text)
  | integer value note =>
    refine checkAt_follows_of_shallow fun shallow => ?_
    simp only [rename, checkAt, if_neg shallow]
    exact .of_ok (.integer (inherited.number _))
  | decimal value note =>
    refine checkAt_follows_of_shallow fun shallow => ?_
    simp only [rename, checkAt, if_neg shallow]
    exact .of_ok (.decimal (inherited.number _))
  | boolean value note =>
    refine checkAt_follows_of_shallow fun shallow => ?_
    simp only [rename, checkAt, if_neg shallow]
    exact .of_ok (.boolean inherited.boolean)
  | reference field via note =>
    refine checkAt_follows_of_shallow fun shallow => ?_
    simp only [rename, checkAt, if_neg shallow]
    exact .of_ok (.reference (leaves _ .reference))
  | call function args note ih =>
    refine checkAt_follows_of_shallow fun shallow => ?_
    simp only [rename, renameAll_eq_map, checkAt, if_neg shallow, List.length_map]
    cases resolved : resolveFunction registry function args.length with
    | error error => exact .of_error error
    | ok definition =>
      obtain ⟨found, _⟩ := resolveFunction_eq_ok_iff.1 resolved
      have below (arg : Expr α) (member : arg ∈ args) (dependency : Dependency)
          (reads : Reads arg dependency) := leaves dependency (.argument member reads)
      refine (checkAllAt_follows fun arg member => ih arg member (below arg member)).bind ?_
      intro typed others alike
      have types : List.Forall₂ related (typed.map Expr.note) (others.map Expr.note) := by
        rw [← map_note_map_rename]
        exact forall₂_note alike
      refine (inherited.call _ _ found _ _ types).bind fun type other notes => .of_ok ?_
      rw [rename, renameAll_eq_map]
      exact .call notes alike

end Expr

namespace Compiler

variable {α : Type} {compiler : Compiler} {kept : Error → Prop} {related : Ty → Ty → Prop}
  {first second : Resolver} {expr : Expr α}

theorem check_follows_renamed (inherited : Expr.Inherited compiler.registry kept related)
    {newName : String → String} {link : Option String}
    (leaves : ∀ dependency ∈ expr.dependencies,
      related (Expr.referenceType first dependency.field dependency.via)
        (Expr.referenceType second (dependency.rename newName link).field
          (dependency.rename newName link).via)) :
    Follows kept (fun typed other => Expr.Alike related (typed.rename newName link) other)
      (compiler.check first expr) (compiler.check second (expr.rename newName link)) :=
  Expr.checkAt_follows inherited fun dependency reads =>
    leaves dependency (Expr.mem_dependencies.2 reads)

/-- With the old names kept, two schemas are compared on one expression. -/
theorem check_follows (inherited : Expr.Inherited compiler.registry kept related)
    (leaves : ∀ dependency ∈ expr.dependencies,
      related (Expr.referenceType first dependency.field dependency.via)
        (Expr.referenceType second dependency.field dependency.via)) :
    Follows kept (Expr.Alike related) (compiler.check first expr) (compiler.check second expr) := by
  have renamed : Follows kept
      (fun typed other => Expr.Alike related (typed.rename id none) other)
      (compiler.check first expr) (compiler.check second (expr.rename id none)) := by
    refine check_follows_renamed inherited fun dependency member => ?_
    rw [Expr.rename_id_dependency]
    exact leaves dependency member
  simpa only [Expr.rename_id] using renamed

end Compiler

end FieldFormula
