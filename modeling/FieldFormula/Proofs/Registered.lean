import FieldFormula.Proofs.Lowercase

/-! What a registry makes of a list of functions. Of several functions with one name the last one
prevails. Functions are named in lowercase, and a lowercase form is its own lowercase form, so a name
that is found as it is spelled is found in lowercase too, and to the same function. -/

namespace FieldFormula

namespace Definition

/-- A function that was given a name in some case; all that is said about it later on leaves the name
alone. -/
inductive Made : Definition → Prop
  | ofName (name : String) (argCount : ArgCount) (returns : ReturnRule) :
      Made (ofName name argCount returns)
  | withArgs {definition : Definition} (rules : List ArgRule) (made : Made definition) :
      Made (definition.withArgs rules)
  | withOperator {definition : Definition} (lexeme : String) (made : Made definition) :
      Made (definition.withOperator lexeme)
  | inCategory {definition : Definition} (category : Category) (made : Made definition) :
      Made (definition.inCategory category)
  | describedAs {definition : Definition} (description : String) (made : Made definition) :
      Made (definition.describedAs description)
  | aggregating {definition : Definition} (made : Made definition) : Made definition.aggregating
  | periodic {definition : Definition} (made : Made definition) : Made definition.periodic

theorem Made.exists_name_eq {definition : Definition} (made : definition.Made) :
    ∃ name, definition.name = Text.lowercase name := by
  induction made with
  | ofName name _ _ => exact ⟨name, rfl⟩
  | withArgs _ _ ih | withOperator _ _ ih | inCategory _ _ ih | describedAs _ _ ih
  | aggregating _ ih | periodic _ ih => exact ih

end Definition

namespace Registry

variable {registry : Registry} {definitions : List Definition} {definition : Definition}
  {name : String}

theorem functions_get?_ofDefinitions_eq_none_iff :
    (ofDefinitions definitions).functions.get? name = none ↔
      ∀ definition ∈ definitions, definition.name ≠ name := by
  induction definitions using List.reverseRecOn with
  | nil => simp [ofDefinitions, empty]
  | append_singleton definitions last ih =>
    rw [ofDefinitions_concat, functions_get?_insert, List.forall_mem_append,
      List.forall_mem_singleton, ← ih]
    split
    · next same => simp [same]
    · next other => simp [other]

/-- With lowercase names it makes no difference that the exact spelling is tried first. -/
theorem Lowercased.get?_eq (lowercased : registry.Lowercased) (name : String) :
    registry.get? name = registry.functions.get? (Text.lowercase name) := by
  rw [← lowercased.get?_lowercase, get?, Text.lowercase_lowercase]
  cases registry.functions.get? (Text.lowercase name) <;> rfl

theorem get?_of_functions_get? (held : registry.functions.get? name = some definition) :
    registry.get? name = some definition := by
  rw [get?, held]
  rfl

/-! The list of all functions. -/

theorem mem_definitions_iff :
    definition ∈ registry.definitions ↔
      registry.functions.get? definition.name = some definition := by
  rw [definitions, List.mem_mergeSort, List.mem_map]
  constructor
  · rintro ⟨⟨key, _⟩, member, rfl⟩
    have named := registry.named _ member
    simp only at named
    exact Table.get?_of_mem (named ▸ member)
  · intro held
    exact ⟨_, Table.mem_of_get? held, rfl⟩

theorem map_name_entries :
    (registry.functions.entries.map Prod.snd).map Definition.name =
      registry.functions.entries.map Prod.fst := by
  rw [List.map_map]
  exact List.map_congr_left fun entry member => (registry.named entry member).symm

/-- Names are in order because the list is sorted, and none occurs twice because they are keys. -/
theorem pairwise_definitions (registry : Registry) :
    (registry.definitions.map Definition.name).Pairwise (· < ·) := by
  have ordered : registry.definitions.Pairwise
      fun first second => decide (first.name ≤ second.name) = true := by
    refine List.pairwise_mergeSort (fun _ _ _ before behind => ?_) (fun first second => ?_) _
    · simp only [decide_eq_true_eq] at before behind ⊢
      exact String.le_trans before behind
    · simp only [Bool.or_eq_true, decide_eq_true_eq]
      exact String.le_total first.name second.name
  have distinct : (registry.definitions.map Definition.name).Nodup := by
    have perm := (List.mergeSort_perm (registry.functions.entries.map Prod.snd)
      fun first second => first.name ≤ second.name).map Definition.name
    rw [map_name_entries] at perm
    exact perm.nodup_iff.2 registry.functions.distinct
  refine List.pairwise_map.2 (ordered.imp₂ (fun first second before apart => ?_)
    (List.pairwise_map.1 distinct))
  exact String.not_le.1 fun behind => apart (String.le_antisymm (of_decide_eq_true before) behind)

/-- What a registry makes of a list of functions that were named in any case. A name in any case
leads to the last function of that name in lowercase, as its lowercase form does, and what stands
under its exact spelling is that same function. The functions that prevail over earlier ones are
listed once each, in increasing order of their names. -/
theorem ofDefinitions_keeps_last (definitions : List Definition)
    (made : ∀ definition ∈ definitions, definition.Made) :
    (∀ name definition, (ofDefinitions definitions).get? name = some definition ↔
      definition.Prevails definitions ∧ definition.name = Text.lowercase name) ∧
    (∀ name, (ofDefinitions definitions).get? name = none ↔
      ∀ definition ∈ definitions, definition.name ≠ Text.lowercase name) ∧
    (∀ name definition, (ofDefinitions definitions).functions.get? name = some definition →
      (ofDefinitions definitions).functions.get? (Text.lowercase name) = some definition) ∧
    (∀ name, (ofDefinitions definitions).get? (Text.lowercase name) =
      (ofDefinitions definitions).get? name) ∧
    (∀ definition, definition ∈ (ofDefinitions definitions).definitions ↔
      definition.Prevails definitions) ∧
    ((ofDefinitions definitions).definitions.map Definition.name).Pairwise (· < ·) := by
  have lowercased : (ofDefinitions definitions).Lowercased :=
    lowercased_ofDefinitions fun definition member => (made definition member).exists_name_eq
  refine ⟨?_, ?_, ?_, ?_, ?_, pairwise_definitions _⟩
  · intro name definition
    rw [lowercased.get?_eq, functions_get?_ofDefinitions_eq_some_iff]
  · intro name
    rw [lowercased.get?_eq, functions_get?_ofDefinitions_eq_none_iff]
  · intro name definition held
    rw [← lowercased.get?_eq]
    exact get?_of_functions_get? held
  · exact lowercased.get?_lowercase
  · intro definition
    rw [mem_definitions_iff, functions_get?_ofDefinitions_eq_some_iff]
    exact and_iff_left rfl

/-- A capital sigma at the end of a word has a lowercase form of its own, and the sign of a unit is a
capital as well. -/
theorem ofDefinitions_keeps_last_of_sigma :
    ∃ first unit second : Definition,
      (∀ definition ∈ [first, unit, second], definition.Made) ∧ first.name = second.name ∧
      (ofDefinitions [first, unit, second]).get? "ΟδΟΣ" = some second ∧
      (ofDefinitions [first, unit, second]).get? "οδοσ" = none ∧
      (ofDefinitions [first, unit, second]).get? "K" = some unit ∧
      first ∉ (ofDefinitions [first, unit, second]).definitions := by
  let first := Definition.ofName "ΟΔΟΣ" (.exactly 1) (.fixed .text)
  let unit := Definition.ofName "\u212A" (.exactly 1) (.fixed .text)
  let second := (Definition.ofName "οδος" (.exactly 2) (.fixed .duration)).periodic
  have made : ∀ definition ∈ [first, unit, second], definition.Made := by
    simp only [List.forall_mem_cons]
    exact ⟨.ofName .., .ofName .., .periodic (.ofName ..), List.forall_mem_nil _⟩
  obtain ⟨found, missing, _, _, listed, _⟩ := ofDefinitions_keeps_last [first, unit, second] made
  have prevails : second.Prevails [first, unit, second]  :=
    ⟨[first, unit], [], rfl, List.forall_mem_nil _⟩
  have last := (found "ΟδΟΣ" second).2 ⟨prevails, by decide +kernel⟩
  refine ⟨first, unit, second, made, by decide +kernel, last, ?_, ?_, ?_⟩
  · exact (missing "οδοσ").2 (by decide +kernel)
  · exact (found "K" unit).2 ⟨⟨[first], [second], rfl, by decide +kernel⟩, by decide +kernel⟩
  · intro member
    have same := (found "ΟδΟΣ" first).2 ⟨(listed first).1 member, by decide +kernel⟩
    have counts := congrArg Definition.argCount (Option.some.inj (same.symm.trans last))
    cases counts

end Registry

end FieldFormula
