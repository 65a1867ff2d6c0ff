import Mathlib.Data.List.Induction
import FieldFormula.Expr.Build

/-! Registered functions are found under their own names, of several with one name the last one, and a
call that has been resolved can be resolved again under the name of its function. -/

namespace FieldFormula

namespace Table

variable {α : Type} {table : Table α} {key : String} {value : α}

theorem mem_of_get? (found : table.get? key = some value) : (key, value) ∈ table.entries := by
  obtain ⟨entry, held, rfl⟩ := Option.map_eq_some_iff.1 found
  have matched := List.find?_some held
  have same : entry.1 = key := by simpa using matched
  rw [← same]
  exact List.mem_of_find?_eq_some held

/-- No key occurs twice, so the first entry with a key is any entry with it. -/
theorem get?_of_mem (member : (key, value) ∈ table.entries) : table.get? key = some value := by
  obtain ⟨entries, distinct⟩ := table
  unfold get?
  simp only at member ⊢
  induction entries with
  | nil => cases member
  | cons entry entries ih =>
    rw [List.map_cons, List.nodup_cons] at distinct
    rcases List.mem_cons.1 member with rfl | others
    · simp
    · have different : entry.1 ≠ key := by
        rintro rfl
        exact distinct.1 (List.mem_map.2 ⟨_, others, rfl⟩)
      rw [List.find?_cons_of_neg (by simpa using different)]
      exact ih distinct.2 others

end Table

namespace Definition

variable {definition last : Definition} {definitions : List Definition}

/-- The last function of its name in a list. -/
def Prevails (definition : Definition) (definitions : List Definition) : Prop :=
  ∃ before after, definitions = before ++ definition :: after ∧
    ∀ later ∈ after, later.name ≠ definition.name

theorem Prevails.mem (prevails : definition.Prevails definitions) : definition ∈ definitions := by
  obtain ⟨before, after, rfl, _⟩ := prevails
  exact List.mem_append_right before List.mem_cons_self

theorem prevails_of_nodup (distinct : (definitions.map name).Nodup)
    (member : definition ∈ definitions) : definition.Prevails definitions := by
  obtain ⟨before, after, rfl⟩ := List.append_of_mem member
  refine ⟨before, after, rfl, fun later behind same => ?_⟩
  rw [List.map_append, List.map_cons] at distinct
  obtain ⟨only, _⟩ := List.nodup_cons.1 (List.nodup_append.1 distinct).2.1
  exact only (List.mem_map.2 ⟨later, behind, same⟩)

/-- A function at the end of a list prevails, and over nothing but functions of its name. -/
theorem prevails_concat_iff :
    definition.Prevails (definitions ++ [last]) ↔
      definition = last ∨ (definition.Prevails definitions ∧ last.name ≠ definition.name) := by
  constructor
  · rintro ⟨before, after, split, later⟩
    rcases List.eq_nil_or_concat after with rfl | ⟨others, final, rfl⟩
    · obtain ⟨_, same⟩ := List.append_inj' split rfl
      exact .inl (List.singleton_inj.1 same).symm
    · rw [List.concat_eq_append, ← List.cons_append, ← List.append_assoc] at split
      obtain ⟨rfl, same⟩ := List.append_inj' split rfl
      obtain rfl := List.singleton_inj.1 same
      rw [List.concat_eq_append, List.forall_mem_append, List.forall_mem_singleton] at later
      exact .inr ⟨⟨before, others, rfl, later.1⟩, later.2⟩
  · rintro (rfl | ⟨⟨before, after, rfl, later⟩, other⟩)
    · exact ⟨definitions, [], rfl, nofun⟩
    · refine ⟨before, after ++ [last], by simp, ?_⟩
      exact List.forall_mem_append.2 ⟨later, List.forall_mem_singleton.2 other⟩

end Definition

namespace Registry

variable {registry : Registry} {name : String} {definition : Definition}

/-- A function is found under its name, or under that name in lowercase. -/
theorem get?_eq_some (found : registry.get? name = some definition) :
    registry.functions.get? name = some definition ∨
      registry.functions.get? (Text.lowercase name) = some definition := by
  unfold get? at found
  cases exact : registry.functions.get? name with
  | some other =>
    rw [exact] at found
    exact .inl found
  | none =>
    rw [exact] at found
    exact .inr found

theorem eq_name_of_functions_get? (held : registry.functions.get? name = some definition) :
    name = definition.name :=
  registry.named _ (Table.mem_of_get? held)

theorem mem_of_get? (found : registry.get? name = some definition) :
    (definition.name, definition) ∈ registry.functions.entries := by
  rcases get?_eq_some found with held | held
  · exact eq_name_of_functions_get? held ▸ Table.mem_of_get? held
  · exact eq_name_of_functions_get? held ▸ Table.mem_of_get? held

theorem get?_of_mem (member : (definition.name, definition) ∈ registry.functions.entries) :
    registry.get? definition.name = some definition := by
  unfold get?
  rw [Table.get?_of_mem member]
  rfl

theorem functions_get?_insert (added : Definition) :
    (registry.insert added).functions.get? name =
      if added.name = name then some added else registry.functions.get? name :=
  Table.get?_insert registry.functions added.name name added

theorem ofDefinitions_concat (definitions : List Definition) (last : Definition) :
    ofDefinitions (definitions ++ [last]) = (ofDefinitions definitions).insert last := by
  rw [ofDefinitions, List.foldl_append]
  rfl

/-- Under the exact spelling of a name stands the last function of that name. The list is taken apart
at its end, where the function stands that was registered last. -/
theorem functions_get?_ofDefinitions_eq_some_iff {definitions : List Definition} :
    (ofDefinitions definitions).functions.get? name = some definition ↔
      definition.Prevails definitions ∧ definition.name = name := by
  induction definitions using List.reverseRecOn with
  | nil => simp [ofDefinitions, empty, Definition.Prevails]
  | append_singleton definitions last ih =>
    rw [ofDefinitions_concat, functions_get?_insert, Definition.prevails_concat_iff]
    split
    · next same =>
      subst same
      rw [Option.some.injEq]
      constructor
      · rintro rfl
        exact ⟨.inl rfl, rfl⟩
      · rintro ⟨rfl | ⟨_, other⟩, named⟩
        · rfl
        · exact absurd named.symm other
    · next other =>
      rw [ih]
      constructor
      · rintro ⟨prevails, rfl⟩
        exact ⟨.inr ⟨prevails, other⟩, rfl⟩
      · rintro ⟨rfl | ⟨prevails, _⟩, named⟩
        · exact absurd named other
        · exact ⟨prevails, named⟩

/-- A registry of a list holds nothing but the functions of the list. -/
theorem mem_of_mem_ofDefinitions {definitions : List Definition} {entry : String × Definition}
    (member : entry ∈ (ofDefinitions definitions).functions.entries) : entry.2 ∈ definitions := by
  have held : (ofDefinitions definitions).functions.get? entry.1 = some entry.2 :=
    Table.get?_of_mem member
  exact (functions_get?_ofDefinitions_eq_some_iff.1 held).1.mem

/-- Where all names are different, every function of a list is found. -/
theorem get?_ofDefinitions_of_mem {definitions : List Definition}
    (distinct : (definitions.map Definition.name).Nodup) (member : definition ∈ definitions) :
    (ofDefinitions definitions).get? definition.name = some definition := by
  have prevails := Definition.prevails_of_nodup distinct member
  rw [get?, functions_get?_ofDefinitions_eq_some_iff.2 ⟨prevails, rfl⟩]
  rfl

end Registry

namespace Expr

variable {registry : Registry} {name : String} {count : Nat} {definition : Definition}

theorem resolveFunction_eq_ok_iff :
    resolveFunction registry name count = .ok definition ↔
      registry.get? name = some definition ∧ definition.argCount.accepts count = true := by
  unfold resolveFunction
  cases found : registry.get? name with
  | none => simp
  | some other =>
    simp only [Option.some.injEq]
    split
    · next accepted =>
      constructor
      · rintro ⟨⟩
        exact ⟨rfl, accepted⟩
      · rintro ⟨rfl, _⟩
        rfl
    · next rejected =>
      constructor
      · rintro ⟨⟩
      · rintro ⟨rfl, accepted⟩
        exact absurd accepted rejected

/-- A function that was resolved under some name is resolved under its own name. -/
theorem resolveFunction_name (resolved : resolveFunction registry name count = .ok definition) :
    resolveFunction registry definition.name count = .ok definition := by
  obtain ⟨found, accepted⟩ := resolveFunction_eq_ok_iff.1 resolved
  exact resolveFunction_eq_ok_iff.2 ⟨Registry.get?_of_mem (Registry.mem_of_get? found), accepted⟩

end Expr

end FieldFormula
