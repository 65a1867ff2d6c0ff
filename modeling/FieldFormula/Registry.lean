import FieldFormula.Signature.Definition
import FieldFormula.Table

/-! The functions that formulas may call, found by name in any case. -/

namespace FieldFormula

structure Registry where
  functions : Table Definition
  /-- Every function is kept under its own name. -/
  named : ∀ entry ∈ functions.entries, entry.1 = entry.2.name

namespace Registry

def empty : Registry := ⟨.empty, by simp [Table.empty]⟩

def insert (registry : Registry) (definition : Definition) : Registry where
  functions := registry.functions.insert definition.name definition
  named := by
    intro entry member
    simp only [Table.insert, List.mem_append, List.mem_filter, List.mem_singleton] at member
    rcases member with ⟨kept, _⟩ | added
    · exact registry.named entry kept
    · rw [added]

/-- The registry of a list of functions; of several with one name the last one holds. -/
def ofDefinitions (definitions : List Definition) : Registry :=
  definitions.foldl insert empty

/-- The function of a name as it is spelled, or else in lowercase. -/
def get? (registry : Registry) (name : String) : Option Definition :=
  registry.functions.get? name <|> registry.functions.get? (Text.lowercase name)

def contains (registry : Registry) (name : String) : Bool :=
  (registry.get? name).isSome

def size (registry : Registry) : Nat :=
  registry.functions.size

def definitions (registry : Registry) : List Definition :=
  (registry.functions.entries.map Prod.snd).mergeSort fun first second => first.name ≤ second.name

end Registry

end FieldFormula
