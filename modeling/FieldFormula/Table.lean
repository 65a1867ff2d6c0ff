/-! Finite maps from texts, with their entries in order of insertion. -/

namespace FieldFormula

/-- A list of entries in which no key occurs twice. -/
structure Table (α : Type) where
  entries : List (String × α)
  distinct : (entries.map Prod.fst).Nodup

namespace Table

variable {α : Type}

def empty : Table α := ⟨[], List.nodup_nil⟩

def get? (table : Table α) (key : String) : Option α :=
  (table.entries.find? fun entry => entry.1 == key).map Prod.snd

def contains (table : Table α) (key : String) : Bool :=
  (table.get? key).isSome

def size (table : Table α) : Nat :=
  table.entries.length

/-- Sets a key to a value, in place of the value it had. -/
def insert (table : Table α) (key : String) (value : α) : Table α where
  entries := table.entries.filter (fun entry => entry.1 != key) ++ [(key, value)]
  distinct := by
    rw [List.map_append, List.nodup_append]
    refine ⟨(List.filter_sublist.map Prod.fst).nodup table.distinct, by simp, ?_⟩
    simp only [List.mem_map, List.mem_filter, bne_iff_ne]
    rintro _ ⟨entry, ⟨_, other⟩, rfl⟩ _ ⟨_, added, rfl⟩
    simp_all

/-- The entries of a list; of several for one key the last one holds. -/
def ofList (entries : List (String × α)) : Table α :=
  entries.foldl (fun table entry => table.insert entry.1 entry.2) empty

@[simp] theorem get?_empty (key : String) : (empty : Table α).get? key = none := rfl

@[simp] theorem get?_insert (table : Table α) (key other : String) (value : α) :
    (table.insert key value).get? other = if key = other then some value else table.get? other := by
  by_cases same : key = other
  · subst same
    have none_left : (table.entries.filter (fun entry => entry.1 != key)).find?
        (fun entry => entry.1 == key) = none := by
      simp [List.find?_eq_none]
    simp [get?, insert, List.find?_append, none_left]
  · have kept : (table.entries.filter (fun entry => entry.1 != key)).find?
        (fun entry => entry.1 == other) = table.entries.find? fun entry => entry.1 == other := by
      rw [List.find?_filter]
      congr 1
      funext entry
      by_cases found : entry.1 = other <;> simp [found, Ne.symm same]
    simp [get?, insert, List.find?_append, kept, same]

end Table

end FieldFormula
