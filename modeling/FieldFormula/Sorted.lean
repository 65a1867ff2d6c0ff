/-! Lists in strictly increasing order, as sets. -/

namespace FieldFormula

/-- Puts an element into its place in a sorted list, unless it is there already. -/
def insertSorted {α : Type} [LT α] [DecidableLT α] (item : α) : List α → List α
  | [] => [item]
  | first :: rest =>
    if item < first then item :: first :: rest
    else if first < item then first :: insertSorted item rest
    else first :: rest

def sortedSet {α : Type} [LT α] [DecidableLT α] (items : List α) : List α :=
  items.foldl (fun sorted item => insertSorted item sorted) []

end FieldFormula
