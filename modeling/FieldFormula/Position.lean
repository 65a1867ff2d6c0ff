/-! Places in a formula's source. Lines count from one and columns from zero, both in characters. -/

namespace FieldFormula

structure Position where
  line : Nat
  column : Nat
deriving DecidableEq

namespace Position

def start : Position := ⟨1, 0⟩

/-- The place behind a character that stands at `position`. -/
def step (position : Position) (c : Char) : Position :=
  if c = '\n' then ⟨position.line + 1, 0⟩ else ⟨position.line, position.column + 1⟩

/-- The place behind a text that starts at `position`. -/
def after (position : Position) (text : List Char) : Position :=
  text.foldl step position

@[simp] theorem after_nil (position : Position) : position.after [] = position := rfl

@[simp] theorem after_cons (position : Position) (c : Char) (text : List Char) :
    position.after (c :: text) = (position.step c).after text := rfl

theorem after_append (position : Position) (first second : List Char) :
    position.after (first ++ second) = (position.after first).after second := by
  simp [after, List.foldl_append]

end Position

end FieldFormula
