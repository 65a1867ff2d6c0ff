import FieldFormula.Text.Lowercase

/-! The groups that functions are listed in. -/

namespace FieldFormula

inductive Category where
  | operator
  | logical
  | text
  | number
  | date
  | link
  | aggregate
deriving DecidableEq

namespace Category

def all : List Category :=
  [operator, logical, text, number, date, link, aggregate]

def name : Category → String
  | operator => "operator"
  | logical => "logical"
  | text => "text"
  | number => "number"
  | date => "date"
  | link => "link"
  | aggregate => "aggregate"

/-- The category of a name, in any case and also in the plural. -/
def ofName? (text : String) : Option Category :=
  let lower := Text.lowercase text
  all.find? fun category => category.name == lower || category.name ++ "s" == lower

end Category

end FieldFormula
