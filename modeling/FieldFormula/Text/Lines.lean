/-! Texts that are made of lines. -/

namespace FieldFormula.Text

def line (text : String) : String :=
  text ++ "\n"

def lines (texts : List String) : String :=
  String.join (texts.map line)

end FieldFormula.Text
