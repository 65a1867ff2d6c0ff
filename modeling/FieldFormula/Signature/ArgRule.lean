import FieldFormula.Ty

/-! What the type of an argument has to be. An argument whose type is not known passes every
rule. -/

namespace FieldFormula

inductive ArgRule where
  /-- Any single value, which a lookup is not. -/
  | any
  | oneOf (kinds : List Kind)
  /-- A lookup of one of these kinds, or of any kind if none is listed. -/
  | lookupOf (kinds : List Kind)
  /-- One of the kinds that go with the first argument. -/
  | operand (relation : Relation)
deriving DecidableEq

namespace ArgRule

/-- Whether a lookup of an element may stand for a list of kinds. -/
def admitsElement (kinds : List Kind) (element : Ty) : Bool :=
  match element.kind? with
  | some kind => kinds.isEmpty || kinds.contains kind
  | none => true

/-- Checks an argument, where `first` is the type of the first argument. -/
def check (rule : ArgRule) (actual : Ty) (first : Option Ty) : Except Expected Unit :=
  match actual.kind? with
  | none => .ok ()
  | some kind =>
    match rule with
    | any => if kind = .lookup then .error .value else .ok ()
    | oneOf kinds => if kinds.contains kind then .ok () else .error (.oneOf kinds)
    | lookupOf kinds =>
      match actual with
      | .lookup element =>
        if admitsElement kinds element then .ok () else .error (.lookupOf kinds)
      | _ => .error (.lookupOf kinds)
    | operand relation =>
      match first.bind Ty.kind? with
      | none => .ok ()
      | some firstKind =>
        let allowed := firstKind.related relation
        if allowed.contains kind then .ok () else .error (.oneOf allowed)

end ArgRule

end FieldFormula
