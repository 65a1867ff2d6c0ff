import FieldFormula.Expr.Build
import FieldFormula.Schema

/-! Typing expressions. A reference that leads nowhere gets an error type, so that the rest can
still be checked; an argument of a wrong type fails the check as a whole. -/

namespace FieldFormula.Expr

variable {α : Type}

def referenceType (resolve : Resolver) (field : String) (via : Option String) : Ty :=
  match resolve field via, via with
  | .found type, none => type
  | .found type, some _ => type.lookedUp
  | .notFound, none => .error ("references the deleted or unknown field " ++ field)
  | .notFound, some link =>
    .error ("references the deleted or unknown field " ++ field ++ " through " ++ link)
  | .notALink, _ => .error "first lookup function argument must be a link row field"

/-- The type of a call, provided that its arguments pass their rules. The leftmost argument with an
error type gives its type to the call. -/
def callType (definition : Definition) (types : List Ty) : Except Error Ty :=
  match definition.checkArgs types with
  | .error (index, expected) =>
    .error (.argumentType definition.name index expected (types[index]?.getD .untyped))
  | .ok () => .ok ((types.find? Ty.isError).getD (definition.returnType types))

mutual

/-- Types an expression that lies `depth` levels deep. -/
def checkAt (registry : Registry) (resolve : Resolver) (limits : Limits) (depth : Nat)
    (expr : Expr α) : Except Error (Expr Ty) :=
  if limits.maxDepth < depth then .error .tooLarge
  else
    match expr with
    | string value _ => .ok (string value .text)
    | integer value _ => .ok (integer value (.numberWith 0))
    | decimal value _ => .ok (decimal value (.numberWith value.scale.toUInt32))
    | boolean value _ => .ok (boolean value .boolean)
    | reference field via _ => .ok (reference field via (referenceType resolve field via))
    | call function args _ => do
      let definition ← resolveFunction registry function args.length
      let typed ← checkAllAt registry resolve limits (depth + 1) args
      let type ← callType definition (typed.map note)
      return call definition.name typed type

def checkAllAt (registry : Registry) (resolve : Resolver) (limits : Limits) (depth : Nat) :
    List (Expr α) → Except Error (List (Expr Ty))
  | [] => .ok []
  | arg :: args => do
    let first ← checkAt registry resolve limits depth arg
    let others ← checkAllAt registry resolve limits depth args
    return first :: others

end

/-- Types an expression; the notes it had do not matter. -/
def check (registry : Registry) (resolve : Resolver) (limits : Limits) (expr : Expr α) :
    Except Error (Expr Ty) :=
  checkAt registry resolve limits 0 expr

end FieldFormula.Expr
