import FieldFormula.Decimal

/-! Expressions: literals, references to fields, and calls. Every node carries a note, which is
nothing for an expression that was just built and a type once it has been checked. -/

namespace FieldFormula

inductive Expr (α : Type) where
  | string (value : String) (note : α)
  | integer (value : Int64) (note : α)
  | decimal (value : Decimal) (note : α)
  | boolean (value : Bool) (note : α)
  /-- A field of the row itself or, with `via`, of the rows that a link field leads to. -/
  | reference (field : String) (via : Option String) (note : α)
  | call (function : String) (args : List (Expr α)) (note : α)

namespace Expr

variable {α β : Type}

def note : Expr α → α
  | string _ note | integer _ note | decimal _ note | boolean _ note | reference _ _ note
  | call _ _ note => note

def children : Expr α → List (Expr α)
  | call _ args _ => args
  | _ => []

def isCall : Expr α → Bool
  | call .. => true
  | _ => false

mutual

def mapNotes (f : α → β) : Expr α → Expr β
  | string value note => string value (f note)
  | integer value note => integer value (f note)
  | decimal value note => decimal value (f note)
  | boolean value note => boolean value (f note)
  | reference field via note => reference field via (f note)
  | call function args note => call function (mapNotesAll f args) (f note)

def mapNotesAll (f : α → β) : List (Expr α) → List (Expr β)
  | [] => []
  | arg :: args => arg.mapNotes f :: mapNotesAll f args

end

def bare (expr : Expr α) : Expr Unit :=
  expr.mapNotes fun _ => ()

section DecidableEq

variable [DecidableEq α]

mutual

def same : Expr α → Expr α → Bool
  | string value note, string other remark => value == other && note == remark
  | integer value note, integer other remark => value == other && note == remark
  | decimal value note, decimal other remark => value == other && note == remark
  | boolean value note, boolean other remark => value == other && note == remark
  | reference field via note, reference other link remark =>
    field == other && via == link && note == remark
  | call function args note, call other others remark =>
    function == other && sameAll args others && note == remark
  | _, _ => false

def sameAll : List (Expr α) → List (Expr α) → Bool
  | [], [] => true
  | expr :: exprs, other :: others => expr.same other && sameAll exprs others
  | _, _ => false

end

mutual

theorem same_iff : (expr other : Expr α) → (expr.same other = true ↔ expr = other)
  | string .., other | integer .., other | decimal .., other | boolean .., other
  | reference .., other => by
    cases other <;> simp [same, and_assoc]
  | call _ args _, other => by
    cases other <;> simp [same, sameAll_iff args, and_assoc]

theorem sameAll_iff :
    (exprs others : List (Expr α)) → (sameAll exprs others = true ↔ exprs = others)
  | [], others => by cases others <;> simp [sameAll]
  | expr :: exprs, others => by
    cases others <;> simp [sameAll, same_iff expr, sameAll_iff exprs]

end

instance : DecidableEq (Expr α) := fun expr other => decidable_of_iff _ (same_iff expr other)

end DecidableEq

mutual

/-- Whether two expressions are equal but for notes and the scale of decimals. -/
def agrees : Expr α → Expr β → Bool
  | string first _, string second _ => first == second
  | integer first _, integer second _ => first == second
  | decimal first _, decimal second _ => first.sameValue second
  | boolean first _, boolean second _ => first == second
  | reference first via _, reference second viaSecond _ => first == second && via == viaSecond
  | call first args _, call second argsSecond _ => first == second && agreesAll args argsSecond
  | _, _ => false

def agreesAll : List (Expr α) → List (Expr β) → Bool
  | [], [] => true
  | first :: firsts, second :: seconds => first.agrees second && agreesAll firsts seconds
  | _, _ => false

end

mutual

def nodes : Expr α → Nat
  | call _ args _ => nodesOfAll args + 1
  | _ => 1

def nodesOfAll : List (Expr α) → Nat
  | [] => 0
  | arg :: args => arg.nodes + nodesOfAll args

end

theorem nodesOfAll_append (first second : List (Expr α)) :
    nodesOfAll (first ++ second) = nodesOfAll first + nodesOfAll second := by
  induction first with
  | nil => simp [nodesOfAll]
  | cons arg args ih => simp [nodesOfAll, ih, Nat.add_assoc]

theorem nodesOfAll_reverse (args : List (Expr α)) : nodesOfAll args.reverse = nodesOfAll args := by
  induction args with
  | nil => rfl
  | cons arg args ih =>
    simp only [List.reverse_cons, nodesOfAll_append, nodesOfAll, ih]
    omega

end Expr

end FieldFormula
