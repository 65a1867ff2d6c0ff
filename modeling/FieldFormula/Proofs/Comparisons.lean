import FieldFormula.Proofs.Catalogue
import FieldFormula.Proofs.Signature
import FieldFormula.Proofs.Stability

/-! Which values can be put in order. Two values of one kind can, unless they are links, and a link
can stand behind a text but not before it; so a comparison can be read from the other side except
where a text meets a link. -/

namespace FieldFormula

namespace Ty

variable {type : Ty}

theorem exists_kind?_of_known (typed : type.isUntyped = false) (sound : type.isError = false) :
    ∃ kind, type.kind? = some kind := by
  cases type with
  | untyped => cases typed
  | error => cases sound
  | text | number | boolean | date | duration | link | array | lookup => exact ⟨_, rfl⟩

theorem isError_of_kind? {kind : Kind} (known : type.kind? = some kind) : type.isError = false := by
  cases type with
  | error => cases known
  | untyped | text | number | boolean | date | duration | link | array | lookup => rfl

theorem kind?_eq_text_iff : type.kind? = some .text ↔ type = .text := by
  cases type <;> simp [kind?]

theorem kind?_eq_link_iff : type.kind? = some .link ↔ type = .link := by
  cases type <;> simp [kind?]

end Ty

namespace Kind

/-- Whether a value of one kind can be compared with one of another, where the order matters. -/
def Precedes (left right : Kind) : Prop :=
  (left = right ∧ left ∈ [.text, .number, .date, .duration]) ∨ (left = .text ∧ right = .link)

instance (left right : Kind) : Decidable (left.Precedes right) :=
  inferInstanceAs (Decidable (_ ∨ _))

/-- The kinds listed for a first operand and those that go with it agree on this, although links are
listed without anything to go with them. -/
theorem precedes_iff {left right : Kind} :
    left.Precedes right ↔ left ∈ Catalogue.ordered ∧ right ∈ left.related .limitComparable := by
  cases left <;> cases right <;> decide

theorem precedes_comm_iff {left right : Kind} :
    (left.Precedes right ↔ right.Precedes left) ↔
      ¬ ((left = .text ∧ right = .link) ∨ (left = .link ∧ right = .text)) := by
  cases left <;> cases right <;> decide

end Kind

theorem Definition.checkArgs_limited_iff {definition : Definition}
    (rules : definition.argRules = Catalogue.limited) {first second : Ty} {left right : Kind}
    (leftKnown : first.kind? = some left) (rightKnown : second.kind? = some right) :
    definition.checkArgs [first, second] = .ok () ↔ left.Precedes right := by
  have leftSound := Ty.isError_of_kind? leftKnown
  have rightSound := Ty.isError_of_kind? rightKnown
  rw [checkArgs, checkFrom_cons_eq_ok_iff, checkFrom_cons_eq_ok_iff, Kind.precedes_iff]
  simp [checkFrom, argRule, rules, Catalogue.limited, ArgRule.check, leftKnown, rightKnown,
    leftSound, rightSound]

/-- Behind operands that are typed, a call of two is up to its rules. -/
theorem Expr.exists_checkAt_pair_iff {α : Type} {registry : Registry} {resolve : Resolver}
    {limits : Limits} {depth : Nat} {function : String} {definition : Definition}
    {first second : Expr α} {left right : Expr Ty} (note : α)
    (resolved : resolveFunction registry function 2 = .ok definition)
    (firstChecked : checkAt registry resolve limits (depth + 1) first = .ok left)
    (secondChecked : checkAt registry resolve limits (depth + 1) second = .ok right) :
    (∃ typed, checkAt registry resolve limits depth (.call function [first, second] note) =
      .ok typed) ↔ definition.checkArgs [left.note, right.note] = .ok () := by
  have shallow := not_deep_of_checkAt firstChecked
  have inside := checkAllAt_eq_ok_iff.2 (.cons firstChecked (.cons secondChecked .nil))
  constructor
  · rintro ⟨typed, checked⟩
    obtain ⟨_, other, results, type, found, below, called, _⟩ := checkAt_call_eq_ok_iff.1 checked
    cases resolved.symm.trans found
    cases inside.symm.trans below
    exact (callType_eq_ok_iff.1 called).1
  · intro passed
    exact ⟨_, checkAt_call_eq_ok_iff.2 ⟨by omega, definition, _, _, resolved, inside,
      callType_eq_ok_iff.2 ⟨passed, rfl⟩, rfl⟩⟩

namespace Catalogue

/-- The functions behind comparisons that ask for an order, each with the one that asks the same of
its operands the other way round. -/
def mirrored : List (String × String) :=
  [("less_than", "greater_than"), ("less_than_or_equal", "greater_than_or_equal")]

def comparisons : List String :=
  mirrored.flatMap fun pair => [pair.1, pair.2]

/-- All of these follow the same rules. -/
theorem resolveFunction_comparison {function : String} (member : function ∈ comparisons) :
    ∃ definition, Expr.resolveFunction .standard function 2 = .ok definition ∧
      definition.argRules = limited := by
  have listed : ∀ function ∈ comparisons, ∃ definition ∈ operators, definition.name = function ∧
      definition.argCount.accepts 2 = true ∧ definition.argRules = limited := by
    decide
  obtain ⟨definition, among, named, count, rules⟩ := listed function member
  have found := get?_standard_of_mem (by simp [definitions, among]) named
  exact ⟨definition, Expr.resolveFunction_eq_ok_iff.2 ⟨found, count⟩, rules⟩

end Catalogue

namespace Compiler

/-- Whether an expression is typed with the functions of the catalogue. -/
def Accepts {α : Type} (limits : Limits) (resolve : Resolver) (expr : Expr α) : Prop :=
  ∃ typed, Compiler.check ⟨.standard, limits⟩ resolve expr = .ok typed

theorem accepts_comparison_iff {α : Type} {limits roomier : Limits} {resolve : Resolver}
    {first second : Expr α} {left right : Expr Ty} {leftKind rightKind : Kind} {function : String}
    (member : function ∈ Catalogue.comparisons)
    (room : limits.maxDepth < roomier.maxDepth)
    (firstChecked : Compiler.check ⟨.standard, limits⟩ resolve first = .ok left)
    (secondChecked : Compiler.check ⟨.standard, limits⟩ resolve second = .ok right)
    (leftKnown : left.note.kind? = some leftKind) (rightKnown : right.note.kind? = some rightKind)
    (note : α) :
    Accepts roomier resolve (.call function [first, second] note) ↔
      leftKind.Precedes rightKind := by
  obtain ⟨definition, resolved, rules⟩ := Catalogue.resolveFunction_comparison member
  have deeper : limits.maxDepth + 1 ≤ roomier.maxDepth + 0 := room
  have firstBelow := Expr.checkAt_of_room deeper firstChecked
  have secondBelow := Expr.checkAt_of_room deeper secondChecked
  rw [← definition.checkArgs_limited_iff rules leftKnown rightKnown,
    ← Expr.exists_checkAt_pair_iff note resolved firstBelow secondBelow]
  rfl

/-- A comparison of operands whose types are known is accepted for two values of one kind that has
an order, and for a text before a link; so it may be turned round unless a text meets a link. -/
theorem accepts_mirrored_iff {α : Type} (limits roomier : Limits) (resolve : Resolver)
    (room : limits.maxDepth < roomier.maxDepth) (first second : Expr α) (left right : Expr Ty)
    (firstChecked : Compiler.check ⟨.standard, limits⟩ resolve first = .ok left)
    (secondChecked : Compiler.check ⟨.standard, limits⟩ resolve second = .ok right)
    (leftKnown : left.note.isUntyped = false ∧ left.note.isError = false)
    (rightKnown : right.note.isUntyped = false ∧ right.note.isError = false) (note : α) :
    ∀ pair ∈ Catalogue.mirrored,
      (∀ function ∈ [pair.1, pair.2],
        Accepts roomier resolve (.call function [first, second] note) ↔
          (left.note.kind? = right.note.kind? ∧
            left.note.kind? ∈ [Kind.text, .number, .date, .duration].map some) ∨
          (left.note = .text ∧ right.note = .link)) ∧
      ((Accepts roomier resolve (.call pair.1 [first, second] note) ↔
          Accepts roomier resolve (.call pair.2 [second, first] note)) ↔
        ¬ ((left.note = .text ∧ right.note = .link) ∨
          (left.note = .link ∧ right.note = .text))) := by
  obtain ⟨leftKind, leftKind_eq⟩ := Ty.exists_kind?_of_known leftKnown.1 leftKnown.2
  obtain ⟨rightKind, rightKind_eq⟩ := Ty.exists_kind?_of_known rightKnown.1 rightKnown.2
  intro pair listed
  have among (function : String) (either : function ∈ [pair.1, pair.2]) :
      function ∈ Catalogue.comparisons :=
    List.mem_flatMap.2 ⟨pair, listed, either⟩
  simp only [← Ty.kind?_eq_text_iff, ← Ty.kind?_eq_link_iff, leftKind_eq, rightKind_eq]
  constructor
  · intro function either
    rw [accepts_comparison_iff (among function either) room firstChecked secondChecked leftKind_eq
      rightKind_eq]
    simp [Kind.Precedes]
  · rw [accepts_comparison_iff (among _ (by simp)) room firstChecked secondChecked leftKind_eq
      rightKind_eq, accepts_comparison_iff (among _ (by simp)) room secondChecked firstChecked
      rightKind_eq leftKind_eq, Kind.precedes_comm_iff]
    simp

/-- A date with a time is compared with one that has none, from either side. -/
theorem accepts_mirrored_iff_of_dates :
    ∃ resolve : Resolver, resolve = (fun field _ => .found (.date (field == "now"))) ∧
      Accepts {} resolve
        (.call "less_than" [.reference "due" none (), .reference "now" none ()] ()) ∧
      Accepts {} resolve
        (.call "greater_than" [.reference "now" none (), .reference "due" none ()] ()) := by
  let resolve : Resolver := fun field _ => .found (.date (field == "now"))
  have due : Compiler.check ⟨.standard, ⟨0, 0⟩⟩ resolve (.reference "due" none ()) =
      .ok (.reference "due" none (.date false)) := rfl
  have now : Compiler.check ⟨.standard, ⟨0, 0⟩⟩ resolve (.reference "now" none ()) =
      .ok (.reference "now" none (.date true)) := rfl
  obtain ⟨exactly, turned⟩ := accepts_mirrored_iff ⟨0, 0⟩ {} resolve (by decide) _ _ _ _ due now
    ⟨rfl, rfl⟩ ⟨rfl, rfl⟩ () _ List.mem_cons_self
  have accepted := (exactly "less_than" List.mem_cons_self).2 (.inl (by decide))
  exact ⟨resolve, rfl, accepted, (turned.2 (by decide)).1 accepted⟩

/-- A text can be less than a link, but that link cannot be greater than the text. -/
theorem accepts_mirrored_of_link :
    ∃ left right : Expr Ty,
      Compiler.check {} Schema.empty.resolve (.string "a" ()) = .ok left ∧ left.note = .text ∧
      Compiler.check {} Schema.empty.resolve (.call "link" [.string "b" ()] ()) = .ok right ∧
      right.note = .link ∧
      Accepts {} Schema.empty.resolve
        (.call "less_than" [.string "a" (), .call "link" [.string "b" ()] ()] ()) ∧
      ¬ Accepts {} Schema.empty.resolve
        (.call "greater_than" [.call "link" [.string "b" ()] (), .string "a" ()] ()) := by
  have found : Registry.standard.get? "link" = some Catalogue.link[0] :=
    Catalogue.get?_standard_of_mem (by simp [Catalogue.definitions]) (by decide)
  have link : Compiler.check ⟨.standard, ⟨1, 1⟩⟩ Schema.empty.resolve
      (.call "link" [.string "b" ()] ()) = .ok (.call "link" [.string "b" .text] .link) := by
    rw [check, Expr.check, Expr.checkAt_call_eq_ok_iff]
    exact ⟨by decide, _, _, _, Expr.resolveFunction_eq_ok_iff.2 ⟨found, rfl⟩, rfl, rfl, rfl⟩
  have text : Compiler.check ⟨.standard, ⟨1, 1⟩⟩ Schema.empty.resolve (.string "a" ()) =
      .ok (.string "a" .text) := rfl
  have deeper : Limits.maxDepth ⟨1, 1⟩ + 0 ≤ Limits.maxDepth {} + 0 := by decide
  refine ⟨_, _, rfl, rfl, Expr.checkAt_of_room deeper link, rfl, ?_, ?_⟩
  · rw [accepts_comparison_iff (by decide) (by decide) text link rfl rfl]
    exact .inr ⟨rfl, rfl⟩
  · rw [accepts_comparison_iff (by decide) (by decide) link text rfl rfl]
    decide

end Compiler

end FieldFormula
