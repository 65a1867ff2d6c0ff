import FieldFormula.Proofs.Comparisons

/-! The type of a choice between two values. Where the values are of different kinds it is text, and
for numbers it has room for the decimal places of both; but for other values of one kind it is the
type of the first, whatever the second one has in it. -/

namespace FieldFormula

namespace Ty

variable {type first second : Ty}

/-- A type does for the values of two types: as text, as numbers that lose no decimal places that
numbers can have, or because it is the type of both. -/
inductive Covers : Ty → Ty → Ty → Prop
  | text {first second : Ty} : Covers .text first second
  | number {places left right : UInt32} (wideLeft : min left maxDecimalPlaces ≤ places)
      (wideRight : min right maxDecimalPlaces ≤ places) :
      Covers (.number places) (.number left) (.number right)
  | same {type : Ty} : Covers type type type

/-- Two types of one kind that differ in more than decimal places: one date with a time and one
without, or arrays of different elements. -/
def Diverges (first second : Ty) : Prop :=
  first.kind? = second.kind? ∧ first.kind? ∈ [Kind.date, .array].map some ∧ first ≠ second

instance (first second : Ty) : Decidable (first.Diverges second) :=
  inferInstanceAs (Decidable (_ ∧ _ ∧ _))

theorem kind?_eq_number_iff : type.kind? = some .number ↔ ∃ places, type = .number places := by
  cases type <;> simp [kind?]

theorem covers_first_iff (sameKind : first.kind? = second.kind?)
    (other : first.kind? ≠ some .number) : first.Covers first second ↔ first = second := by
  constructor
  · rintro ⟨⟩
    · exact (kind?_eq_text_iff.1 sameKind.symm).symm
    · exact absurd rfl other
    · rfl
  · rintro rfl
    exact .same

/-- But for dates, arrays and lookups, a type has no more to it than its kind and decimal places. -/
theorem diverges_of_ne (sameKind : first.kind? = second.kind?) (known : first.kind? ≠ none)
    (other : first.kind? ≠ some .number) (single : first.kind? ≠ some .lookup)
    (apart : first ≠ second) : first.Diverges second := by
  refine ⟨sameKind, ?_, apart⟩
  cases first <;> cases second <;> simp_all [kind?]

theorem uint32_max_eq (left right : UInt32) :
    max left right = if left ≤ right then right else left :=
  rfl

theorem uint32_min_eq (left right : UInt32) :
    min left right = if left ≤ right then left else right :=
  rfl

theorem mostPrecise_numbers (left right : UInt32) :
    mostPrecise [.number left, .number right] = .numberWith (max left right) := by
  have least : max 0 left = left := if_pos UInt32.zero_le
  simp [mostPrecise, isUntyped, decimalPlaces?, least]

theorem covers_numberWith_max (left right : UInt32) :
    (numberWith (max left right)).Covers (.number left) (.number right) := by
  have widest : numberWith (max left right) = .number (min (max left right) maxDecimalPlaces) := rfl
  rw [widest]
  constructor <;> grind [uint32_max_eq, uint32_min_eq]

end Ty

theorem ArgRule.check_any_eq_ok_iff {type : Ty} {first : Option Ty} :
    ArgRule.any.check type first = .ok () ↔ type.kind? ≠ some .lookup := by
  cases known : type.kind? with
  | none => simp [check, known]
  | some kind => simp [check, known]

namespace Catalogue

variable {condition first second : Ty}

theorem branchType_numbers (condition : Ty) (left right : UInt32) :
    branchType [condition, .number left, .number right] = .numberWith (max left right) :=
  Ty.mostPrecise_numbers left right

theorem branchType_of_kind_eq (known : first.kind? ≠ none) (sameKind : first.kind? = second.kind?)
    (other : first.kind? ≠ some .number) : branchType [condition, first, second] = first := by
  cases first <;> cases second <;> simp_all [branchType, Ty.kind?, Ty.isUntyped]

theorem branchType_of_kind_ne (firstKnown : first.kind? ≠ none) (secondKnown : second.kind? ≠ none)
    (apart : first.kind? ≠ second.kind?) : branchType [condition, first, second] = .text := by
  cases first <;> cases second <;> simp_all [branchType, Ty.kind?, Ty.isUntyped]

/-- The type of a choice between single values does for both of them, unless these are of one kind
and differ in more than decimal places. -/
theorem branchType_covers_iff (firstKnown : first.kind? ≠ none) (secondKnown : second.kind? ≠ none)
    (single : first.kind? ≠ some .lookup) :
    (branchType [condition, first, second]).Covers first second ↔ ¬ first.Diverges second := by
  by_cases sameKind : first.kind? = second.kind?
  · by_cases numeric : first.kind? = some .number
    · obtain ⟨left, rfl⟩ := Ty.kind?_eq_number_iff.1 numeric
      obtain ⟨right, rfl⟩ := Ty.kind?_eq_number_iff.1 sameKind.symm
      rw [branchType_numbers]
      refine ⟨fun _ diverges => ?_, fun _ => Ty.covers_numberWith_max left right⟩
      simp [Ty.Diverges, Ty.kind?] at diverges
    · rw [branchType_of_kind_eq firstKnown sameKind numeric, Ty.covers_first_iff sameKind numeric]
      constructor
      · rintro rfl diverges
        exact diverges.2.2 rfl
      · exact not_imp_comm.1 (Ty.diverges_of_ne sameKind firstKnown numeric single)
  · rw [branchType_of_kind_ne firstKnown secondKnown sameKind]
    exact ⟨fun _ diverges => sameKind diverges.1, fun _ => .text⟩

theorem resolveFunction_if : Expr.resolveFunction .standard "if" 3 = .ok logical[0] :=
  Expr.resolveFunction_eq_ok_iff.2
    ⟨get?_standard_of_mem (by simp [definitions]) (by decide), rfl⟩

end Catalogue

namespace Compiler

/-- The type of a choice follows from its branches, in the cases of `Catalogue.branchType`. It does
for both of them but in one case: where they are two dates or two arrays of different types, it is
the type of the first alone. -/
theorem check_if_covers_iff {α : Type} (limits : Limits) (resolve : Resolver)
    (condition first second : Expr α) (note : α) (typed : Expr Ty)
    (checked : Compiler.check ⟨.standard, limits⟩ resolve
      (.call "if" [condition, first, second] note) = .ok typed) :
    ∃ decided left right,
      Expr.checkAt .standard resolve limits 1 condition = .ok decided ∧
      Expr.checkAt .standard resolve limits 1 first = .ok left ∧
      Expr.checkAt .standard resolve limits 1 second = .ok right ∧
      typed = .call "if" [decided, left, right] typed.note ∧
      (decided.note.isError = false →
        left.note.isUntyped = false ∧ left.note.isError = false →
        right.note.isUntyped = false ∧ right.note.isError = false →
        (∀ before after, left.note = .number before → right.note = .number after →
          typed.note = .numberWith (max before after)) ∧
        (left.note.kind? = right.note.kind? → left.note.kind? ≠ some .number →
          typed.note = left.note) ∧
        (left.note.kind? ≠ right.note.kind? → typed.note = .text) ∧
        (typed.note.Covers left.note right.note ↔ ¬ left.note.Diverges right.note)) := by
  rw [check, Expr.check, Expr.checkAt_call_eq_ok_iff] at checked
  obtain ⟨_, definition, results, type, resolved, inside, called, rfl⟩ := checked
  obtain rfl := Except.ok.inj (resolved.symm.trans Catalogue.resolveFunction_if)
  rw [Expr.checkAllAt_eq_ok_iff] at inside
  obtain _ | ⟨conditionChecked, _ | ⟨firstChecked, _ | ⟨secondChecked, _ | _⟩⟩⟩ := inside
  rename_i decided left right
  refine ⟨decided, left, right, conditionChecked, firstChecked, secondChecked, rfl, ?_⟩
  intro sound leftKnown rightKnown
  obtain ⟨passed, result⟩ := Expr.callType_eq_ok_iff.1 called
  have typed_eq : type = Catalogue.branchType [decided.note, left.note, right.note] := by
    have computed : Catalogue.logical[0].returnType = Catalogue.branchType := rfl
    simpa [sound, leftKnown.2, rightKnown.2, computed] using result.symm
  have single : left.note.kind? ≠ some .lookup := by
    rcases Definition.checkArgs_eq_ok_iff.1 passed 1 left.note rfl with error | rule
    · exact absurd error (by simp [leftKnown.2])
    · exact ArgRule.check_any_eq_ok_iff.1 rule
  have leftKind := Option.ne_none_iff_exists'.2 (Ty.exists_kind?_of_known leftKnown.1 leftKnown.2)
  have rightKind :=
    Option.ne_none_iff_exists'.2 (Ty.exists_kind?_of_known rightKnown.1 rightKnown.2)
  simp only [Expr.note, typed_eq]
  refine ⟨?_, Catalogue.branchType_of_kind_eq leftKind,
    Catalogue.branchType_of_kind_ne leftKind rightKind,
    Catalogue.branchType_covers_iff leftKind rightKind single⟩
  intro before after leftNumber rightNumber
  rw [leftNumber, rightNumber, Catalogue.branchType_numbers]

/-- Between numbers with few decimal places and with too many, a choice has the most there are. -/
theorem check_if_covers_iff_of_numbers :
    ∃ resolve typed,
      resolve = (fun field _ => .found (.number (if field = "rate" then 30 else 2))) ∧
      Compiler.check {} resolve (.call "if"
        [.boolean true (), .reference "price" none (), .reference "rate" none ()] ()) = .ok typed ∧
      typed.note = .number 10 ∧ typed.note.Covers (.number 2) (.number 30) := by
  let resolve : Resolver := fun field _ => .found (.number (if field = "rate" then 30 else 2))
  have checked : Compiler.check ⟨.standard, {}⟩ resolve (.call "if"
      [.boolean true (), .reference "price" none (), .reference "rate" none ()] ()) =
      .ok (.call "if" [.boolean true .boolean, .reference "price" none (.number 2),
        .reference "rate" none (.number 30)] (.number 10)) := by
    rw [check, Expr.check, Expr.checkAt_call_eq_ok_iff]
    exact ⟨by decide, _, _, _, Catalogue.resolveFunction_if, rfl, rfl, rfl⟩
  obtain ⟨decided, left, right, conditionChecked, firstChecked, secondChecked, _, settled⟩ :=
    check_if_covers_iff {} resolve _ _ _ _ _ checked
  cases conditionChecked
  cases firstChecked
  cases secondChecked
  obtain ⟨_, _, _, covers⟩ := settled rfl ⟨rfl, rfl⟩ ⟨rfl, rfl⟩
  exact ⟨resolve, _, rfl, checked, rfl, covers.2 (by decide)⟩

/-- A choice between today and now is a date without a time, although the second branch has one. -/
theorem check_if_of_dates :
    ∃ left right : Expr Ty,
      Compiler.check {} Schema.empty.resolve
        (.call "if" [.boolean true (), .call "today" [] (), .call "now" [] ()] ()) =
        .ok (.call "if" [.boolean true .boolean, left, right] (.date false)) ∧
      left.note = .date false ∧ right.note = .date true ∧
      ¬ (Ty.date false).Covers left.note right.note := by
  have today : Expr.resolveFunction .standard "today" 0 = .ok Catalogue.date[1] :=
    Expr.resolveFunction_eq_ok_iff.2
      ⟨Catalogue.get?_standard_of_mem (by simp [Catalogue.definitions]) (by decide), rfl⟩
  have now : Expr.resolveFunction .standard "now" 0 = .ok Catalogue.date[0] :=
    Expr.resolveFunction_eq_ok_iff.2
      ⟨Catalogue.get?_standard_of_mem (by simp [Catalogue.definitions]) (by decide), rfl⟩
  have first : Expr.checkAt .standard Schema.empty.resolve {} 1 (.call "today" [] ()) =
      .ok (.call "today" [] (.date false)) :=
    Expr.checkAt_call_eq_ok_iff.2 ⟨by decide, _, _, _, today, rfl, rfl, rfl⟩
  have second : Expr.checkAt .standard Schema.empty.resolve {} 1 (.call "now" [] ()) =
      .ok (.call "now" [] (.date true)) :=
    Expr.checkAt_call_eq_ok_iff.2 ⟨by decide, _, _, _, now, rfl, rfl, rfl⟩
  have condition : Expr.checkAt .standard Schema.empty.resolve {} 1 (.boolean true ()) =
      .ok (.boolean true .boolean) := rfl
  have inside := Expr.checkAllAt_eq_ok_iff.2 (.cons condition (.cons first (.cons second .nil)))
  refine ⟨.call "today" [] (.date false), .call "now" [] (.date true), ?_, rfl, rfl, ?_⟩
  · rw [check, Expr.check, Expr.checkAt_call_eq_ok_iff]
    exact ⟨by decide, _, _, _, Catalogue.resolveFunction_if, inside, rfl, rfl⟩
  · rintro ⟨⟩

end Compiler

end FieldFormula
