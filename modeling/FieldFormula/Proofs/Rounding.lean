import Mathlib.Algebra.Order.Field.Rat
import Mathlib.Tactic.Linarith
import Mathlib.Tactic.NormNum
import Mathlib.Tactic.Positivity
import FieldFormula.Proofs.Numeral

/-! What decimals keep of the numbers that are written. A number gets as many of its places as there
is room for, and is rounded to the last of them, a half away from zero; it is out of range only if
there is no room without any places. -/

namespace FieldFormula

namespace Numeral

/-- A number with a point in it, as it is written. -/
structure Fractional where
  negative : Bool
  whole : List Char
  fraction : List Char
  wholeDigits : isDigits whole = true
  fractionDigits : isDigits fraction = true

namespace Fractional

def text (number : Fractional) : String :=
  let sign := if number.negative then ['-'] else []
  String.ofList (sign ++ (number.whole ++ '.' :: number.fraction))

def places (number : Fractional) : Nat :=
  number.fraction.length

/-- The number that all digits stand for when the point is left out. -/
def digits (number : Fractional) : Nat :=
  value (number.whole ++ number.fraction)

/-- What is written, without the sign. -/
def magnitude (number : Fractional) : ℚ :=
  number.digits / 10 ^ number.places

def toRat (number : Fractional) : ℚ :=
  if number.negative then -number.magnitude else number.magnitude

end Fractional

/-- The number with the given whole part and with digits behind its point. -/
def pointed (whole : Nat) (fraction : List Char) : ℚ :=
  Nat.ofDigitChars 10 fraction whole / 10 ^ fraction.length

theorem pointed_nil (whole : Nat) : pointed whole [] = whole := by
  simp [pointed, Nat.ofDigitChars]

theorem pointed_cons (whole : Nat) (c : Char) (rest : List Char) :
    pointed whole (c :: rest) = pointed (10 * whole + digit c) rest / 10 := by
  rw [pointed, pointed, Nat.ofDigitChars_cons, List.length_cons, pow_succ, div_div]
  rfl

/-- Digits behind the point do not reach the next whole number. -/
theorem pointed_mem {fraction : List Char} (valid : ∀ c ∈ fraction, c.isDigit = true)
    (whole : Nat) : whole ≤ pointed whole fraction ∧ pointed whole fraction < whole + 1 := by
  induction fraction generalizing whole with
  | nil => simp [pointed_nil]
  | cons c rest ih =>
    obtain ⟨first, others⟩ := List.forall_mem_cons.1 valid
    obtain ⟨lower, upper⟩ := ih others (10 * whole + digit c)
    have last : (digit c : ℚ) ≤ 9 := by exact_mod_cast Decimal.digit_le_nine first
    have least : (0 : ℚ) ≤ digit c := Nat.cast_nonneg _
    rw [pointed_cons]
    push_cast at lower upper
    constructor <;> linarith

/-- The first digit behind the point says on which side of the half a number lies. -/
theorem pointed_cons_lt_half {c : Char} {rest : List Char}
    (valid : ∀ d ∈ c :: rest, d.isDigit = true) (whole : Nat) (small : digit c < 5) :
    pointed whole (c :: rest) < whole + 1 / 2 := by
  have upper := (pointed_mem (List.forall_mem_cons.1 valid).2 (10 * whole + digit c)).2
  have four : (digit c : ℚ) ≤ 4 := by exact_mod_cast Nat.le_of_lt_succ small
  rw [pointed_cons]
  push_cast at upper
  linarith

theorem half_le_pointed_cons {c : Char} {rest : List Char}
    (valid : ∀ d ∈ c :: rest, d.isDigit = true) (whole : Nat) (large : 5 ≤ digit c) :
    whole + 1 / 2 ≤ pointed whole (c :: rest) := by
  have lower := (pointed_mem (List.forall_mem_cons.1 valid).2 (10 * whole + digit c)).1
  have five : (5 : ℚ) ≤ digit c := by exact_mod_cast large
  rw [pointed_cons]
  push_cast at lower
  linarith

namespace Fractional

theorem magnitude_nonneg (number : Fractional) : 0 ≤ number.magnitude := by
  unfold magnitude
  positivity

theorem magnitude_eq (number : Fractional) :
    number.magnitude = pointed (value number.whole) number.fraction := by
  rw [magnitude, digits, value_append]
  rfl

theorem splitSign_text (number : Fractional) :
    splitSign number.text.toList =
      (number.negative, number.whole ++ '.' :: number.fraction) := by
  have plain := @head_ne_minus ('.' :: number.fraction) _ number.wholeDigits
  rw [text, String.toList_ofList]
  cases number.negative with
  | true => exact splitSign_sign (-1) plain
  | false => exact splitSign_sign 0 plain

theorem split_digits (number : Fractional) :
    (number.whole ++ '.' :: number.fraction).takeWhile Char.isDigit = number.whole ∧
      (number.whole ++ '.' :: number.fraction).dropWhile Char.isDigit = '.' :: number.fraction := by
  apply takeWhile_append_of_head (isDigits_iff.1 number.wholeDigits).2
  rintro _ ⟨⟩
  rfl

/-- A text writes one number at most. -/
theorem text_injective : Function.Injective text := by
  intro first second same
  have split := congrArg (fun text => splitSign text.toList) same
  simp only [splitSign_text, Prod.mk.injEq] at split
  have whole := congrArg (List.takeWhile Char.isDigit) split.2
  have fraction := congrArg (List.dropWhile Char.isDigit) split.2
  rw [first.split_digits.1, second.split_digits.1] at whole
  rw [first.split_digits.2, second.split_digits.2, List.cons.injEq] at fraction
  obtain ⟨negative, _, _, _, _⟩ := first
  cases split.1
  cases whole
  cases fraction.2
  rfl

end Fractional

end Numeral

open Numeral

namespace Decimal

/-- The first number that is rounded up to one without room. -/
def limit : ℚ :=
  bound - 1 / 2

/-- A magnitude with so many places is rounded to a coefficient of a scale: to the nearest, a half
up, and with no place less than there is room for. -/
structure Rounds (magnitude : ℚ) (places coefficient scale : Nat) : Prop where
  coefficient_lt : coefficient < bound
  scale_le : scale ≤ maxScale
  scale_le_places : scale ≤ places
  full : scale < maxScale → scale < places → limit ≤ magnitude * 10 ^ (scale + 1)
  not_below : coefficient - 1 / 2 ≤ magnitude * 10 ^ scale
  not_above : magnitude * 10 ^ scale < coefficient + 1 / 2

variable {magnitude scale : Nat}

theorem add_half_le_limit {count : Nat} (fits : count < bound) : (count : ℚ) + 1 / 2 ≤ limit := by
  have room : ((count + 1 : Nat) : ℚ) ≤ bound := by exact_mod_cast fits
  push_cast at room
  rw [limit]
  linarith

/-- A whole number has room if it is below the limit. -/
theorem natCast_lt_limit_iff {count : Nat} : (count : ℚ) < limit ↔ count < bound := by
  constructor
  · intro below
    rw [limit] at below
    have less : (count : ℚ) < bound := by linarith
    exact_mod_cast less
  · intro fits
    have half := add_half_le_limit fits
    linarith

theorem Rounds.lt_limit {total : ℚ} {places coefficient : Nat}
    (rounds : Rounds total places coefficient scale) : total * 10 ^ scale < limit :=
  rounds.not_above.trans_le (add_half_le_limit rounds.coefficient_lt)

/-- As many places are kept as there is room for. -/
theorem Rounds.le_scale_iff {total : ℚ} {places coefficient wanted : Nat} (nonneg : 0 ≤ total)
    (rounds : Rounds total places coefficient scale) (most : wanted ≤ maxScale)
    (there : wanted ≤ places) : wanted ≤ scale ↔ total * 10 ^ wanted < limit := by
  have grows {fewer more : Nat} (le : fewer ≤ more) : total * 10 ^ fewer ≤ total * 10 ^ more :=
    mul_le_mul_of_nonneg_left (pow_le_pow_right₀ (by norm_num) le) nonneg
  constructor
  · intro le
    exact (grows le).trans_lt rounds.lt_limit
  · intro below
    by_contra less
    have full := rounds.full (by omega) (by omega)
    have reached := grows (show scale + 1 ≤ wanted by omega)
    linarith

theorem le_of_near {first second : Nat} {number : ℚ} (lower : first - 1 / 2 ≤ number)
    (upper : number < second + 1 / 2) : first ≤ second := by
  have less : (first : ℚ) < (second + 1 : Nat) := by
    push_cast
    linarith
  exact Nat.le_of_lt_succ (by exact_mod_cast less)

/-- There is one way to round. -/
theorem Rounds.unique {total : ℚ} {places first second other : Nat} (nonneg : 0 ≤ total)
    (one : Rounds total places first scale) (two : Rounds total places second other) :
    first = second ∧ scale = other := by
  have reached : scale ≤ other :=
    (two.le_scale_iff nonneg one.scale_le one.scale_le_places).2 one.lt_limit
  have enough : other ≤ scale :=
    (one.le_scale_iff nonneg two.scale_le two.scale_le_places).2 two.lt_limit
  obtain rfl : scale = other := reached.antisymm enough
  refine ⟨?_, rfl⟩
  apply Nat.le_antisymm
  · exact le_of_near one.not_below two.not_above
  · exact le_of_near two.not_below one.not_above

/-- Where digits stop for want of room, the next place would have been out of range. -/
theorem limit_le_of_stop {c : Char} {rest : List Char} (valid : ∀ d ∈ c :: rest, d.isDigit = true)
    (full : ¬ (scale < maxScale ∧ 10 * magnitude + digit c < bound)) (room : scale < maxScale) :
    limit ≤ pointed magnitude (c :: rest) * 10 := by
  have crowded : bound ≤ 10 * magnitude + digit c := Nat.not_lt.1 fun fits => full ⟨room, fits⟩
  have lower := (pointed_mem (List.forall_mem_cons.1 valid).2 (10 * magnitude + digit c)).1
  have enough : (bound : ℚ) ≤ (10 * magnitude + digit c : Nat) := by exact_mod_cast crowded
  rw [pointed_cons, limit]
  linarith

/-- Rounding up fails only where there is no place to give up. -/
theorem roundUp_eq_none (failed : roundUp magnitude scale = none) :
    scale = 0 ∧ bound ≤ magnitude + 1 := by
  unfold roundUp at failed
  split at failed
  · cases failed
  · next crowded =>
    split at failed
    · next whole => exact ⟨whole, Nat.not_lt.1 crowded⟩
    · cases failed

section RoundUp

variable {total number : ℚ} {places : Nat}

theorem rounds_next (scaled : total * 10 ^ scale = number) (fits : magnitude + 1 < bound)
    (within : scale ≤ maxScale) (more : scale < places)
    (full : scale < maxScale → limit ≤ number * 10) (lower : magnitude + 1 / 2 ≤ number)
    (upper : number < magnitude + 1) : Rounds total places (magnitude + 1) scale := by
  constructor
  case coefficient_lt => exact fits
  case scale_le => exact within
  case scale_le_places => exact more.le
  case full =>
    intro room _
    rw [pow_succ, ← mul_assoc, scaled]
    exact full room
  case not_below =>
    push_cast
    linarith
  case not_above =>
    push_cast
    linarith

/-- The greatest coefficient is rounded up to a tenth of the bound, in the place before. -/
theorem rounds_carry (scaled : total * 10 ^ (scale + 1) = number) (within : scale + 1 ≤ maxScale)
    (more : scale + 1 < places) (lower : limit ≤ number) (upper : number < bound) :
    Rounds total places ((bound + 4) / 10) scale := by
  have shifted : total * 10 ^ scale * 10 = number := by rw [mul_assoc, ← pow_succ, scaled]
  -- The last digit of the bound is a six, so the quotient is whole.
  have tenth : (((bound + 4) / 10 : Nat) : ℚ) = (bound + 4) / 10 := by norm_num [bound]
  constructor
  case coefficient_lt => decide
  case scale_le => omega
  case scale_le_places => omega
  case full =>
    intro _ _
    rw [scaled]
    exact lower
  case not_below =>
    rw [tenth]
    rw [limit] at lower
    linarith
  case not_above =>
    rw [tenth]
    linarith

theorem rounds_of_roundUp {coefficient reached : Nat} (scaled : total * 10 ^ scale = number)
    (fits : magnitude < bound) (within : scale ≤ maxScale) (more : scale < places)
    (full : scale < maxScale → limit ≤ number * 10) (lower : magnitude + 1 / 2 ≤ number)
    (upper : number < magnitude + 1)
    (rounded : roundUp magnitude scale = some (coefficient, reached)) :
    Rounds total places coefficient reached := by
  unfold roundUp at rounded
  split at rounded
  · next room =>
    cases rounded
    exact rounds_next scaled room within more full lower upper
  · next crowded =>
    have last : magnitude + 1 = bound := by omega
    have last_cast : (magnitude : ℚ) + 1 = bound := by exact_mod_cast last
    have reaches : limit ≤ number := by
      rw [limit]
      linarith
    cases scale with
    | zero => cases rounded
    | succ scale =>
      rw [last] at rounded
      cases rounded
      exact rounds_carry scaled within more reaches (last_cast ▸ upper)

end RoundUp

/-- The loop over the digits behind the point: what has been read of a number and what is left of it
make up the same number at each step, and the last step rounds it. -/
theorem rounds_of_appendFraction {total : ℚ} {fraction : List Char} {coefficient reached : Nat}
    (valid : ∀ c ∈ fraction, c.isDigit = true)
    (scaled : total * 10 ^ scale = pointed magnitude fraction) (fits : magnitude < bound)
    (within : scale ≤ maxScale)
    (appended : appendFraction magnitude scale fraction = some (coefficient, reached)) :
    Rounds total (scale + fraction.length) coefficient reached := by
  induction fraction generalizing magnitude scale with
  | nil =>
    cases appended
    rw [pointed_nil] at scaled
    refine ⟨fits, within, Nat.le_refl _, fun _ less => absurd less (Nat.lt_irrefl _), ?_, ?_⟩ <;>
      linarith
  | cons c rest ih =>
    rw [appendFraction] at appended
    split at appended
    · next room =>
      rw [List.length_cons, Nat.add_comm rest.length, ← Nat.add_assoc]
      refine ih (List.forall_mem_cons.1 valid).2 ?_ room.2 room.1 appended
      rw [pow_succ, ← mul_assoc, scaled, pointed_cons, div_mul_cancel₀ _ (by norm_num)]
    · next full =>
      have crowded := limit_le_of_stop valid full
      have more : scale < scale + (c :: rest).length := by simp
      obtain ⟨lower, upper⟩ := pointed_mem valid magnitude
      split at appended
      · next large =>
        have half := half_le_pointed_cons valid magnitude large
        exact rounds_of_roundUp scaled fits within more crowded half upper appended
      · next small =>
        have half := pointed_cons_lt_half valid magnitude (Nat.not_le.1 small)
        cases appended
        refine ⟨fits, within, more.le, fun room _ => ?_, by linarith, by linarith⟩
        rw [pow_succ, ← mul_assoc, scaled]
        exact crowded room

/-- No digits are rejected behind a point, but for the first ones that round up to a number without
room. -/
theorem limit_le_of_appendFraction {fraction : List Char}
    (valid : ∀ c ∈ fraction, c.isDigit = true)
    (failed : appendFraction magnitude scale fraction = none) :
    scale = 0 ∧ limit ≤ pointed magnitude fraction := by
  induction fraction generalizing magnitude scale with
  | nil => cases failed
  | cons c rest ih =>
    rw [appendFraction] at failed
    split at failed
    · exact absurd (ih (List.forall_mem_cons.1 valid).2 failed).1 (Nat.succ_ne_zero _)
    · split at failed
      · next large =>
        have half := half_le_pointed_cons valid magnitude large
        obtain ⟨whole, crowded⟩ := roundUp_eq_none failed
        have last : (bound : ℚ) ≤ (magnitude + 1 : Nat) := by exact_mod_cast crowded
        push_cast at last
        refine ⟨whole, ?_⟩
        rw [limit]
        linarith
      · cases failed

theorem appendWhole_eq_some {digits : List Char} {result : Nat} (fits : magnitude < bound)
    (appended : appendWhole magnitude digits = some result) :
    Nat.ofDigitChars 10 digits magnitude = result ∧ result < bound := by
  induction digits generalizing magnitude with
  | nil =>
    cases appended
    exact ⟨rfl, fits⟩
  | cons c rest ih =>
    rw [appendWhole] at appended
    split at appended
    · next room =>
      rw [Nat.ofDigitChars_cons]
      exact ih room appended
    · cases appended

def toRat (decimal : Decimal) : ℚ :=
  decimal.coefficient / 10 ^ decimal.scale

/-- A decimal keeps a number that is written: it is what this is rounded to, with the same sign. -/
structure Keeps (decimal : Decimal) (number : Fractional) : Prop where
  rounds : Rounds number.magnitude number.places decimal.coefficient.natAbs decimal.scale
  signed : decimal.coefficient = withSign number.negative decimal.coefficient.natAbs

variable {decimal : Decimal} {number : Fractional}

theorem coefficient_of_ofParts? {negative : Bool}
    (made : ofParts? negative magnitude scale = some decimal) :
    decimal.coefficient = withSign negative magnitude := by
  simp only [ofParts?] at made
  split at made
  · cases made
    rfl
  · cases made

theorem keeps_of_ofDigits?
    (read : ofDigits? number.negative number.whole number.fraction = some decimal) :
    decimal.Keeps number := by
  unfold ofDigits? at read
  obtain ⟨whole, wholeRead, read⟩ := Option.bind_eq_some_iff.1 read
  obtain ⟨⟨coefficient, scale⟩, appended, made⟩ := Option.bind_eq_some_iff.1 read
  obtain ⟨whole_eq, fits⟩ := appendWhole_eq_some (by decide) wholeRead
  obtain ⟨sameCoefficient, sameScale⟩ := natAbs_of_ofParts? made
  have scaled : number.magnitude * 10 ^ 0 = pointed whole number.fraction := by
    rw [pow_zero, mul_one, number.magnitude_eq, ← whole_eq]
    rfl
  have rounds := rounds_of_appendFraction (isDigits_iff.1 number.fractionDigits).2 scaled fits
    (Nat.zero_le _) appended
  rw [Nat.zero_add] at rounds
  refine ⟨by rwa [sameCoefficient, sameScale], ?_⟩
  rw [sameCoefficient]
  exact coefficient_of_ofParts? made

theorem exists_ofParts? (negative : Bool) (fits : magnitude < bound) (within : scale ≤ maxScale) :
    ∃ decimal, ofParts? negative magnitude scale = some decimal := by
  have same : (withSign negative magnitude).natAbs = magnitude := by
    cases negative <;> simp [withSign]
  exact ⟨_, dif_pos ⟨same.symm ▸ fits, within⟩⟩

theorem limit_le_of_ofDigits?
    (failed : ofDigits? number.negative number.whole number.fraction = none) :
    limit ≤ number.magnitude := by
  have valid := (isDigits_iff.1 number.fractionDigits).2
  rw [number.magnitude_eq]
  by_cases fits : value number.whole < bound
  · unfold ofDigits? at failed
    rw [appendWhole_eq fits, Option.bind_eq_bind, Option.bind_some] at failed
    cases appended : appendFraction (value number.whole) 0 number.fraction with
    | none => exact (limit_le_of_appendFraction valid appended).2
    | some parts =>
      have rounds := rounds_of_appendFraction valid (by rw [pow_zero, mul_one]) fits
        (Nat.zero_le _) appended
      obtain ⟨decimal, made⟩ :=
        exists_ofParts? number.negative rounds.coefficient_lt rounds.scale_le
      have read := congrArg (· >>= fun parts => ofParts? number.negative parts.1 parts.2) appended
      cases failed.symm.trans (read.trans made)
  · have least := (pointed_mem valid (value number.whole)).1
    have large : (bound : ℚ) ≤ value number.whole := by exact_mod_cast Nat.not_lt.1 fits
    rw [limit]
    linarith

theorem Keeps.magnitude_lt_limit (keeps : decimal.Keeps number) : number.magnitude < limit := by
  have places := keeps.rounds.le_scale_iff number.magnitude_nonneg (Nat.zero_le _) (Nat.zero_le _)
  simpa using places.1 (Nat.zero_le _)

theorem Keeps.unique {other : Decimal} (one : decimal.Keeps number) (two : other.Keeps number) :
    decimal = other := by
  obtain ⟨sameMagnitude, sameScale⟩ := one.rounds.unique number.magnitude_nonneg two.rounds
  have sameCoefficient : decimal.coefficient = other.coefficient := by
    rw [one.signed, two.signed, sameMagnitude]
  obtain ⟨_, _, _, _⟩ := decimal
  cases sameCoefficient
  cases sameScale
  rfl

/-- The digits of a number stand for the decimal that keeps it. -/
theorem ofDigits?_eq_some_iff :
    ofDigits? number.negative number.whole number.fraction = some decimal ↔
      decimal.Keeps number := by
  refine ⟨keeps_of_ofDigits?, fun keeps => ?_⟩
  cases read : ofDigits? number.negative number.whole number.fraction with
  | none => exact absurd (limit_le_of_ofDigits? read) (not_le.2 keeps.magnitude_lt_limit)
  | some other => rw [(keeps_of_ofDigits? read).unique keeps]

/-- A number is out of range if it is rounded up to one without room, even with no places at all. -/
theorem ofDigits?_eq_none_iff :
    ofDigits? number.negative number.whole number.fraction = none ↔ limit ≤ number.magnitude := by
  refine ⟨limit_le_of_ofDigits?, fun large => ?_⟩
  cases read : ofDigits? number.negative number.whole number.fraction with
  | none => rfl
  | some decimal => exact absurd large (not_le.2 (keeps_of_ofDigits? read).magnitude_lt_limit)

/-- A number is kept as it is written, with all of its places, if these are not too many and its
digits have room. -/
theorem Keeps.exact_iff (keeps : decimal.Keeps number) :
    (decimal.scale = number.places ∧ decimal.toRat = number.toRat) ↔
      number.places ≤ maxScale ∧ number.digits < bound := by
  have shifted : number.magnitude * 10 ^ number.places = number.digits :=
    div_mul_cancel₀ _ (by positivity)
  constructor
  · rintro ⟨all, _⟩
    refine ⟨all ▸ keeps.rounds.scale_le, natCast_lt_limit_iff.1 ?_⟩
    rw [← shifted, ← all]
    exact keeps.rounds.lt_limit
  · rintro ⟨few, fits⟩
    have reached : number.places ≤ decimal.scale := by
      rw [keeps.rounds.le_scale_iff number.magnitude_nonneg few (Nat.le_refl _), shifted]
      exact natCast_lt_limit_iff.2 fits
    have all : decimal.scale = number.places := keeps.rounds.scale_le_places.antisymm reached
    have lower := keeps.rounds.not_below
    have upper := keeps.rounds.not_above
    rw [all, shifted] at lower upper
    have same : decimal.coefficient.natAbs = number.digits := by
      apply Nat.le_antisymm
      · exact le_of_near lower (by linarith)
      · exact le_of_near (by linarith) upper
    refine ⟨all, ?_⟩
    rw [toRat, keeps.signed, same, all, Fractional.toRat, Fractional.magnitude]
    cases number.negative with
    | true => simp [withSign, neg_div]
    | false => simp [withSign]

end Decimal

namespace Expr

/-- A number with a point is read to the decimal that its digits are kept as, or it is out of
range. -/
theorem readDecimal_eq (number : Fractional) (position : Position) :
    readDecimal number.text position =
      (Decimal.ofDigits? number.negative number.whole number.fraction).elim
        (.error (.malformed ⟨.numberOutOfRange number.text, position⟩)) .ok := by
  obtain ⟨taken, dropped⟩ := number.split_digits
  simp only [readDecimal, number.splitSign_text, taken, dropped, number.wholeDigits,
    number.fractionDigits, Bool.and_self, if_true]
  cases Decimal.ofDigits? number.negative number.whole number.fraction with
  | none => rfl
  | some decimal => rfl

theorem readDecimal_eq_ok_iff {number : Fractional} {position : Position} {decimal : Decimal} :
    readDecimal number.text position = .ok decimal ↔ decimal.Keeps number := by
  rw [readDecimal_eq, ← Decimal.ofDigits?_eq_some_iff]
  cases Decimal.ofDigits? number.negative number.whole number.fraction <;> simp

theorem readDecimal_eq_error_iff {number : Fractional} {position : Position} :
    readDecimal number.text position =
        .error (.malformed ⟨.numberOutOfRange number.text, position⟩) ↔
      Decimal.limit ≤ number.magnitude := by
  rw [readDecimal_eq, ← Decimal.ofDigits?_eq_none_iff]
  cases Decimal.ofDigits? number.negative number.whole number.fraction <;> simp

end Expr

end FieldFormula
