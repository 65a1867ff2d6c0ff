import FieldFormula.Expr.Build

/-! Numerals: the digits that a number is written with are read back to the number, and so is a
decimal with places behind its point. -/

namespace FieldFormula

/-- A run of characters of one class ends where another one stands. -/
theorem takeWhile_append_of_head {α : Type} {p : α → Bool} {body rest : List α}
    (inside : ∀ value ∈ body, p value = true) (outside : ∀ value ∈ rest.head?, p value = false) :
    (body ++ rest).takeWhile p = body ∧ (body ++ rest).dropWhile p = rest := by
  rw [List.takeWhile_append_of_pos inside, List.dropWhile_append_of_pos inside]
  cases rest with
  | nil => simp
  | cons value rest => simp [outside value rfl]

/-- A run of items is the same with more behind it, if this does not continue the run. -/
theorem takeWhile_append_of_stop {α : Type} {p : α → Bool} (text : List α) {after : List α}
    (stops : ∀ item ∈ after.head?, p item = false) :
    (text ++ after).takeWhile p = text.takeWhile p ∧
      (text ++ after).dropWhile p = text.dropWhile p ++ after := by
  have head : ∀ item ∈ (text.dropWhile p ++ after).head?, p item = false := by
    cases dropped : text.dropWhile p with
    | nil => exact stops
    | cons first others =>
      rintro _ ⟨⟩
      simpa [dropped] using List.head?_dropWhile_not p text
  have front : ∀ item ∈ text.takeWhile p, p item = true :=
    List.all_eq_true.1 List.all_takeWhile
  have parted := takeWhile_append_of_head front head
  rwa [← List.append_assoc, List.takeWhile_append_dropWhile] at parted

/-- A run takes all of a text that has characters of its class only. -/
theorem takeWhile_of_inside {α : Type} {p : α → Bool} {body : List α}
    (inside : ∀ value ∈ body, p value = true) :
    body.takeWhile p = body ∧ body.dropWhile p = [] := by
  have parted := @takeWhile_append_of_head _ _ _ [] inside nofun
  rwa [List.append_nil] at parted

namespace Numeral

variable {text digits : List Char} {number : Int}

theorem isDigits_iff : isDigits text = true ↔ text ≠ [] ∧ ∀ c ∈ text, c.isDigit = true := by
  simp [isDigits]

theorem value_append (first second : List Char) :
    value (first ++ second) = Nat.ofDigitChars 10 second (value first) :=
  Nat.ofDigitChars_append 0

theorem value_toDigits (magnitude : Nat) : value (Nat.toDigits 10 magnitude) = magnitude :=
  Nat.ofDigitChars_ten_toDigits

theorem isDigits_toDigits (magnitude : Nat) : isDigits (Nat.toDigits 10 magnitude) = true :=
  isDigits_iff.2 ⟨Nat.toDigits_ne_nil,
    fun _ member => Nat.isDigit_of_mem_toDigits (by decide) (by decide) member⟩

/-- The sign that a number is written with. -/
def sign (number : Int) : List Char :=
  if number < 0 then ['-'] else []

theorem splitSign_sign (number : Int) (plain : text.head? ≠ some '-') :
    splitSign (sign number ++ text) = (decide (number < 0), text) := by
  unfold sign
  split
  · next negative => simp [splitSign, negative]
  · next positive =>
    cases text with
    | nil => simp [splitSign, positive]
    | cons c rest =>
      have different : c ≠ '-' := fun same => plain (congrArg some same)
      simp only [List.nil_append, decide_eq_false positive]
      exact splitSign.eq_2 _ fun _ same => different (List.cons.inj same).1

theorem head_ne_minus_of_digit {c : Char} (digit : c.isDigit = true) :
    (c :: text).head? ≠ some '-' := by
  rintro ⟨⟩
  cases digit

theorem head_ne_minus (valid : isDigits digits = true) :
    (digits ++ text).head? ≠ some '-' := by
  obtain ⟨nonempty, inside⟩ := isDigits_iff.1 valid
  obtain ⟨c, rest, rfl⟩ := List.exists_cons_of_ne_nil nonempty
  exact head_ne_minus_of_digit (inside c List.mem_cons_self)

theorem head_toDigits_ne_minus (magnitude : Nat) :
    (Nat.toDigits 10 magnitude).head? ≠ some '-' := by
  have first := @head_ne_minus [] _ (isDigits_toDigits magnitude)
  rwa [List.append_nil] at first

theorem withSign_natAbs (number : Int) :
    withSign (decide (number < 0)) number.natAbs = number := by
  simp only [withSign, decide_eq_true_eq]
  split <;> omega

theorem toList_toString (number : Int) :
    (toString number).toList = sign number ++ Nat.toDigits 10 number.natAbs := by
  rw [Int.toString_eq_repr, Int.repr_eq_if, sign]
  by_cases negative : number < 0
  · rw [if_neg (by omega), if_pos negative, String.toList_append, Nat.toList_repr,
      show (-number).toNat = number.natAbs by omega]
    rfl
  · rw [if_pos (by omega), if_neg negative, Nat.toList_repr,
      show number.toNat = number.natAbs by omega]
    rfl

end Numeral

open Numeral

/-- Digits behind a sign are read as the number that they stand for, or are out of range. -/
theorem Expr.readInteger_of_isDigits {text : String} {number : Int} {digits : List Char}
    (spelled : text.toList = sign number ++ digits) (valid : isDigits digits = true)
    (position : Position) :
    readInteger text position = (integer? (decide (number < 0)) digits).elim
      (.error (.malformed ⟨.numberOutOfRange text, position⟩)) .ok := by
  have plain := @head_ne_minus [] _ valid
  rw [List.append_nil] at plain
  simp only [readInteger, spelled, splitSign_sign number plain, valid, if_true]
  cases integer? (decide (number < 0)) digits with
  | none => rfl
  | some value => rfl

/-- The digits of a number are read as that number if it fits, and are out of range if not. -/
theorem Expr.readInteger_of_digits {text : String} {number : Int}
    (spelled : text.toList = sign number ++ Nat.toDigits 10 number.natAbs) (position : Position) :
    readInteger text position =
      if Int64.minValue.toInt ≤ number ∧ number ≤ Int64.maxValue.toInt then .ok (.ofInt number)
      else .error (.malformed ⟨.numberOutOfRange text, position⟩) := by
  rw [readInteger_of_isDigits spelled (isDigits_toDigits _), integer?, value_toDigits,
    withSign_natAbs]
  split <;> rfl

/-- Two runs of digits with a point between them are read as the decimal that they stand for. -/
theorem Expr.readDecimal_of_digits {text : String} {number : Int} {whole fraction : List Char}
    {decimal : Decimal} (spelled : text.toList = sign number ++ (whole ++ '.' :: fraction))
    (wholeValid : isDigits whole = true) (fractionValid : isDigits fraction = true)
    (read : Decimal.ofDigits? (decide (number < 0)) whole fraction = some decimal)
    (position : Position) : readDecimal text position = .ok decimal := by
  have point : ∀ c ∈ ('.' :: fraction).head?, c.isDigit = false := by
    rintro _ ⟨⟩
    rfl
  obtain ⟨taken, dropped⟩ := takeWhile_append_of_head (isDigits_iff.1 wholeValid).2 point
  simp only [readDecimal, spelled, splitSign_sign number (head_ne_minus wholeValid), taken, dropped,
    wholeValid, fractionValid, Bool.and_self, if_true, read]

namespace Decimal

theorem le_ofDigitChars (digits : List Char) (magnitude : Nat) :
    magnitude ≤ Nat.ofDigitChars 10 digits magnitude := by
  rw [Nat.ofDigitChars_eq_ofDigitChars_zero]
  have scaled : 1 * magnitude ≤ 10 ^ digits.length * magnitude :=
    Nat.mul_le_mul_right _ (Nat.one_le_pow _ _ (by decide))
  omega

/-- Whole digits are appended without loss if they fit together. -/
theorem appendWhole_eq {digits : List Char} {magnitude : Nat}
    (fits : Nat.ofDigitChars 10 digits magnitude < bound) :
    appendWhole magnitude digits = some (Nat.ofDigitChars 10 digits magnitude) := by
  induction digits generalizing magnitude with
  | nil => rfl
  | cons c rest ih =>
    rw [Nat.ofDigitChars_cons] at fits ⊢
    have next := Nat.lt_of_le_of_lt (le_ofDigitChars rest _) fits
    rw [appendWhole, digit, if_pos next, ih fits]

/-- Digits behind the point are appended without loss if they fit and are not too many. -/
theorem appendFraction_eq {digits : List Char} {magnitude scale : Nat}
    (fits : Nat.ofDigitChars 10 digits magnitude < bound)
    (room : scale + digits.length ≤ maxScale) :
    appendFraction magnitude scale digits =
      some (Nat.ofDigitChars 10 digits magnitude, scale + digits.length) := by
  induction digits generalizing magnitude scale with
  | nil => rfl
  | cons c rest ih =>
    rw [Nat.ofDigitChars_cons] at fits ⊢
    have next := Nat.lt_of_le_of_lt (le_ofDigitChars rest _) fits
    rw [List.length_cons] at room ⊢
    rw [appendFraction, digit, if_pos ⟨by omega, next⟩, ih fits (by omega)]
    congr 2
    omega

/-- Digits that fit stand for the decimal with all of them. -/
theorem ofDigits?_eq {negative : Bool} {whole fraction : List Char}
    (fits : value (whole ++ fraction) < bound) (room : fraction.length ≤ maxScale) :
    ofDigits? negative whole fraction =
      ofParts? negative (value (whole ++ fraction)) fraction.length := by
  rw [value_append] at fits ⊢
  have wholeFits : Nat.ofDigitChars 10 whole 0 < bound :=
    Nat.lt_of_le_of_lt (le_ofDigitChars _ _) fits
  have wholeRead := appendWhole_eq wholeFits
  have fractionRead := appendFraction_eq fits (Nat.zero_add _ ▸ room : 0 + _ ≤ _)
  rw [Nat.zero_add] at fractionRead
  unfold ofDigits?
  rw [wholeRead]
  exact congrArg (· >>= fun parts => ofParts? negative parts.1 parts.2) fractionRead

theorem ofParts?_natAbs (decimal : Decimal) :
    ofParts? (decide (decimal.coefficient < 0)) decimal.coefficient.natAbs decimal.scale =
      some decimal := by
  simp only [ofParts?, withSign_natAbs]
  exact dif_pos ⟨decimal.coefficient_lt, decimal.scale_le⟩

variable (magnitude scale : Nat)

theorem value_paddedDigits : value (paddedDigits magnitude scale) = magnitude := by
  have padding (count : Nat) : value (List.replicate count '0') = 0 :=
    Nat.ofDigitChars_replicate_zero.trans (Nat.mul_zero _)
  rw [paddedDigits, value_append, padding]
  exact value_toDigits magnitude

theorem scale_lt_length_paddedDigits : scale < (paddedDigits magnitude scale).length := by
  simp only [paddedDigits, List.length_append, List.length_replicate]
  omega

theorem isDigit_of_mem_paddedDigits {c : Char} (member : c ∈ paddedDigits magnitude scale) :
    c.isDigit = true := by
  rcases List.mem_append.1 member with padding | digit
  · rw [List.eq_of_mem_replicate padding]
    decide
  · exact (isDigits_iff.1 (isDigits_toDigits magnitude)).2 c digit

theorem paddedDigits_zero : paddedDigits magnitude 0 = Nat.toDigits 10 magnitude := by
  have nonempty : 0 < (Nat.toDigits 10 magnitude).length := Nat.length_toDigits_pos
  rw [paddedDigits, show 0 + 1 - (Nat.toDigits 10 magnitude).length = 0 by omega]
  rfl

/-- Without places behind the point a decimal is written as a whole number. -/
theorem toList_text_of_whole {decimal : Decimal} (whole : decimal.scale = 0) :
    decimal.text.toList =
      sign decimal.coefficient ++ Nat.toDigits 10 decimal.coefficient.natAbs := by
  simp [text, whole, paddedDigits_zero, sign]

/-- With places behind the point a decimal is written as two runs of digits that stand for it. -/
theorem exists_toList_text {decimal : Decimal} (fractional : 0 < decimal.scale) :
    ∃ whole fraction, isDigits whole = true ∧ isDigits fraction = true ∧
      decimal.text.toList = sign decimal.coefficient ++ (whole ++ '.' :: fraction) ∧
      ofDigits? (decide (decimal.coefficient < 0)) whole fraction = some decimal := by
  have longer := scale_lt_length_paddedDigits decimal.coefficient.natAbs decimal.scale
  have total := value_paddedDigits decimal.coefficient.natAbs decimal.scale
  have digit (c : Char) (member : c ∈ paddedDigits decimal.coefficient.natAbs decimal.scale) :=
    isDigit_of_mem_paddedDigits _ _ member
  generalize shown : paddedDigits decimal.coefficient.natAbs decimal.scale = digits
    at longer digit total
  generalize point : digits.length - decimal.scale = split
  have places : (digits.drop split).length = decimal.scale := by
    rw [List.length_drop]
    omega
  refine ⟨digits.take split, digits.drop split, ?_, ?_, ?_, ?_⟩
  · refine isDigits_iff.2 ⟨?_, fun c member => digit c (List.mem_of_mem_take member)⟩
    rw [← List.length_pos_iff, List.length_take]
    omega
  · refine isDigits_iff.2 ⟨?_, fun c member => digit c (List.mem_of_mem_drop member)⟩
    rw [← List.length_pos_iff, places]
    exact fractional
  · simp [text, shown, point, sign, Nat.pos_iff_ne_zero.1 fractional]
  · rw [← List.take_append_drop split digits] at total
    rw [ofDigits?_eq (total ▸ decimal.coefficient_lt) (places ▸ decimal.scale_le), total, places,
      ofParts?_natAbs]

theorem digit_le_nine {c : Char} (valid : c.isDigit = true) : digit c ≤ 9 := by
  simp only [Char.isDigit, Bool.and_eq_true, decide_eq_true_eq] at valid
  have upper := UInt32.le_iff_toNat_le.1 valid.2
  exact Nat.sub_le_of_le_add upper

/-- Places behind the point are given up only when there is no room left for any. -/
theorem bound_le_of_appendFraction {digits : List Char} {magnitude scale result : Nat}
    (valid : ∀ c ∈ digits, c.isDigit = true) (places : 0 < scale ∨ digits ≠ [])
    (appended : appendFraction magnitude scale digits = some (result, 0)) :
    bound ≤ 10 * result + 9 := by
  induction digits generalizing magnitude scale with
  | nil =>
    cases appended
    simp at places
  | cons c rest ih =>
    have last := digit_le_nine (valid c List.mem_cons_self)
    rw [appendFraction] at appended
    split at appended
    · exact ih (fun d member => valid d (List.mem_cons_of_mem _ member)) (.inl (Nat.succ_pos _))
        appended
    · next full =>
      have crowded : scale = 0 → bound ≤ 10 * magnitude + digit c := by
        rintro rfl
        exact Nat.not_lt.1 fun room => full ⟨by decide, room⟩
      split at appended
      · unfold roundUp at appended
        split at appended
        · cases appended
          have := crowded rfl
          omega
        · split at appended
          · cases appended
          · simp only [Option.some.injEq, Prod.mk.injEq] at appended
            omega
      · cases appended
        have := crowded rfl
        omega

theorem natAbs_of_ofParts? {negative : Bool} {magnitude scale : Nat} {decimal : Decimal}
    (made : ofParts? negative magnitude scale = some decimal) :
    decimal.coefficient.natAbs = magnitude ∧ decimal.scale = scale := by
  simp only [ofParts?] at made
  split at made
  · cases made
    refine ⟨?_, rfl⟩
    cases negative <;> simp [withSign]
  · cases made

theorem bound_le_of_ofDigits? {negative : Bool} {whole fraction : List Char} {decimal : Decimal}
    (valid : isDigits fraction = true) (read : ofDigits? negative whole fraction = some decimal)
    (flat : decimal.scale = 0) : bound ≤ 10 * decimal.coefficient.natAbs + 9 := by
  unfold ofDigits? at read
  obtain ⟨magnitude, _, read⟩ := Option.bind_eq_some_iff.1 read
  obtain ⟨⟨total, scale⟩, appended, made⟩ := Option.bind_eq_some_iff.1 read
  obtain ⟨same, sameScale⟩ := natAbs_of_ofParts? made
  obtain ⟨nonempty, inside⟩ := isDigits_iff.1 valid
  rw [← sameScale, flat] at appended
  rw [same]
  exact bound_le_of_appendFraction inside (.inr nonempty) appended

/-- A decimal that was read and has no places behind its point exceeds the whole numbers. -/
theorem out_of_range_of_readDecimal {text : String} {position : Position} {decimal : Decimal}
    (read : Expr.readDecimal text position = .ok decimal) (flat : decimal.scale = 0) :
    ¬ (Int64.minValue.toInt ≤ decimal.coefficient ∧
      decimal.coefficient ≤ Int64.maxValue.toInt) := by
  simp only [Expr.readDecimal] at read
  split at read
  · split at read
    · next valid =>
      split at read
      · next value found =>
        cases read
        have large := bound_le_of_ofDigits? (Bool.and_eq_true_iff.1 valid).2 found flat
        have least : Int64.minValue.toInt = -9223372036854775808 := rfl
        have greatest : Int64.maxValue.toInt = 9223372036854775807 := rfl
        simp only [bound] at large
        omega
      · cases read
    · cases read
  · cases read

end Decimal

end FieldFormula
