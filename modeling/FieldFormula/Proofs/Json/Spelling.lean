import FieldFormula.Json.Number
import FieldFormula.Json.Reader
import FieldFormula.Proofs.Numeral

/-! Spellings of scalars. A text is read back from its spelling, a spelling ends at the first quote
that is not part of it, and a numeral where something stands that no numeral has. -/

namespace FieldFormula

/-- Numbers that the significand has room for are doubles. -/
theorem Double.round_eq_self {number : Nat} (fits : number < Nat.pow 2 precision) :
    round number = number := by
  have bits : number.log2 + 1 - precision = 0 := by
    rcases Nat.eq_zero_or_pos number with rfl | positive
    · decide
    · have short := (Nat.log2_lt (Nat.ne_of_gt positive)).2 fits
      omega
  rw [round, bits]
  simp [roundTo, Nat.mod_one]

namespace Json

theorem hexDigit?_digitChar {value : Nat} (small : value < 16) :
    hexDigit? (Nat.digitChar value) = some value := by
  revert value
  decide

theorem hexCode?_digitChar {code : Nat} (small : code < 0x20) :
    hexCode? '0' '0' (Nat.digitChar (code / 16)) (Nat.digitChar (code % 16)) = some code := by
  have high := hexDigit?_digitChar (by omega : code / 16 < 16)
  have low := hexDigit?_digitChar (by omega : code % 16 < 16)
  have zero : hexDigit? '0' = some 0 := rfl
  simp only [hexCode?, high, low, zero]
  exact congrArg some (by omega)

/-- A character is escaped by a letter, escaped by its code, or stands for itself. -/
theorem escapeChar_cases (c : Char) :
    (∃ letter, escapeChar c = ['\\', letter] ∧ shortEscape? letter = some c) ∨
    (∃ high low, escapeChar c = ['\\', 'u', '0', '0', high, low] ∧
      hexCode? '0' '0' high low = some c.toNat ∧ c.toNat < 0x20) ∨
    (escapeChar c = [c] ∧ c ≠ '"' ∧ c ≠ '\\' ∧ ¬ c.toNat < 0x20) := by
  by_cases short : c ∈ ['"', '\\', '\x08', '\t', '\n', '\x0c', '\r']
  · left
    revert c
    simp [escapeChar, shortEscape?]
  · right
    simp only [List.mem_cons, List.not_mem_nil, or_false, not_or] at short
    obtain ⟨quote, backslash, backspace, tab, line, page, carriage⟩ := short
    by_cases control : c.toNat < 0x20
    · left
      refine ⟨_, _, ?_, hexCode?_digitChar control, control⟩
      simp [escapeChar, *]
    · right
      refine ⟨?_, quote, backslash, control⟩
      simp [escapeChar, *]

/-- A code is not a short escape. -/
theorem ne_code_of_shortEscape? {letter c : Char} (meant : shortEscape? letter = some c) :
    letter ≠ 'u' := by
  rintro rfl
  cases meant

theorem unescape?_escapeChar (c : Char) (text : List Char) :
    unescape? (escapeChar c ++ text) = (unescape? text).map (c :: ·) := by
  rcases escapeChar_cases c with ⟨letter, spelled, meant⟩ | ⟨high, low, spelled, meant, control⟩ |
    ⟨spelled, _, plain, _⟩
  · have notCode := ne_code_of_shortEscape? meant
    rw [spelled]
    cases rest : unescape? text <;> simp [unescape?, notCode, meant, rest]
  · have first : isHighSurrogate c.toNat = false := by
      simp only [isHighSurrogate, Bool.and_eq_false_iff, decide_eq_false_iff_not]
      omega
    have second : isLowSurrogate c.toNat = false := by
      simp only [isLowSurrogate, Bool.and_eq_false_iff, decide_eq_false_iff_not]
      omega
    rw [spelled]
    cases rest : unescape? text <;> simp [unescape?, meant, first, second, rest]
  · rw [spelled]
    simp [unescape?, plain]

/-- The spelling of a text stands for that text. -/
theorem textOf?_escape (text : String) : textOf? (escape text) = some text := by
  have unescaped (chars : List Char) : unescape? (chars.flatMap escapeChar) = some chars := by
    induction chars with
    | nil => rfl
    | cons c rest ih => rw [List.flatMap_cons, unescape?_escapeChar, ih, Option.map_some]
  rw [textOf?, escape, String.toList_ofList, unescaped, Option.map_some, String.ofList_toList]

namespace Token

theorem splitString?_escapeChar (c : Char) (text : List Char) :
    splitString? (escapeChar c ++ text) =
      (splitString? text).map fun parts => (escapeChar c ++ parts.1, parts.2) := by
  rcases escapeChar_cases c with ⟨letter, spelled, meant⟩ | ⟨high, low, spelled, meant, _⟩ |
    ⟨spelled, _, plain, printed⟩
  · have notCode := ne_code_of_shortEscape? meant
    rw [spelled]
    cases rest : splitString? text <;> simp [splitString?, notCode, meant, rest]
  · rw [spelled]
    cases rest : splitString? text <;> simp [splitString?, meant, rest]
  · rw [spelled]
    simp [splitString?, plain, printed]

/-- What follows a string has no part in how it is split off. -/
theorem splitString?_append {text body after : List Char} (rest : List Char)
    (split : splitString? text = some (body, after)) :
    splitString? (text ++ rest) = some (body, after ++ rest) := by
  fun_induction splitString? text generalizing body after with
  | case1 => cases split
  | case2 =>
    cases split
    rfl
  | case3 a b c d text ih =>
    obtain ⟨code, valid, split⟩ := Option.bind_eq_some_iff.1 split
    obtain ⟨parts, found, same⟩ := Option.bind_eq_some_iff.1 split
    cases same
    simp [splitString?, valid, ih found]
  | case4 letter text _ ih =>
    obtain ⟨char, meant, split⟩ := Option.bind_eq_some_iff.1 split
    obtain ⟨parts, found, same⟩ := Option.bind_eq_some_iff.1 split
    cases same
    simp [splitString?, ne_code_of_shortEscape? meant, meant, ih found]
  | case5 => cases split
  | case6 c text quote _ _ plain ih =>
    obtain ⟨parts, found, same⟩ := Option.map_eq_some_iff.1 split
    cases same
    rw [not_or] at plain
    simp [splitString?, plain, ih found]

/-- Where no more of a numeral can stand. -/
def Stops (rest : List Char) : Prop :=
  ∀ c ∈ rest.head?, c.isDigit = false ∧ c ∉ ['.', 'e', 'E', '+', '-']

/-- What has been split off a text, and more of the text behind the rest. -/
def extend (rest : List Char) (parts : List Char × List Char) : List Char × List Char :=
  (parts.1, parts.2 ++ rest)

variable {rest : List Char}

/-- A character that numerals have is not where a numeral stops. -/
theorem Stops.exists_front {text tail : List Char} {c : Char} (stops : Stops rest)
    (part : c.isDigit = true ∨ c ∈ ['.', 'e', 'E', '+', '-']) (same : text ++ rest = c :: tail) :
    ∃ front, text = c :: front := by
  cases text with
  | nil =>
    rw [List.nil_append] at same
    subst same
    obtain ⟨noDigit, noMark⟩ := stops c rfl
    rcases part with digit | mark
    · rw [noDigit] at digit
      cases digit
    · exact absurd mark noMark
  | cons first front =>
    cases same
    exact ⟨front, rfl⟩

theorem splitDigits?_append (stops : Stops rest) (text : List Char) :
    splitDigits? (text ++ rest) = (splitDigits? text).map (extend rest) := by
  obtain ⟨taken, dropped⟩ := takeWhile_append_of_stop text fun c head => (stops c head).1
  simp only [splitDigits?, taken, dropped]
  split <;> rfl

theorem splitWhole?_append (stops : Stops rest) (text : List Char) :
    splitWhole? (text ++ rest) = (splitWhole? text).map (extend rest) := by
  fun_cases splitWhole? text with
  | case1 => rfl
  | case2 _ other =>
    rw [← splitDigits?_append stops, splitWhole?.eq_2]
    intro tail same
    obtain ⟨front, rfl⟩ := stops.exists_front (.inl rfl) same
    exact other front rfl

theorem splitFraction_append (stops : Stops rest) (text : List Char) :
    splitFraction (text ++ rest) = extend rest (splitFraction text) := by
  fun_cases splitFraction text with
  | case1 text digits after split =>
    simp [splitFraction, splitDigits?_append stops, split, extend]
  | case2 text split => simp [splitFraction, splitDigits?_append stops, split, extend]
  | case3 _ other =>
    rw [splitFraction.eq_2]
    · rfl
    · intro tail same
      obtain ⟨front, rfl⟩ := stops.exists_front (.inr (by decide)) same
      exact other front rfl

theorem splitExponentSign_append (stops : Stops rest) (text : List Char) :
    splitExponentSign (text ++ rest) = extend rest (splitExponentSign text) := by
  fun_cases splitExponentSign text with
  | case1 => rfl
  | case2 => rfl
  | case3 _ plus minus =>
    rw [splitExponentSign.eq_3]
    · rfl
    · intro tail same
      obtain ⟨front, rfl⟩ := stops.exists_front (.inr (by decide)) same
      exact plus front rfl
    · intro tail same
      obtain ⟨front, rfl⟩ := stops.exists_front (.inr (by decide)) same
      exact minus front rfl

theorem splitExponent_append (stops : Stops rest) (text : List Char) :
    splitExponent (text ++ rest) = extend rest (splitExponent text) := by
  cases text with
  | nil =>
    cases rest with
    | nil => rfl
    | cons c rest =>
      have other : ¬ (c = 'e' ∨ c = 'E') := by
        have noMark := (stops c rfl).2
        simp only [List.mem_cons, not_or] at noMark ⊢
        exact ⟨noMark.2.1, noMark.2.2.1⟩
      simp [splitExponent, other, extend]
  | cons mark text =>
    rw [List.cons_append, splitExponent, splitExponent]
    split
    · simp only [splitExponentSign_append stops, splitDigits?_append stops, extend]
      cases splitDigits? (splitExponentSign text).2 <;> rfl
    · rfl

/-- A numeral at the front of a text that has no sign, with a sign put before it. -/
def splitUnsigned? (sign text : List Char) : Option (List Char × List Char) := do
  let (whole, afterWhole) ← splitWhole? text
  let (fraction, afterFraction) := splitFraction afterWhole
  let (exponent, rest) := splitExponent afterFraction
  return (sign ++ whole ++ fraction ++ exponent, rest)

theorem splitNumber?_minus (text : List Char) :
    splitNumber? ('-' :: text) = splitUnsigned? ['-'] text := rfl

theorem splitNumber?_of_unsigned {text : List Char} (unsigned : ∀ tail, text ≠ '-' :: tail) :
    splitNumber? text = splitUnsigned? [] text := by
  rw [splitNumber?]
  · rfl
  · exact unsigned

theorem splitUnsigned?_append (stops : Stops rest) (sign text : List Char) :
    splitUnsigned? sign (text ++ rest) = (splitUnsigned? sign text).map (extend rest) := by
  rw [splitUnsigned?, splitUnsigned?, splitWhole?_append stops]
  cases splitWhole? text with
  | none => rfl
  | some parts => simp [extend, splitFraction_append stops, splitExponent_append stops]

/-- What follows a numeral has no part in how it is split off. -/
theorem splitNumber?_append (stops : Stops rest) (text : List Char) :
    splitNumber? (text ++ rest) = (splitNumber? text).map (extend rest) := by
  by_cases minus : ∃ front, text = '-' :: front
  · obtain ⟨front, rfl⟩ := minus
    rw [List.cons_append, splitNumber?_minus, splitNumber?_minus, splitUnsigned?_append stops]
  · rw [splitNumber?_of_unsigned fun tail same => minus ⟨tail, same⟩,
      splitNumber?_of_unsigned fun tail same =>
        minus (stops.exists_front (.inr (by decide)) same), splitUnsigned?_append stops]

/-- A text that starts with a numeral starts with no other token. -/
theorem split?_of_splitNumber? {text numeral after : List Char}
    (split : splitNumber? text = some (numeral, after)) :
    split? text = some (scalar (.number (String.ofList numeral)), after) := by
  fun_cases split? text with
  | case11 => simp [split]
  | _ => cases split

end Token

open Json.Token

def isSpelling (spelling : String) : Bool :=
  splitString? (spelling.toList ++ ['"']) == some (spelling.toList, [])

def isNumeral (spelling : String) : Bool :=
  splitNumber? spelling.toList == some (spelling.toList, [])

variable {spelling : String}

theorem split?_string (spelled : isSpelling spelling = true) (rest : List Char) :
    split? ('"' :: (spelling.toList ++ '"' :: rest)) = some (scalar (.string spelling), rest) := by
  have split := splitString?_append rest (beq_iff_eq.1 spelled)
  rw [List.append_assoc, List.singleton_append, List.nil_append] at split
  simp [split?, split]

theorem split?_number (spelled : isNumeral spelling = true) {rest : List Char}
    (stops : Stops rest) :
    split? (spelling.toList ++ rest) = some (scalar (.number spelling), rest) := by
  have split := splitNumber?_append stops spelling.toList
  rw [beq_iff_eq.1 spelled] at split
  simpa [extend] using split?_of_splitNumber? split

/-- The spelling of a text spells a string. -/
theorem isSpelling_escape (text : String) : isSpelling (escape text) = true := by
  have split (chars : List Char) :
      splitString? (chars.flatMap escapeChar ++ ['"']) = some (chars.flatMap escapeChar, []) := by
    induction chars with
    | nil => rfl
    | cons c chars ih =>
      rw [List.flatMap_cons, List.append_assoc, splitString?_escapeChar, ih, Option.map_some]
  rw [isSpelling, escape, String.toList_ofList, beq_iff_eq]
  exact split text.toList

/-- The digits of a positive number have no zero in front. -/
theorem head_toDigits_ne_zero {number : Nat} (positive : 0 < number) :
    (Nat.toDigits 10 number).head? ≠ some '0' := by
  induction number using Nat.strongRecOn with
  | ind number ih =>
    by_cases single : number < 10
    · have plain : ∀ digit < 10, 0 < digit → [digit.digitChar].head? ≠ some '0' := by decide
      rw [Nat.toDigits_of_lt_base single]
      exact plain number single positive
    · have first := ih (number / 10) (by omega) (by omega)
      rw [Nat.toDigits_of_base_le (by decide) (Nat.not_lt.1 single), List.head?_append]
      cases found : (Nat.toDigits 10 (number / 10)).head? with
      | none => exact absurd (List.head?_eq_none_iff.1 found) Nat.toDigits_ne_nil
      | some c =>
        rw [found] at first
        exact first

theorem splitWhole?_toDigits (number : Nat) :
    splitWhole? (Nat.toDigits 10 number) = some (Nat.toDigits 10 number, []) := by
  obtain ⟨nonempty, inside⟩ := Numeral.isDigits_iff.1 (Numeral.isDigits_toDigits number)
  have whole := takeWhile_of_inside inside
  rcases Nat.eq_zero_or_pos number with rfl | positive
  · rfl
  · rw [splitWhole?.eq_2]
    · simp [splitDigits?, whole, nonempty]
    · intro tail same
      exact head_toDigits_ne_zero positive (congrArg List.head? same)

/-- The digits of a number spell it. -/
theorem isNumeral_toString (number : Nat) : isNumeral (toString number) = true := by
  have unsigned : ∀ tail, Nat.toDigits 10 number ≠ '-' :: tail := by
    intro tail same
    exact Numeral.head_toDigits_ne_minus number (congrArg List.head? same)
  rw [isNumeral, beq_iff_eq, Nat.toString_eq_ofList_toDigits, String.toList_ofList,
    splitNumber?_of_unsigned unsigned, splitUnsigned?, splitWhole?_toDigits]
  simp [splitFraction, splitExponent]

theorem text?_ofText (text : String) : (ofText text).text? = some text :=
  textOf?_escape text

theorem natural?_ofNat (number : Nat) : (ofNat number).natural? = some number := by
  rw [ofNat, natural?, Nat.toString_eq_ofList_toDigits, String.toList_ofList,
    if_pos (Numeral.isDigits_toDigits number), Numeral.value_toDigits]

theorem appendDigits_eq {digits : List Char} {start : Nat}
    (fits : Nat.ofDigitChars 10 digits start < UInt64.size) :
    appendDigits start digits = (Nat.ofDigitChars 10 digits start, []) := by
  induction digits generalizing start with
  | nil => rfl
  | cons c rest ih =>
    rw [Nat.ofDigitChars_cons] at fits ⊢
    have next := Nat.lt_of_le_of_lt (Decimal.le_ofDigitChars rest _) fits
    rw [appendDigits, Numeral.digit, if_pos next, ih fits]

/-- The digits of a number of 64 bits are kept without a power of ten. -/
theorem scaled_toDigits {number : Nat} (fits : number < UInt64.size) :
    scaled (Nat.toDigits 10 number) = ⟨number, 0⟩ := by
  have inside := (Numeral.isDigits_iff.1 (Numeral.isDigits_toDigits number)).2
  have appended : appendDigits 0 (Nat.toDigits 10 number) = (number, []) := by
    have value : Nat.ofDigitChars 10 (Nat.toDigits 10 number) 0 = number :=
      Numeral.value_toDigits number
    rw [appendDigits_eq, value]
    rwa [value]
  have unsigned : Numeral.splitSign (Nat.toDigits 10 number) = (false, Nat.toDigits 10 number) :=
    Numeral.splitSign_sign 0 (Numeral.head_toDigits_ne_minus number)
  have noMark : ∀ c ∈ Nat.toDigits 10 number, (c != 'e' && c != 'E') = true := by
    intro c member
    rw [Bool.and_eq_true, bne_iff_ne, bne_iff_ne]
    constructor <;> rintro rfl <;> cases inside _ member
  have digits := takeWhile_of_inside inside
  have mantissa := takeWhile_of_inside noMark
  have ended := List.drop_eq_nil_of_le (Nat.le_succ (Nat.toDigits 10 number).length)
  simp [scaled, unsigned, digits, mantissa, appended, appendDigits, ended, Numeral.value]

/-- Numbers of 32 bits are in the range of double precision. -/
theorem inDoubleRange_toString {number : Nat} (fits : number < UInt32.size) :
    inDoubleRange (toString number) = true := by
  have small : number < Nat.pow 2 Double.precision := Nat.lt_trans fits (by decide)
  have range : UInt32.size < Double.overflow := by decide +kernel
  have one : Double.round 1 = 1 := rfl
  rw [inDoubleRange, Nat.toString_eq_ofList_toDigits, String.toList_ofList,
    scaled_toDigits (Nat.lt_trans fits (by decide))]
  simp [Double.round_eq_self small, maxPowerOfTen, one, Nat.lt_trans fits range]

end Json

end FieldFormula
