import FieldFormula.Token.Spelling

/-! String literals: reading takes exactly the bodies that can stand between two quotes, and every
value of such a body can be written again. -/

namespace FieldFormula

theorem QuoteStyle.char_ne_backslash (quote : QuoteStyle) : quote.char ≠ '\\' := by
  cases quote <;> decide

namespace Quoted

variable {quote : Char} {raw : List Char}

/-- A literal whose text can stand between its quotes. -/
def WellFormed (literal : Quoted) : Prop :=
  isBody literal.quote.char literal.raw.toList = true

theorem unescapeChars_cons_of_ne {c : Char} (different : c ≠ '\\') :
    unescapeChars quote (c :: raw) = c :: unescapeChars quote raw := by
  cases raw with
  | nil => rfl
  | cons d rest => rw [unescapeChars, if_neg fun escaped => different escaped.1]

theorem escapeChars_cons_of_ne {c : Char} (different : c ≠ quote) :
    escapeChars quote (c :: raw) = c :: escapeChars quote raw := by
  rw [escapeChars, if_neg different]

/-- A backslash that takes no quote with it stays, and so does all behind it. -/
theorem unescapeChars_backslash (bare : raw.head? ≠ some quote) :
    unescapeChars quote ('\\' :: raw) = '\\' :: unescapeChars quote raw := by
  cases raw with
  | nil => rfl
  | cons d rest =>
    have different : d ≠ quote := fun same => bare (congrArg some same)
    rw [unescapeChars, if_neg fun escaped => different escaped.2]

theorem head_ne_of_isBody (regular : quote ≠ '\\') (body : isBody quote raw = true) :
    raw.head? ≠ some quote := by
  rintro head
  cases raw with
  | nil => cases head
  | cons c rest =>
    cases head
    cases rest <;> simp [isBody, regular] at body

/-- In a body every quote is escaped, so escaping its value brings the body back. -/
theorem escapeChars_unescapeChars (regular : quote ≠ '\\') (body : isBody quote raw = true) :
    escapeChars quote (unescapeChars quote raw) = raw := by
  have backslash : ∀ text, escapeChars quote ('\\' :: text) = '\\' :: escapeChars quote text :=
    fun _ => escapeChars_cons_of_ne (Ne.symm regular)
  fun_induction isBody quote raw with
  | case1 => rfl
  | case2 c =>
    simp only [Bool.and_eq_true, bne_iff_ne] at body
    rw [unescapeChars, escapeChars_cons_of_ne body.2, escapeChars]
  | case3 d rest ih =>
    by_cases escaped : d = quote
    · rw [escaped, unescapeChars, if_pos ⟨rfl, rfl⟩, escapeChars, if_pos rfl, ih body]
    · rw [unescapeChars_backslash (by simpa using escaped), backslash]
      -- The character behind the backslash may be a backslash itself, but then it escapes nothing.
      by_cases again : d = '\\'
      · rw [again, unescapeChars_backslash (head_ne_of_isBody regular body), backslash, ih body]
      · rw [unescapeChars_cons_of_ne again, escapeChars_cons_of_ne escaped, ih body]
  | case4 c d rest different ih =>
    simp only [Bool.and_eq_true, bne_iff_ne] at body
    rw [unescapeChars_cons_of_ne different, escapeChars_cons_of_ne body.1, ih body.2]

theorem fits_of_wellFormed {literal : Quoted} (wellFormed : literal.WellFormed) :
    fits literal.quote literal.value = true := by
  have back := escapeChars_unescapeChars literal.quote.char_ne_backslash wellFormed
  simp only [fits, value, String.toList_ofList, back, beq_self_eq_true, Bool.and_true]
  exact wellFormed

theorem escape_of_fits {quote : QuoteStyle} {text : String} (fitting : fits quote text = true) :
    WellFormed ⟨escape quote text, quote⟩ ∧ value ⟨escape quote text, quote⟩ = text := by
  simp only [fits, Bool.and_eq_true, beq_iff_eq] at fitting
  constructor
  · simpa only [WellFormed, escape, String.toList_ofList] using fitting.1
  · simp only [value, escape, String.toList_ofList, fitting.2, String.ofList_toList]

/-- What is written for a text can stand between its quotes and has the text as its value. -/
theorem of_ofValue? {text : String} {literal : Quoted} (written : ofValue? text = some literal) :
    literal.WellFormed ∧ literal.value = text := by
  unfold ofValue? at written
  split at written
  · next fitting =>
    cases written
    exact escape_of_fits fitting
  split at written
  · next fitting =>
    cases written
    exact escape_of_fits fitting
  · cases written

/-- The value of a literal can be written, if not always in the same quotes. -/
theorem exists_ofValue? {literal : Quoted} (wellFormed : literal.WellFormed) :
    ∃ written, ofValue? literal.value = some written := by
  have fitting := fits_of_wellFormed wellFormed
  unfold ofValue?
  split
  · exact ⟨_, rfl⟩
  · next noSingle =>
    cases style : literal.quote with
    | single => exact absurd (style ▸ fitting) noSingle
    | double => exact ⟨_, if_pos (style ▸ fitting)⟩

end Quoted

namespace Token

variable {quote : Char} {text body rest : List Char}

theorem isBody_cons {c : Char} (different : c ≠ quote) (plain : c ≠ '\\') :
    Quoted.isBody quote (c :: body) = Quoted.isBody quote body := by
  cases body with
  | nil => simp [Quoted.isBody, different, plain]
  | cons d rest => simp [Quoted.isBody, different, plain]

/-- What is read up to the closing quote can stand between quotes. -/
theorem isBody_of_splitString? (split : splitString? quote text = some (body, rest)) :
    Quoted.isBody quote body = true := by
  fun_induction splitString? quote text generalizing body rest with
  | case1 | case3 => cases split
  | case2 | case4 =>
    cases split
    rfl
  | case5 d after _ ih =>
    obtain ⟨⟨inner, behind⟩, found, same⟩ := Option.map_eq_some_iff.1 split
    cases same
    rw [Quoted.isBody, if_pos rfl]
    exact ih found
  | case6 c d after different plain ih =>
    obtain ⟨⟨inner, behind⟩, found, same⟩ := Option.map_eq_some_iff.1 split
    cases same
    rw [isBody_cons different plain]
    exact ih found

theorem splitString?_quote : splitString? quote (quote :: rest) = some ([], rest) := by
  cases rest <;> simp [splitString?]

theorem splitString?_cons {c : Char} (different : c ≠ quote) (plain : c ≠ '\\')
    (split : splitString? quote text = some (body, rest)) :
    splitString? quote (c :: text) = some (c :: body, rest) := by
  cases text with
  | nil => cases split
  | cons d after =>
    rw [splitString?, if_neg different, if_neg plain, split]
    rfl

/-- Whatever can stand between quotes is read up to the closing one. -/
theorem splitString?_of_isBody (regular : quote ≠ '\\') (valid : Quoted.isBody quote body = true) :
    splitString? quote (body ++ quote :: rest) = some (body, rest) := by
  fun_induction Quoted.isBody quote body with
  | case1 => exact splitString?_quote
  | case2 c =>
    simp only [Bool.and_eq_true, bne_iff_ne] at valid
    exact splitString?_cons valid.2 valid.1 splitString?_quote
  | case3 d after ih =>
    rw [List.cons_append, List.cons_append, splitString?, if_neg (Ne.symm regular), if_pos rfl,
      ih valid]
    rfl
  | case4 c d after plain ih =>
    simp only [Bool.and_eq_true, bne_iff_ne] at valid
    exact splitString?_cons valid.1 plain (ih valid.2)

end Token

end FieldFormula
