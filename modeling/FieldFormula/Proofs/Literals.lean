import FieldFormula.Proofs.Expr.Print
import FieldFormula.Proofs.Parser.Tokens

/-! Which texts have a string literal. Whether a quote is escaped is decided by how many backslashes
stand directly before it: in the body of a literal the number is odd before every quote of its style
and even at the end. Escaping adds one backslash before each such quote, so a style can hold exactly
the texts in which these numbers are even. -/

namespace FieldFormula

namespace Quoted

/-- The number of backslashes that a text ends with. -/
def backslashesAtEnd (text : List Char) : Nat :=
  (text.reverse.takeWhile (· == '\\')).length

/-- Some quote of a text stands directly behind an odd number of backslashes. -/
def HoldsEscaped (quote : Char) (text : List Char) : Prop :=
  ∃ front, front ++ [quote] <+: text ∧ backslashesAtEnd front % 2 = 1

/-- The quotes inside a literal are escaped and its closing quote is not. -/
structure Enclosed (literal : Quoted) : Prop where
  escaped : ∀ front, front ++ [literal.quote.char] <+: literal.raw.toList →
    backslashesAtEnd front % 2 = 1
  closed : backslashesAtEnd literal.raw.toList % 2 = 0

variable {quote c : Char} {raw text behind : List Char}

theorem backslashesAtEnd_concat :
    backslashesAtEnd (text ++ [c]) = if c = '\\' then backslashesAtEnd text + 1 else 0 := by
  unfold backslashesAtEnd
  rw [List.reverse_append, List.reverse_singleton, List.singleton_append, List.takeWhile_cons]
  by_cases backslash : c = '\\' <;> simp [backslash]

/-- A quote stands at the front of a text or behind its first character. -/
theorem forall_behind_cons {p : List Char → Prop} :
    (∀ front, front ++ [quote] <+: c :: text → p front) ↔
      (c = quote → p []) ∧ ∀ front, front ++ [quote] <+: text → p (c :: front) := by
  constructor
  · intro all
    refine ⟨?_, fun front before => all _ (List.cons_prefix_cons.2 ⟨rfl, before⟩)⟩
    rintro rfl
    exact all [] (List.cons_prefix_cons.2 ⟨rfl, List.nil_prefix⟩)
  · rintro ⟨first, others⟩ front before
    cases front with
    | nil => exact first (List.cons_prefix_cons.1 before).1.symm
    | cons d front =>
      obtain ⟨rfl, within⟩ := List.cons_prefix_cons.1 before
      exact others front within

/-- The parity of a run of backslashes is kept from one character to the next, with `behind` as what
has been read. -/
theorem isBody_iff_behind (regular : quote ≠ '\\') (even : backslashesAtEnd behind % 2 = 0) :
    isBody quote raw = true ↔
      (∀ front, front ++ [quote] <+: raw → backslashesAtEnd (behind ++ front) % 2 = 1) ∧
        backslashesAtEnd (behind ++ raw) % 2 = 0 := by
  fun_induction isBody quote raw generalizing behind with
  | case1 => simp [even]
  | case2 c =>
    rw [forall_behind_cons, backslashesAtEnd_concat, List.append_nil, even]
    by_cases backslash : c = '\\'
    · have odd : (backslashesAtEnd behind + 1) % 2 ≠ 0 := by omega
      simp [backslash, odd]
    · simp [backslash]
  | case3 d rest ih =>
    have first : backslashesAtEnd (behind ++ ['\\']) % 2 = 1 := by
      rw [backslashesAtEnd_concat, if_pos rfl]
      omega
    have second : backslashesAtEnd (behind ++ ['\\'] ++ [d]) % 2 = 0 := by
      rw [backslashesAtEnd_concat]
      split <;> omega
    rw [ih second, forall_behind_cons, forall_behind_cons]
    simp [Ne.symm regular, first]
  | case4 c d rest plain ih =>
    have first : backslashesAtEnd (behind ++ [c]) % 2 = 0 := by
      rw [backslashesAtEnd_concat, if_neg plain]
    rw [Bool.and_eq_true, bne_iff_ne, forall_behind_cons, ih first]
    simp [even, and_assoc]

theorem wellFormed_iff_enclosed {literal : Quoted} : literal.WellFormed ↔ literal.Enclosed := by
  have start : backslashesAtEnd [] % 2 = 0 := rfl
  rw [WellFormed, isBody_iff_behind literal.quote.char_ne_backslash start]
  constructor
  · rintro ⟨escaped, closed⟩
    exact ⟨escaped, closed⟩
  · rintro ⟨escaped, closed⟩
    exact ⟨escaped, closed⟩

/-- A literal is what is written for its value in its own style. -/
theorem escape_value {literal : Quoted} (wellFormed : literal.WellFormed) :
    escape literal.quote literal.value = literal.raw := by
  have back := escapeChars_unescapeChars literal.quote.char_ne_backslash wellFormed
  rw [escape, value, String.toList_ofList, back, String.ofList_toList]

theorem head_escapeChars_ne (regular : quote ≠ '\\') (text : List Char) :
    (escapeChars quote text).head? ≠ some quote := by
  cases text with
  | nil => simp [escapeChars]
  | cons c rest =>
    rw [escapeChars]
    split
    · simpa using Ne.symm regular
    · next other => simpa using other

/-- Escaping adds one backslash to each run before a quote, and resolving the escapes takes it off. -/
theorem unescapeChars_escapeChars (regular : quote ≠ '\\') (text : List Char) :
    unescapeChars quote (escapeChars quote text) = text := by
  induction text with
  | nil => rfl
  | cons c rest ih =>
    by_cases same : c = quote
    · rw [same, escapeChars, if_pos rfl, unescapeChars, if_pos ⟨rfl, rfl⟩, ih]
    · rw [escapeChars_cons_of_ne same]
      by_cases backslash : c = '\\'
      · rw [backslash, unescapeChars_backslash (head_escapeChars_ne regular rest), ih]
      · rw [unescapeChars_cons_of_ne backslash, ih]

/-- What is left of a text can be escaped after what has been read of it, `behind`, if the runs of
backslashes before its quotes and at its end are even. Behind an odd run the last backslash is still
to take a character with it. -/
theorem isBody_escapeChars_iff_behind (regular : quote ≠ '\\') (text behind : List Char) :
    isBody quote ((if backslashesAtEnd behind % 2 = 0 then [] else ['\\']) ++
        escapeChars quote text) = true ↔
      (∀ front, front ++ [quote] <+: text → backslashesAtEnd (behind ++ front) % 2 = 0) ∧
        backslashesAtEnd (behind ++ text) % 2 = 0 := by
  induction text generalizing behind with
  | nil => by_cases even : backslashesAtEnd behind % 2 = 0 <;> simp [even, escapeChars, isBody]
  | cons c rest ih =>
    have next := ih (behind ++ [c])
    rw [backslashesAtEnd_concat] at next
    rw [forall_behind_cons, List.append_nil]
    by_cases same : c = quote
    · subst same
      rw [if_neg regular] at next
      by_cases even : backslashesAtEnd behind % 2 = 0
      · simpa [escapeChars, even, isBody] using next
      · have bare : isBody c (c :: escapeChars c rest) = false :=
          Bool.eq_false_iff.2 fun body => head_ne_of_isBody regular body rfl
        simp [escapeChars, even, isBody, bare]
    · rw [escapeChars_cons_of_ne same]
      by_cases backslash : c = '\\'
      · subst backslash
        rw [if_pos rfl] at next
        by_cases even : backslashesAtEnd behind % 2 = 0
        · have odd : (backslashesAtEnd behind + 1) % 2 ≠ 0 := by omega
          simpa [even, odd, same] using next
        · have odd : (backslashesAtEnd behind + 1) % 2 = 0 := by omega
          simpa [even, odd, same, isBody] using next
      · rw [if_neg backslash] at next
        by_cases even : backslashesAtEnd behind % 2 = 0
        · simpa [even, same, Token.isBody_cons same backslash] using next
        · simpa [even, same, isBody] using next

/-- A style can hold a text if no quote of the style stands behind an odd number of backslashes and
the text does not end in such a number. -/
theorem fits_iff (style : QuoteStyle) (text : String) :
    fits style text = true ↔
      ¬ HoldsEscaped style.char text.toList ∧ backslashesAtEnd text.toList % 2 = 0 := by
  have start : backslashesAtEnd [] % 2 = 0 := rfl
  have body := isBody_escapeChars_iff_behind style.char_ne_backslash text.toList []
  simp only [start, if_true, List.nil_append] at body
  simp only [fits, unescapeChars_escapeChars style.char_ne_backslash, beq_self_eq_true,
    Bool.and_true, body]
  refine and_congr_left fun _ => ⟨?_, ?_⟩
  · rintro even ⟨front, before, odd⟩
    have := even front before
    omega
  · intro none front before
    refine Decidable.byContradiction fun odd => none ⟨front, before, ?_⟩
    omega

theorem ofValue?_eq_none_iff (text : String) :
    ofValue? text = none ↔ backslashesAtEnd text.toList % 2 = 1 ∨
      HoldsEscaped '\'' text.toList ∧ HoldsEscaped '"' text.toList := by
  have single := fits_iff .single text
  have double := fits_iff .double text
  simp only [QuoteStyle.char] at single double
  have parity : backslashesAtEnd text.toList % 2 = 1 ↔ ¬ backslashesAtEnd text.toList % 2 = 0 := by
    omega
  rw [parity]
  unfold ofValue?
  split
  · next fitting =>
    obtain ⟨bare, even⟩ := single.1 fitting
    simp [bare, even]
  split
  · next fitting =>
    obtain ⟨bare, even⟩ := double.1 fitting
    simp [bare, even]
  · next noSingle noDouble =>
    rw [single] at noSingle
    rw [double] at noDouble
    simp only [true_iff]
    by_cases even : backslashesAtEnd text.toList % 2 = 0
    · simp only [even, and_true, Classical.not_not] at noSingle noDouble
      exact .inr ⟨noSingle, noDouble⟩
    · exact .inl even

/-- A literal that is read as one token from its spelling, with nothing behind it. -/
def Scanned (literal : Quoted) : Prop :=
  ∃ final, (Feed.ofSource literal.spelling).lexemes =
    .ok [⟨.string literal, literal.spelling, .start⟩, final] ∧ final.token = .endOfInput

theorem scanned_iff_wellFormed {literal : Quoted} : literal.Scanned ↔ literal.WellFormed := by
  constructor
  · rintro ⟨final, read, _⟩
    obtain ⟨lexemes, last, fed, split, _⟩ := (Feed.ofSource_regular _).of_lexemes read
    obtain ⟨rfl, _⟩ := List.append_inj' (show [_] ++ [final] = lexemes ++ [last] from split) rfl
    have member : .ok ⟨.string literal, literal.spelling, .start⟩ ∈
        (Feed.ofSource literal.spelling).steps := by
      rw [fed]
      exact List.mem_singleton.2 rfl
    exact Feed.genuine_of_mem_collect member
  · intro wellFormed
    have spelled := Scanner.spells_string wellFormed [] .start
    rw [List.append_nil, String.ofList_toList] at spelled
    let last : Scanner := ⟨[], Position.start.after literal.spelling.toList⟩
    have given : Scanner.Gives (Scanner.ofSource literal.spelling)
        [⟨.string literal, literal.spelling, .start⟩] last :=
      .next spelled (by simp) .none
    obtain ⟨final, answered, ended⟩ := last.next_of_rest_nil rfl
    refine ⟨final, ?_, ended⟩
    rw [Feed.ofSource, given.collect_eq answered ended (Nat.le_refl _), Feed.lexemes_ofLexemes]
    rfl

end Quoted

namespace Expr

open Quoted

theorem quote_eq_error_iff {value : String} :
    (∃ error, quote value = .error error) ↔ ofValue? value = none := by
  unfold quote
  cases ofValue? value <;> simp

/-- What is written for a text is read as one literal that stands for it. Nothing is written exactly
if no literal stands for the text, and this can be told by its backslashes. Single quotes are used
wherever they can be, and no two literals of one style stand for one text. -/
theorem quote_characterised (value : String) :
    (∀ text, quote value = .ok text →
      ∃ literal, Scanned literal ∧ literal.spelling = text ∧ literal.value = value) ∧
    ((∃ error, quote value = .error error) ↔
      ∀ literal, Scanned literal → literal.value ≠ value) ∧
    ((∃ error, quote value = .error error) ↔
      backslashesAtEnd value.toList % 2 = 1 ∨
        HoldsEscaped '\'' value.toList ∧ HoldsEscaped '"' value.toList) ∧
    (∀ literal, Scanned literal → literal.quote = .single → literal.value = value →
      ∃ raw, quote value = .ok (spelling ⟨raw, .single⟩)) ∧
    ∀ (scanner : Scanner) (lexeme : Lexeme) (literal : Quoted), scanner.next.1 = .ok lexeme →
      lexeme.token = .string literal → escape literal.quote literal.value = literal.raw := by
  refine ⟨fun text written => ?_, ⟨fun failed literal scanned stands => ?_, fun none => ?_⟩, ?_,
    fun literal scanned single stands => ?_, fun scanner lexeme literal answered spelled => ?_⟩
  · obtain ⟨literal, found, rfl⟩ := quote_eq_ok_iff.1 written
    obtain ⟨wellFormed, stands⟩ := of_ofValue? found
    exact ⟨literal, scanned_iff_wellFormed.2 wellFormed, rfl, stands⟩
  · obtain ⟨written, found⟩ := exists_ofValue? (scanned_iff_wellFormed.1 scanned)
    rw [stands, quote_eq_error_iff.1 failed] at found
    cases found
  · rw [quote_eq_error_iff]
    refine Option.eq_none_iff_forall_ne_some.2 fun literal found => ?_
    obtain ⟨wellFormed, stands⟩ := of_ofValue? found
    exact none literal (scanned_iff_wellFormed.2 wellFormed) stands
  · exact quote_eq_error_iff.trans (ofValue?_eq_none_iff value)
  · have fitting := fits_of_wellFormed (scanned_iff_wellFormed.1 scanned)
    rw [single, stands] at fitting
    exact ⟨_, quote_eq_ok_iff.2 ⟨_, if_pos fitting, rfl⟩⟩
  · obtain ⟨gap, text, _, _, read⟩ := Scanner.next_eq_ok (Prod.ext answered rfl)
    have genuine := Token.genuine_of_readFront read
    rw [spelled] at genuine
    exact escape_value genuine

/-- A backslash before a single quote calls for double quotes; behind both quotes it is too much. -/
theorem quote_characterised_of_backslash :
    (∃ literal, Scanned literal ∧ literal.spelling = "\"x\\'y\"" ∧ literal.value = "x\\'y") ∧
    ∀ literal, Scanned literal → literal.value ≠ "\\'\\\"" := by
  have written : quote "x\\'y" = .ok "\"x\\'y\"" := rfl
  have failed : quote "\\'\\\"" = .error (.unprintable "\\'\\\"") := rfl
  exact ⟨(quote_characterised _).1 _ written, (quote_characterised _).2.1.1 ⟨_, failed⟩⟩

end Expr

end FieldFormula
