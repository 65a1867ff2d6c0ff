import Mathlib.Data.List.Find
import FieldFormula.Proofs.Gap
import FieldFormula.Proofs.Literals

/-! How each token is spelled, as rules that do not refer to the scanner. What is read as a token is
spelled like it, and every spelling with a blank or nothing behind it is read as its token. So the
spelling of a token determines it. -/

namespace FieldFormula

namespace Token

/-- The words that are tokens of their own. -/
def keywordTokens : List (String × Token) :=
  [("true", .boolean true), ("false", .boolean false), ("field", .field), ("lookup", .lookup),
    ("field_by_id", .fieldById)]

/-- A character that can start a name, and characters that can continue it. -/
def IsName (text : List Char) : Prop :=
  (∃ c ∈ text.head?, startsName c = true) ∧ ∀ c ∈ text, continuesName c = true

/-- The spellings of the tokens. The end of the input has no characters of its own. -/
inductive Spelled : Token → List Char → Prop
  | string {literal : Quoted} (enclosed : literal.Enclosed) :
      Spelled (.string literal)
        (literal.quote.char :: (literal.raw.toList ++ [literal.quote.char]))
  | integer {text : String} (digits : Numeral.isDigits text.toList = true) :
      Spelled (.integer text) text.toList
  | decimal {text : String} {whole fraction : List Char}
      (parts : text.toList = whole ++ '.' :: fraction) (wholeDigits : Numeral.isDigits whole = true)
      (fractionDigits : Numeral.isDigits fraction = true) : Spelled (.decimal text) text.toList
  | keyword {name : String} {token : Token} (named : IsName name.toList)
      (member : (Text.lowercase name, token) ∈ keywordTokens) : Spelled token name.toList
  | identifier {name : String} (named : IsName name.toList)
      (other : Text.lowercase name ∉ keywords) : Spelled (.identifier name) name.toList
  | symbol {token : Token} {text : List Char} (member : (text, token) ∈ symbols) :
      Spelled token text
  | endOfInput : Spelled .endOfInput []

variable {text spelling rest after : List Char} {token : Token} {c : Char}

theorem ofName_of_keyword {name : String} (member : (Text.lowercase name, token) ∈ keywordTokens) :
    ofName name.toList = token := by
  simp only [keywordTokens, List.mem_cons, Prod.mk.injEq, List.not_mem_nil, or_false] at member
  have lower : Text.lowerAfter [] name.toList = (Text.lowercase name).toList := by
    rw [Text.lowercase, String.toList_ofList]
  simp only [ofName, lower]
  rcases member with ⟨same, rfl⟩ | ⟨same, rfl⟩ | ⟨same, rfl⟩ | ⟨same, rfl⟩ | ⟨same, rfl⟩ <;>
    rw [same] <;> rfl

theorem spelled_ofName (named : IsName text) : Spelled (ofName text) text := by
  rw [← String.toList_ofList (l := text)] at named ⊢
  generalize String.ofList text = name at named
  by_cases other : Text.lowercase name ∈ keywords
  · obtain ⟨⟨keyword, token⟩, member, rfl⟩ :=
      List.mem_map.1 (show Text.lowercase name ∈ keywordTokens.map Prod.fst from other)
    rw [ofName_of_keyword member]
    exact .keyword named member
  · rw [ofName_of_not_keyword other]
    exact .identifier named other

theorem spelled_of_readString {quote : QuoteStyle}
    (read : readString quote text = .read token spelling rest) : Spelled token spelling := by
  unfold readString at read
  split at read
  · next body after split =>
    cases read
    have wellFormed : Quoted.WellFormed ⟨String.ofList body, quote⟩ := by
      rw [Quoted.WellFormed, String.toList_ofList]
      exact isBody_of_splitString? split
    have spelled := Spelled.string (Quoted.wellFormed_iff_enclosed.1 wellFormed)
    rwa [String.toList_ofList] at spelled
  · cases read

theorem spelled_integer {digits : List Char} (valid : Numeral.isDigits digits = true) :
    Spelled (.integer (String.ofList digits)) digits := by
  have spelled : Spelled (.integer (String.ofList digits)) (String.ofList digits).toList :=
    .integer (by rwa [String.toList_ofList])
  rwa [String.toList_ofList] at spelled

theorem spelled_decimal {whole fraction : List Char} (wholeDigits : Numeral.isDigits whole = true)
    (fractionDigits : Numeral.isDigits fraction = true) :
    Spelled (.decimal (String.ofList (whole ++ '.' :: fraction))) (whole ++ '.' :: fraction) := by
  have spelled : Spelled (.decimal (String.ofList (whole ++ '.' :: fraction)))
      (String.ofList (whole ++ '.' :: fraction)).toList :=
    .decimal String.toList_ofList wholeDigits fractionDigits
  rwa [String.toList_ofList] at spelled

/-- A fractional part has digits behind its point. -/
theorem splitFraction_cases (text : List Char) :
    (splitFraction text).1 = [] ∨
      ∃ digits, (splitFraction text).1 = '.' :: digits ∧ Numeral.isDigits digits = true := by
  unfold splitFraction
  split
  · next rest =>
    split
    · exact .inl rfl
    · next nonempty =>
      refine .inr ⟨_, rfl, Numeral.isDigits_iff.2 ⟨?_, List.all_eq_true.1 List.all_takeWhile⟩⟩
      simpa only [List.isEmpty_iff] using nonempty
  · exact .inl rfl

theorem spelled_of_readNumber (digit : c.isDigit = true)
    (read : readNumber (c :: text) = .read token spelling rest) : Spelled token spelling := by
  have wholeDigits : Numeral.isDigits ((c :: text).takeWhile Char.isDigit) = true := by
    refine Numeral.isDigits_iff.2 ⟨?_, List.all_eq_true.1 List.all_takeWhile⟩
    simp [digit]
  simp only [readNumber, Reading.read.injEq] at read
  obtain ⟨rfl, rfl, _⟩ := read
  generalize (c :: text).takeWhile Char.isDigit = whole at wholeDigits
  rcases splitFraction_cases ((c :: text).dropWhile Char.isDigit) with none | ⟨digits, some, valid⟩
  · simpa [none] using spelled_integer wholeDigits
  · simpa [some] using spelled_decimal wholeDigits valid

/-- What is read as a token is spelled like it. -/
theorem spelled_of_readFront (read : readFront text = .read token spelling rest) :
    Spelled token spelling := by
  unfold readFront at read
  split at read
  · cases read
    exact .endOfInput
  · next c tail =>
    split at read
    · next found =>
      cases read
      exact .symbol (List.mem_of_find?_eq_some found)
    · split at read
      · exact spelled_of_readString read
      split at read
      · exact spelled_of_readString read
      split at read
      · next digit => exact spelled_of_readNumber digit read
      split at read
      · next starts =>
        cases read
        have continues := continuesName_of_startsName starts
        refine spelled_ofName ⟨⟨c, ?_, starts⟩, List.all_eq_true.1 List.all_takeWhile⟩
        simp [continues]
      · cases read

/-! Blanks, quotes, digits and symbols are told apart from names by their first characters. -/

theorem not_continuesName_of_isWhitespace (white : Text.isWhitespace c = true) :
    continuesName c = false := by
  have blanks : ∀ range ∈ Text.whitespaceRanges, ∀ offset < range.2 - range.1 + 1,
      continuesName (Char.ofNat (range.1 + offset)) = false := by
    decide +kernel
  obtain ⟨range, member, least, most⟩ := (Text.CodeRanges.contains_iff _ _).1 white
  have found := blanks range member (c.toNat - range.1) (by omega)
  rwa [Nat.add_sub_cancel' least, Char.ofNat_toNat] at found

theorem not_startsName_of_isDigit (digit : c.isDigit = true) : startsName c = false := by
  have ascii := toNat_lt_of_isWord (isWord_of_isDigit digit)
  revert digit
  exact Text.of_ascii ascii (by decide)

/-- A name goes on with no character that starts another kind of token. -/
theorem ne_of_continuesName {d : Char} (continues : continuesName c = true)
    (other : continuesName d = false) : c ≠ d := by
  rintro rfl
  rw [continues] at other
  cases other

theorem head_ne_of_continuesName (continues : continuesName c = true) :
    ∀ symbol ∈ symbols, symbol.1.head? ≠ some c := by
  have heads : ∀ symbol ∈ symbols, symbol.1.head?.any continuesName = false := by
    decide +kernel
  intro symbol member head
  have other := heads symbol member
  rw [head, Option.any_some, continues] at other
  cases other

theorem readFront_name (starts : startsName c = true) :
    readFront (c :: text) = readName (c :: text) := by
  have continues := continuesName_of_startsName starts
  have noDigit : ¬ c.isDigit = true := fun digit => by
    rw [not_startsName_of_isDigit digit] at starts
    cases starts
  rw [readFront_of_noSymbol (head_ne_of_continuesName continues),
    if_neg (ne_of_continuesName continues (by decide)),
    if_neg (ne_of_continuesName continues (by decide)), if_neg noDigit, if_pos starts]

theorem readFront_digits {digits : List Char} (valid : Numeral.isDigits digits = true) :
    readFront (digits ++ text) = readNumber (digits ++ text) := by
  obtain ⟨nonempty, inside⟩ := Numeral.isDigits_iff.1 valid
  obtain ⟨c, rest, rfl⟩ := List.exists_cons_of_ne_nil nonempty
  have digit := inside c List.mem_cons_self
  rw [List.cons_append, readFront_word (isWord_of_isDigit digit), if_pos digit]

/-- Where nothing or a blank stands. -/
def Edge (after : List Char) : Prop :=
  ∀ c ∈ after.head?, Text.isWhitespace c = true

theorem Edge.boundary (edge : Edge after) : Boundary after := by
  intro c head
  have white := edge c head
  refine ⟨not_continuesName_of_isWhitespace white, ?_⟩
  rintro rfl
  cases white

/-- A text without blanks that stands before an edge does not reach over it. -/
theorem Edge.prefix_of_prefix {front : List Char} (edge : Edge after)
    (dense : front.any Text.isWhitespace = false) (before : front <+: text ++ after) :
    front <+: text := by
  rcases List.prefix_or_prefix_of_prefix before (List.prefix_append text after) with
    within | ⟨beyond, rfl⟩
  · exact within
  · have reached := (List.prefix_append_right_inj text).1 before
    cases beyond with
    | nil => simp
    | cons d beyond =>
      obtain ⟨others, rfl⟩ := reached
      exact absurd (edge d rfl) (List.any_eq_false.1 dense d (by simp))

theorem Edge.solid_append (edge : Edge after) (solid : Solid text) (nonempty : text ≠ []) :
    Solid (text ++ after) := by
  refine ⟨fun c head => ?_, fun line => solid.noLineComment ?_,
    fun block => solid.noBlockComment ?_⟩
  · rw [List.head?_append_of_ne_nil _ nonempty] at head
    exact solid.visible c head
  · exact edge.prefix_of_prefix (by decide) line
  · exact edge.prefix_of_prefix (by decide) block

theorem dense_symbol : ∀ symbol ∈ symbols, symbol.1.any Text.isWhitespace = false := by
  decide

/-- No symbol reaches over an edge. -/
theorem find?_symbol_append (text : List Char) (edge : Edge after) :
    symbols.find? (fun symbol => symbol.1.isPrefixOf (text ++ after)) =
      symbols.find? fun symbol => symbol.1.isPrefixOf text := by
  refine List.find?_congr fun symbol listed => ?_
  rw [Bool.eq_iff_iff, List.isPrefixOf_iff_prefix, List.isPrefixOf_iff_prefix]
  exact ⟨edge.prefix_of_prefix (dense_symbol symbol listed),
    fun before => before.trans (List.prefix_append _ _)⟩

/-- Of two symbols that start alike the longer one is found. -/
theorem find?_symbol (member : (text, token) ∈ symbols) (edge : Edge after) :
    symbols.find? (fun symbol => symbol.1.isPrefixOf (text ++ after)) = some (text, token) := by
  have alone : ∀ symbol ∈ symbols,
      symbols.find? (fun other => other.1.isPrefixOf symbol.1) = some symbol := by
    decide
  rw [find?_symbol_append text edge, alone _ member]

theorem solid_symbol (member : (text, token) ∈ symbols) (edge : Edge after) :
    Solid (text ++ after) := by
  have alone : ∀ symbol ∈ symbols, symbol.1 ≠ [] ∧
      ¬ ['/', '/'] <+: symbol.1 ∧ ¬ ['/', '*'] <+: symbol.1 := by
    decide
  obtain ⟨nonempty, noLine, noBlock⟩ := alone _ member
  refine edge.solid_append ⟨fun c head => ?_, noLine, noBlock⟩ nonempty
  have dense := List.any_eq_false.1 (dense_symbol _ member) c (List.mem_of_mem_head? head)
  exact Bool.eq_false_iff.2 dense

end Token

namespace Scanner

open Token

variable {text after : List Char} {token : Token}

theorem spells_of_solid (solid : Solid (text ++ after))
    (read : readFront (text ++ after) = .read token text after) : Spells token text after := by
  intro position
  simp only [next, skipFrom_solid solid, read]

theorem spells_symbol (member : (text, token) ∈ symbols) (edge : Edge after) :
    Spells token text after := by
  refine spells_of_solid (solid_symbol member edge) ?_
  have found := find?_symbol member edge
  obtain ⟨c, rest, rfl⟩ := List.exists_cons_of_ne_nil (symbols_ne_nil _ member)
  rw [List.cons_append] at found ⊢
  simp only [readFront, found]
  simp

theorem spells_named (named : IsName text) (edge : Edge after) :
    Spells (ofName text) text after := by
  obtain ⟨⟨c, head, starts⟩, continues⟩ := named
  obtain ⟨rest, rfl⟩ : ∃ rest, text = c :: rest := List.head?_eq_some_iff.1 head
  have first := continues c List.mem_cons_self
  have visible : Text.isWhitespace c = false := by
    refine Bool.eq_false_iff.2 fun white => ?_
    rw [not_continuesName_of_isWhitespace white] at first
    cases first
  obtain ⟨taken, dropped⟩ :=
    takeWhile_append_of_head continues fun d head => (edge.boundary d head).1
  refine spells_of_readFront visible (ne_of_continuesName first (by decide)) ?_
  rw [List.cons_append, readFront_name starts, ← List.cons_append, readName, taken, dropped]

/-- A spelling before an edge is read as its token. -/
theorem spells_of_spelled (spelled : Spelled token text) (inside : token ≠ .endOfInput)
    (edge : Edge after) : Spells token text after := by
  cases spelled with
  | @string literal enclosed =>
    have spells := spells_string (Quoted.wellFormed_iff_enclosed.2 enclosed) after
    simpa [Quoted.spelling, Char.toString] using spells
  | @integer text digits =>
    have spells := spells_integer digits edge.boundary
    rwa [String.ofList_toList] at spells
  | @decimal text whole fraction parts wholeDigits fractionDigits =>
    have spells := spells_decimal wholeDigits fractionDigits edge.boundary
    rwa [← parts, String.ofList_toList] at spells
  | keyword named member => exact ofName_of_keyword member ▸ spells_named named edge
  | identifier named other => exact ofName_of_not_keyword other ▸ spells_named named edge
  | symbol member => exact spells_symbol member edge
  | endOfInput => exact absurd rfl inside

end Scanner

namespace Token

variable {text spelling rest : List Char} {token other : Token}

theorem Spelled.ne_nil (spelled : Spelled token spelling) (inside : token ≠ .endOfInput) :
    spelling ≠ [] := by
  cases spelled with
  | string => exact List.cons_ne_nil _ _
  | integer digits => exact (Numeral.isDigits_iff.1 digits).1
  | decimal parts => simp [parts]
  | keyword named | identifier named =>
    obtain ⟨c, head, _⟩ := named.1
    exact List.ne_nil_of_mem (List.mem_of_mem_head? head)
  | symbol member => exact symbols_ne_nil _ member
  | endOfInput => exact absurd rfl inside

theorem Spelled.eq_nil (spelled : Spelled .endOfInput spelling) : spelling = [] := by
  have others : ∀ symbol ∈ symbols, symbol.2 ≠ .endOfInput := by decide
  cases spelled with
  | keyword _ member => simp [keywordTokens] at member
  | symbol member => exact absurd rfl (others _ member)
  | endOfInput => rfl

/-- The spelling of a token determines it. -/
theorem Spelled.unique (first : Spelled token spelling) (second : Spelled other spelling) :
    token = other := by
  by_cases ended : spelling = []
  · have end_of {token : Token} (spelled : Spelled token spelling) : token = .endOfInput :=
      Decidable.byContradiction fun inside => spelled.ne_nil inside ended
    rw [end_of first, end_of second]
  · have inside {token : Token} (spelled : Spelled token spelling) : token ≠ .endOfInput := by
      rintro rfl
      exact ended spelled.eq_nil
    have edge : Edge [] := nofun
    have one := Scanner.spells_of_spelled first (inside first) edge .start
    have two := Scanner.spells_of_spelled second (inside second) edge .start
    cases one.symm.trans two
    rfl

/-- Where a token is spelled some token is read, if maybe a longer one. -/
theorem Spelled.exists_readFront (spelled : Spelled token spelling) (inside : token ≠ .endOfInput)
    (front : spelling <+: text) :
    ∃ token spelling rest, readFront text = .read token spelling rest := by
  obtain ⟨after, rfl⟩ := front
  cases spelled with
  | @string literal enclosed =>
    have wellFormed := Quoted.wellFormed_iff_enclosed.2 enclosed
    rw [List.cons_append, List.append_assoc, readFront_quote, readString, List.singleton_append,
      splitString?_of_isBody literal.quote.char_ne_backslash wellFormed]
    exact ⟨_, _, _, rfl⟩
  | integer digits =>
    rw [readFront_digits digits]
    exact ⟨_, _, _, rfl⟩
  | decimal parts wholeDigits =>
    rw [parts, List.append_assoc, readFront_digits wholeDigits]
    exact ⟨_, _, _, rfl⟩
  | @keyword name token named | @identifier name named =>
    obtain ⟨c, head, starts⟩ := named.1
    obtain ⟨rest, same⟩ := List.head?_eq_some_iff.1 head
    rw [same, List.cons_append, readFront_name starts]
    exact ⟨_, _, _, rfl⟩
  | symbol member =>
    obtain ⟨c, rest, rfl⟩ := List.exists_cons_of_ne_nil (symbols_ne_nil _ member)
    have found :
        (symbols.find? fun symbol => symbol.1.isPrefixOf (c :: rest ++ after)).isSome = true :=
      List.find?_isSome.2 ⟨_, member, List.isPrefixOf_iff_prefix.2 (List.prefix_append _ _)⟩
    obtain ⟨longest, found⟩ := Option.isSome_iff_exists.1 found
    rw [List.cons_append] at found ⊢
    simp only [readFront, found]
    exact ⟨_, _, _, rfl⟩
  | endOfInput => exact absurd rfl inside

end Token

end FieldFormula
