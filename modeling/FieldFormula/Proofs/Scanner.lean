import FieldFormula.Proofs.Feed
import FieldFormula.Proofs.Name
import FieldFormula.Proofs.Numeral
import FieldFormula.Proofs.Quoted

/-! Scanning texts piece by piece. A token is read from its spelling if what stands behind it cannot
continue it, and blanks before a token are passed over. -/

namespace FieldFormula

namespace Scanner

variable {gap text rest : List Char} {position : Position}

theorem skipFrom_blanks (blank : ∀ c ∈ gap, Text.isWhitespace c = true) (text : List Char)
    (position : Position) :
    skipFrom .blanks (gap ++ text) position = skipFrom .blanks text (position.after gap) := by
  induction gap generalizing position with
  | nil => rfl
  | cons c gap ih =>
    have whitespace := blank c List.mem_cons_self
    have others := ih (fun d member => blank d (List.mem_cons_of_mem _ member)) (position.step c)
    rw [List.cons_append, Position.after_cons, ← others]
    cases gap ++ text with
    | nil => simp only [skipFrom, if_pos whitespace]
    | cons d rest => rw [skipFrom, if_pos whitespace]

/-- Blanks before a token do not matter but for its place. -/
theorem next_of_blanks (blank : ∀ c ∈ gap, Text.isWhitespace c = true) :
    next ⟨gap ++ text, position⟩ = next ⟨text, position.after gap⟩ := by
  simp only [next, skipFrom_blanks blank]

theorem skipFrom_of_visible {c : Char} (visible : Text.isWhitespace c = false) (solid : c ≠ '/') :
    skipFrom .blanks (c :: text) position = .reached ⟨c :: text, position⟩ := by
  cases text with
  | nil => simp [skipFrom, visible]
  | cons d rest => simp [skipFrom, visible, solid]

/-- A spelling is read as a token, with `after` left behind it. -/
def Spells (token : Token) (text after : List Char) : Prop :=
  ∀ position, next ⟨text ++ after, position⟩ =
    (.ok ⟨token, String.ofList text, position⟩, ⟨after, position.after text⟩)

theorem spells_of_readFront {c : Char} {token : Token} {after : List Char}
    (visible : Text.isWhitespace c = false) (solid : c ≠ '/')
    (read : Token.readFront (c :: text ++ after) = .read token (c :: text) after) :
    Spells token (c :: text) after := by
  intro position
  rw [List.cons_append] at read ⊢
  simp only [next, skipFrom_of_visible visible solid, read]

end Scanner

namespace Token

theorem symbols_find?_none {c : Char} {text : List Char}
    (other : ∀ symbol ∈ symbols, symbol.1.head? ≠ some c) :
    symbols.find? (fun symbol => symbol.1.isPrefixOf (c :: text)) = none := by
  refine List.find?_eq_none.2 fun symbol member front => ?_
  have nonempty := symbols_ne_nil symbol member
  have head := other symbol member
  cases spelling : symbol.1 with
  | nil => exact nonempty spelling
  | cons d rest =>
    rw [spelling, List.isPrefixOf_cons_cons, Bool.and_eq_true, beq_iff_eq] at front
    exact head (by rw [spelling, front.1]; rfl)

/-- What the scanner finds out about the first character of a word. -/
structure WordLike (c : Char) : Prop where
  visible : Text.isWhitespace c = false
  solid : c ≠ '/'
  noSingle : c ≠ '\''
  noDouble : c ≠ '"'
  noSymbol : ∀ symbol ∈ symbols, symbol.1.head? ≠ some c
  continues : continuesName c = true
  starts : c.isDigit = false → startsName c = true

theorem wordLike_of_isWord {c : Char} (word : isWord c = true) : WordLike c := by
  have found : isWord c = true →
      Text.isWhitespace c = false ∧ c ≠ '/' ∧ c ≠ '\'' ∧ c ≠ '"' ∧
      (∀ symbol ∈ symbols, symbol.1.head? ≠ some c) ∧ continuesName c = true ∧
      (c.isDigit = false → startsName c = true) :=
    Text.of_ascii (toNat_lt_of_isWord word) (by decide)
  obtain ⟨visible, solid, noSingle, noDouble, noSymbol, continues, starts⟩ := found word
  exact ⟨visible, solid, noSingle, noDouble, noSymbol, continues, starts⟩

theorem isWord_of_isDigit {c : Char} (digit : c.isDigit = true) : isWord c = true := by
  simp [isWord, Char.isAlphanum, digit]

theorem readFront_of_noSymbol {c : Char} {text : List Char}
    (noSymbol : ∀ symbol ∈ symbols, symbol.1.head? ≠ some c) :
    readFront (c :: text) =
      if c = '\'' then readString .single text
      else if c = '"' then readString .double text
      else if c.isDigit then readNumber (c :: text)
      else if startsName c then readName (c :: text)
      else .unrecognised c := by
  rw [readFront, symbols_find?_none noSymbol]

theorem readFront_quote (quote : QuoteStyle) (text : List Char) :
    readFront (quote.char :: text) = readString quote text := by
  rw [readFront_of_noSymbol (by cases quote <;> decide)]
  cases quote <;> rfl

theorem readFront_word {c : Char} {text : List Char} (word : isWord c = true) :
    readFront (c :: text) = if c.isDigit then readNumber (c :: text) else readName (c :: text) := by
  have like := wordLike_of_isWord word
  rw [readFront_of_noSymbol like.noSymbol, if_neg like.noSingle, if_neg like.noDouble]
  split
  · rfl
  · next noDigit => rw [if_pos (like.starts (Bool.eq_false_iff.2 noDigit))]

/-- Nothing that stands here continues a name or a numeral. -/
def Boundary (after : List Char) : Prop :=
  ∀ c ∈ after.head?, continuesName c = false ∧ c ≠ '.'

theorem Boundary.noDigit {after : List Char} (boundary : Boundary after) :
    ∀ c ∈ after.head?, c.isDigit = false := by
  intro c head
  refine Bool.eq_false_iff.2 fun digit => ?_
  have continues := (wordLike_of_isWord (isWord_of_isDigit digit)).continues
  rw [(boundary c head).1] at continues
  cases continues

theorem splitFraction_of_boundary {after : List Char} (boundary : Boundary after) :
    splitFraction after = ([], after) := by
  cases after with
  | nil => rfl
  | cons c rest =>
    have noPoint := (boundary c rfl).2
    exact splitFraction.eq_2 _ fun _ same => noPoint (List.cons.inj same).1

end Token

namespace Scanner

open Token

variable {text after : List Char}

def printed : List (Char × Token) :=
  [('(', .openBracket), (')', .closeBracket), (',', .comma), ('-', .operator .subtract)]

theorem spells_printed {c : Char} {token : Token} (after : List Char)
    (member : (c, token) ∈ printed) : Spells token [c] after := by
  simp only [printed, List.mem_cons, Prod.mk.injEq, List.not_mem_nil, or_false] at member
  rcases member with ⟨rfl, rfl⟩ | ⟨rfl, rfl⟩ | ⟨rfl, rfl⟩ | ⟨rfl, rfl⟩ <;>
    exact spells_of_readFront (by decide) (by decide) rfl

theorem spells_string {literal : Quoted} (wellFormed : literal.WellFormed) (after : List Char) :
    Spells (.string literal) literal.spelling.toList after := by
  obtain ⟨raw, quote⟩ := literal
  have spelled : (Quoted.spelling ⟨raw, quote⟩).toList =
      quote.char :: (raw.toList ++ [quote.char]) := by
    simp [Quoted.spelling, Char.toString]
  have read : readFront (quote.char :: (raw.toList ++ [quote.char]) ++ after) =
      .read (.string ⟨raw, quote⟩) (quote.char :: (raw.toList ++ [quote.char])) after := by
    rw [List.cons_append, List.append_assoc, readFront_quote, readString, List.singleton_append,
      splitString?_of_isBody quote.char_ne_backslash wellFormed]
    simp
  rw [spelled]
  exact spells_of_readFront (by cases quote <;> decide) (by cases quote <;> decide) read

/-- A word is read from its first character on. -/
theorem spells_word {c : Char} {token : Token} (word : isWord c = true)
    (read : (if c.isDigit then readNumber (c :: text ++ after) else readName (c :: text ++ after)) =
      .read token (c :: text) after) : Spells token (c :: text) after := by
  have like := wordLike_of_isWord word
  exact spells_of_readFront like.visible like.solid ((readFront_word word).trans read)

theorem spells_number {digits : List Char} {token : Token}
    (valid : Numeral.isDigits digits = true)
    (read : readNumber (digits ++ text ++ after) = .read token (digits ++ text) after) :
    Spells token (digits ++ text) after := by
  obtain ⟨nonempty, inside⟩ := Numeral.isDigits_iff.1 valid
  obtain ⟨c, rest, rfl⟩ := List.exists_cons_of_ne_nil nonempty
  have digit := inside c List.mem_cons_self
  refine spells_word (isWord_of_isDigit digit) ?_
  rw [if_pos digit]
  exact read

theorem spells_integer {digits : List Char} (valid : Numeral.isDigits digits = true)
    (boundary : Boundary after) : Spells (.integer (String.ofList digits)) digits after := by
  obtain ⟨taken, dropped⟩ :=
    takeWhile_append_of_head (Numeral.isDigits_iff.1 valid).2 boundary.noDigit
  have read : readNumber (digits ++ [] ++ after) =
      .read (.integer (String.ofList digits)) (digits ++ []) after := by
    simp [readNumber, taken, dropped, splitFraction_of_boundary boundary]
  simpa only [List.append_nil] using spells_number valid read

theorem spells_decimal {whole fraction : List Char} (wholeValid : Numeral.isDigits whole = true)
    (fractionValid : Numeral.isDigits fraction = true) (boundary : Boundary after) :
    Spells (.decimal (String.ofList (whole ++ '.' :: fraction))) (whole ++ '.' :: fraction)
      after := by
  obtain ⟨nonempty, inside⟩ := Numeral.isDigits_iff.1 fractionValid
  have point : ∀ c ∈ ('.' :: (fraction ++ after)).head?, c.isDigit = false := by
    rintro _ ⟨⟩
    rfl
  obtain ⟨taken, dropped⟩ := takeWhile_append_of_head (Numeral.isDigits_iff.1 wholeValid).2 point
  obtain ⟨places, behind⟩ := takeWhile_append_of_head inside boundary.noDigit
  refine spells_number wholeValid ?_
  simp [readNumber, taken, dropped, splitFraction, places, behind, nonempty]

theorem spells_name {c : Char} {rest : List Char} (noDigit : c.isDigit = false)
    (words : ∀ d ∈ c :: rest, isWord d = true) (boundary : Boundary after) :
    Spells (ofName (c :: rest)) (c :: rest) after := by
  have continues (d : Char) (member : d ∈ c :: rest) : continuesName d = true :=
    (wordLike_of_isWord (words d member)).continues
  obtain ⟨taken, dropped⟩ :=
    takeWhile_append_of_head continues fun d head => (boundary d head).1
  refine spells_word (words c List.mem_cons_self) ?_
  rw [if_neg (Bool.eq_false_iff.1 noDigit), readName, taken, dropped]

/-- A scanner gives lexemes one after another and goes on as another scanner. -/
inductive Gives : Scanner → List Lexeme → Scanner → Prop
  | none {scanner : Scanner} : Gives scanner [] scanner
  | next {scanner rest last : Scanner} {lexeme : Lexeme} {lexemes : List Lexeme}
      (answered : scanner.next = (.ok lexeme, rest)) (inside : lexeme.token ≠ .endOfInput)
      (others : Gives rest lexemes last) : Gives scanner (lexeme :: lexemes) last

namespace Gives

variable {scanner middle last : Scanner} {lexemes others : List Lexeme} {position : Position}

theorem append (first : Gives scanner lexemes middle) (second : Gives middle others last) :
    Gives scanner (lexemes ++ others) last := by
  induction first with
  | none => exact second
  | next answered inside _ ih => exact .next answered inside (ih second)

theorem blanks {gap text : List Char} (blank : ∀ c ∈ gap, Text.isWhitespace c = true)
    (nonempty : lexemes ≠ []) (given : Gives ⟨text, position.after gap⟩ lexemes last) :
    Gives ⟨gap ++ text, position⟩ lexemes last := by
  cases given with
  | none => exact absurd rfl nonempty
  | next answered inside others => exact .next ((next_of_blanks blank).trans answered) inside others

/-- Lexemes up to the end of the input are the feed of a text. -/
theorem collect_eq {room : Nat} {final : Lexeme} (given : Gives scanner lexemes last)
    (answered : last.next.1 = .ok final) (ended : final.token = .endOfInput)
    (enough : scanner.rest.length ≤ room) :
    Feed.collect room scanner = .ofLexemes lexemes final := by
  induction given generalizing room with
  | @none scanner =>
    cases room with
    | zero => rw [Feed.collect, answered]; rfl
    | succ room =>
      rw [Feed.collect, show scanner.next = (.ok final, scanner.next.2) by rw [← answered]]
      exact if_pos ended
  | @next scanner rest last lexeme lexemes first inside _ ih =>
    have shorter := length_lt_of_next first inside
    cases room with
    | zero => omega
    | succ room =>
      have collected := ih answered (by omega : rest.rest.length ≤ room)
      rw [Feed.collect, first]
      simp only [if_neg inside, collected]
      rfl

end Gives

/-- With `after` behind it a text is read as lexemes of a certain form. -/
def Yields (text after : List Char) (form : List Lexeme → Prop) : Prop :=
  ∀ position, ∃ lexemes final, Gives ⟨text ++ after, position⟩ lexemes ⟨after, final⟩ ∧
    form lexemes

inductive Single (token : Token) : List Lexeme → Prop
  | intro {lexeme : Lexeme} (spelled : lexeme.token = token) : Single token [lexeme]

inductive Then (form other : List Lexeme → Prop) : List Lexeme → Prop
  | intro {lexemes others : List Lexeme} (front : form lexemes) (back : other others) :
      Then form other (lexemes ++ others)

namespace Yields

variable {first second text after gap : List Char} {form other : List Lexeme → Prop}

theorem append (front : Yields first (second ++ after) form) (back : Yields second after other) :
    Yields (first ++ second) after (Then form other) := by
  intro position
  obtain ⟨lexemes, middle, given, formed⟩ := front position
  obtain ⟨others, final, givenBehind, formedBehind⟩ := back middle
  refine ⟨lexemes ++ others, final, ?_, .intro formed formedBehind⟩
  rw [List.append_assoc]
  exact given.append givenBehind

theorem blanks (blank : ∀ c ∈ gap, Text.isWhitespace c = true)
    (nonempty : ∀ {lexemes}, form lexemes → lexemes ≠ []) (yields : Yields text after form) :
    Yields (gap ++ text) after form := by
  intro position
  obtain ⟨lexemes, final, given, formed⟩ := yields (position.after gap)
  refine ⟨lexemes, final, ?_, formed⟩
  rw [List.append_assoc]
  exact given.blanks blank (nonempty formed)

theorem mono (yields : Yields text after form) (weaken : ∀ {lexemes}, form lexemes → other lexemes) :
    Yields text after other := by
  intro position
  obtain ⟨lexemes, final, given, formed⟩ := yields position
  exact ⟨lexemes, final, given, weaken formed⟩

theorem of_spells {token : Token} (spells : Spells token text after)
    (inside : token ≠ .endOfInput) : Yields text after (Single token) :=
  fun position => ⟨_, _, .next (spells position) inside .none, .intro rfl⟩

end Yields

/-- A text that yields lexemes up to its end has just these as its feed. -/
theorem Yields.ofSource_eq {source : String} {form : List Lexeme → Prop}
    (yields : Yields source.toList [] form) :
    ∃ lexemes final, Feed.ofSource source = .ofLexemes lexemes final ∧
      final.token = .endOfInput ∧ form lexemes := by
  obtain ⟨lexemes, last, given, formed⟩ := yields .start
  rw [List.append_nil] at given
  obtain ⟨final, answered, ended⟩ := next_of_rest_nil (rfl : Scanner.rest ⟨[], last⟩ = [])
  exact ⟨lexemes, final, given.collect_eq answered ended (Nat.le_refl _), ended, formed⟩

end Scanner

end FieldFormula
