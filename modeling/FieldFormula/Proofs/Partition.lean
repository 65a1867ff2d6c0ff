import FieldFormula.Proofs.Spelling

/-! What a scanner gives, told from its text alone. Each answer takes a gap and the spelling of a
token off the front, or names the fault that stands there. Over a whole run the pieces that were
taken make up the source, and each lexeme is reported at the line and column of its first
character. -/

namespace FieldFormula

/-- The place behind a text, counted: one line more than it has line ends, and a column for each
character behind the last of them. -/
def Position.behind (text : List Char) : Position :=
  ⟨1 + text.count '\n', (text.reverse.takeWhile (· ≠ '\n')).length⟩

/-- Stepping over a text character by character arrives at the place behind it. -/
theorem Position.start_after (text : List Char) : start.after text = behind text := by
  rw [← List.reverse_reverse text]
  induction text.reverse with
  | nil => rfl
  | cons c reversed ih =>
    rw [List.reverse_cons, after_append, ih, after_cons, after_nil, step]
    by_cases newline : c = '\n'
    · simp [behind, newline, Nat.add_assoc]
    · simp [behind, newline]

theorem Position.after_behind (front text : List Char) :
    (behind front).after text = behind (front ++ text) := by
  rw [← start_after, ← start_after, after_append]

def Unspelled (text : List Char) : Prop :=
  ∀ token spelling, Token.Spelled token spelling → spelling <+: text → spelling = []

/-- Why there is no token at the front of a text. -/
inductive Unreadable : Fault → List Char → Prop
  | unrecognised {c : Char} {rest : List Char} (solid : Solid (c :: rest))
      (noQuote : ∀ quote : QuoteStyle, c ≠ quote.char) (unspelled : Unspelled (c :: rest)) :
      Unreadable (.unrecognised c) (c :: rest)
  | unterminatedString {quote : QuoteStyle} {rest : List Char}
      (unspelled : Unspelled (quote.char :: rest)) :
      Unreadable .unterminatedString (quote.char :: rest)
  | unterminatedComment {body : List Char} (unclosed : ¬ ['*', '/'] <:+: body) :
      Unreadable .unterminatedComment ('/' :: '*' :: body)

namespace Token

variable {text spelling rest : List Char} {c : Char}

/-- The end of the input is read at the end only. -/
theorem eq_nil_of_readFront (read : readFront text = .read .endOfInput spelling rest) :
    text = [] := by
  cases text with
  | nil => rfl
  | cons c tail => exact absurd (spelled_of_readFront read).eq_nil (readFront_cons_ne_nil read)

theorem unspelled_of_readFront
    (unread : ∀ token spelling rest, readFront text ≠ .read token spelling rest) :
    Unspelled text := by
  intro token spelling spelled front
  by_cases inside : token = .endOfInput
  · subst inside
    exact spelled.eq_nil
  · obtain ⟨found, taken, rest, read⟩ := spelled.exists_readFront inside front
    exact absurd read (unread found taken rest)

theorem readString_ne_unrecognised {quote : QuoteStyle} :
    readString quote text ≠ .unrecognised c := by
  unfold readString
  split <;> simp

theorem unreadable_of_unterminatedString (read : readFront text = .unterminatedString) :
    Unreadable .unterminatedString text := by
  have unspelled : Unspelled text := unspelled_of_readFront (by simp [read])
  unfold readFront at read
  split at read
  · cases read
  · next first tail =>
    split at read
    · cases read
    · split at read
      · next quote =>
        subst quote
        exact @Unreadable.unterminatedString .single tail unspelled
      split at read
      · next quote =>
        subst quote
        exact @Unreadable.unterminatedString .double tail unspelled
      split at read
      · cases read
      split at read <;> cases read

theorem unreadable_of_unrecognised (solid : Solid text) (read : readFront text = .unrecognised c) :
    Unreadable (.unrecognised c) text := by
  have unspelled : Unspelled text := unspelled_of_readFront (by simp [read])
  unfold readFront at read
  split at read
  · cases read
  · next first tail =>
    split at read
    · cases read
    · split at read
      · exact absurd read readString_ne_unrecognised
      split at read
      · exact absurd read readString_ne_unrecognised
      split at read
      · cases read
      split at read
      · cases read
      · next noSingle noDouble _ _ =>
        cases read
        refine .unrecognised solid (fun quote => ?_) unspelled
        cases quote
        · exact noSingle
        · exact noDouble

end Token

namespace Scanner

variable {scanner next : Scanner} {answer : Except SyntaxError Lexeme}

/-- What a scanner gives, and how it goes on unless there is a fault. -/
inductive Answers (scanner : Scanner) : Except SyntaxError Lexeme → Scanner → Prop
  | lexeme {gap spelling rest : List Char} {token : Token}
      (split : scanner.rest = gap ++ (spelling ++ rest)) (front : Gap gap)
      (spelled : token.Spelled spelling) (inside : token ≠ .endOfInput) :
      Answers scanner (.ok ⟨token, String.ofList spelling, scanner.position.after gap⟩)
        ⟨rest, scanner.position.after (gap ++ spelling)⟩
  | ended {next : Scanner} (gap : FinalGap scanner.rest) :
      Answers scanner (.ok ⟨.endOfInput, "", scanner.position.after scanner.rest⟩) next
  | fault {gap rest : List Char} {fault : Fault} {next : Scanner}
      (split : scanner.rest = gap ++ rest) (front : Gap gap) (unreadable : Unreadable fault rest) :
      Answers scanner (.error ⟨fault, scanner.position.after gap⟩) next

theorem next_gap {gap text : List Char} {position : Position} (front : Gap gap) :
    Scanner.next ⟨gap ++ text, position⟩ = Scanner.next ⟨text, position.after gap⟩ := by
  simp only [Scanner.next, skipFrom_gap front]

/-- Behind the last token there is nothing but the end of the input. -/
theorem next_finalGap {text : List Char} (final : FinalGap text) (position : Position) :
    (Scanner.next ⟨text, position⟩).1 = .ok ⟨.endOfInput, "", position.after text⟩ := by
  cases final with
  | closed gap =>
    have skipped := @next_gap _ [] position gap
    rw [List.append_nil] at skipped
    rw [skipped]
    rfl
  | lineComment gap oneLine =>
    rw [next_gap gap]
    simp only [Scanner.next, skipFrom_lastLine oneLine, ← Position.after_append]
    rfl

theorem Gives.ofSource_eq {source text : List Char} {lexemes : List Lexeme} {position : Position}
    (given : Gives ⟨source, .start⟩ lexemes ⟨text, position⟩) (final : FinalGap text) :
    Feed.ofSource (String.ofList source) =
      .ofLexemes lexemes ⟨.endOfInput, "", position.after text⟩ := by
  have start : Scanner.ofSource (String.ofList source) = ⟨source, .start⟩ := by
    rw [Scanner.ofSource, String.toList_ofList]
  rw [Feed.ofSource, start]
  exact given.collect_eq (next_finalGap final position) rfl (Nat.le_refl _)

/-- A gap is taken off the front, and then what ends the gap is answered. -/
theorem answers_next (scanner : Scanner) : Answers scanner scanner.next.1 scanner.next.2 := by
  obtain ⟨text, position⟩ := scanner
  cases parted text with
  | @solid gap rest front solid =>
    rw [next_gap front]
    simp only [Scanner.next, skipFrom_solid solid]
    cases read : Token.readFront rest with
    | read token spelling after =>
      have split := Token.readFront_eq read
      have spelled := Token.spelled_of_readFront read
      by_cases ended : token = .endOfInput
      · subst ended
        obtain rfl := Token.eq_nil_of_readFront read
        obtain rfl := spelled.eq_nil
        rw [List.append_nil]
        exact .ended (.closed front)
      · simp only [← Position.after_append]
        exact .lexeme (by rw [split]) front spelled ended
    | unterminatedString =>
      exact .fault rfl front (Token.unreadable_of_unterminatedString read)
    | unrecognised found =>
      exact .fault rfl front (Token.unreadable_of_unrecognised solid read)
  | @lineComment gap body front oneLine =>
    rw [next_finalGap (.lineComment front oneLine)]
    exact .ended (.lineComment front oneLine)
  | @blockComment gap body front unclosed =>
    rw [next_gap front]
    simp only [Scanner.next, skipFrom_lastBlock unclosed]
    exact .fault rfl front (.unterminatedComment unclosed)

end Scanner

abbrev Piece := List Char × Lexeme

def written (pieces : List Piece) : List Char :=
  pieces.flatMap fun piece => piece.1 ++ piece.2.spelling.toList

theorem written_concat (pieces : List Piece) (gap : List Char) (lexeme : Lexeme) :
    written (pieces ++ [(gap, lexeme)]) = written pieces ++ gap ++ lexeme.spelling.toList := by
  simp [written]

/-- Every piece is a gap and a lexeme that is spelled like its token and placed where its spelling
starts. -/
def InPlace (pieces : List Piece) : Prop :=
  ∀ front gap lexeme back, pieces = front ++ (gap, lexeme) :: back →
    Gap gap ∧ lexeme.token.Spelled lexeme.spelling.toList ∧ lexeme.token ≠ .endOfInput ∧
      lexeme.position = .behind (written front ++ gap)

theorem InPlace.concat {pieces : List Piece} {gap : List Char} {lexeme : Lexeme}
    (inPlace : InPlace pieces) (isGap : Gap gap)
    (spelled : lexeme.token.Spelled lexeme.spelling.toList) (inside : lexeme.token ≠ .endOfInput)
    (placed : lexeme.position = .behind (written pieces ++ gap)) :
    InPlace (pieces ++ [(gap, lexeme)]) := by
  intro front other found back split
  rcases List.eq_nil_or_concat back with rfl | ⟨others, last, rfl⟩
  · obtain ⟨rfl, same⟩ := List.append_inj' split rfl
    cases same
    exact ⟨isGap, spelled, inside, placed⟩
  · have earlier : pieces = front ++ (other, found) :: others := by
      rw [List.concat_eq_append, ← List.cons_append, ← List.append_assoc] at split
      exact (List.append_inj' split rfl).1
    exact inPlace front other found others earlier

/-- How far a scanner has come in a source: these pieces are behind it. -/
structure Laid (source : List Char) (pieces : List Piece) (scanner : Scanner) : Prop where
  whole : source = written pieces ++ scanner.rest
  place : scanner.position = .behind (written pieces)
  inPlace : InPlace pieces

namespace Laid

variable {source : List Char} {pieces : List Piece} {scanner rest last : Scanner}

theorem start (source : String) : Laid source.toList [] (.ofSource source) :=
  ⟨rfl, rfl, by simp [InPlace]⟩

/-- Places that a scanner counts from its own are places in the source. -/
theorem after_eq (laid : Laid source pieces scanner) (text : List Char) :
    scanner.position.after text = .behind (written pieces ++ text) := by
  rw [laid.place, Position.after_behind]

/-- One lexeme adds one piece. -/
theorem step {lexeme : Lexeme} (laid : Laid source pieces scanner)
    (answered : scanner.next = (.ok lexeme, rest)) (inside : lexeme.token ≠ .endOfInput) :
    ∃ gap, Laid source (pieces ++ [(gap, lexeme)]) rest := by
  have answers := scanner.answers_next
  rw [answered] at answers
  cases answers with
  | @lexeme gap spelling after token split front spelled =>
    refine ⟨gap, ?_, ?_, ?_⟩
    · simp [written_concat, laid.whole, split]
    · simp [written_concat, laid.after_eq]
    · apply laid.inPlace.concat front
      · simpa using spelled
      · exact inside
      · exact laid.after_eq gap
  | ended => exact absurd rfl inside

/-- A run of lexemes adds a piece for each of them. -/
theorem run {lexemes : List Lexeme} (laid : Laid source pieces scanner)
    (given : Scanner.Gives scanner lexemes last) :
    ∃ more, more.map Prod.snd = lexemes ∧ Laid source (pieces ++ more) last := by
  induction given generalizing pieces with
  | none => exact ⟨[], rfl, by simpa using laid⟩
  | @next scanner rest last lexeme lexemes answered inside _ ih =>
    obtain ⟨gap, taken⟩ := laid.step answered inside
    obtain ⟨more, same, finished⟩ := ih taken
    refine ⟨(gap, lexeme) :: more, by simp [same], ?_⟩
    rwa [List.append_assoc, List.singleton_append] at finished

theorem spelled (laid : Laid source pieces scanner) :
    ∀ lexeme ∈ pieces.map Prod.snd,
      lexeme.token.Spelled lexeme.spelling.toList ∧ lexeme.token ≠ .endOfInput := by
  intro lexeme member
  obtain ⟨⟨gap, _⟩, piece, rfl⟩ := List.mem_map.1 member
  obtain ⟨front, back, split⟩ := List.append_of_mem piece
  obtain ⟨_, spelled, inside, _⟩ := laid.inPlace front gap _ back split
  exact ⟨spelled, inside⟩

/-- The end of the input is placed behind the whole source. -/
theorem ended {final : Lexeme} (laid : Laid source pieces scanner)
    (answered : scanner.next.1 = .ok final) (ended : final.token = .endOfInput) :
    FinalGap scanner.rest ∧ final = ⟨.endOfInput, "", .behind source⟩ := by
  have answers := scanner.answers_next
  generalize scanner.next.2 = following at answers
  rw [answered] at answers
  cases answers with
  | lexeme _ _ _ inside => exact absurd ended inside
  | ended gap => exact ⟨gap, by rw [laid.after_eq, laid.whole]⟩

end Laid

/-- A feed holds the answers of a scanner from some request on. -/
def Scanner.Feeds (scanner : Scanner) (feed : Feed) : Prop :=
  ∃ room, scanner.rest.length ≤ room ∧ feed = .collect room scanner

namespace Scanner

variable {scanner : Scanner} {feed rest : Feed} {lexeme : Lexeme}

theorem feeds_ofSource (source : String) : Feeds (.ofSource source) (.ofSource source) :=
  ⟨_, Nat.le_refl _, rfl⟩

theorem Feeds.next_eq (feeds : Feeds scanner feed) : feed.next.1 = scanner.next.1 := by
  obtain ⟨room, _, rfl⟩ := feeds
  cases room with
  | zero => rfl
  | succ room =>
    rw [Feed.collect]
    split
    · next error rest answered => simp [Feed.next, answered]
    · next lexeme rest answered =>
      split <;> simp [Feed.next, answered]

theorem Feeds.step (feeds : Feeds scanner feed) (moved : feed.next = (.ok lexeme, rest))
    (inside : lexeme.token ≠ .endOfInput) :
    ∃ following, scanner.next = (.ok lexeme, following) ∧ Feeds following rest := by
  have answered : scanner.next.1 = .ok lexeme := by rw [← feeds.next_eq, moved]
  obtain ⟨room, enough, rfl⟩ := feeds
  have split : scanner.next = (.ok lexeme, scanner.next.2) := by rw [← answered]
  have shorter := length_lt_of_next split inside
  refine ⟨_, split, ?_⟩
  cases room with
  | zero => omega
  | succ room =>
    rw [Feed.collect, split] at moved
    simp only [if_neg inside, Feed.next, Prod.mk.injEq] at moved
    exact ⟨room, by omega, moved.2.symm⟩

/-- The lexemes of a feed are given one after another, and then the end of the input. -/
theorem Feeds.gives {lexemes : List Lexeme} {final : Lexeme}
    (feeds : Feeds scanner (.ofLexemes lexemes final))
    (inside : ∀ lexeme ∈ lexemes, lexeme.token ≠ .endOfInput) :
    ∃ last, Gives scanner lexemes last ∧ last.next.1 = .ok final := by
  induction lexemes generalizing scanner with
  | nil => exact ⟨scanner, .none, feeds.next_eq.symm⟩
  | cons lexeme lexemes ih =>
    rw [List.forall_mem_cons] at inside
    have moved : (Feed.ofLexemes (lexeme :: lexemes) final).next =
        (.ok lexeme, .ofLexemes lexemes final) := rfl
    obtain ⟨following, answered, others⟩ := feeds.step moved inside.1
    obtain ⟨last, given, ended⟩ := ih others inside.2
    exact ⟨last, .next answered inside.1 given, ended⟩

end Scanner

/-- A source that is scanned to its end is laid out in pieces, with the end of the input behind
them. -/
theorem Feed.exists_laid {source : String} {lexemes : List Lexeme}
    (read : (Feed.ofSource source).lexemes = .ok lexemes) :
    ∃ pieces scanner, Laid source.toList pieces scanner ∧ FinalGap scanner.rest ∧
      lexemes = pieces.map Prod.snd ++ [⟨.endOfInput, "", .behind source.toList⟩] ∧
      Feed.ofSource source =
        .ofLexemes (pieces.map Prod.snd) ⟨.endOfInput, "", .behind source.toList⟩ := by
  obtain ⟨inner, final, fed, rfl, ended⟩ := (ofSource_regular source).of_lexemes read
  have regular := ofSource_regular source
  have feeds := Scanner.feeds_ofSource source
  rw [fed] at regular feeds
  obtain ⟨scanner, given, finished⟩ := feeds.gives regular.ne_end
  obtain ⟨pieces, rfl, laid⟩ := (Laid.start source).run given
  rw [List.nil_append] at laid
  obtain ⟨gap, rfl⟩ := laid.ended finished ended
  exact ⟨pieces, scanner, laid, gap, rfl, fed⟩

/-- Scanning loses nothing and places everything. The gaps and the spellings of the lexemes make up
the source, each lexeme stands where its spelling starts, and its token is the only one that is
spelled so; the end of the input comes last and nowhere else. -/
theorem Feed.lexemes_partition (source : String) (lexemes : List Lexeme)
    (read : (Feed.ofSource source).lexemes = .ok lexemes) :
    ∃ pieces last, lexemes = pieces.map Prod.snd ++ [⟨.endOfInput, "", .behind source.toList⟩] ∧
      source.toList = written pieces ++ last ∧ FinalGap last ∧ InPlace pieces ∧
      ∀ lexeme ∈ lexemes, ∀ token, Token.Spelled token lexeme.spelling.toList →
        token = lexeme.token := by
  obtain ⟨pieces, scanner, laid, gap, rfl, _⟩ := exists_laid read
  refine ⟨pieces, scanner.rest, rfl, laid.whole, gap, laid.inPlace, ?_⟩
  intro lexeme member token spelled
  apply spelled.unique
  rcases List.mem_append.1 member with piece | last
  · exact (laid.spelled lexeme piece).1
  · obtain rfl := List.mem_singleton.1 last
    exact .endOfInput

/-- A comment may hold a quote, and a string may hold a comment and a line end. -/
theorem Feed.lexemes_partition_of_comments :
    (Feed.ofSource "1/'\n//'/*'*/ //").lexemes =
      .ok ([⟨.integer "1", "1", ⟨1, 0⟩⟩, ⟨.operator .divide, "/", ⟨1, 1⟩⟩,
        ⟨.string ⟨"\n//", .single⟩, "'\n//'", ⟨1, 2⟩⟩, ⟨.endOfInput, "", ⟨2, 11⟩⟩]) ∧
    ∃ pieces last, [⟨.integer "1", "1", ⟨1, 0⟩⟩, ⟨.operator .divide, "/", ⟨1, 1⟩⟩,
        ⟨.string ⟨"\n//", .single⟩, "'\n//'", ⟨1, 2⟩⟩, ⟨.endOfInput, "", ⟨2, 11⟩⟩] =
          pieces.map Prod.snd ++ [⟨.endOfInput, "", .behind "1/'\n//'/*'*/ //".toList⟩] ∧
      "1/'\n//'/*'*/ //".toList = written pieces ++ last ∧ FinalGap last ∧ InPlace pieces := by
  have read : (Feed.ofSource "1/'\n//'/*'*/ //").lexemes =
      .ok ([⟨.integer "1", "1", ⟨1, 0⟩⟩, ⟨.operator .divide, "/", ⟨1, 1⟩⟩,
        ⟨.string ⟨"\n//", .single⟩, "'\n//'", ⟨1, 2⟩⟩, ⟨.endOfInput, "", ⟨2, 11⟩⟩]) := rfl
  obtain ⟨pieces, last, same, whole, gap, inPlace, _⟩ := Feed.lexemes_partition _ _ read
  exact ⟨read, pieces, last, same, whole, gap, inPlace⟩

end FieldFormula
