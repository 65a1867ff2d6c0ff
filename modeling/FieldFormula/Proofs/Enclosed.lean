import FieldFormula.Proofs.Partition

/-! Scanning a source as a part of a longer text. A text with a blank behind it is read as if it ended
there, so a source that has been scanned to its end gives the same tokens inside of brackets. A line
end before the closing bracket is such a blank, and it also ends a comment that the source leaves
open. -/

namespace FieldFormula

namespace Token

variable {text spelling rest after : List Char} {token : Token}

theorem readString_append {quote : QuoteStyle} (after : List Char)
    (read : readString quote text = .read token spelling rest) :
    readString quote (text ++ after) = .read token spelling (rest ++ after) := by
  unfold readString at read
  split at read
  · next body behind split =>
    cases read
    rw [splitString?_eq split, readString, List.append_assoc, List.cons_append,
      splitString?_of_isBody quote.char_ne_backslash (isBody_of_splitString? split)]
  · cases read

theorem splitFraction_append_of_boundary (boundary : Boundary after) :
    splitFraction (text ++ after) = ((splitFraction text).1, (splitFraction text).2 ++ after) := by
  match text with
  | [] => exact splitFraction_of_boundary boundary
  | c :: tail =>
    by_cases point : c = '.'
    · subst point
      obtain ⟨taken, dropped⟩ := takeWhile_append_of_stop tail boundary.noDigit
      rw [List.cons_append, splitFraction, splitFraction, taken, dropped]
      split <;> rfl
    · have other (text : List Char) : splitFraction (c :: text) = ([], c :: text) :=
        splitFraction.eq_2 _ fun _ same => point (List.cons.inj same).1
      rw [List.cons_append, other, other, List.cons_append]

theorem readNumber_append (boundary : Boundary after)
    (read : readNumber text = .read token spelling rest) :
    readNumber (text ++ after) = .read token spelling (rest ++ after) := by
  obtain ⟨taken, dropped⟩ := takeWhile_append_of_stop text boundary.noDigit
  simp only [readNumber, Reading.read.injEq] at read ⊢
  simp only [taken, dropped, splitFraction_append_of_boundary boundary]
  exact ⟨read.1, read.2.1, congrArg (· ++ after) read.2.2⟩

theorem readName_append (boundary : Boundary after)
    (read : readName text = .read token spelling rest) :
    readName (text ++ after) = .read token spelling (rest ++ after) := by
  obtain ⟨taken, dropped⟩ :=
    takeWhile_append_of_stop text fun c head => (boundary c head).1
  cases read
  rw [readName, taken, dropped]

/-- A token is read again with more of a text behind it, if an edge comes first. -/
theorem readFront_append (edge : Edge after) (inside : token ≠ .endOfInput)
    (read : readFront text = .read token spelling rest) :
    readFront (text ++ after) = .read token spelling (rest ++ after) := by
  cases text with
  | nil =>
    cases read
    exact absurd rfl inside
  | cons c tail =>
    have symbol := find?_symbol_append (c :: tail) edge
    rw [readFront] at read
    rw [List.cons_append] at symbol ⊢
    rw [readFront, symbol]
    split at read
    · next found =>
      cases read
      have front := List.find?_some found
      simp only [List.isPrefixOf_iff_prefix] at front
      rw [← List.cons_append, List.drop_append_of_le_length front.length_le]
    · split at read
      · next single => rw [if_pos single, readString_append after read]
      split at read
      · next noSingle double => rw [if_neg noSingle, if_pos double, readString_append after read]
      split at read
      · next noSingle noDouble digit =>
        rw [if_neg noSingle, if_neg noDouble, if_pos digit]
        exact readNumber_append edge.boundary read
      split at read
      · next noSingle noDouble noDigit starts =>
        rw [if_neg noSingle, if_neg noDouble, if_neg noDigit, if_pos starts]
        exact readName_append edge.boundary read
      · cases read

end Token

/-- A line end closes whatever stands behind the last token. -/
theorem FinalGap.gap_newline {text : List Char} (final : FinalGap text) : Gap (text ++ ['\n']) := by
  cases final with
  | closed gap => exact gap.append (.blank (by decide) .none)
  | lineComment gap oneLine =>
    rw [List.append_assoc]
    exact gap.append (.lineComment oneLine .none)

namespace Scanner

open Token

variable {scanner last : Scanner} {lexeme : Lexeme} {lexemes : List Lexeme} {after : List Char}

/-- Before a lexeme there is a gap, and nothing of it is left where the lexeme is read. -/
theorem exists_solid_of_next (answered : scanner.next = (.ok lexeme, last))
    (inside : lexeme.token ≠ .endOfInput) :
    ∃ gap text spelling, scanner.rest = gap ++ text ∧ Gap gap ∧ Solid text ∧
      readFront text = .read lexeme.token spelling last.rest ∧
      lexeme.spelling = String.ofList spelling := by
  obtain ⟨text, position⟩ := scanner
  cases parted text with
  | @solid gap tail front solid =>
    rw [next_gap front] at answered
    simp only [next, skipFrom_solid solid] at answered
    split at answered
    · next token spelling behind read =>
      cases answered
      exact ⟨gap, tail, spelling, rfl, front, solid, read, rfl⟩
    · cases answered
    · cases answered
  | lineComment front oneLine =>
    rw [next_gap front] at answered
    simp only [next, skipFrom_lastLine oneLine, readFront] at answered
    cases answered
    exact absurd rfl inside
  | blockComment front unclosed =>
    rw [next_gap front] at answered
    simp only [next, skipFrom_lastBlock unclosed] at answered
    cases answered

/-- A lexeme is given again wherever its text stands, if an edge follows what was left. -/
theorem next_append (answered : scanner.next = (.ok lexeme, last))
    (inside : lexeme.token ≠ .endOfInput) (edge : Edge after) (start : Position) :
    ∃ place behind, next ⟨scanner.rest ++ after, start⟩ =
      (.ok ⟨lexeme.token, lexeme.spelling, place⟩, ⟨last.rest ++ after, behind⟩) := by
  obtain ⟨gap, text, spelling, split, front, solid, read, spelled⟩ :=
    exists_solid_of_next answered inside
  have nonempty : text ≠ [] := by
    rintro rfl
    exact inside (Reading.read.inj read).1.symm
  rw [split, List.append_assoc, next_gap front]
  have wider := edge.solid_append solid nonempty
  simp only [next, skipFrom_solid wider, readFront_append edge inside read, spelled]
  exact ⟨_, _, rfl⟩

/-- So a run of lexemes is given again, at other places. -/
theorem Gives.append_edge (given : Gives scanner lexemes last) (edge : Edge after)
    (start : Position) :
    ∃ placed behind, Gives ⟨scanner.rest ++ after, start⟩ placed ⟨last.rest ++ after, behind⟩ ∧
      placed.map Lexeme.token = lexemes.map Lexeme.token := by
  induction given generalizing start with
  | none => exact ⟨[], start, .none, rfl⟩
  | @next scanner rest last lexeme lexemes answered inside _ ih =>
    obtain ⟨place, middle, again⟩ := next_append answered inside edge start
    obtain ⟨placed, behind, others, same⟩ := ih middle
    refine ⟨⟨lexeme.token, lexeme.spelling, place⟩ :: placed, behind, ?_, ?_⟩
    · exact .next again inside others
    · rw [List.map_cons, List.map_cons, same]

/-- A source that was scanned to its end gives the same tokens before a line end, and a bracket
there closes it whatever the source ends in. -/
theorem yields_closed {source : String} {final : Lexeme}
    (fed : Feed.ofSource source = .ofLexemes lexemes final) (ended : final.token = .endOfInput)
    (after : List Char) :
    Yields (source.toList ++ ['\n', ')']) after
      (Then (fun placed => placed.map Lexeme.token = lexemes.map Lexeme.token)
        (Single .closeBracket)) := by
  have regular := Feed.ofSource_regular source
  have feeds := feeds_ofSource source
  rw [fed] at regular feeds
  obtain ⟨last, given, answered⟩ := feeds.gives regular.ne_end
  obtain ⟨pieces, _, laid⟩ := (Laid.start source).run given
  obtain ⟨gap, _⟩ := laid.ended answered ended
  intro position
  have edge : Edge ('\n' :: ')' :: after) := by
    rintro _ ⟨⟩
    decide
  obtain ⟨placed, behind, again, same⟩ := given.append_edge edge position
  have closing : next ⟨last.rest ++ '\n' :: ')' :: after, behind⟩ =
      next ⟨')' :: after, behind.after (last.rest ++ ['\n'])⟩ := by
    rw [← next_gap gap.gap_newline, List.append_assoc]
    rfl
  have bracket : Spells .closeBracket [')'] after := spells_printed after (by decide)
  have whole := again.append (.next (closing.trans (bracket _)) (by simp) .none)
  rw [List.append_assoc]
  exact ⟨_, _, whole, .intro same (.intro rfl)⟩

end Scanner

end FieldFormula
