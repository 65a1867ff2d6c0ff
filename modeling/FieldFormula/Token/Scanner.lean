import FieldFormula.Fault
import FieldFormula.Text.Whitespace
import FieldFormula.Token.Spelling

/-! Scanning a source into lexemes. A scanner holds the characters that are left and their place. It
can be asked again after a fault: a character that starts no token stays where it is, while a string
or comment that never closes uses up the source. -/

namespace FieldFormula

structure Scanner where
  rest : List Char
  position : Position
deriving DecidableEq

namespace Scanner

def ofSource (source : String) : Scanner :=
  ⟨source.toList, .start⟩

inductive Skipping where
  | blanks
  | lineComment
  /-- A block comment that was opened at `start`. -/
  | blockComment (start : Position)

/-- The end of a run of separators: the next token, or a block comment that never closes. -/
inductive Skipped where
  | reached (scanner : Scanner)
  | unterminated (start finish : Position)

/-- Skips whitespace, comments that run to the end of their line, and block comments. -/
def skipFrom : Skipping → List Char → Position → Skipped
  | .blanks, [], position => .reached ⟨[], position⟩
  | .blanks, [c], position =>
    if Text.isWhitespace c then .reached ⟨[], position.step c⟩ else .reached ⟨[c], position⟩
  | .blanks, c :: d :: rest, position =>
    if Text.isWhitespace c then skipFrom .blanks (d :: rest) (position.step c)
    else if c = '/' ∧ d = '/' then skipFrom .lineComment rest ((position.step c).step d)
    else if c = '/' ∧ d = '*' then skipFrom (.blockComment position) rest ((position.step c).step d)
    else .reached ⟨c :: d :: rest, position⟩
  | .lineComment, [], position => .reached ⟨[], position⟩
  | .lineComment, c :: rest, position =>
    skipFrom (if c = '\n' then .blanks else .lineComment) rest (position.step c)
  | .blockComment start, [], position => .unterminated start position
  | .blockComment start, [c], position => .unterminated start (position.step c)
  | .blockComment start, c :: d :: rest, position =>
    if c = '*' ∧ d = '/' then skipFrom .blanks rest ((position.step c).step d)
    else skipFrom (.blockComment start) (d :: rest) (position.step c)

/-- Skipping stops at the place behind the characters that were skipped. -/
theorem skipFrom_reached {skipping : Skipping} {text : List Char} {position : Position}
    {scanner : Scanner} (skipped : skipFrom skipping text position = .reached scanner) :
    ∃ gap, text = gap ++ scanner.rest ∧ scanner.position = position.after gap := by
  fun_induction skipFrom skipping text position with
  | case1 => cases skipped; exact ⟨[], rfl, rfl⟩
  | case2 => cases skipped; exact ⟨[_], rfl, rfl⟩
  | case3 => cases skipped; exact ⟨[], rfl, rfl⟩
  | case4 c d rest position _ ih =>
    obtain ⟨gap, same, place⟩ := ih skipped
    exact ⟨c :: gap, by rw [same]; rfl, place⟩
  | case5 c d rest position _ _ ih =>
    obtain ⟨gap, same, place⟩ := ih skipped
    exact ⟨c :: d :: gap, by rw [same]; rfl, place⟩
  | case6 c d rest position _ _ _ ih =>
    obtain ⟨gap, same, place⟩ := ih skipped
    exact ⟨c :: d :: gap, by rw [same]; rfl, place⟩
  | case7 => cases skipped; exact ⟨[], rfl, rfl⟩
  | case8 => cases skipped; exact ⟨[], rfl, rfl⟩
  | case9 c rest position ih =>
    obtain ⟨gap, same, place⟩ := ih skipped
    exact ⟨c :: gap, by rw [same]; rfl, place⟩
  | case10 => cases skipped
  | case11 => cases skipped
  | case12 start c d rest position _ ih =>
    obtain ⟨gap, same, place⟩ := ih skipped
    exact ⟨c :: d :: gap, by rw [same]; rfl, place⟩
  | case13 start c d rest position _ ih =>
    obtain ⟨gap, same, place⟩ := ih skipped
    exact ⟨c :: gap, by rw [same]; rfl, place⟩

def exhaust (scanner : Scanner) : Scanner :=
  ⟨[], scanner.position.after scanner.rest⟩

/-- The next lexeme, or the fault that is met instead, and the scanner to go on with. -/
def next (scanner : Scanner) : Except SyntaxError Lexeme × Scanner :=
  match skipFrom .blanks scanner.rest scanner.position with
  | .unterminated start finish => (.error ⟨.unterminatedComment, start⟩, ⟨[], finish⟩)
  | .reached front =>
    match Token.readFront front.rest with
    | .read token spelling rest =>
      (.ok ⟨token, String.ofList spelling, front.position⟩, ⟨rest, front.position.after spelling⟩)
    | .unterminatedString => (.error ⟨.unterminatedString, front.position⟩, front.exhaust)
    | .unrecognised found => (.error ⟨.unrecognised found, front.position⟩, front)

/-- The answers to `count` requests in a row. -/
def run : Nat → Scanner → List (Except SyntaxError Lexeme)
  | 0, _ => []
  | count + 1, scanner => scanner.next.1 :: run count scanner.next.2

end Scanner

end FieldFormula
