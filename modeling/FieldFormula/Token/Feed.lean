import FieldFormula.Token.Scanner

/-! The whole sequence of answers that a scanner gives. From some request on all answers are the
same: the end of the input, or a character that starts no token. -/

namespace FieldFormula

/-- A sequence of answers: those of `steps` one by one, and `last` from then on. -/
structure Feed where
  steps : List (Except SyntaxError Lexeme)
  last : Except SyntaxError Lexeme

namespace Feed

def next (feed : Feed) : Except SyntaxError Lexeme × Feed :=
  match feed.steps with
  | [] => (feed.last, feed)
  | step :: steps => (step, ⟨steps, feed.last⟩)

/-- The answers of a scanner with at most `room` characters left. Each token takes at least one of
them, and once none is left all answers are alike. -/
def collect : Nat → Scanner → Feed
  | 0, scanner => ⟨[], scanner.next.1⟩
  | room + 1, scanner =>
    match scanner.next with
    | (.error error, rest) => ⟨[.error error], rest.next.1⟩
    | (.ok lexeme, rest) =>
      if lexeme.token = .endOfInput then ⟨[], .ok lexeme⟩
      else
        let feed := collect room rest
        ⟨.ok lexeme :: feed.steps, feed.last⟩

def ofSource (source : String) : Feed :=
  let scanner := Scanner.ofSource source
  collect scanner.rest.length scanner

/-- Every lexeme, with the end of the input as the last one, or the first fault. -/
def lexemes (feed : Feed) : Except SyntaxError (List Lexeme) := do
  let front ← feed.steps.mapM id
  let final ← feed.last
  return front ++ [final]

end Feed

end FieldFormula
