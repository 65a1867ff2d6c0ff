import Mathlib.Logic.Function.Iterate
import FieldFormula.Proofs.Tape

/-! Any number of requests to one scanner, faults among them. A scanner only ever moves forward in
its source and knows where it is, and the head of a tape that is asked as often stays inside the
source with it. A fault that leaves a scanner where it stands is met again by every later request,
and any other fault uses up the source. -/

namespace FieldFormula

/-- The tape after a number of requests, whatever they were answered. -/
def Tape.requested (count : Nat) (tape : Tape) : Tape :=
  (fun tape => tape.next.2)^[count] tape

theorem Tape.requested_succ (count : Nat) (tape : Tape) :
    tape.requested (count + 1) = (tape.requested count).next.2 :=
  Function.iterate_succ_apply' _ count tape

namespace Scanner

variable {scanner following : Scanner} {answer : Except SyntaxError Lexeme} {count : Nat}

/-- What a request answers, and where it leaves the scanner. -/
inductive Moves (scanner : Scanner) : Except SyntaxError Lexeme → Scanner → Prop
  | lexeme {gap spelling rest : List Char} {token : Token}
      (split : scanner.rest = gap ++ (spelling ++ rest)) (taken : spelling ≠ [])
      (inside : token ≠ .endOfInput) :
      Moves scanner (.ok ⟨token, String.ofList spelling, scanner.position.after gap⟩)
        ⟨rest, scanner.position.after (gap ++ spelling)⟩
  | ended :
      Moves scanner (.ok ⟨.endOfInput, "", scanner.position.after scanner.rest⟩) scanner.exhaust
  | unterminated {place : Position} {fault : Fault}
      (unclosed : fault = .unterminatedString ∨ fault = .unterminatedComment) :
      Moves scanner (.error ⟨fault, place⟩) scanner.exhaust
  | unrecognised {gap rest : List Char} {c : Char} (split : scanner.rest = gap ++ rest)
      (solid : Solid rest) (unread : Token.readFront rest = .unrecognised c) :
      Moves scanner (.error ⟨.unrecognised c, scanner.position.after gap⟩)
        ⟨rest, scanner.position.after gap⟩

theorem moves_next (scanner : Scanner) : Moves scanner scanner.next.1 scanner.next.2 := by
  obtain ⟨text, position⟩ := scanner
  cases parted text with
  | @solid gap rest front solid =>
    rw [next_gap front]
    simp only [next, skipFrom_solid solid]
    cases read : Token.readFront rest with
    | read token spelling after =>
      by_cases ended : token = .endOfInput
      · subst ended
        obtain rfl := Token.eq_nil_of_readFront read
        cases read
        rw [List.append_nil]
        exact .ended
      · simp only [← Position.after_append]
        exact .lexeme (by rw [Token.readFront_eq read]) (Token.readFront_ne_nil read ended) ended
    | unterminatedString =>
      simp only [exhaust, ← Position.after_append]
      exact .unterminated (.inl rfl)
    | unrecognised found => exact .unrecognised rfl solid read
  | @lineComment gap body front oneLine =>
    rw [next_gap front]
    simp only [next, skipFrom_lastLine oneLine, Token.readFront, Position.after_nil,
      ← Position.after_append]
    exact .ended
  | @blockComment gap body front unclosed =>
    rw [next_gap front]
    simp only [next, skipFrom_lastBlock unclosed, ← Position.after_append]
    exact .unterminated (.inr rfl)

/-- The scanner after a number of requests, whatever they were answered. -/
def requested (count : Nat) (scanner : Scanner) : Scanner :=
  (fun scanner => scanner.next.2)^[count] scanner

theorem requested_succ (count : Nat) (scanner : Scanner) :
    scanner.requested (count + 1) = (scanner.requested count).next.2 :=
  Function.iterate_succ_apply' _ count scanner

theorem requested_add (count more : Nat) (scanner : Scanner) :
    scanner.requested (count + more) = (scanner.requested count).requested more := by
  rw [Nat.add_comm]
  exact Function.iterate_add_apply _ more count scanner

/-- A scanner that a request does not change stays as it is. -/
theorem requested_of_fixed (fixed : scanner.next.2 = scanner) (count : Nat) :
    scanner.requested count = scanner :=
  Function.iterate_fixed fixed count

/-- The answers to requests in a row are those of the scanners between them. -/
theorem run_eq_map (count : Nat) (scanner : Scanner) :
    run count scanner = (List.range count).map fun index => (scanner.requested index).next.1 := by
  induction count generalizing scanner with
  | zero => rfl
  | succ count ih =>
    rw [run, ih, List.range_succ_eq_map, List.map_cons, List.map_map]
    rfl

/-- The end of the input changes nothing. -/
theorem next_exhaust (scanner : Scanner) :
    scanner.exhaust.next =
      (.ok ⟨.endOfInput, "", scanner.position.after scanner.rest⟩, scanner.exhaust) := rfl

/-- Nor does a character that starts no token. -/
theorem next_unrecognised {rest : List Char} {position : Position} {c : Char} (solid : Solid rest)
    (unread : Token.readFront rest = .unrecognised c) :
    Scanner.next ⟨rest, position⟩ = (.error ⟨.unrecognised c, position⟩, ⟨rest, position⟩) := by
  simp only [next, skipFrom_solid solid, unread]

/-- A scanner has passed the front of a source and knows the place behind it. -/
structure Passed (source front : List Char) (scanner : Scanner) : Prop where
  whole : source = front ++ scanner.rest
  place : scanner.position = .behind front

namespace Passed

variable {source front : List Char}

theorem start (source : String) : Passed source.toList [] (.ofSource source) := ⟨rfl, rfl⟩

theorem after_eq (passed : Passed source front scanner) (text : List Char) :
    scanner.position.after text = .behind (front ++ text) := by
  rw [passed.place, Position.after_behind]

theorem exhaust (passed : Passed source front scanner) : Passed source source scanner.exhaust where
  whole := (List.append_nil source).symm
  place := by
    rw [Scanner.exhaust, passed.after_eq, ← passed.whole]

/-- A scanner that gives up part of what is left has passed that part too. -/
theorem extend {text rest : List Char} (passed : Passed source front scanner)
    (split : scanner.rest = text ++ rest) :
    Passed source (front ++ text) ⟨rest, scanner.position.after text⟩ where
  whole := by rw [passed.whole, split, List.append_assoc]
  place := passed.after_eq text

/-- One request passes some more of the source, and the head of a tape passes as much. -/
theorem step (passed : Passed source front scanner) :
    ∃ more, Passed source (front ++ more) scanner.next.2 ∧
      (Tape.between front scanner.rest).next =
        (scanner.next.1, .between (front ++ more) scanner.next.2.rest) := by
  obtain ⟨text, position⟩ := scanner
  obtain rfl : position = .behind front := passed.place
  obtain ⟨more, rest, split, answered, reached⟩ := Tape.next_between front text
  rw [reached]
  refine ⟨more, ⟨?_, rfl⟩, answered⟩
  rw [passed.whole, List.append_assoc]
  exact congrArg (front ++ ·) split

/-- So does any number of requests. -/
theorem requests (passed : Passed source front scanner) (count : Nat) :
    ∃ more, Passed source (front ++ more) (scanner.requested count) ∧
      (Tape.between front scanner.rest).requested count =
        .between (front ++ more) (scanner.requested count).rest := by
  induction count with
  | zero =>
    refine ⟨[], ?_⟩
    rw [List.append_nil]
    exact ⟨passed, rfl⟩
  | succ count ih =>
    obtain ⟨more, reached, same⟩ := ih
    obtain ⟨last, passed, answered⟩ := reached.step
    rw [List.append_assoc] at passed answered
    refine ⟨more ++ last, ?_, ?_⟩
    · rwa [requested_succ]
    · rw [Tape.requested_succ, requested_succ, same, answered]

/-- What a scanner has left tells what it has passed. -/
theorem front_eq {other : List Char} (passed : Passed source front scanner)
    (again : Passed source other scanner) : front = other :=
  List.append_cancel_right (passed.whole.symm.trans again.whole)

end Passed

/-- The answer to a request that comes after `count` others. -/
def answerTo (source : String) (count : Nat) : Except SyntaxError Lexeme :=
  ((ofSource source).requested count).next.1

/-- The place of the head after `count` requests, counted by its own steps. -/
def cursorAfter (source : String) (count : Nat) : Nat :=
  ((Tape.ofSource source).requested count).index

section Source

variable {source : String} {front : List Char} {lexeme : Lexeme} {error : SyntaxError} {later : Nat}

theorem moves_requested (source : String) (count : Nat) :
    Moves ((ofSource source).requested count) (answerTo source count)
      ((ofSource source).requested (count + 1)) := by
  rw [requested_succ]
  exact moves_next _

theorem exists_passed (source : String) (count : Nat) :
    ∃ front, Passed source.toList front ((ofSource source).requested count) ∧
      (Tape.ofSource source).requested count =
        .between front ((ofSource source).requested count).rest :=
  (Passed.start source).requests count

theorem Passed.cursorAfter_eq
    (passed : Passed source.toList front ((ofSource source).requested count)) :
    cursorAfter source count = front.length := by
  obtain ⟨other, again, same⟩ := exists_passed source count
  rw [cursorAfter, same, passed.front_eq again]
  rfl

/-- The head never leaves the source, and where it stands says all there is to know of a tape and of
a scanner. -/
theorem cursorAfter_spec (source : String) (count : Nat) :
    cursorAfter source count ≤ source.length ∧
      (Tape.ofSource source).requested count = ⟨source.toList, cursorAfter source count,
        .behind (source.toList.take (cursorAfter source count))⟩ ∧
      (ofSource source).requested count = ⟨source.toList.drop (cursorAfter source count),
        .behind (source.toList.take (cursorAfter source count))⟩ := by
  obtain ⟨front, passed, same⟩ := exists_passed source count
  rw [passed.cursorAfter_eq, same]
  generalize (ofSource source).requested count = scanner at passed
  obtain ⟨rest, position⟩ := scanner
  obtain rfl : position = .behind front := passed.place
  have whole : source.toList = front ++ rest := passed.whole
  refine ⟨?_, ?_, ?_⟩
  · rw [← String.length_toList, whole, List.length_append]
    exact Nat.le_add_right _ _
  · rw [whole, List.take_left]
    rfl
  · rw [whole, List.take_left, List.drop_left]

theorem cursorAfter_le_succ (source : String) (count : Nat) :
    cursorAfter source count ≤ cursorAfter source (count + 1) := by
  obtain ⟨front, passed, _⟩ := exists_passed source count
  obtain ⟨more, reached, _⟩ := passed.step
  rw [← requested_succ] at reached
  rw [passed.cursorAfter_eq, reached.cursorAfter_eq, List.length_append]
  exact Nat.le_add_right _ _

theorem next_tape_requested (source : String) (count : Nat) :
    ((Tape.ofSource source).requested count).next.1 = answerTo source count := by
  obtain ⟨front, passed, same⟩ := exists_passed source count
  obtain ⟨more, _, answered⟩ := passed.step
  rw [same, answered, answerTo]

/-- A lexeme stands in the source between the cursor before the request and the cursor behind it,
and takes a character there unless it is the end of the input. -/
theorem exists_slice (answered : answerTo source count = .ok lexeme) :
    ∃ start, cursorAfter source count ≤ start ∧ start ≤ cursorAfter source (count + 1) ∧
      lexeme.spelling.toList = (source.toList.take (cursorAfter source (count + 1))).drop start ∧
      lexeme.position = .behind (source.toList.take start) ∧
      (lexeme.token ≠ .endOfInput → start < cursorAfter source (count + 1)) := by
  obtain ⟨front, passed, _⟩ := exists_passed source count
  have moves := moves_requested source count
  rw [answered] at moves
  generalize following : (ofSource source).requested (count + 1) = next at moves
  rw [passed.cursorAfter_eq]
  cases moves with
  | @lexeme gap spelling rest token split taken =>
    have before := passed.extend split
    have reached := passed.extend (by rw [split, List.append_assoc] : _ = (gap ++ spelling) ++ rest)
    have positive := List.length_pos_iff.2 taken
    have moved : front.length ≤ (front ++ gap).length ∧
        (front ++ gap).length < (front ++ (gap ++ spelling)).length := by
      simp only [List.length_append]
      omega
    rw [← following] at reached
    rw [reached.cursorAfter_eq]
    refine ⟨(front ++ gap).length, moved.1, Nat.le_of_lt moved.2, ?_, ?_, fun _ => moved.2⟩
    · rw [reached.whole, List.take_left, ← List.append_assoc, List.drop_left, String.toList_ofList]
    · rw [before.whole, List.take_left]
      exact passed.after_eq gap
  | ended =>
    have reached := passed.exhaust
    rw [← following] at reached
    rw [reached.cursorAfter_eq]
    refine ⟨source.toList.length, ?_, Nat.le_refl _, ?_, ?_, fun inside => absurd rfl inside⟩
    · rw [passed.whole, List.length_append]
      exact Nat.le_add_right _ _
    · simp
    · rw [List.take_length, passed.after_eq, ← passed.whole]

/-- The end of the input is placed behind the source, and nothing else is answered from then on. -/
theorem Passed.settled_of_ended (passed : Passed source.toList front scanner)
    (ended : following = scanner.exhaust) (count : Nat) :
    (following.requested count).next.1 = .ok ⟨.endOfInput, "", .behind source.toList⟩ := by
  subst ended
  rw [requested_of_fixed rfl, next_exhaust, passed.after_eq, ← passed.whole]

/-- Once a request has used up the source, all later ones meet its end. -/
theorem answerTo_of_exhaust
    (ended : (ofSource source).requested (count + 1) = ((ofSource source).requested count).exhaust)
    (behind : count < later) :
    answerTo source later = .ok ⟨.endOfInput, "", .behind source.toList⟩ := by
  obtain ⟨front, passed, _⟩ := exists_passed source count
  obtain ⟨more, rfl⟩ := Nat.exists_eq_add_of_lt behind
  rw [answerTo, Nat.add_right_comm, requested_add]
  exact passed.settled_of_ended ended more

/-- A character that starts no token is met again by all later requests. -/
theorem answerTo_of_unrecognised
    (stays : ((ofSource source).requested (count + 1)).next =
      (.error error, (ofSource source).requested (count + 1)))
    (behind : count < later) : answerTo source later = .error error := by
  obtain ⟨more, rfl⟩ := Nat.exists_eq_add_of_lt behind
  rw [answerTo, Nat.add_right_comm, requested_add, requested_of_fixed (by rw [stays]), stays]

/-- The end of the input stands behind the source and is answered from then on. -/
theorem answerTo_of_ended (answered : answerTo source count = .ok lexeme)
    (ended : lexeme.token = .endOfInput) (behind : count ≤ later) :
    answerTo source later = .ok ⟨.endOfInput, "", .behind source.toList⟩ := by
  obtain ⟨front, passed, _⟩ := exists_passed source count
  have moves := moves_requested source count
  rw [answered] at moves
  generalize following : (ofSource source).requested (count + 1) = next at moves
  cases moves with
  | lexeme _ _ inside => exact absurd ended inside
  | ended =>
    rcases Nat.eq_or_lt_of_le behind with rfl | behind
    · rw [answered, passed.after_eq, ← passed.whole]
    · exact answerTo_of_exhaust following behind

/-- A fault leaves the scanner where it stands, or at the end of the source. -/
theorem answerTo_of_fault (answered : answerTo source count = .error error) :
    (∃ c, error.fault = .unrecognised c) ∧
      (∀ later, count ≤ later → answerTo source later = .error error) ∨
    (error.fault = .unterminatedString ∨ error.fault = .unterminatedComment) ∧
      ∀ later, count < later →
        answerTo source later = .ok ⟨.endOfInput, "", .behind source.toList⟩ := by
  have moves := moves_requested source count
  rw [answered] at moves
  generalize following : (ofSource source).requested (count + 1) = next at moves
  cases moves with
  | unterminated unclosed =>
    refine .inr ⟨unclosed, ?_⟩
    intro later behind
    exact answerTo_of_exhaust following behind
  | unrecognised split solid unread =>
    refine .inl ⟨⟨_, rfl⟩, ?_⟩
    intro later behind
    rcases Nat.eq_or_lt_of_le behind with rfl | behind
    · exact answered
    · apply answerTo_of_unrecognised _ behind
      rw [following]
      exact next_unrecognised solid unread

end Source

/-- However often a scanner is asked, it moves forward within its source and knows the line and
column it has come to; on a tape, where every step counts, the head is never past the end. A lexeme is a slice of the source that is passed with it, and takes a
character unless it is the end of the input, which is then answered for good. After a fault all
answers are alike: the same fault, if a character starts no token, and the end of the input, if
something never closes. -/
theorem requests_settle (source : String) :
    (∀ count, run count (ofSource source) = (List.range count).map (answerTo source)) ∧
    (∀ count, cursorAfter source count ≤ cursorAfter source (count + 1) ∧
      cursorAfter source count ≤ source.length ∧
      (Tape.ofSource source).requested count = ⟨source.toList, cursorAfter source count,
        .behind (source.toList.take (cursorAfter source count))⟩ ∧
      ((Tape.ofSource source).requested count).next.1 = answerTo source count ∧
      (ofSource source).requested count = ⟨source.toList.drop (cursorAfter source count),
        .behind (source.toList.take (cursorAfter source count))⟩) ∧
    (∀ count lexeme, answerTo source count = .ok lexeme →
      (∃ start, cursorAfter source count ≤ start ∧ start ≤ cursorAfter source (count + 1) ∧
        lexeme.spelling.toList =
          (source.toList.take (cursorAfter source (count + 1))).drop start ∧
        lexeme.position = .behind (source.toList.take start) ∧
        (lexeme.token ≠ .endOfInput → start < cursorAfter source (count + 1))) ∧
      (lexeme.token = .endOfInput → ∀ later, count ≤ later →
        answerTo source later = .ok ⟨.endOfInput, "", .behind source.toList⟩)) ∧
    ∀ count error, answerTo source count = .error error →
      (∃ c, error.fault = .unrecognised c) ∧
        (∀ later, count ≤ later → answerTo source later = .error error) ∨
      (error.fault = .unterminatedString ∨ error.fault = .unterminatedComment) ∧
        ∀ later, count < later →
          answerTo source later = .ok ⟨.endOfInput, "", .behind source.toList⟩ := by
  refine ⟨?_, ?_, ?_, ?_⟩
  · intro count
    exact run_eq_map count _
  · intro count
    obtain ⟨inside, tape, scanner⟩ := cursorAfter_spec source count
    exact ⟨cursorAfter_le_succ source count, inside, tape, next_tape_requested source count, scanner⟩
  · intro count lexeme answered
    constructor
    · exact exists_slice answered
    · intro ended later behind
      exact answerTo_of_ended answered ended behind
  · intro count error answered
    exact answerTo_of_fault answered

/-- A tilde starts no token and is met for ever; a comment that is only opened is reported once. -/
theorem requests_settle_of_malformed :
    run 4 (ofSource "1 ~ 2") =
      [.ok ⟨.integer "1", "1", ⟨1, 0⟩⟩, .error ⟨.unrecognised '~', ⟨1, 2⟩⟩,
        .error ⟨.unrecognised '~', ⟨1, 2⟩⟩, .error ⟨.unrecognised '~', ⟨1, 2⟩⟩] ∧
    (∀ later, 1 ≤ later →
      answerTo "1 ~ 2" later = .error ⟨.unrecognised '~', ⟨1, 2⟩⟩) ∧
    run 3 (ofSource "1\n/*") =
      [.ok ⟨.integer "1", "1", ⟨1, 0⟩⟩, .error ⟨.unterminatedComment, ⟨2, 0⟩⟩,
        .ok ⟨.endOfInput, "", ⟨2, 2⟩⟩] ∧
    ∀ later, 1 < later → answerTo "1\n/*" later = .ok ⟨.endOfInput, "", ⟨2, 2⟩⟩ := by
  have tilde : answerTo "1 ~ 2" 1 = .error ⟨.unrecognised '~', ⟨1, 2⟩⟩ := by decide
  have comment : answerTo "1\n/*" 1 = .error ⟨.unterminatedComment, ⟨2, 0⟩⟩ := by decide
  refine ⟨by decide, ?_, by decide, ?_⟩
  · rcases (requests_settle "1 ~ 2").2.2.2 1 _ tilde with ⟨_, again⟩ | ⟨impossible | impossible, _⟩
    · exact again
    · cases impossible
    · cases impossible
  · rcases (requests_settle "1\n/*").2.2.2 1 _ comment with ⟨⟨_, impossible⟩, _⟩ | ⟨_, ended⟩
    · cases impossible
    · exact ended

end Scanner

end FieldFormula
