import FieldFormula.Proofs.Partition

/-! A scanner that keeps its source as a whole and counts. Its head goes forward by one character at a
time and would leave the source if it were told to, so it is the scanner that keeps it inside. What it
answers is what a scanner answers that only has the characters that are left. -/

namespace FieldFormula

/-- A point belongs to a numeral if and only if a digit stands behind it. -/
theorem Token.splitFraction_cons (c : Char) (text : List Char) :
    splitFraction (c :: text) =
      if c = '.' ∧ text.head?.any Char.isDigit then
        (c :: text.takeWhile Char.isDigit, text.dropWhile Char.isDigit)
      else ([], c :: text) := by
  by_cases point : c = '.'
  · subst point
    cases text with
    | nil => rfl
    | cons d text => by_cases digit : d.isDigit = true <;> simp [splitFraction, digit]
  · rw [if_neg (fun both => point both.1), splitFraction]
    rintro rest ⟨⟩
    exact point rfl

/-- A source, the number of characters that have been passed, and the place behind them. -/
structure Tape where
  source : List Char
  index : Nat
  position : Position

namespace Tape

variable {tape : Tape} {front text : List Char} {c : Char}

def ofSource (source : String) : Tape := ⟨source.toList, 0, .start⟩

def current? (tape : Tape) : Option Char := tape.source[tape.index]?

def peek? (tape : Tape) : Option Char := tape.source[tape.index + 1]?

/-- One character on, whether there is one or not. -/
def advance (tape : Tape) : Tape where
  source := tape.source
  index := tape.index + 1
  position :=
    if tape.current? = some '\n' then ⟨tape.position.line + 1, 0⟩
    else ⟨tape.position.line, tape.position.column + 1⟩

/-- The number of characters left, as far as the head is inside the source. -/
def room (tape : Tape) : Nat := tape.source.length - tape.index

theorem room_advance (inside : tape.current? = some c) : tape.advance.room < tape.room := by
  have bound : tape.index < tape.source.length := (List.getElem?_eq_some_iff.1 inside).1
  simp only [room, advance]
  omega

theorem room_advance_le (tape : Tape) : tape.advance.room ≤ tape.room := by
  simp only [room, advance]
  omega

def passWhile (keep : Char → Bool) (tape : Tape) : Tape :=
  match _ : tape.current? with
  | none => tape
  | some c => if keep c then tape.advance.passWhile keep else tape
termination_by tape.room
decreasing_by exact room_advance ‹_›

/-- Skips what stands before a token. A block comment that never closes is reported by the place it
was opened at. -/
def skip (skipping : Scanner.Skipping) (tape : Tape) : Option Position × Tape :=
  match _ : tape.current? with
  | none =>
    match skipping with
    | .blockComment start => (some start, tape)
    | _ => (none, tape)
  | some c =>
    match skipping with
    | .blanks =>
      if Text.isWhitespace c then tape.advance.skip .blanks
      else if c = '/' ∧ tape.peek? = some '/' then tape.advance.advance.skip .lineComment
      else if c = '/' ∧ tape.peek? = some '*' then
        tape.advance.advance.skip (.blockComment tape.position)
      else (none, tape)
    | .lineComment => tape.advance.skip (if c = '\n' then .blanks else .lineComment)
    | .blockComment start =>
      if c = '*' ∧ tape.peek? = some '/' then tape.advance.advance.skip .blanks
      else tape.advance.skip (.blockComment start)
termination_by tape.room
decreasing_by
  all_goals
    have shorter := room_advance ‹tape.current? = _›
    have notLonger := room_advance_le tape.advance
    omega

/-- Passes the body of a string literal and its closing quote. A backslash takes the next character
with it, if there is one. -/
def passString (quote : Char) (tape : Tape) : Option (List Char) × Tape :=
  match _ : tape.current? with
  | none => (none, tape)
  | some c =>
    if c = quote then (some [], tape.advance)
    else if c = '\\' then
      match tape.advance.current? with
      | none => (none, tape.advance)
      | some d =>
        let (body, behind) := tape.advance.advance.passString quote
        (body.map fun text => c :: d :: text, behind)
    else
      let (body, behind) := tape.advance.passString quote
      (body.map fun text => c :: text, behind)
termination_by tape.room
decreasing_by
  all_goals
    have shorter := room_advance ‹tape.current? = _›
    have notLonger := room_advance_le tape.advance
    omega

def readString (quote : QuoteStyle) (tape : Tape) : Except Fault Token × Tape :=
  match tape.advance.passString quote.char with
  | (some body, behind) => (.ok (.string ⟨String.ofList body, quote⟩), behind)
  | (none, behind) => (.error .unterminatedString, behind)

/-- The characters between an earlier place and the head. -/
def since (tape : Tape) (start : Nat) : List Char := (tape.source.take tape.index).drop start

/-- A point is passed only if a digit stands behind it. -/
def readNumber (tape : Tape) : Except Fault Token × Tape :=
  let whole := tape.passWhile Char.isDigit
  if whole.current? = some '.' ∧ whole.peek?.any Char.isDigit then
    let behind := whole.advance.passWhile Char.isDigit
    (.ok (.decimal (String.ofList (behind.since tape.index))), behind)
  else (.ok (.integer (String.ofList (whole.since tape.index))), whole)

def readName (tape : Tape) : Except Fault Token × Tape :=
  let behind := tape.passWhile Token.continuesName
  (.ok (Token.ofName (behind.since tape.index)), behind)

def readToken (tape : Tape) : Except Fault Token × Tape :=
  match tape.current? with
  | none => (.ok .endOfInput, tape)
  | some c =>
    match Token.symbols.find? fun symbol => symbol.1.isPrefixOf (tape.source.drop tape.index) with
    | some (spelling, token) => (.ok token, Nat.repeat advance spelling.length tape)
    | none =>
      if c = '\'' then tape.readString .single
      else if c = '"' then tape.readString .double
      else if c.isDigit then tape.readNumber
      else if Token.startsName c then tape.readName
      else (.error (.unrecognised c), tape)

def next (tape : Tape) : Except SyntaxError Lexeme × Tape :=
  match tape.skip .blanks with
  | (some start, behind) => (.error ⟨.unterminatedComment, start⟩, behind)
  | (none, first) =>
    match first.readToken with
    | (.ok token, behind) =>
      (.ok ⟨token, String.ofList (behind.since first.index), first.position⟩, behind)
    | (.error fault, behind) => (.error ⟨fault, first.position⟩, behind)

/-- The tape with the head between two parts of its source. -/
def between (front text : List Char) : Tape := ⟨front ++ text, front.length, .behind front⟩

@[simp] theorem current?_between : (between front text).current? = text.head? := by
  cases text <;> simp [current?, between]

@[simp] theorem peek?_between_cons : (between front (c :: text)).peek? = text.head? := by
  cases text <;> simp [peek?, between]

@[simp] theorem drop_index_between :
    (between front text).source.drop (between front text).index = text :=
  List.drop_left

@[simp] theorem advance_between :
    (between front (c :: text)).advance = between (front ++ [c]) text := by
  have place : (Position.behind front).step c = .behind (front ++ [c]) :=
    Position.after_behind front [c]
  simp only [advance, current?_between, List.head?_cons, Option.some.injEq]
  simp [between, ← place, Position.step]

theorem since_between (front gap text : List Char) :
    (between (front ++ gap) text).since front.length = gap := by
  rw [since, between, List.take_left, List.drop_left]

theorem repeat_advance_between (gap text : List Char) :
    Nat.repeat advance gap.length (between front (gap ++ text)) = between (front ++ gap) text := by
  induction gap using List.reverseRecOn generalizing text with
  | nil => simp [Nat.repeat]
  | append_singleton gap c ih =>
    rw [List.length_append, List.length_singleton, Nat.repeat, List.append_assoc, ih]
    simp

theorem passWhile_between (keep : Char → Bool) (front text : List Char) :
    (between front text).passWhile keep =
      between (front ++ text.takeWhile keep) (text.dropWhile keep) := by
  induction text generalizing front with
  | nil =>
    rw [passWhile]
    split
    · simp
    · next inside => simp at inside
  | cons c text ih =>
    rw [passWhile]
    split
    · next outside => simp at outside
    · next inside =>
      simp only [current?_between, List.head?_cons, Option.some.injEq] at inside
      subst inside
      by_cases kept : keep c = true
      · simp [kept, ih]
      · simp [kept]

theorem skip_between_nil (skipping : Scanner.Skipping) (front : List Char) :
    (between front []).skip skipping =
      match skipping with
      | .blockComment start => (some start, between front [])
      | _ => (none, between front []) := by
  rw [skip.eq_def]
  split
  · rfl
  · next inside => simp at inside

theorem skip_between_cons (skipping : Scanner.Skipping) (front : List Char) (c : Char)
    (text : List Char) :
    (between front (c :: text)).skip skipping =
      match skipping with
      | .blanks =>
        if Text.isWhitespace c then (between (front ++ [c]) text).skip .blanks
        else if c = '/' ∧ text.head? = some '/' then
          (between (front ++ [c]) text).advance.skip .lineComment
        else if c = '/' ∧ text.head? = some '*' then
          (between (front ++ [c]) text).advance.skip (.blockComment (.behind front))
        else (none, between front (c :: text))
      | .lineComment =>
        (between (front ++ [c]) text).skip (if c = '\n' then .blanks else .lineComment)
      | .blockComment start =>
        if c = '*' ∧ text.head? = some '/' then (between (front ++ [c]) text).advance.skip .blanks
        else (between (front ++ [c]) text).skip (.blockComment start) := by
  rw [skip.eq_def]
  split
  · next outside => simp at outside
  · next inside =>
    simp only [current?_between, List.head?_cons, Option.some.injEq] at inside
    subst inside
    simp only [advance_between, peek?_between_cons]
    rfl

/-- How skipping ends on a tape, and how it ends on what is left. -/
inductive Ends (front text : List Char) : Option Position × Tape → Scanner.Skipped → Prop
  | reached {gap rest : List Char} (split : text = gap ++ rest) :
      Ends front text (none, between (front ++ gap) rest)
        (.reached ⟨rest, .behind (front ++ gap)⟩)
  | unterminated {start : Position} :
      Ends front text (some start, between (front ++ text) [])
        (.unterminated start (.behind (front ++ text)))

theorem Ends.behind {gap : List Char} {result : Option Position × Tape} {skipped : Scanner.Skipped}
    (ends : Ends (front ++ gap) text result skipped) : Ends front (gap ++ text) result skipped := by
  cases ends with
  | @reached more rest split =>
    rw [List.append_assoc front gap more]
    exact .reached (by rw [split, List.append_assoc])
  | unterminated =>
    rw [List.append_assoc]
    exact .unterminated

theorem Ends.here (front text : List Char) :
    Ends front text (none, between front text) (.reached ⟨text, .behind front⟩) := by
  have ends := @Ends.reached front text [] text rfl
  rwa [List.append_nil] at ends

/-- The cases are those of skipping what is left; one character or two are passed in each. -/
theorem ends_skip (skipping : Scanner.Skipping) (front text : List Char) :
    Ends front text ((between front text).skip skipping)
      (Scanner.skipFrom skipping text (.behind front)) := by
  have one (front : List Char) (c : Char) :
      (Position.behind front).step c = .behind (front ++ [c]) := Position.after_behind front [c]
  generalize place : Position.behind front = position
  fun_induction Scanner.skipFrom skipping text position generalizing front with
  | case1 =>
    rw [skip_between_nil, ← place]
    exact .here front []
  | case2 c position white =>
    rw [skip_between_cons, ← place, one]
    simp only [white, if_true, skip_between_nil]
    exact (Ends.here (front ++ [c]) []).behind
  | case3 c position solid =>
    rw [skip_between_cons, ← place]
    simp only [solid, if_false, List.head?_nil, reduceCtorEq, and_false]
    exact .here front [c]
  | case4 c d rest position white ih =>
    rw [skip_between_cons]
    simp only [white, if_true]
    exact (ih (front ++ [c]) (by rw [← one, place])).behind
  | case5 c d rest position solid opened ih =>
    obtain ⟨rfl, rfl⟩ := opened
    rw [skip_between_cons]
    simp only [if_neg solid, List.head?_cons, and_self, if_true, advance_between]
    exact (ih _ (by rw [← one, ← one, place])).behind.behind
  | case6 c d rest position solid _ opened ih =>
    obtain ⟨rfl, rfl⟩ := opened
    rw [skip_between_cons, place]
    simp only [if_neg solid, List.head?_cons, Option.some.injEq, and_self, if_true, advance_between]
    exact (ih _ (by rw [← one, ← one, place])).behind.behind
  | case7 c d rest position solid other another =>
    rw [skip_between_cons, ← place]
    simp only [if_neg solid, List.head?_cons, Option.some.injEq, if_neg other, if_neg another]
    exact .here front (c :: d :: rest)
  | case8 =>
    rw [skip_between_nil, ← place]
    exact .here front []
  | case9 c rest position ih =>
    rw [skip_between_cons]
    exact (ih _ (by rw [← one, place])).behind
  | case10 start =>
    have ends := @Ends.unterminated front [] start
    rw [List.append_nil] at ends
    rw [skip_between_nil, ← place]
    exact ends
  | case11 start c position =>
    rw [skip_between_cons, ← place, one]
    simp only [List.head?_nil, reduceCtorEq, and_false, if_false, skip_between_nil]
    exact .unterminated
  | case12 start c d rest position closed ih =>
    obtain ⟨rfl, rfl⟩ := closed
    rw [skip_between_cons]
    simp only [List.head?_cons, and_self, if_true, advance_between]
    exact (ih _ (by rw [← one, ← one, place])).behind.behind
  | case13 start c d rest position other ih =>
    rw [skip_between_cons]
    simp only [List.head?_cons, Option.some.injEq, if_neg other]
    exact (ih _ (by rw [← one, place])).behind

/-! Reading a token. -/

theorem passString_between_nil (quote : Char) (front : List Char) :
    (between front []).passString quote = (none, between front []) := by
  rw [passString]
  split
  · rfl
  · next inside => simp at inside

theorem passString_between_cons (quote : Char) (front : List Char) (c : Char) (text : List Char) :
    (between front (c :: text)).passString quote =
      if c = quote then (some [], between (front ++ [c]) text)
      else if c = '\\' then
        match text with
        | [] => (none, between (front ++ [c]) [])
        | d :: text =>
          let (body, behind) := (between (front ++ [c] ++ [d]) text).passString quote
          (body.map fun text => c :: d :: text, behind)
      else
        let (body, behind) := (between (front ++ [c]) text).passString quote
        (body.map fun text => c :: text, behind) := by
  rw [passString]
  split
  · next outside => simp at outside
  · next inside =>
    simp only [current?_between, List.head?_cons, Option.some.injEq] at inside
    subst inside
    cases text <;> simp

/-- What a string literal takes of the characters left. -/
theorem passString_between (quote : Char) (front text : List Char) :
    (between front text).passString quote =
      match Token.splitString? quote text with
      | some (body, rest) => (some body, between (front ++ (body ++ [quote])) rest)
      | none => (none, between (front ++ text) []) := by
  fun_induction Token.splitString? quote text generalizing front with
  | case1 => simp [passString_between_nil]
  | case2 => simp [passString_between_cons]
  | case3 c other =>
    rw [passString_between_cons]
    simp [other, passString_between_nil]
  | case4 => simp [passString_between_cons]
  | case5 d rest other ih =>
    rw [passString_between_cons]
    simp only [if_neg other, if_true, ih]
    cases Token.splitString? quote rest <;> simp
  | case6 c d rest other plain ih =>
    rw [passString_between_cons]
    simp only [if_neg other, if_neg plain, ih]
    cases Token.splitString? quote (d :: rest) <;> simp

/-- What a reader does at the front of the characters left, on a tape. -/
def reads (front text : List Char) : Token.Reading → Except Fault Token × Tape
  | .read token spelling rest => (.ok token, between (front ++ spelling) rest)
  | .unterminatedString => (.error .unterminatedString, between (front ++ text) [])
  | .unrecognised found => (.error (.unrecognised found), between front text)

theorem readString_between (quote : QuoteStyle) (front text : List Char) :
    (between front (quote.char :: text)).readString quote =
      reads front (quote.char :: text) (Token.readString quote text) := by
  rw [readString, advance_between, passString_between, Token.readString]
  cases Token.splitString? quote.char text <;> simp [reads]

theorem readNumber_between (front text : List Char) :
    (between front text).readNumber = reads front text (Token.readNumber text) := by
  have start : (between front text).index = front.length := rfl
  rw [readNumber, passWhile_between, start, Token.readNumber]
  generalize text.takeWhile Char.isDigit = whole
  cases text.dropWhile Char.isDigit with
  | nil => simp [reads, Token.splitFraction, since_between]
  | cons c tail =>
    by_cases point : c = '.' ∧ tail.head?.any Char.isDigit
    · simp [reads, Token.splitFraction_cons, point, passWhile_between, since_between]
    · simp [reads, Token.splitFraction_cons, point, since_between]

theorem readName_between (front text : List Char) :
    (between front text).readName = reads front text (Token.readName text) := by
  rw [readName, passWhile_between]
  simp only [Token.readName, reads]
  rw [show (between front text).index = front.length from rfl, since_between]

theorem readToken_between (front text : List Char) :
    (between front text).readToken = reads front text (Token.readFront text) := by
  cases text with
  | nil => simp [readToken, Token.readFront, reads]
  | cons c text =>
    rw [readToken]
    simp only [current?_between, List.head?_cons, drop_index_between, Token.readFront]
    cases found : Token.symbols.find? fun symbol => symbol.1.isPrefixOf (c :: text) with
    | some symbol =>
      have isFront := List.find?_some found
      obtain ⟨rest, same⟩ := List.isPrefixOf_iff_prefix.1 isFront
      simp only [reads, ← same, repeat_advance_between, List.drop_left]
    | none =>
      by_cases single : c = '\''
      · subst single
        exact readString_between .single front text
      by_cases double : c = '"'
      · subst double
        exact readString_between .double front text
      simp only [if_neg single, if_neg double]
      split
      · exact readNumber_between front (c :: text)
      split
      · exact readName_between front (c :: text)
      · rfl

/-- A request is answered alike on a tape and from the characters left, and passes the same part of
them. -/
theorem next_between (front text : List Char) :
    ∃ more rest, text = more ++ rest ∧
      (between front text).next =
        ((Scanner.next ⟨text, .behind front⟩).1, between (front ++ more) rest) ∧
      (Scanner.next ⟨text, .behind front⟩).2 = ⟨rest, .behind (front ++ more)⟩ := by
  have ends := ends_skip .blanks front text
  rw [next, Scanner.next]
  generalize (between front text).skip .blanks = result at ends ⊢
  generalize Scanner.skipFrom .blanks text (.behind front) = skipped at ends ⊢
  cases ends with
  | unterminated => exact ⟨text, [], (List.append_nil text).symm, rfl, rfl⟩
  | @reached gap rest split =>
    subst split
    have start : (between (front ++ gap) rest).index = (front ++ gap).length := rfl
    simp only [readToken_between, start]
    cases read : Token.readFront rest with
    | read token spelling left =>
      refine ⟨gap ++ spelling, left, ?_, ?_, ?_⟩
      · rw [Token.readFront_eq read, List.append_assoc]
      · simp only [reads, since_between]
        rw [← List.append_assoc]
        rfl
      · simp only [Position.after_behind, List.append_assoc]
    | unterminatedString =>
      refine ⟨gap ++ rest, [], (List.append_nil _).symm, ?_, ?_⟩
      · simp only [reads, List.append_assoc]
        rfl
      · simp only [Scanner.exhaust, Position.after_behind, List.append_assoc]
    | unrecognised found => exact ⟨gap, rest, rfl, rfl, rfl⟩

end Tape

end FieldFormula
