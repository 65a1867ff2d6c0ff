import FieldFormula.Proofs.Scanner

/-! What stands between tokens. The scanner skips whitespace and comments, and nothing else: every
text is a gap and then something that is none, where the source may also end inside of a comment. -/

namespace FieldFormula

/-- Whitespace, comments with the end of their line, and closed block comments. -/
inductive Gap : List Char → Prop
  | none : Gap []
  | blank {c : Char} {text : List Char} (white : Text.isWhitespace c = true) (others : Gap text) :
      Gap (c :: text)
  | lineComment {body text : List Char} (oneLine : '\n' ∉ body) (others : Gap text) :
      Gap ('/' :: '/' :: (body ++ '\n' :: text))
  | blockComment {body text : List Char} (closed : ¬ ['*', '/'] <:+: body) (others : Gap text) :
      Gap ('/' :: '*' :: (body ++ '*' :: '/' :: text))

/-- What can stand behind the last token: a gap, and a comment that the end of the source ends. -/
inductive FinalGap : List Char → Prop
  | closed {text : List Char} (gap : Gap text) : FinalGap text
  | lineComment {text body : List Char} (gap : Gap text) (oneLine : '\n' ∉ body) :
      FinalGap (text ++ '/' :: '/' :: body)

/-- A text that starts with neither whitespace nor a comment. -/
structure Solid (text : List Char) : Prop where
  visible : ∀ c ∈ text.head?, Text.isWhitespace c = false
  noLineComment : ¬ ['/', '/'] <+: text
  noBlockComment : ¬ ['/', '*'] <+: text

/-- A text with the gap at its front, and what ends the gap. -/
inductive Parted : List Char → Prop
  | solid {gap rest : List Char} (front : Gap gap) (solid : Solid rest) : Parted (gap ++ rest)
  | lineComment {gap body : List Char} (front : Gap gap) (oneLine : '\n' ∉ body) :
      Parted (gap ++ '/' :: '/' :: body)
  | blockComment {gap body : List Char} (front : Gap gap) (unclosed : ¬ ['*', '/'] <:+: body) :
      Parted (gap ++ '/' :: '*' :: body)

theorem Gap.append {first second : List Char} (front : Gap first) (back : Gap second) :
    Gap (first ++ second) := by
  induction front with
  | none => exact back
  | blank white _ ih => exact .blank white ih
  | lineComment oneLine _ ih =>
    simpa only [List.cons_append, List.append_assoc] using Gap.lineComment oneLine ih
  | blockComment closed _ ih =>
    simpa only [List.cons_append, List.append_assoc] using Gap.blockComment closed ih

/-- A text that is closed somewhere is closed for the first time somewhere. -/
theorem exists_first_close {text : List Char} (closed : ['*', '/'] <:+: text) :
    ∃ body rest, text = body ++ '*' :: '/' :: rest ∧ ¬ ['*', '/'] <:+: body := by
  induction text with
  | nil => simp at closed
  | cons c text ih =>
    rcases List.infix_cons_iff.1 closed with front | inside
    · obtain ⟨rest, same⟩ := front
      exact ⟨[], rest, same.symm, by simp⟩
    · by_cases front : ['*', '/'] <+: c :: text
      · obtain ⟨rest, same⟩ := front
        exact ⟨[], rest, same.symm, by simp⟩
      · obtain ⟨body, rest, rfl, first⟩ := ih inside
        refine ⟨c :: body, rest, rfl, fun again => ?_⟩
        rcases List.infix_cons_iff.1 again with before | later
        · exact front (before.trans (List.prefix_append _ _))
        · exact first later

theorem Parted.append {front text : List Char} (gap : Gap front) (parted : Parted text) :
    Parted (front ++ text) := by
  cases parted with
  | solid inner solid => exact List.append_assoc front _ _ ▸ .solid (gap.append inner) solid
  | lineComment inner oneLine =>
    exact List.append_assoc front _ _ ▸ .lineComment (gap.append inner) oneLine
  | blockComment inner unclosed =>
    exact List.append_assoc front _ _ ▸ .blockComment (gap.append inner) unclosed

/-- Every text can be parted. What is taken off the front leaves a shorter text to be parted. -/
theorem parted (text : List Char) : Parted text := by
  generalize counted : text.length = count
  induction count using Nat.strongRecOn generalizing text with
  | ind count ih =>
    have shorter {front : List Char} (rest : List Char) (gap : Gap front)
        (split : text = front ++ rest) (taken : front ≠ []) : Parted text := by
      have positive := List.length_pos_iff.2 taken
      rw [split, List.length_append] at counted
      rw [split]
      exact (ih _ (by omega) rest rfl).append gap
    by_cases line : ['/', '/'] <+: text
    · obtain ⟨rest, rfl⟩ := line
      by_cases newline : '\n' ∈ rest
      · obtain ⟨body, after, rfl, oneLine⟩ := List.eq_append_cons_of_mem newline
        exact shorter after (.lineComment oneLine .none) (by simp) (by simp)
      · exact .lineComment .none newline
    by_cases block : ['/', '*'] <+: text
    · obtain ⟨rest, rfl⟩ := block
      by_cases closed : ['*', '/'] <:+: rest
      · obtain ⟨body, after, rfl, first⟩ := exists_first_close closed
        exact shorter after (.blockComment first .none) (by simp) (by simp)
      · exact .blockComment .none closed
    cases text with
    | nil => exact .solid .none ⟨nofun, line, block⟩
    | cons c rest =>
      by_cases white : Text.isWhitespace c = true
      · exact shorter rest (.blank white .none) rfl (by simp)
      · refine .solid .none ⟨?_, line, block⟩
        rintro _ ⟨⟩
        exact Bool.eq_false_iff.2 white

namespace Scanner

variable {body text gap rest : List Char} {position start : Position}

theorem skipFrom_line (oneLine : '\n' ∉ body) :
    skipFrom .lineComment (body ++ '\n' :: text) position =
      skipFrom .blanks text (position.after (body ++ ['\n'])) := by
  induction body generalizing position with
  | nil => rw [List.nil_append, skipFrom, if_pos rfl]; rfl
  | cons c body ih =>
    rw [List.mem_cons, not_or] at oneLine
    rw [List.cons_append, skipFrom, if_neg (Ne.symm oneLine.1), ih oneLine.2]
    rfl

theorem skipFrom_openLine (oneLine : '\n' ∉ body) :
    skipFrom .lineComment body position = .reached ⟨[], position.after body⟩ := by
  induction body generalizing position with
  | nil => rfl
  | cons c body ih =>
    rw [List.mem_cons, not_or] at oneLine
    rw [skipFrom, if_neg (Ne.symm oneLine.1), ih oneLine.2]
    rfl

/-- One character of a block comment is passed, unless the comment is closed with it. -/
theorem skipFrom_inBlock {c : Char} (inside : ¬ ['*', '/'] <+: c :: text) :
    skipFrom (.blockComment start) (c :: text) position =
      skipFrom (.blockComment start) text (position.step c) := by
  cases text with
  | nil => rfl
  | cons d rest =>
    rw [skipFrom, if_neg]
    rintro ⟨rfl, rfl⟩
    exact inside ⟨rest, rfl⟩

theorem skipFrom_block (closed : ¬ ['*', '/'] <:+: body) :
    skipFrom (.blockComment start) (body ++ '*' :: '/' :: text) position =
      skipFrom .blanks text (position.after (body ++ ['*', '/'])) := by
  induction body generalizing position with
  | nil => rw [List.nil_append, skipFrom, if_pos ⟨rfl, rfl⟩]; rfl
  | cons c body ih =>
    have others : ¬ ['*', '/'] <:+: body := fun later => closed (List.infix_cons later)
    have inside : ¬ ['*', '/'] <+: c :: (body ++ '*' :: '/' :: text) := by
      intro front
      obtain ⟨rfl, slash⟩ := List.cons_prefix_cons.1 front
      cases body with
      | nil => simp at slash
      | cons d body =>
        obtain ⟨rfl, _⟩ := List.cons_prefix_cons.1 slash
        exact closed ⟨[], body, rfl⟩
    rw [List.cons_append, skipFrom_inBlock inside, ih others]
    rfl

theorem skipFrom_openBlock (unclosed : ¬ ['*', '/'] <:+: body) :
    skipFrom (.blockComment start) body position = .unterminated start (position.after body) := by
  induction body generalizing position with
  | nil => rfl
  | cons c body ih =>
    rw [skipFrom_inBlock fun front => unclosed front.isInfix,
      ih fun later => unclosed (List.infix_cons later)]
    rfl

/-- A comment that runs to the end of its line may end with the source instead. -/
theorem skipFrom_lastLine (oneLine : '\n' ∉ body) :
    skipFrom .blanks ('/' :: '/' :: body) position =
      .reached ⟨[], position.after ('/' :: '/' :: body)⟩ :=
  skipFrom_openLine oneLine

theorem skipFrom_lastBlock (unclosed : ¬ ['*', '/'] <:+: body) :
    skipFrom .blanks ('/' :: '*' :: body) position =
      .unterminated position (position.after ('/' :: '*' :: body)) :=
  skipFrom_openBlock unclosed

theorem skipFrom_gap (front : Gap gap) :
    skipFrom .blanks (gap ++ text) position = skipFrom .blanks text (position.after gap) := by
  induction front generalizing position with
  | none => rfl
  | @blank c others white _ ih =>
    have first := skipFrom_blanks (List.forall_mem_singleton.2 white) (others ++ text) position
    exact first.trans ih
  | @lineComment body others oneLine _ ih =>
    have opened : skipFrom .blanks ('/' :: '/' :: (body ++ '\n' :: others) ++ text) position =
        skipFrom .lineComment (body ++ '\n' :: (others ++ text))
          ((position.step '/').step '/') := by
      rw [List.cons_append, List.cons_append, List.append_assoc]
      rfl
    rw [opened, skipFrom_line oneLine, ih]
    simp [Position.after_append]
  | @blockComment body others closed _ ih =>
    have opened : skipFrom .blanks ('/' :: '*' :: (body ++ '*' :: '/' :: others) ++ text) position =
        skipFrom (.blockComment position) (body ++ '*' :: '/' :: (others ++ text))
          ((position.step '/').step '*') := by
      rw [List.cons_append, List.cons_append, List.append_assoc]
      rfl
    rw [opened, skipFrom_block closed, ih]
    simp [Position.after_append]

theorem skipFrom_solid (solid : Solid text) :
    skipFrom .blanks text position = .reached ⟨text, position⟩ := by
  match text with
  | [] => rfl
  | [c] => rw [skipFrom, if_neg (Bool.eq_false_iff.1 (solid.visible c rfl))]
  | c :: d :: rest =>
    rw [skipFrom, if_neg (Bool.eq_false_iff.1 (solid.visible c rfl)), if_neg, if_neg]
    · rintro ⟨rfl, rfl⟩
      exact solid.noBlockComment ⟨rest, rfl⟩
    · rintro ⟨rfl, rfl⟩
      exact solid.noLineComment ⟨rest, rfl⟩

end Scanner

end FieldFormula
