import Mathlib.Logic.Relation
import FieldFormula.Json.Writer
import FieldFormula.Proofs.Json.Spelling

/-! Reading what has been written. The reader takes the tokens of a written value one by one, and
when it has taken them all it is behind that value with the same arrays and objects still open. Blanks
between the tokens make no difference, so both formats are read alike. -/

namespace FieldFormula.Json

/-- What a reader does at the front of a text: it passes over a blank, or it takes a token. -/
inductive Advances : State × List Char → State × List Char → Prop
  | blank {state : State} {c : Char} {text : List Char} (between : isBlank c = true) :
      Advances (state, c :: text) (state, text)
  | token {state after : State} {text rest : List Char} {token : Token}
      (split : Token.split? text = some (token, rest)) (shorter : rest.length < text.length)
      (stepped : state.step token = some after) : Advances (state, text) (after, rest)

/-- A reader gets from one place of a text to another. -/
abbrev Reaches := Relation.ReflTransGen Advances

theorem not_isBlank_of_split? {c : Char} {text rest : List Char} {token : Token}
    (split : Token.split? (c :: text) = some (token, rest)) : isBlank c = false := by
  cases blank : isBlank c with
  | false => rfl
  | true =>
    simp only [isBlank, Bool.or_eq_true, beq_iff_eq] at blank
    rcases blank with ((rfl | rfl) | rfl) | rfl
    all_goals cases split

theorem readFrom_of_advances {start finish : State × List Char} {room : Nat}
    (advances : Advances start finish) (within : start.2.length ≤ room) :
    ∃ left, finish.2.length ≤ left ∧
      readFrom room start.1 start.2 = readFrom left finish.1 finish.2 := by
  cases advances with
  | blank between =>
    refine ⟨room, Nat.le_of_succ_le within, ?_⟩
    rw [readFrom, readFrom, List.dropWhile_cons_of_pos between]
  | @token state after text rest token split shorter stepped =>
    cases text with
    | nil => cases shorter
    | cons c text =>
      cases room with
      | zero => cases within
      | succ room =>
        refine ⟨room, Nat.le_of_lt_succ (Nat.lt_of_lt_of_le shorter within), ?_⟩
        have solid : ¬ isBlank c = true := by simp [not_isBlank_of_split? split]
        rw [readFrom, List.dropWhile_cons_of_neg solid]
        simp only [split, stepped]

/-- There is always room for the tokens that are left. -/
theorem readFrom_of_reaches {start finish : State × List Char} {room : Nat}
    (reaches : Reaches start finish) (within : start.2.length ≤ room) :
    ∃ left, readFrom room start.1 start.2 = readFrom left finish.1 finish.2 := by
  induction reaches using Relation.ReflTransGen.head_induction_on generalizing room with
  | refl => exact ⟨room, rfl⟩
  | head advances _ ih =>
    obtain ⟨left, enough, step⟩ := readFrom_of_advances advances within
    obtain ⟨last, run⟩ := ih enough
    exact ⟨last, step.trans run⟩

theorem reaches_blanks {gap : List Char} (between : ∀ c ∈ gap, isBlank c = true) (state : State)
    (text : List Char) : Reaches (state, gap ++ text) (state, text) := by
  induction gap with
  | nil => exact .refl
  | cons c gap ih =>
    simp only [List.forall_mem_cons] at between
    exact .head (.blank between.1) (ih between.2)

/-- A token of one character. -/
theorem reaches_symbol {state after : State} {c : Char} {token : Token} {text : List Char}
    (split : Token.split? (c :: text) = some (token, text))
    (stepped : state.step token = some after) :
    Reaches (state, c :: text) (after, text) :=
  .single (.token split (Nat.lt_succ_self _) stepped)

namespace State

/-- Whether a state waits for a value that belongs on top of some open arrays and objects. -/
def Opens (state : State) (stack : List Frame) : Prop :=
  ∀ {token : Token} {after : State},
    beginValue stack token = some after → state.step token = some after

theorem opens_value (stack : List Frame) : Opens (value stack) stack := id

/-- The first item of an array may be its end as well, but a value does not start with that. -/
theorem opens_firstItem (stack : List Frame) : Opens (firstItem stack) (.array [] :: stack) := by
  intro token after begun
  cases token with
  | closeBracket => cases begun
  | _ => exact begun

/-- Whether a state waits for a key of an object, behind some members of it. -/
def AwaitsKey (state : State) (before : List (String × Json)) (stack : List Frame) : Prop :=
  ∀ name, state.step (.scalar (.string name)) = some (colon before name stack)

end State

namespace Format

def gap : Format → Nat → List Char
  | compact, _ => []
  | pretty, indent => (newLine indent).toList

def space : Format → List Char
  | compact => []
  | pretty => [' ']

def behind (format : Format) (indent : Nat) (parts : List String) : List Char :=
  parts.flatMap fun part => ',' :: (format.gap indent ++ part.toList)

variable (format : Format) (indent : Nat)

theorem gap_blank : ∀ c ∈ format.gap indent, isBlank c = true := by
  cases format with
  | compact => exact nofun
  | pretty =>
    intro c member
    simp only [gap, newLine, String.toList_append, String.toList_ofList, List.mem_append] at member
    rcases member with line | blanks
    · cases List.mem_singleton.1 line
      rfl
    · rw [List.eq_of_mem_replicate blanks]
      rfl

theorem space_blank : ∀ c ∈ format.space, isBlank c = true := by
  cases format <;> simp [space, isBlank]

theorem toList_colon : format.colon.toList = ':' :: format.space := by
  cases format <;> rfl

theorem toList_enclose_nil (opening closing : String) :
    (format.enclose indent opening closing []).toList = opening.toList ++ closing.toList := by
  cases format <;> simp [enclose]

theorem intercalate_cons_eq (separator part : List Char) (parts : List (List Char)) :
    separator.intercalate (part :: parts) = part ++ parts.flatMap (separator ++ ·) := by
  induction parts generalizing part with
  | nil => simp
  | cons next parts ih =>
    rw [List.intercalate_cons_cons, ih, List.flatMap_cons, List.append_assoc, List.append_assoc]

theorem toList_enclose_cons (opening closing part : String) (parts : List String) :
    (format.enclose indent opening closing (part :: parts)).toList =
      opening.toList ++ (format.gap (indent + 1) ++ (part.toList ++
        (format.behind (indent + 1) parts ++ (format.gap indent ++ closing.toList)))) := by
  cases format <;>
    simp [enclose, gap, behind, String.toList_intercalate, intercalate_cons_eq, List.flatMap_map]

/-- No numeral goes on where the next part or the end of an array or object comes. -/
theorem stops_behind {c : Char} (closes : c ∈ [']', '\x7d']) (rest : List Char)
    (parts : List String) (inner : Nat) :
    Token.Stops (format.behind inner parts ++ (format.gap indent ++ c :: rest)) := by
  cases parts with
  | cons part parts =>
    rintro _ ⟨⟩
    decide
  | nil =>
    cases format with
    | compact =>
      simp only [List.mem_cons, List.not_mem_nil, or_false] at closes
      rintro _ ⟨⟩
      rcases closes with rfl | rfl <;> decide
    | pretty =>
      have line : (newLine indent).toList = '\n' :: List.replicate (2 * indent) ' ' := by
        simp [newLine]
      rw [gap, line]
      rintro _ ⟨⟩
      decide

end Format

variable {format : Format} {rest : List Char} {stack : List Frame} {state after : State}

/-- The end of an array or object, behind blanks. -/
theorem reaches_close {c : Char} {token : Token} (indent : Nat)
    (split : Token.split? (c :: rest) = some (token, rest))
    (stepped : state.step token = some after) :
    Reaches (state, format.gap indent ++ c :: rest) (after, rest) :=
  (reaches_blanks (format.gap_blank indent) _ _).trans (reaches_symbol split stepped)

/-- The next part of an array or object, behind a comma and blanks. -/
theorem reaches_comma {part : String} {parts : List String} {indent : Nat}
    (stepped : state.step .comma = some after) :
    Reaches (state, format.behind indent (part :: parts) ++ rest)
      (after, part.toList ++ (format.behind indent parts ++ rest)) := by
  have text : format.behind indent (part :: parts) ++ rest =
      ',' :: (format.gap indent ++ (part.toList ++ (format.behind indent parts ++ rest))) := by
    simp [Format.behind]
  rw [text]
  exact (reaches_symbol rfl stepped).trans (reaches_blanks (format.gap_blank indent) _ _)

/-- A key with its colon leads to the value of the member. -/
theorem reaches_key {key value : String} {before : List (String × Json)}
    (spelled : isSpelling key = true) (awaits : state.AwaitsKey before stack) :
    Reaches (state, ("\"" ++ key ++ "\"" ++ format.colon ++ value).toList ++ rest)
      (.value (.object before key :: stack), value.toList ++ rest) := by
  have text : ("\"" ++ key ++ "\"" ++ format.colon ++ value).toList ++ rest =
      '"' :: (key.toList ++ '"' :: (':' :: (format.space ++ (value.toList ++ rest)))) := by
    simp [Format.toList_colon]
  have shorter : (':' :: (format.space ++ (value.toList ++ rest))).length <
      ('"' :: (key.toList ++ '"' :: (':' :: (format.space ++ (value.toList ++ rest))))).length := by
    simp only [List.length_cons, List.length_append]
    omega
  rw [text]
  refine .head (.token (split?_string spelled _) shorter (awaits key)) ?_
  exact (reaches_symbol rfl rfl).trans (reaches_blanks format.space_blank _ _)

/-- What is written for a value takes a reader behind that value. -/
def ValueRuns (format : Format) (json : Json) : Prop :=
  ∀ {indent : Nat} {state : State} {stack : List Frame} {rest : List Char},
    state.Opens stack → Token.Stops rest →
    Reaches (state, (json.writeAt format indent).toList ++ rest) (.next json stack, rest)

/-- What is written for the other items of an array takes a reader from the first one to the end. -/
def ItemsRun (format : Format) (items : List Json) : Prop :=
  ∀ {inner indent : Nat} {first : Json} {before : List Json} {stack : List Frame}
    {rest : List Char},
    Reaches (.next first (.array before :: stack),
        format.behind inner (writeItems format inner items) ++ (format.gap indent ++ ']' :: rest))
      (.next (.array (before.reverse ++ first :: items)) stack, rest)

/-- What is written for the other members of an object takes a reader from the first one to the
end. -/
def MembersRun (format : Format) (members : List (String × Json)) : Prop :=
  ∀ {inner indent : Nat} {name : String} {first : Json} {before : List (String × Json)}
    {stack : List Frame} {rest : List Char},
    Reaches (.next first (.object before name :: stack),
        format.behind inner (writeMembers format inner members) ++
          (format.gap indent ++ '\x7d' :: rest))
      (.next (.object (before.reverse ++ (name, first) :: members)) stack, rest)

theorem valueRuns_scalar {json : Json}
    (split : ∀ {indent : Nat} {rest : List Char}, Token.Stops rest →
      Token.split? ((json.writeAt format indent).toList ++ rest) = some (.scalar json, rest)) :
    ValueRuns format json := by
  intro indent state stack rest opens stops
  refine .single (.token (split stops) ?_ (opens rfl))
  cases written : (json.writeAt format indent).toList with
  | nil =>
    have nothing := @split indent [] nofun
    rw [written] at nothing
    cases nothing
  | cons c text => simp only [List.length_append, List.length_cons]; omega

theorem itemsRun_nil : ItemsRun format [] := by
  intro inner indent first before stack rest
  apply reaches_close indent rfl
  simp [State.step]

theorem itemsRun_cons {item : Json} {items : List Json} (value : ValueRuns format item)
    (others : ItemsRun format items) : ItemsRun format (item :: items) := by
  intro inner indent first before stack rest
  have stops := format.stops_behind indent (by decide : ']' ∈ _) rest
    (writeItems format inner items) inner
  refine (reaches_comma rfl).trans ((value (State.opens_value _) stops).trans ?_)
  simpa using @others inner indent item (first :: before) stack rest

theorem membersRun_nil : MembersRun format [] := by
  intro inner indent name first before stack rest
  apply reaches_close indent rfl
  simp [State.step]

theorem membersRun_cons {key : String} {item : Json} {members : List (String × Json)}
    (spelled : isSpelling key = true) (value : ValueRuns format item)
    (others : MembersRun format members) : MembersRun format ((key, item) :: members) := by
  intro inner indent name first before stack rest
  have stops := format.stops_behind indent (by decide : '\x7d' ∈ _) rest
    (writeMembers format inner members) inner
  have awaits : (State.key ((name, first) :: before) stack).AwaitsKey ((name, first) :: before)
      stack := fun _ => rfl
  refine (reaches_comma rfl).trans ((reaches_key spelled awaits).trans ?_)
  refine (value (State.opens_value _) stops).trans ?_
  simpa using @others inner indent key item ((name, first) :: before) stack rest

theorem valueRuns_array_nil : ValueRuns format (.array []) := by
  intro indent state stack rest opens _
  rw [writeAt, writeItems, Format.toList_enclose_nil]
  exact (reaches_symbol rfl (opens rfl)).trans (reaches_symbol rfl rfl)

theorem valueRuns_array_cons {item : Json} {items : List Json} (value : ValueRuns format item)
    (others : ItemsRun format items) : ValueRuns format (.array (item :: items)) := by
  intro indent state stack rest opens _
  have stops := format.stops_behind indent (by decide : ']' ∈ _) rest
    (writeItems format (indent + 1) items) (indent + 1)
  rw [writeAt, writeItems, Format.toList_enclose_cons]
  simp only [List.append_assoc]
  refine (reaches_symbol rfl (opens rfl)).trans ?_
  refine (reaches_blanks (format.gap_blank _) _ _).trans ?_
  exact (value (State.opens_firstItem stack) stops).trans others

theorem valueRuns_object_nil : ValueRuns format (.object []) := by
  intro indent state stack rest opens _
  rw [writeAt, writeMembers, Format.toList_enclose_nil]
  exact (reaches_symbol rfl (opens rfl)).trans (reaches_symbol rfl rfl)

theorem valueRuns_object_cons {key : String} {item : Json} {members : List (String × Json)}
    (spelled : isSpelling key = true) (value : ValueRuns format item)
    (others : MembersRun format members) : ValueRuns format (.object ((key, item) :: members)) := by
  intro indent state stack rest opens _
  have stops := format.stops_behind indent (by decide : '\x7d' ∈ _) rest
    (writeMembers format (indent + 1) members) (indent + 1)
  have awaits : (State.firstKey stack).AwaitsKey [] stack := fun _ => rfl
  rw [writeAt, writeMembers, Format.toList_enclose_cons]
  simp only [List.append_assoc]
  refine (reaches_symbol rfl (opens rfl)).trans ?_
  refine (reaches_blanks (format.gap_blank _) _ _).trans ?_
  refine (reaches_key spelled awaits).trans ?_
  exact (value (State.opens_value _) stops).trans others

-- The induction is on the value and its parts. What is open around a value and what is written
-- behind it stay arbitrary, so that a part can be put into whatever encloses it.
mutual

theorem valueRuns : (json : Json) → json.scalars isNumeral isSpelling = true →
    ValueRuns format json
  | .null, _ => valueRuns_scalar fun _ => by simp [writeAt, Token.split?]
  | .bool true, _ => valueRuns_scalar fun _ => by simp [writeAt, Token.split?]
  | .bool false, _ => valueRuns_scalar fun _ => by simp [writeAt, Token.split?]
  | .number spelling, spelled => valueRuns_scalar fun stops => by
    simpa [writeAt] using split?_number spelled stops
  | .string spelling, spelled => valueRuns_scalar fun {_ rest} _ => by
    simpa [writeAt] using split?_string spelled rest
  | .array [], _ => valueRuns_array_nil
  | .array (item :: items), spelled => by
    simp only [scalars, scalarsOfItems, Bool.and_eq_true] at spelled
    exact valueRuns_array_cons (valueRuns item spelled.1) (itemsRun items spelled.2)
  | .object [], _ => valueRuns_object_nil
  | .object ((key, item) :: members), spelled => by
    simp only [scalars, scalarsOfMembers, Bool.and_eq_true] at spelled
    exact valueRuns_object_cons spelled.1.1 (valueRuns item spelled.1.2)
      (membersRun members spelled.2)

theorem itemsRun : (items : List Json) → scalarsOfItems isNumeral isSpelling items = true →
    ItemsRun format items
  | [], _ => itemsRun_nil
  | item :: items, spelled => by
    simp only [scalarsOfItems, Bool.and_eq_true] at spelled
    exact itemsRun_cons (valueRuns item spelled.1) (itemsRun items spelled.2)

theorem membersRun : (members : List (String × Json)) →
    scalarsOfMembers isNumeral isSpelling members = true → MembersRun format members
  | [], _ => membersRun_nil
  | (key, item) :: members, spelled => by
    simp only [scalarsOfMembers, Bool.and_eq_true] at spelled
    exact membersRun_cons spelled.1.1 (valueRuns item spelled.1.2) (membersRun members spelled.2)

end

/-- A document that has been written is read back, whatever its format, if its numbers and strings
are spelled as such. -/
theorem read_write {json : Json} (spelled : json.scalars isNumeral isSpelling = true)
    (format : Format) : read (json.write format) = some json := by
  have run := @valueRuns format json spelled 0 _ _ [] (State.opens_value []) nofun
  rw [List.append_nil] at run
  obtain ⟨left, reached⟩ := readFrom_of_reaches run (Nat.le_refl _)
  rw [read, write]
  refine reached.trans ?_
  rw [readFrom]
  rfl

end FieldFormula.Json
