import FieldFormula.Compiler
import FieldFormula.Proofs.Lowercase
import FieldFormula.Proofs.Parser.Aspect
import FieldFormula.Proofs.Partition

/-! Layout and letter case carry no meaning. Lexemes that are written out again, with other blanks and
comments between them, are read to the same expression or the same error; if the case of names and
keywords is changed too, the expression is still the same. Spellings with blanks between them are
scanned one by one, the parser sees no places, and functions are found by lowercase names. -/

namespace FieldFormula

def Error.unplaced : Error → Error
  | malformed error => malformed ⟨error.fault, .start⟩
  | error => error

/-- A result, and the same result without the place of its error. -/
def Unplaces {α : Type} (result left : Except Error α) : Prop :=
  left = result.mapError Error.unplaced

namespace Unplaces

variable {α β : Type} {result left : Except Error α}

theorem ok (value : α) : Unplaces (.ok value) (.ok value) := rfl

/-- Only errors have places. -/
theorem eq_ok_iff {value : α} (unplaces : Unplaces result left) :
    left = .ok value ↔ result = .ok value := by
  subst unplaces
  cases result <;> simp [Except.mapError]

theorem bind {next following : α → Except Error β} (start : Unplaces result left)
    (step : ∀ value, Unplaces (next value) (following value)) :
    Unplaces (result >>= next) (left >>= following) := by
  subst start
  cases result with
  | error error => rfl
  | ok value => exact step value

theorem guard {limit : Prop} [Decidable limit] {error : Error} (placeless : error.unplaced = error)
    (inner : Unplaces result left) :
    Unplaces (if limit then .error error else result) (if limit then .error error else left) := by
  by_cases exceeds : limit
  · rw [if_pos exceeds, if_pos exceeds]
    exact congrArg Except.error placeless.symm
  · rw [if_neg exceeds, if_neg exceeds]
    exact inner

end Unplaces

namespace Expr

variable {registry : Registry} {limits : Limits}

theorem resolveFunction_unplaces (name : String) (count : Nat) :
    Unplaces (resolveFunction registry name count) (resolveFunction registry name count) := by
  unfold resolveFunction
  split
  · rfl
  · split <;> rfl

theorem readString_unplaces (literal : Quoted) :
    Unplaces (readString limits literal) (readString limits literal) :=
  .guard rfl (.ok _)

theorem readInteger_unplaces (text : String) (position : Position) :
    Unplaces (readInteger text position) (readInteger text .start) := by
  unfold readInteger
  simp only
  split
  · split <;> rfl
  · rfl

theorem readDecimal_unplaces (text : String) (position : Position) :
    Unplaces (readDecimal text position) (readDecimal text .start) := by
  unfold readDecimal
  simp only
  split
  · split
    · split <;> rfl
    · rfl
  · rfl

end Expr

/-- An aspect whose names find the same functions as the names they are made from. -/
structure Aspect.KeepsFunctions (aspect : Aspect) (registry : Registry) : Prop where
  found : ∀ name, registry.get? (aspect.name name) = registry.get? name
  lowered : ∀ name, Text.lowercase (aspect.name name) = Text.lowercase name

namespace Expr

variable {registry : Registry} {limits : Limits} {aspect : Aspect}

theorem length_trees (trees : List Tree) : (aspect.trees trees).length = trees.length := by
  induction trees with
  | nil => rfl
  | cons tree trees ih =>
    rw [Aspect.trees, List.length_cons, ih]
    rfl

theorem resolveFunction_name_eq (keeps : aspect.KeepsFunctions registry) (name : String)
    (count : Nat) :
    resolveFunction registry (aspect.name name) count = resolveFunction registry name count := by
  unfold resolveFunction
  rw [keeps.found, keeps.lowered]

mutual

/-- Building takes from a tree no more than its names, literals and form. -/
theorem buildAt_unplaces (keeps : aspect.KeepsFunctions registry) (depth : Nat) : (tree : Tree) →
    Unplaces (buildAt registry limits depth tree) (buildAt registry limits depth (aspect.tree tree))
  | .string literal position => by
    rw [Aspect.tree, buildAt, buildAt]
    exact .guard rfl ((readString_unplaces literal).bind fun _ => .ok _)
  | .integer text position => by
    rw [Aspect.tree, buildAt, buildAt]
    exact .guard rfl ((readInteger_unplaces text position).bind fun _ => .ok _)
  | .decimal text position => by
    rw [Aspect.tree, buildAt, buildAt]
    exact .guard rfl ((readDecimal_unplaces text position).bind fun _ => .ok _)
  | .boolean value position => by
    rw [Aspect.tree, buildAt, buildAt]
    exact .guard rfl (.ok _)
  | .brackets inner position => by
    rw [Aspect.tree, buildAt, buildAt]
    exact .guard rfl (buildAt_unplaces keeps (depth + 1) inner)
  | .negation operand position => by
    rw [Aspect.tree, buildAt, buildAt]
    refine .guard rfl ((resolveFunction_unplaces _ _).bind fun definition => ?_)
    exact (buildAt_unplaces keeps (depth + 1) operand).bind fun _ => .ok _
  | .binary op left right position => by
    rw [Aspect.tree, buildAt, buildAt]
    refine .guard rfl ?_
    cases op.function? with
    | none => rfl
    | some function =>
      refine (resolveFunction_unplaces _ _).bind fun definition => ?_
      exact (buildAt_unplaces keeps (depth + 1) left).bind fun _ =>
        (buildAt_unplaces keeps (depth + 1) right).bind fun _ => .ok _
  | .call name args position => by
    rw [Aspect.tree, buildAt, buildAt]
    simp only [length_trees, resolveFunction_name_eq keeps]
    refine .guard rfl ((resolveFunction_unplaces _ _).bind fun definition => ?_)
    exact (buildAllAt_unplaces keeps (depth + 1) args).bind fun _ => .ok _
  | .field name position => by
    rw [Aspect.tree, buildAt, buildAt]
    exact .guard rfl ((readString_unplaces name).bind fun _ => .ok _)
  | .lookup via target position => by
    rw [Aspect.tree, buildAt, buildAt]
    refine .guard rfl ((readString_unplaces via).bind fun link => ?_)
    refine (readString_unplaces target).bind fun field => ?_
    by_cases empty : (link.isEmpty || field.isEmpty) = true
    · simp only [if_pos empty]
      rfl
    · simp only [if_neg empty]
      rfl
  | .fieldById id position => by
    rw [Aspect.tree, buildAt, buildAt]
    exact .guard rfl rfl

theorem buildAllAt_unplaces (keeps : aspect.KeepsFunctions registry) (depth : Nat) :
    (trees : List Tree) →
    Unplaces (buildAllAt registry limits depth trees)
      (buildAllAt registry limits depth (aspect.trees trees))
  | [] => .ok _
  | tree :: trees => by
    rw [Aspect.trees, buildAllAt, buildAllAt]
    exact (buildAt_unplaces keeps depth tree).bind fun _ =>
      (buildAllAt_unplaces keeps depth trees).bind fun _ => .ok _

end

end Expr

/-- The tokens and the spellings. -/
def Aspect.unplaced : Aspect := ⟨id, id, rfl⟩

def Aspect.lowered : Aspect := ⟨Text.lowercase, fun _ => "the end of the formula", rfl⟩

namespace Aspect

theorem unplaced_error : Aspect.unplaced.error = Error.unplaced := by
  funext error
  cases error with
  | malformed error =>
    obtain ⟨fault, position⟩ := error
    cases fault <;> rfl
  | _ => rfl

theorem unplaced_lexeme (lexeme : Lexeme) :
    Aspect.unplaced.lexeme lexeme = ⟨lexeme.token, lexeme.spelling, .start⟩ := by
  obtain ⟨token, spelling, position⟩ := lexeme
  cases token <;> rfl

theorem unplaced_keeps (registry : Registry) : Aspect.unplaced.KeepsFunctions registry :=
  ⟨fun _ => rfl, fun _ => rfl⟩

theorem lowered_keeps {registry : Registry} (lowercased : registry.Lowercased) :
    Aspect.lowered.KeepsFunctions registry :=
  ⟨lowercased.get?_lowercase, Text.lowercase_lowercase⟩

def outcome (aspect : Aspect) : Except Error Tree → Except Error Tree
  | .ok tree => .ok (aspect.tree tree)
  | .error error => .error (aspect.error error)

variable {aspect : Aspect} {limits : Limits} {source other : String} {lexemes others : List Lexeme}
  {final last : Lexeme}

/-- Sources with lexemes that are left alike are parsed alike. -/
theorem outcome_parse_eq (fed : Feed.ofSource source = .ofLexemes lexemes final)
    (fedOther : Feed.ofSource other = .ofLexemes others last)
    (same : lexemes.map aspect.lexeme = others.map aspect.lexeme)
    (sameFinal : aspect.lexeme final = aspect.lexeme last) :
    aspect.outcome (Tree.parse limits source) = aspect.outcome (Tree.parse limits other) := by
  have results : aspect.result aspect.tree (Parse.formula limits (.before final lexemes)) =
      aspect.result aspect.tree (Parse.formula limits (.before last others)) := by
    rw [← Parse.carries_formula aspect limits, ← Parse.carries_formula aspect limits, cursor_before,
      cursor_before, same, sameFinal]
  unfold Tree.parse
  rw [Parse.start_of_ofLexemes fed, Parse.start_of_ofLexemes fedOther]
  simp only [bind, Except.bind]
  generalize Parse.formula limits (.before final lexemes) = reply at results ⊢
  generalize Parse.formula limits (.before last others) = otherReply at results ⊢
  cases reply with
  | ok tree rest =>
    cases otherReply with
    | ok otherTree otherRest =>
      simp only [result, EStateM.Result.ok.injEq] at results
      exact congrArg Except.ok results.1
    | error => cases results
  | error error rest =>
    cases otherReply with
    | ok => cases results
    | error otherError otherRest =>
      simp only [result, EStateM.Result.error.injEq] at results
      exact congrArg Except.error results.1

/-- Sources whose trees are left alike have the same expression, or the same error but for its place;
and sources whose errors are left alike have these errors. -/
theorem read_of_outcome_eq {compiler : Compiler} (keeps : aspect.KeepsFunctions compiler.registry)
    (same : aspect.outcome (Tree.parse compiler.limits source) =
      aspect.outcome (Tree.parse compiler.limits other)) :
    (compiler.read source).mapError Error.unplaced = (compiler.read other).mapError Error.unplaced ∨
      ∃ error otherError, compiler.read source = .error error ∧
        compiler.read other = .error otherError ∧ aspect.error error = aspect.error otherError := by
  unfold Compiler.read Compiler.parse Compiler.build
  cases parsed : Tree.parse compiler.limits source with
  | ok tree =>
    cases parsedOther : Tree.parse compiler.limits other with
    | ok otherTree =>
      rw [parsed, parsedOther] at same
      have sameTree : aspect.tree tree = aspect.tree otherTree := Except.ok.inj same
      have left (tree : Tree) : Unplaces (Expr.build compiler.registry compiler.limits tree)
          (Expr.build compiler.registry compiler.limits (aspect.tree tree)) :=
        Expr.buildAt_unplaces keeps 0 tree
      refine .inl ((left tree).symm.trans ?_)
      rw [sameTree]
      exact left otherTree
    | error error =>
      rw [parsed, parsedOther] at same
      cases same
  | error error =>
    cases parsedOther : Tree.parse compiler.limits other with
    | ok otherTree =>
      rw [parsed, parsedOther] at same
      cases same
    | error otherError =>
      rw [parsed, parsedOther] at same
      exact .inr ⟨error, otherError, rfl, rfl, Except.error.inj same⟩

end Aspect

/-- A gap that starts with a blank. -/
structure Separator (text : List Char) : Prop where
  gap : Gap text
  blank : ∃ c ∈ text.head?, Text.isWhitespace c = true

def spaced (texts : List (List Char × String)) : List Char :=
  texts.flatMap fun text => text.1 ++ text.2.toList

/-- A text behind a separator that is read as a token. -/
structure Writes (token : Token) (text : List Char × String) : Prop where
  separator : Separator text.1
  spelled : token.Spelled text.2.toList
  inside : token ≠ .endOfInput

theorem Separator.of_isWhitespace {c : Char} (white : Text.isWhitespace c = true) : Separator [c] :=
  ⟨.blank white .none, c, rfl, white⟩

theorem Separator.edge {gap : List Char} (separator : Separator gap) (rest : List Char) :
    Token.Edge (gap ++ rest) := by
  obtain ⟨_, blank, head, white⟩ := separator
  intro c first
  cases gap with
  | nil => cases head
  | cons d gap =>
    cases head
    cases first
    exact white

theorem edge_spaced {tokens : List Token} {texts : List (List Char × String)} {after : List Char}
    (writes : List.Forall₂ Writes tokens texts) (edge : Token.Edge after) :
    Token.Edge (spaced texts ++ after) := by
  cases writes with
  | nil => exact edge
  | cons first _ =>
    simp only [spaced, List.flatMap_cons, List.append_assoc]
    exact first.separator.edge _

namespace Scanner

/-- Texts with separators between them are given one by one. -/
theorem gives_spaced {tokens : List Token} {texts : List (List Char × String)} {after : List Char}
    (writes : List.Forall₂ Writes tokens texts) (edge : Token.Edge after) (position : Position) :
    ∃ placed behind, Gives ⟨spaced texts ++ after, position⟩ placed ⟨after, behind⟩ ∧
      placed.map Lexeme.token = tokens ∧ placed.map Lexeme.spelling = texts.map Prod.snd := by
  induction writes generalizing position with
  | nil => exact ⟨[], position, .none, rfl, rfl⟩
  | @cons token text tokens texts first others ih =>
    obtain ⟨gap, spelling⟩ := text
    have spells := spells_of_spelled first.spelled first.inside (edge_spaced others edge)
    have answered := (next_gap first.separator.gap).trans (spells (position.after gap))
    obtain ⟨placed, behind, given, sameTokens, sameSpellings⟩ :=
      ih ((position.after gap).after spelling.toList)
    refine ⟨⟨token, spelling, position.after gap⟩ :: placed, behind, ?_, ?_, ?_⟩
    · rw [String.ofList_toList] at answered
      simp only [spaced, List.flatMap_cons, List.append_assoc] at answered ⊢
      exact .next answered first.inside given
    · rw [List.map_cons, sameTokens]
    · rw [List.map_cons, List.map_cons, sameSpellings]

end Scanner

/-- The feed of texts with separators between and behind them. -/
theorem Feed.ofSource_spaced {tokens : List Token} {texts : List (List Char × String)}
    {gap : List Char} (writes : List.Forall₂ Writes tokens texts) (last : Separator gap) :
    ∃ placed final, Feed.ofSource (String.ofList (spaced texts ++ gap)) = .ofLexemes placed final ∧
      final.token = .endOfInput ∧ final.spelling = "" ∧
      placed.map Lexeme.token = tokens ∧ placed.map Lexeme.spelling = texts.map Prod.snd := by
  have edge := last.edge []
  rw [List.append_nil] at edge
  obtain ⟨placed, behind, given, sameTokens, sameSpellings⟩ :=
    Scanner.gives_spaced writes edge .start
  exact ⟨placed, _, given.ofSource_eq (.closed last.gap), rfl, rfl, sameTokens, sameSpellings⟩

/-- Whether a token is a name or a keyword, which may be spelled in any case. -/
def Token.isNamed : Token → Bool
  | .boolean _ | .identifier _ | .field | .lookup | .fieldById => true
  | _ => false

/-- A spelling of a lexeme with letters in another case, if it is a name or a keyword. -/
def Lexeme.Recased (lexeme : Lexeme) (spelling : String) : Prop :=
  if lexeme.token.isNamed then Text.SameLetters lexeme.spelling.toList spelling.toList
  else spelling = lexeme.spelling

namespace Token

theorem starts_and_continues_of_isLetter {c : Char} (letter : Text.IsLetter c.toNat) :
    startsName c = true ∧ continuesName c = true := by
  unfold Text.IsLetter at letter
  have ascii : c.toNat < 128 := by omega
  revert letter
  exact Text.of_ascii ascii (by decide)

theorem startsName_congr {c d : Char} (same : c.toLower = d.toLower) :
    startsName c = startsName d := by
  refine Text.eq_of_toLower_eq startsName (fun e capital => ?_) same
  rw [(starts_and_continues_of_isLetter capital.isLetter).1,
    (starts_and_continues_of_isLetter capital.isLetter_toLower).1]

theorem continuesName_congr {c d : Char} (same : c.toLower = d.toLower) :
    continuesName c = continuesName d := by
  refine Text.eq_of_toLower_eq continuesName (fun e capital => ?_) same
  rw [(starts_and_continues_of_isLetter capital.isLetter).2,
    (starts_and_continues_of_isLetter capital.isLetter_toLower).2]

theorem continues_recased {text other : List Char}
    (continues : ∀ c ∈ text, continuesName c = true) (same : Text.SameLetters text other) :
    ∀ d ∈ other, continuesName d = true := by
  induction same with
  | nil => exact nofun
  | cons sameHead _ ih =>
    rw [List.forall_mem_cons] at continues ⊢
    exact ⟨continuesName_congr sameHead ▸ continues.1, ih continues.2⟩

theorem IsName.recased {text other : List Char} (named : IsName text)
    (same : Text.SameLetters text other) : IsName other := by
  obtain ⟨⟨c, head, starts⟩, continues⟩ := named
  constructor
  · cases same with
    | nil => cases head
    | @cons _ d _ _ sameHead _ =>
      cases head
      exact ⟨d, rfl, startsName_congr sameHead ▸ starts⟩
  · exact continues_recased continues same

/-- What is spelled in another case is the same token, or a name with the same lowercase form. -/
theorem Spelled.recased {lexeme : Lexeme} {spelling : String}
    (spelled : Spelled lexeme.token lexeme.spelling.toList) (inside : lexeme.token ≠ .endOfInput)
    (recased : lexeme.Recased spelling) :
    ∃ token, Spelled token spelling.toList ∧ token ≠ .endOfInput ∧
      Aspect.lowered.token token = Aspect.lowered.token lexeme.token := by
  have unnamed : ∀ symbol ∈ symbols, symbol.2.isNamed = false := by decide
  obtain ⟨token, text, position⟩ := lexeme
  unfold Lexeme.Recased at recased
  simp only at spelled inside recased ⊢
  by_cases isNamed : token.isNamed = true
  · rw [if_pos isNamed] at recased
    generalize chars : text.toList = name at spelled recased
    cases spelled with
    | string | integer | decimal | endOfInput => cases isNamed
    | symbol member => rw [unnamed _ member] at isNamed; cases isNamed
    | keyword named member =>
      have same := Text.lowercase_congr recased
      exact ⟨token, .keyword (named.recased recased) (same ▸ member), inside, rfl⟩
    | @identifier name named other =>
      have same := Text.lowercase_congr recased
      refine ⟨.identifier spelling, .identifier (named.recased recased) (same ▸ other), nofun, ?_⟩
      exact congrArg Token.identifier same.symm
  · rw [if_neg isNamed] at recased
    subst recased
    exact ⟨token, spelled, inside, rfl⟩

end Token

/-- Other spellings of lexemes, with separators before them, are spellings of tokens that look the
same to `view`; the last of them is only a separator before the end. -/
theorem exists_writes {inner : List Lexeme} {final : Lexeme} {related : Lexeme → String → Prop}
    {view : Token → Token} {texts : List (List Char × String)}
    (respelled : ∀ lexeme ∈ inner, ∀ spelling, related lexeme spelling →
      ∃ token, Token.Spelled token spelling.toList ∧ token ≠ .endOfInput ∧
        view token = view lexeme.token)
    (ended : ∀ spelling, related final spelling → spelling = "")
    (separated : ∀ text ∈ texts, Separator text.1)
    (all : List.Forall₂ related (inner ++ [final]) (texts.map Prod.snd)) :
    ∃ front gap tokens, texts = front ++ [(gap, "")] ∧ Separator gap ∧
      List.Forall₂ Writes tokens front ∧
      tokens.map view = inner.map fun lexeme => view lexeme.token := by
  induction inner generalizing texts with
  | nil =>
    obtain ⟨⟨gap, spelling⟩, rfl⟩ : ∃ text, texts = [text] := by
      have counted := all.length_eq
      rw [List.length_map] at counted
      exact List.length_eq_one_iff.1 counted.symm
    cases all with
    | cons last _ =>
      obtain rfl := ended _ last
      exact ⟨[], gap, [], rfl, separated _ List.mem_cons_self, .nil, rfl⟩
  | cons lexeme inner ih =>
    cases texts with
    | nil => cases all
    | cons text texts =>
      rw [List.forall_mem_cons] at respelled separated
      cases all with
      | cons first others =>
        obtain ⟨token, spelled, inside, sameView⟩ := respelled.1 _ first
        obtain ⟨front, gap, tokens, rfl, separator, writes, sameViews⟩ :=
          ih respelled.2 separated.2 others
        refine ⟨text :: front, gap, token :: tokens, rfl, separator, ?_, ?_⟩
        · exact .cons ⟨separated.1, spelled, inside⟩ writes
        · rw [List.map_cons, List.map_cons, sameView, sameViews]

theorem spaced_concat (front : List (List Char × String)) (gap : List Char) :
    spaced (front ++ [(gap, "")]) = spaced front ++ gap := by
  simp [spaced]

theorem Aspect.map_lexeme_eq {aspect : Aspect} {lexemes others : List Lexeme}
    (tokens : lexemes.map (fun lexeme => aspect.token lexeme.token) =
      others.map fun lexeme => aspect.token lexeme.token)
    (spellings : lexemes.map (fun lexeme => aspect.spelling lexeme.spelling) =
      others.map fun lexeme => aspect.spelling lexeme.spelling) :
    lexemes.map aspect.lexeme = others.map aspect.lexeme := by
  induction lexemes generalizing others with
  | nil =>
    cases others with
    | nil => rfl
    | cons => cases tokens
  | cons lexeme lexemes ih =>
    cases others with
    | nil => cases tokens
    | cons other others =>
      simp only [List.map_cons, List.cons.injEq] at tokens spellings ⊢
      refine ⟨?_, ih tokens.2 spellings.2⟩
      rw [Aspect.lexeme, Aspect.lexeme, tokens.1, spellings.1]

/-- So they are scanned to lexemes that look the same. -/
theorem Feed.exists_placed {inner : List Lexeme} {final : Lexeme}
    {related : Lexeme → String → Prop} {view : Token → Token} {texts : List (List Char × String)}
    (respelled : ∀ lexeme ∈ inner, ∀ spelling, related lexeme spelling →
      ∃ token, Token.Spelled token spelling.toList ∧ token ≠ .endOfInput ∧
        view token = view lexeme.token)
    (ended : ∀ spelling, related final spelling → spelling = "")
    (separated : ∀ text ∈ texts, Separator text.1)
    (all : List.Forall₂ related (inner ++ [final]) (texts.map Prod.snd)) :
    ∃ placed last, Feed.ofSource (String.ofList (spaced texts)) = .ofLexemes placed last ∧
      last.token = .endOfInput ∧ last.spelling = "" ∧
      placed.map (fun lexeme => view lexeme.token) = inner.map (fun lexeme => view lexeme.token) ∧
      placed.map Lexeme.spelling ++ [""] = texts.map Prod.snd := by
  obtain ⟨front, gap, tokens, rfl, separator, writes, sameViews⟩ :=
    exists_writes respelled ended separated all
  obtain ⟨placed, last, fed, finished, empty, sameTokens, sameSpellings⟩ :=
    Feed.ofSource_spaced writes separator
  refine ⟨placed, last, ?_, finished, empty, ?_, ?_⟩
  · rw [spaced_concat, fed]
  · rw [← sameViews, ← sameTokens, List.map_map]
    rfl
  · rw [sameSpellings, List.map_append]
    rfl

section Respelling

variable {inner : List Lexeme} {final : Lexeme} {texts : List (List Char × String)}
  (spelled : ∀ lexeme ∈ inner,
    lexeme.token.Spelled lexeme.spelling.toList ∧ lexeme.token ≠ .endOfInput)
  (empty : final.spelling = "") (separated : ∀ text ∈ texts, Separator text.1)

include spelled empty separated

/-- The same spellings are scanned to the same tokens. -/
theorem Feed.exists_placed_same
    (same : texts.map Prod.snd = (inner ++ [final]).map Lexeme.spelling) :
    ∃ placed last, Feed.ofSource (String.ofList (spaced texts)) = .ofLexemes placed last ∧
      last.token = .endOfInput ∧ last.spelling = "" ∧
      placed.map Lexeme.token = inner.map Lexeme.token ∧
      placed.map Lexeme.spelling = inner.map Lexeme.spelling := by
  let related : Lexeme → String → Prop := fun lexeme spelling => lexeme.spelling = spelling
  have respelled : ∀ lexeme ∈ inner, ∀ spelling, related lexeme spelling →
      ∃ token, Token.Spelled token spelling.toList ∧ token ≠ .endOfInput ∧
        id token = id lexeme.token := by
    rintro lexeme member _ rfl
    exact ⟨lexeme.token, (spelled lexeme member).1, (spelled lexeme member).2, rfl⟩
  have all : List.Forall₂ related (inner ++ [final]) (texts.map Prod.snd) := by
    rw [same, List.forall₂_map_right_iff]
    exact List.forall₂_same.2 fun _ _ => rfl
  obtain ⟨placed, last, fed, finished, blank, sameTokens, sameSpellings⟩ :=
    Feed.exists_placed respelled (fun _ kept => kept.symm.trans empty) separated all
  refine ⟨placed, last, fed, finished, blank, sameTokens, ?_⟩
  rw [same, List.map_append] at sameSpellings
  exact (List.append_inj' sameSpellings rfl).1

/-- Spellings in another case are scanned to the same tokens, but for the case of names. -/
theorem Feed.exists_placed_recased (ended : final.token = .endOfInput)
    (recased : List.Forall₂ Lexeme.Recased (inner ++ [final]) (texts.map Prod.snd)) :
    ∃ placed last, Feed.ofSource (String.ofList (spaced texts)) = .ofLexemes placed last ∧
      last.token = .endOfInput ∧
      placed.map (fun lexeme => Aspect.lowered.token lexeme.token) =
        inner.map fun lexeme => Aspect.lowered.token lexeme.token := by
  have respelled : ∀ lexeme ∈ inner, ∀ spelling, Lexeme.Recased lexeme spelling →
      ∃ token, Token.Spelled token spelling.toList ∧ token ≠ .endOfInput ∧
        Aspect.lowered.token token = Aspect.lowered.token lexeme.token := by
    intro lexeme member spelling recased
    exact (spelled lexeme member).1.recased (spelled lexeme member).2 recased
  have blank (spelling : String) (recased : Lexeme.Recased final spelling) : spelling = "" := by
    unfold Lexeme.Recased at recased
    rw [ended, if_neg (by simp [Token.isNamed])] at recased
    rw [recased, empty]
  obtain ⟨placed, last, fed, finished, _, sameTokens, _⟩ :=
    Feed.exists_placed respelled blank separated recased
  exact ⟨placed, last, fed, finished, sameTokens⟩

end Respelling

namespace Compiler

variable {compiler : Compiler} {source other : String} {inner placed : List Lexeme}
  {final last : Lexeme}

/-- Sources with the same tokens and spellings are read alike, wherever these stand. -/
theorem read_unplaced_eq (fed : Feed.ofSource source = .ofLexemes inner final)
    (fedOther : Feed.ofSource other = .ofLexemes placed last)
    (sameLast : last.token = final.token) (sameSpelling : last.spelling = final.spelling)
    (tokens : placed.map Lexeme.token = inner.map Lexeme.token)
    (spellings : placed.map Lexeme.spelling = inner.map Lexeme.spelling) :
    (compiler.read other).mapError Error.unplaced =
      (compiler.read source).mapError Error.unplaced := by
  have lexemes : placed.map Aspect.unplaced.lexeme = inner.map Aspect.unplaced.lexeme := by
    apply Aspect.map_lexeme_eq
    · have seen := congrArg (List.map Aspect.unplaced.token) tokens
      rwa [List.map_map, List.map_map] at seen
    · exact spellings
  have lasts : Aspect.unplaced.lexeme last = Aspect.unplaced.lexeme final := by
    rw [Aspect.unplaced_lexeme, Aspect.unplaced_lexeme, sameLast, sameSpelling]
  have outcomes : Aspect.unplaced.outcome (Tree.parse compiler.limits other) =
      Aspect.unplaced.outcome (Tree.parse compiler.limits source) :=
    Aspect.outcome_parse_eq fedOther fed lexemes lasts
  rcases Aspect.read_of_outcome_eq (Aspect.unplaced_keeps _) outcomes with same | differing
  · exact same
  · obtain ⟨error, otherError, failed, failedOther, same⟩ := differing
    rw [Aspect.unplaced_error] at same
    rw [failed, failedOther]
    exact congrArg Except.error same

/-- Sources with the same tokens but for the case of names are read to the same expression. -/
theorem read_eq_ok_of_lowered (fed : Feed.ofSource source = .ofLexemes inner final)
    (fedOther : Feed.ofSource other = .ofLexemes placed last) (sameLast : last.token = final.token)
    (tokens : placed.map (fun lexeme => Aspect.lowered.token lexeme.token) =
      inner.map fun lexeme => Aspect.lowered.token lexeme.token)
    (lowercased : compiler.registry.Lowercased) {expr : Expr Unit}
    (read : compiler.read source = .ok expr) : compiler.read other = .ok expr := by
  have counted : placed.length = inner.length := by
    simpa only [List.length_map] using congrArg List.length tokens
  have lexemes : placed.map Aspect.lowered.lexeme = inner.map Aspect.lowered.lexeme := by
    apply Aspect.map_lexeme_eq tokens
    simp [Aspect.lowered, counted]
  have lasts : Aspect.lowered.lexeme last = Aspect.lowered.lexeme final := by
    rw [Aspect.lexeme, Aspect.lexeme, sameLast]
    rfl
  have outcomes : Aspect.lowered.outcome (Tree.parse compiler.limits other) =
      Aspect.lowered.outcome (Tree.parse compiler.limits source) :=
    Aspect.outcome_parse_eq fedOther fed lexemes lasts
  rcases Aspect.read_of_outcome_eq (Aspect.lowered_keeps lowercased) outcomes with same | differing
  · rw [read] at same
    cases found : compiler.read other with
    | ok result =>
      rw [found] at same
      exact congrArg Except.ok (Except.ok.inj same)
    | error error =>
      rw [found] at same
      cases same
  · obtain ⟨_, _, _, failed, _⟩ := differing
    rw [read] at failed
    cases failed

/-- Layout and letter case carry no meaning. Texts with separators between them are scanned to the
lexemes that they spell. If they are the spellings of the lexemes of a source, they are read to the
same expression, or to the same error but for its place; if names and keywords are spelled in another
case, and functions have lowercase names, an expression that was read is read again. -/
theorem read_spaced (source : String) (lexemes : List Lexeme)
    (scanned : (Feed.ofSource source).lexemes = .ok lexemes) (texts : List (List Char × String))
    (separated : ∀ text ∈ texts, Separator text.1) :
    (texts.map Prod.snd = lexemes.map Lexeme.spelling →
      (∃ placed, (Feed.ofSource (String.ofList (spaced texts))).lexemes = .ok placed ∧
        placed.map Lexeme.token = lexemes.map Lexeme.token ∧
        placed.map Lexeme.spelling = lexemes.map Lexeme.spelling) ∧
      ∀ compiler : Compiler,
        (compiler.read (String.ofList (spaced texts))).mapError Error.unplaced =
          (compiler.read source).mapError Error.unplaced) ∧
    (List.Forall₂ Lexeme.Recased lexemes (texts.map Prod.snd) →
      ∀ (compiler : Compiler) (expr : Expr Unit), compiler.registry.Lowercased →
        compiler.read source = .ok expr →
        compiler.read (String.ofList (spaced texts)) = .ok expr) := by
  obtain ⟨pieces, scanner, laid, _, rfl, fed⟩ := Feed.exists_laid scanned
  constructor
  · intro same
    obtain ⟨placed, last, fedPlaced, ended, empty, tokens, spellings⟩ :=
      Feed.exists_placed_same laid.spelled rfl separated same
    refine ⟨⟨placed ++ [last], ?_, ?_, ?_⟩, fun compiler => ?_⟩
    · rw [fedPlaced, Feed.lexemes_ofLexemes]
    · simp [tokens, ended]
    · simp [spellings, empty]
    · exact read_unplaced_eq fed fedPlaced ended empty tokens spellings
  · intro recased compiler expr lowercased read
    obtain ⟨placed, last, fedPlaced, ended, tokens⟩ :=
      Feed.exists_placed_recased laid.spelled rfl separated rfl recased
    exact read_eq_ok_of_lowered fed fedPlaced ended tokens lowercased read

/-- A function and a keyword in other letters, with a comment that holds a quote before a bracket. -/
theorem read_spaced_of_comment :
    (Feed.ofSource "Upper(field('a'))").lexemes =
      .ok [⟨.identifier "Upper", "Upper", ⟨1, 0⟩⟩, ⟨.openBracket, "(", ⟨1, 5⟩⟩,
        ⟨.field, "field", ⟨1, 6⟩⟩, ⟨.openBracket, "(", ⟨1, 11⟩⟩,
        ⟨.string ⟨"a", .single⟩, "'a'", ⟨1, 12⟩⟩, ⟨.closeBracket, ")", ⟨1, 15⟩⟩,
        ⟨.closeBracket, ")", ⟨1, 16⟩⟩, ⟨.endOfInput, "", ⟨1, 17⟩⟩] ∧
    read {} "Upper(field('a'))" = .ok (.call "upper" [.reference "a" none ()] ()) ∧
    read {} " uPPER\n//'\n( FieLD (\t'a' ) ) " =
      .ok (.call "upper" [.reference "a" none ()] ()) := by
  let texts : List (List Char × String) := [([' '], "uPPER"), (['\n', '/', '/', '\'', '\n'], "("),
    ([' '], "FieLD"), ([' '], "("), (['\t'], "'a'"), ([' '], ")"), ([' '], ")"), ([' '], "")]
  have scanned : (Feed.ofSource "Upper(field('a'))").lexemes =
      .ok [⟨.identifier "Upper", "Upper", ⟨1, 0⟩⟩, ⟨.openBracket, "(", ⟨1, 5⟩⟩,
        ⟨.field, "field", ⟨1, 6⟩⟩, ⟨.openBracket, "(", ⟨1, 11⟩⟩,
        ⟨.string ⟨"a", .single⟩, "'a'", ⟨1, 12⟩⟩, ⟨.closeBracket, ")", ⟨1, 15⟩⟩,
        ⟨.closeBracket, ")", ⟨1, 16⟩⟩, ⟨.endOfInput, "", ⟨1, 17⟩⟩] := by decide +kernel
  have found : read {} "Upper(field('a'))" = .ok (.call "upper" [.reference "a" none ()] ()) := by
    decide +kernel
  have blank := Separator.of_isWhitespace (by decide : Text.isWhitespace ' ' = true)
  have tab := Separator.of_isWhitespace (by decide : Text.isWhitespace '\t' = true)
  have comment : Separator ['\n', '/', '/', '\'', '\n'] :=
    ⟨.blank (by decide) (@Gap.lineComment ['\''] [] (by decide) .none), '\n', rfl, by decide⟩
  have separated : ∀ text ∈ texts, Separator text.1 := by
    simp [texts, comment, blank, tab]
  have written : String.ofList (spaced texts) = " uPPER\n//'\n( FieLD (\t'a' ) ) " := by decide
  have function : Text.SameLetters "Upper".toList "uPPER".toList := by
    unfold Text.SameLetters
    decide
  have keyword : Text.SameLetters "field".toList "FieLD".toList := by
    unfold Text.SameLetters
    decide
  refine ⟨scanned, found, ?_⟩
  rw [← written]
  refine (read_spaced _ _ scanned texts separated).2 ?_ _ _ Registry.standard_lowercased found
  exact .cons function (.cons rfl (.cons keyword (.cons rfl (.cons rfl (.cons rfl (.cons rfl
    (.cons rfl .nil)))))))

/-- A function that is kept under a name with a capital is found in no other letters. -/
theorem read_spaced_of_capital_name :
    let capital : Definition := { name := "F", argCount := .exactly 0, returns := .fixed .text }
    let lexemes : List Lexeme := [⟨.identifier "F", "F", ⟨1, 0⟩⟩, ⟨.openBracket, "(", ⟨1, 1⟩⟩,
      ⟨.closeBracket, ")", ⟨1, 2⟩⟩, ⟨.endOfInput, "", ⟨1, 3⟩⟩]
    let texts : List (List Char × String) :=
      [([' '], "f"), ([' '], "("), ([' '], ")"), ([' '], "")]
    (Feed.ofSource "F()").lexemes = .ok lexemes ∧ (∀ text ∈ texts, Separator text.1) ∧
    List.Forall₂ Lexeme.Recased lexemes (texts.map Prod.snd) ∧
    read ⟨.ofDefinitions [capital], {}⟩ "F()" = .ok (.call "F" [] ()) ∧
    read ⟨.ofDefinitions [capital], {}⟩ (String.ofList (spaced texts)) =
      .error (.unknownFunction "f") := by
  intro capital lexemes texts
  have blank := Separator.of_isWhitespace (by decide : Text.isWhitespace ' ' = true)
  have function : Text.SameLetters "F".toList "f".toList := by
    unfold Text.SameLetters
    decide
  refine ⟨by decide +kernel, ?_, ?_, by decide +kernel, by decide +kernel⟩
  · simp [texts, blank]
  · exact .cons function (.cons rfl (.cons rfl (.cons rfl .nil)))

end Compiler

end FieldFormula
