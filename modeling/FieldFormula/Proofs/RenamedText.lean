import FieldFormula.Proofs.Expr.Rename
import FieldFormula.Proofs.WellFormed

/-! What becomes of a formula in which fields are renamed. New names are not checked on the way, so
the text is read back only if every reference it is left with could have been written in a source. -/

namespace FieldFormula

open FieldFormula.Expr

/-- Both names of a reference can be written as literals. -/
structure Dependency.Quotable (dependency : Dependency) : Prop where
  field : ∃ literal, Quoted.ofValue? dependency.field = some literal
  link : ∀ link, dependency.via = some link → ∃ literal, Quoted.ofValue? link = some literal

/-- A name finds the function that bears it. -/
def Registry.Canonical (registry : Registry) (name : String) : Prop :=
  ∃ definition, registry.get? name = some definition ∧ definition.name = name

theorem Registry.Canonical.name_eq {registry : Registry} {name : String} {count : Nat}
    {definition : Definition} (canonical : registry.Canonical name)
    (resolved : resolveFunction registry name count = .ok definition) : definition.name = name := by
  obtain ⟨other, found, named⟩ := canonical
  obtain ⟨foundAgain, _⟩ := resolveFunction_eq_ok_iff.1 resolved
  cases found.symm.trans foundAgain
  exact named

namespace Expr

variable {α : Type} {newName : String → String} {link : Option String}

theorem calls_of_calls_rename {expr : Expr α} {function : String}
    (calls : Calls (expr.rename newName link) function) : Calls expr function := by
  induction expr using induction_on_args with
  | string | integer | decimal | boolean | reference =>
    rw [rename] at calls
    cases calls
  | call name args note ih =>
    rw [rename, renameAll_eq_map] at calls
    cases calls with
    | call => exact .call
    | argument member inside =>
      obtain ⟨arg, origin, rfl⟩ := List.mem_map.1 member
      exact .argument origin (ih arg origin inside)

theorem exists_printAt_of_printAllAt {layout : Layout} {indent : Nat} {args : List (Expr α)}
    {items : List String} (printed : printAllAt layout indent args = .ok items) :
    ∀ arg ∈ args, ∃ text, printAt layout indent arg = .ok text := by
  induction args generalizing items with
  | nil => nofun
  | cons arg args ih =>
    rw [printAllAt] at printed
    obtain ⟨text, here, printed⟩ := bind_eq_ok_iff.1 printed
    obtain ⟨texts, behind, _⟩ := bind_eq_ok_iff.1 printed
    exact List.forall_mem_cons.2 ⟨⟨text, here⟩, ih behind⟩

/-- Nothing is printed unless all names can be written as literals. -/
theorem Reads.quotable {layout : Layout} {expr : Expr α} {dependency : Dependency}
    (reads : Reads expr dependency) {indent : Nat} {text : String}
    (printed : printAt layout indent expr = .ok text) : dependency.Quotable := by
  induction reads generalizing indent text with
  | @reference field via note =>
    cases via with
    | none =>
      obtain ⟨literal, written, _⟩ := printAt_field_eq_ok_iff.1 printed
      exact ⟨⟨literal, written⟩, nofun⟩
    | some link =>
      obtain ⟨via, target, viaWritten, targetWritten, _⟩ := printAt_lookup_eq_ok_iff.1 printed
      refine ⟨⟨target, targetWritten⟩, ?_⟩
      rintro _ ⟨⟩
      exact ⟨via, viaWritten⟩
  | argument member _ ih =>
    rw [printAt] at printed
    split at printed
    all_goals
      obtain ⟨items, inside, _⟩ := bind_eq_ok_iff.1 printed
      obtain ⟨text, printedArg⟩ := exists_printAt_of_printAllAt inside _ member
      exact ih printedArg

variable {registry : Registry} {limits : Limits}

theorem admissible_reference {depth : Nat} {dependency : Dependency}
    (within : depth ≤ limits.maxDepth) (usable : dependency.Usable limits)
    (quotable : dependency.Quotable) :
    Admissible registry limits depth (.reference dependency.field dependency.via ()) := by
  obtain ⟨field, via⟩ := dependency
  cases via with
  | none => exact .field within ⟨usable.field_short, quotable.field⟩
  | some link =>
    refine .lookup within ⟨usable.link_short link rfl, quotable.link link rfl⟩
      ⟨usable.field_short, quotable.field⟩ ?_
    simpa using usable.named link rfl

theorem admissibleAll_of_forall {depth : Nat} {args : List (Expr Unit)}
    (each : ∀ arg ∈ args, Admissible registry limits depth arg) :
    AdmissibleAll registry limits depth args := by
  induction args with
  | nil => exact .nil
  | cons arg args ih =>
    rw [List.forall_mem_cons] at each
    exact .cons each.1 (ih each.2)

/-- New names are all that can make an admissible expression inadmissible. -/
theorem Admissible.rename {depth : Nat} {expr : Expr Unit}
    (admissible : Admissible registry limits depth expr)
    (sound : ∀ dependency, Reads (expr.rename newName link) dependency →
      dependency.Usable limits ∧ dependency.Quotable) :
    Admissible registry limits depth (expr.rename newName link) := by
  induction expr using induction_on_args generalizing depth with
  | string | integer | decimal | boolean =>
    rw [Expr.rename]
    exact admissible
  | reference field via note =>
    rw [Expr.rename] at sound ⊢
    obtain ⟨usable, quotable⟩ := sound _ .reference
    exact admissible_reference admissible.within usable quotable
  | call function args note ih =>
    rw [Expr.rename, renameAll_eq_map] at sound ⊢
    cases admissible with
    | call within resolved callable inside =>
      refine .call within (by rwa [List.length_map]) callable (admissibleAll_of_forall ?_)
      rw [List.forall_mem_map]
      intro arg member
      refine ih arg member (inside.of_mem member) ?_
      intro dependency reads
      exact sound dependency (.argument (List.mem_map_of_mem member) reads)

theorem eq_value_of_readString {literal : Quoted} {text : String}
    (read : readString limits literal = .ok text) : text = literal.value := by
  unfold readString at read
  split at read
  · cases read
  · cases read
    rfl

mutual

/-- A tree that writes an expression out is built to nothing else. -/
theorem Mirrors.eq_of_builds {depth : Nat} {tree : Tree} {expr other : Expr Unit} :
    Mirrors tree expr → Builds registry limits depth tree other →
      (∀ function, Calls expr function → registry.Canonical function) →
      (∀ decimal ∈ expr.decimals, 0 < decimal.scale) → other = expr
  | .string, .string _ read, _, _ => by rw [eq_value_of_readString read]
  | .integer, .integer _ read, _, _ => by
    rw [readInteger_toString] at read
    cases read
    rfl
  | .decimal fractional, .decimal _ read, _, _ => by
    rw [readDecimal_text fractional] at read
    cases read
    rfl
  | .whole flat, .integer _ _, _, fractional => by
    have := fractional _ (List.mem_singleton.2 rfl)
    omega
  | .boolean, .boolean _, _, _ => rfl
  | .field, .field _ read, _, _ => by rw [eq_value_of_readString read]
  | .lookup, .lookup _ readLink readField _, _, _ => by
    rw [eq_value_of_readString readLink, eq_value_of_readString readField]
  | .call mirrors, .call _ resolved builds, canonical, fractional => by
    rw [(canonical _ .call).name_eq resolved, mirrors.eq_of_buildsAll builds
      (fun arg member function calls => canonical function (.argument member calls)) fractional]

theorem MirrorsAll.eq_of_buildsAll {depth : Nat} {trees : List Tree} {exprs others : List (Expr Unit)} :
    MirrorsAll trees exprs → BuildsAll registry limits depth trees others →
      (∀ expr ∈ exprs, ∀ function, Calls expr function → registry.Canonical function) →
      (∀ decimal ∈ decimalsOfAll exprs, 0 < decimal.scale) → others = exprs
  | .nil, .nil, _, _ => rfl
  | .cons mirrors mirrorsOthers, .cons builds buildsOthers, canonical, fractional => by
    rw [List.forall_mem_cons] at canonical
    rw [decimalsOfAll, List.forall_mem_append] at fractional
    rw [mirrors.eq_of_builds builds canonical.1 fractional.1,
      mirrorsOthers.eq_of_buildsAll buildsOthers canonical.2 fractional.2]

end

end Expr

namespace Compiler

variable {compiler : Compiler}

theorem rename_of_read {source : String} {expr : Expr Unit} {newName : String → String}
    {link : Option String} (read : compiler.read source = .ok expr) :
    compiler.rename newName link source = (expr.rename newName link).print .compact := by
  rw [rename, read, ok_bind]

/-- A text that stands for an expression is read to it or to nothing. -/
theorem eq_of_read_spelled {text : String} {expr result : Expr Unit} (spelled : Spelled text expr)
    (canonical : ∀ function, Calls expr function → compiler.registry.Canonical function)
    (fractional : ∀ decimal ∈ expr.decimals, 0 < decimal.scale)
    (read : compiler.read text = .ok result) : result = expr := by
  obtain ⟨lexemes, final, fed, ended, written⟩ := (spelled [] Token.boundary_nil).ofSource_eq
  obtain ⟨tree, derived, mirrors⟩ := written.expression
  obtain ⟨other, parsed, built⟩ := read_eq_ok_iff.1 read
  rw [parse, Tree.parse_complete compiler.limits fed ended derived] at parsed
  split at parsed
  · cases parsed
    exact mirrors.eq_of_builds (builds_of_buildAt _ built) canonical fractional
  · cases parsed

/-- The text of a formula with renamed fields is read to the renamed expression or to nothing. It is
read as long as all names keep to the limit on texts and no lookup is left with an empty name. -/
theorem read_renamed (compiler : Compiler) (source text : String) (expr : Expr Unit)
    (newName : String → String) (link : Option String) (plain : compiler.registry.PlainlyNamed)
    (read : compiler.read source = .ok expr)
    (fractional : ∀ decimal ∈ expr.decimals, 1 ≤ decimal.scale)
    (renamed : compiler.rename newName link source = .ok text) (result : Expr Unit) :
    compiler.read text = .ok result ↔
      result = expr.rename newName link ∧
        ∀ dependency ∈ (expr.rename newName link).dependencies,
          dependency.Usable compiler.limits := by
  have admissible := admissible_of_read read
  have printed : (expr.rename newName link).print .compact = .ok text := by
    rwa [rename_of_read read] at renamed
  have spelled : Spelled text (expr.rename newName link) :=
    spelled_of_printAt (fun _ calls => admissible.named plain (calls_of_calls_rename calls)) printed
  have fractionalStill : ∀ decimal ∈ (expr.rename newName link).decimals, 0 < decimal.scale := by
    rwa [decimals_rename]
  constructor
  · intro readAgain
    have canonical (function : String) (calls : Calls (expr.rename newName link) function) :
        compiler.registry.Canonical function := by
      obtain ⟨definition, found, named, _⟩ :=
        admissible.exists_of_calls (calls_of_calls_rename calls)
      exact ⟨definition, found, named⟩
    -- Whatever has been read keeps to the limits, and it can only be the renamed expression.
    have same := eq_of_read_spelled spelled canonical fractionalStill readAgain
    refine ⟨same, fun dependency member => ?_⟩
    obtain ⟨level, note, lies⟩ := exists_liesAt_of_reads (mem_dependencies.1 member)
    rw [← same] at lies
    exact (lies.admissible (admissible_of_read readAgain)).fits
  · rintro ⟨rfl, usable⟩
    have restored : Admissible compiler.registry compiler.limits 0 (expr.rename newName link) :=
      admissible.rename fun dependency reads =>
        ⟨usable dependency (mem_dependencies.2 reads), reads.quotable printed⟩
    exact (restores_of_spelled restored spelled).same fractionalStill

/-- A quote in a new name is written so that it is read back, and the places of a decimal are kept. -/
theorem read_renamed_of_quote :
    Compiler.rename {} (newNameIn (.ofList [("a", "it's")])) none "1.50 - lookup('a', 'b')" =
      .ok "minus(1.50,lookup('it\\'s','b'))" ∧
    Compiler.read {} "minus(1.50,lookup('it\\'s','b'))" =
      .ok (.call "minus" [.decimal ⟨150, 2, by decide, by decide⟩ (),
        .reference "b" (some "it's") ()] ()) := by
  let expr : Expr Unit := .call "minus" [.decimal ⟨150, 2, by decide, by decide⟩ (),
    .reference "b" (some "a") ()] ()
  have printed : (expr.rename (newNameIn (.ofList [("a", "it's")])) none).print .compact =
      .ok "minus(1.50,lookup('it\\'s','b'))" := by decide +kernel
  have read : Compiler.read {} "1.50 - lookup('a', 'b')" = .ok expr := by decide +kernel
  have renamed := (rename_of_read read).trans printed
  have reference : expr.rename (newNameIn (.ofList [("a", "it's")])) none =
      .call "minus" [.decimal ⟨150, 2, by decide, by decide⟩ (),
        .reference "b" (some "it's") ()] () := by rfl
  have fractional : ∀ decimal ∈ expr.decimals, 1 ≤ decimal.scale := by decide
  have usable : Dependency.Usable {} ⟨"b", some "it's"⟩ := by
    refine ⟨by decide, ?_, ?_⟩
    all_goals
      rintro _ ⟨⟩
      decide
  refine ⟨renamed, ?_⟩
  refine (read_renamed {} _ _ _ _ _ Registry.standard_plainlyNamed read fractional renamed _).2 ?_
  rw [reference]
  refine ⟨rfl, fun dependency member => ?_⟩
  have reads := mem_dependencies.1 member
  simp only [reads_call_iff, List.mem_cons, List.not_mem_nil, or_false, exists_eq_or_imp,
    exists_eq_left, reads_reference_iff] at reads
  rcases reads with impossible | rfl
  · cases impossible
  · exact usable

/-- An empty name is printed in a lookup, but not read back. -/
theorem read_renamed_of_empty_name :
    Compiler.read {} "lookup('a','b')" = .ok (.reference "b" (some "a") ()) ∧
    Compiler.rename {} (newNameIn (.ofList [("a", "")])) none "lookup('a','b')" =
      .ok "lookup('','b')" ∧
    Compiler.read {} "lookup('','b')" = .error (.malformed ⟨.emptyLookupName, ⟨1, 0⟩⟩) := by
  decide +kernel

end Compiler

end FieldFormula
