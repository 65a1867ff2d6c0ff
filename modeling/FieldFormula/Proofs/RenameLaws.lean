import Mathlib.Logic.Function.Basic
import FieldFormula.Proofs.Expr.References
import FieldFormula.Proofs.Registry

/-! The laws of renaming. Names of one table can be changed in several steps or all at once, names
of the table itself and names behind a link in either order, and what an expression depends on
changes as the expression does. -/

namespace FieldFormula

namespace Dependency

/-- Two renamings of one table are one. -/
theorem rename_rename (first second : String → String) (link : Option String)
    (dependency : Dependency) :
    (dependency.rename first link).rename second link =
      dependency.rename (second ∘ first) link := by
  obtain ⟨field, via⟩ := dependency
  cases link with
  | none => cases via <;> rfl
  | some link =>
    cases via with
    | none => rfl
    | some via => by_cases same : via = link <;> simp [rename, same]

/-- The field behind a link can be renamed before the link or after it. The second order finds the
link under its new name, so no other link may have that name by then. -/
theorem rename_comm {own target : String → String} {link : String} {dependency : Dependency}
    (apart : ∀ other, dependency.via = some other → own other = own link → other = link) :
    (dependency.rename own none).rename target (some (own link)) =
      (dependency.rename target (some link)).rename own none := by
  obtain ⟨field, via⟩ := dependency
  cases via with
  | none => rfl
  | some other =>
    have found : own other = own link ↔ other = link := ⟨apart other rfl, congrArg own⟩
    by_cases same : other = link <;> simp [rename, same, found]

theorem rename_eq_self_iff {newName : String → String} {dependency : Dependency} :
    dependency.rename newName none = dependency ↔
      newName dependency.ownField = dependency.ownField := by
  obtain ⟨field, via⟩ := dependency
  cases via <;> simp [rename, ownField]

theorem rename_through_eq_self_iff {newName : String → String} {link : String}
    {dependency : Dependency} :
    dependency.rename newName (some link) = dependency ↔
      (dependency.via = some link → newName dependency.field = dependency.field) := by
  obtain ⟨field, via⟩ := dependency
  cases via with
  | none => simp [rename]
  | some via => by_cases same : via = link <;> simp [rename, same]

theorem mem_ownFields {dependencies : List Dependency} {name : String} :
    name ∈ ownFields dependencies ↔ ∃ dependency ∈ dependencies, dependency.ownField = name := by
  rw [ownFields, mem_sortedSet, List.mem_map]

theorem ownField_rename (newName : String → String) (dependency : Dependency) :
    (dependency.rename newName none).ownField = newName dependency.ownField := by
  obtain ⟨field, via⟩ := dependency
  cases via <;> rfl

theorem ownField_rename_through (newName : String → String) (link : String)
    (dependency : Dependency) :
    (dependency.rename newName (some link)).ownField = dependency.ownField := by
  obtain ⟨field, via⟩ := dependency
  cases via with
  | none => rfl
  | some via => by_cases same : via = link <;> simp [rename, ownField, same]

end Dependency

theorem Table.get?_foldl_insert {α : Type} (value : String → α) (keys : List String)
    (table : Table α) (key : String) :
    (keys.foldl (fun table key => table.insert key (value key)) table).get? key =
      if key ∈ keys then some (value key) else table.get? key := by
  induction keys generalizing table with
  | nil => simp
  | cons first rest ih =>
    simp only [List.foldl_cons, ih, get?_insert, List.mem_cons]
    by_cases later : key ∈ rest
    · simp [later]
    · by_cases same : key = first
      · simp [same]
      · simp [later, same, Ne.symm same]

namespace Expr

/-- A table can rename in every way that moves finitely many names. -/
theorem exists_newNameIn_iff {newName : String → String} :
    (∃ names, newNameIn names = newName) ↔
      ∃ moved : List String, ∀ name, newName name ≠ name → name ∈ moved := by
  constructor
  · rintro ⟨names, rfl⟩
    refine ⟨names.entries.map Prod.fst, fun name changed => ?_⟩
    cases found : names.get? name with
    | none => simp [newNameIn, found] at changed
    | some value => exact List.mem_map.2 ⟨_, Table.mem_of_get? found, rfl⟩
  · rintro ⟨moved, covered⟩
    refine ⟨moved.foldl (fun names name => names.insert name (newName name)) .empty, ?_⟩
    funext name
    rw [newNameIn, Table.get?_foldl_insert, Table.get?_empty]
    by_cases listed : name ∈ moved
    · simp [listed]
    · have kept : newName name = name := not_imp_comm.1 (covered name) listed
      simp [listed, kept]

theorem exists_newNameIn_comp (first second : Table String) :
    ∃ both, newNameIn both = newNameIn second ∘ newNameIn first := by
  obtain ⟨moved, covered⟩ := exists_newNameIn_iff.1 ⟨first, rfl⟩
  obtain ⟨movedNext, coveredNext⟩ := exists_newNameIn_iff.1 ⟨second, rfl⟩
  refine exists_newNameIn_iff.2 ⟨moved ++ movedNext, fun name changed => ?_⟩
  by_cases kept : newNameIn first name = name
  · rw [Function.comp, kept] at changed
    exact List.mem_append_right _ (coveredNext name changed)
  · exact List.mem_append_left _ (covered name kept)

/-- Names that are exchanged can be exchanged back: the way back moves no other names. -/
theorem exists_newNameIn_inverse {names : Table String}
    (exchange : Function.Bijective (newNameIn names)) :
    ∃ back, Function.LeftInverse (newNameIn back) (newNameIn names) ∧
      Function.RightInverse (newNameIn back) (newNameIn names) := by
  obtain ⟨oldName, left, right⟩ := Function.bijective_iff_has_inverse.1 exchange
  obtain ⟨moved, covered⟩ := exists_newNameIn_iff.1 ⟨names, rfl⟩
  have finite : ∃ moved : List String, ∀ name, oldName name ≠ name → name ∈ moved := by
    refine ⟨moved, fun name changed => covered name fun kept => changed ?_⟩
    rw [← kept, left, kept]
  obtain ⟨back, rfl⟩ := exists_newNameIn_iff.2 finite
  exact ⟨back, left, right⟩

variable {α : Type}

theorem rename_rename (first second : String → String) (link : Option String) (expr : Expr α) :
    (expr.rename first link).rename second link = expr.rename (second ∘ first) link := by
  simp only [rename_eq_mapReferences, mapReferences_mapReferences, mapReferences_eq_iff]
  intro dependency _
  exact dependency.rename_rename first second link

theorem rename_comm {own target : String → String} {link : String} {expr : Expr α}
    (apart : ∀ dependency ∈ expr.dependencies, ∀ other, dependency.via = some other →
      own other = own link → other = link) :
    (expr.rename own none).rename target (some (own link)) =
      (expr.rename target (some link)).rename own none := by
  simp only [rename_eq_mapReferences, mapReferences_mapReferences, mapReferences_eq_iff]
  intro dependency reads
  exact Dependency.rename_comm (apart dependency (mem_dependencies.2 reads))

theorem rename_eq_self_iff {newName : String → String} {expr : Expr α} :
    expr.rename newName none = expr ↔
      ∀ name ∈ Dependency.ownFields expr.dependencies, newName name = name := by
  simp only [rename_eq_mapReferences, mapReferences_eq_self_iff, Dependency.rename_eq_self_iff,
    Dependency.mem_ownFields, forall_exists_index, and_imp, forall_apply_eq_imp_iff₂,
    mem_dependencies]

theorem rename_through_eq_self_iff {newName : String → String} {link : String} {expr : Expr α} :
    expr.rename newName (some link) = expr ↔
      ∀ field, ⟨field, some link⟩ ∈ expr.dependencies → newName field = field := by
  simp only [rename_eq_mapReferences, mapReferences_eq_self_iff,
    Dependency.rename_through_eq_self_iff, mem_dependencies]
  constructor
  · intro fixed field reads
    exact fixed _ reads rfl
  · rintro fixed ⟨field, via⟩ reads rfl
    exact fixed field reads

theorem rename_of_fixed {newName : String → String} (fixed : ∀ name, newName name = name)
    (link : Option String) (expr : Expr α) : expr.rename newName link = expr := by
  cases link with
  | none => exact rename_eq_self_iff.2 fun name _ => fixed name
  | some link => exact rename_through_eq_self_iff.2 fun field _ => fixed field

/-- Renaming acts on expressions: two renamings are one by both new names in turn, and one that can
be undone is undone. Names of the table itself and names behind a link are independent, unless the
link is given the name of another one that the expression uses. All of this stays within what tables
can say. -/
theorem rename_action (expr : Expr α) :
    (∀ first second link, (expr.rename first link).rename second link =
      expr.rename (second ∘ first) link) ∧
    (∀ newName oldName link, Function.LeftInverse oldName newName →
      (expr.rename newName link).rename oldName link = expr) ∧
    (∀ own target link,
      (∀ dependency ∈ expr.dependencies, ∀ other, dependency.via = some other →
        own other = own link → other = link) →
      (expr.rename own none).rename target (some (own link)) =
        (expr.rename target (some link)).rename own none) ∧
    (∀ first second, ∃ both, newNameIn both = newNameIn second ∘ newNameIn first) ∧
    ∀ names, Function.Bijective (newNameIn names) →
      ∃ back, Function.LeftInverse (newNameIn back) (newNameIn names) ∧
        Function.RightInverse (newNameIn back) (newNameIn names) := by
  refine ⟨fun first second link => expr.rename_rename first second link, ?_,
    fun own target link apart => rename_comm apart, exists_newNameIn_comp,
    fun names exchange => exists_newNameIn_inverse exchange⟩
  intro newName oldName link undone
  rw [rename_rename]
  exact rename_of_fixed undone link expr

/-- Two links that exchange their names: a second exchange restores the expression, and a field is
renamed behind the first link alone, before the exchange or after it. -/
theorem rename_action_of_exchange :
    ∃ exchange target : String → String,
      exchange = newNameIn (.ofList [("a", "b"), ("b", "a")]) ∧
      target = newNameIn (.ofList [("c", "d")]) ∧
      ∃ expr : Expr Unit,
        expr = .call "add" [.reference "c" (some "a") (), .reference "c" (some "b") ()] () ∧
        (expr.rename exchange none).rename exchange none = expr ∧
        (expr.rename exchange none).rename target (some "b") =
          (expr.rename target (some "a")).rename exchange none ∧
        (expr.rename target (some "a")).rename exchange none =
          .call "add" [.reference "d" (some "b") (), .reference "c" (some "a") ()] () := by
  let exchange := newNameIn (.ofList [("a", "b"), ("b", "a")])
  let target := newNameIn (.ofList [("c", "d")])
  let expr : Expr Unit :=
    .call "add" [.reference "c" (some "a") (), .reference "c" (some "b") ()] ()
  have undone : Function.LeftInverse exchange exchange := by
    intro name
    by_cases first : name = "a"
    · subst first
      decide
    · by_cases second : name = "b"
      · subst second
        decide
      · simp [exchange, newNameIn, Table.ofList, Ne.symm first, Ne.symm second]
  have apart : ∀ dependency ∈ expr.dependencies, ∀ other, dependency.via = some other →
      exchange other = exchange "a" → other = "a" := by
    intro dependency _ other _ same
    exact undone.injective same
  obtain ⟨_, restored, moved, _⟩ := rename_action expr
  exact ⟨exchange, target, rfl, rfl, expr, rfl, restored _ _ none undone,
    moved exchange target "a" apart, rfl⟩

theorem mem_dependencies_rename_iff {newName : String → String} {link : Option String}
    {expr : Expr α} {dependency : Dependency} :
    dependency ∈ (expr.rename newName link).dependencies ↔
      ∃ origin ∈ expr.dependencies, origin.rename newName link = dependency := by
  simp only [mem_dependencies, rename_eq_mapReferences, reads_mapReferences_iff]

theorem dependencies_rename_eq (newName : String → String) (link : Option String)
    (expr : Expr α) :
    (expr.rename newName link).dependencies =
      sortedSet (expr.dependencies.map (Dependency.rename newName link)) := by
  refine eq_of_mem_iff (pairwise_dependencies _) (pairwise_sortedSet _) fun dependency => ?_
  rw [mem_dependencies_rename_iff, mem_sortedSet, List.mem_map]

/-- What an expression depends on is renamed as the expression is. Without a link, the names of
fields of the table itself are replaced, those of link fields as well; with one, the names behind
it. So the fields that are read in the table itself are renamed, or they stay; and an expression
stays as it is exactly if each of the names in question does. -/
theorem dependencies_rename (newName : String → String) (expr : Expr α) :
    ((expr.rename newName none).dependencies = sortedSet (expr.dependencies.map fun dependency =>
      match dependency.via with
      | none => ⟨newName dependency.field, none⟩
      | some via => ⟨dependency.field, some (newName via)⟩)) ∧
    (∀ link, (expr.rename newName (some link)).dependencies =
      sortedSet (expr.dependencies.map fun dependency =>
        if dependency.via = some link then ⟨newName dependency.field, some link⟩
        else dependency)) ∧
    Dependency.ownFields (expr.rename newName none).dependencies =
      sortedSet ((Dependency.ownFields expr.dependencies).map newName) ∧
    (∀ link, Dependency.ownFields (expr.rename newName (some link)).dependencies =
      Dependency.ownFields expr.dependencies) ∧
    (expr.rename newName none = expr ↔
      ∀ name ∈ Dependency.ownFields expr.dependencies, newName name = name) ∧
    ∀ link, expr.rename newName (some link) = expr ↔
      ∀ field, ⟨field, some link⟩ ∈ expr.dependencies → newName field = field := by
  refine ⟨?_, fun link => ?_, ?_, fun link => ?_, rename_eq_self_iff,
    fun link => rename_through_eq_self_iff⟩
  · have spelled : Dependency.rename newName none = fun dependency =>
        match dependency.via with
        | none => ⟨newName dependency.field, none⟩
        | some via => ⟨dependency.field, some (newName via)⟩ := by
      funext ⟨field, via⟩
      cases via <;> rfl
    rw [dependencies_rename_eq, spelled]
  · have spelled : Dependency.rename newName (some link) = fun dependency =>
        if dependency.via = some link then ⟨newName dependency.field, some link⟩
        else dependency := by
      funext ⟨field, via⟩
      cases via with
      | none => rfl
      | some via => by_cases same : via = link <;> simp [Dependency.rename, same]
    rw [dependencies_rename_eq, spelled]
  · refine eq_of_mem_iff (pairwise_sortedSet _) (pairwise_sortedSet _) fun name => ?_
    simp only [Dependency.mem_ownFields, mem_dependencies_rename_iff, mem_sortedSet, List.mem_map,
      exists_exists_and_eq_and, Dependency.ownField_rename]
  · refine eq_of_mem_iff (pairwise_sortedSet _) (pairwise_sortedSet _) fun name => ?_
    simp only [Dependency.mem_ownFields, mem_dependencies_rename_iff, exists_exists_and_eq_and,
      Dependency.ownField_rename_through]

end Expr

end FieldFormula
