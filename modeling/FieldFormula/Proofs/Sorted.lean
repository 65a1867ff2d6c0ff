import Mathlib.Data.List.Nodup
import FieldFormula.Dependency

/-! Sorted lists hold what has been put into them, and stay sorted. For that the order has to be
transitive and to tell any two different elements apart, as those of texts and of dependencies are
and do. -/

namespace FieldFormula

instance trichotomous_text : Std.Trichotomous ((· < ·) : String → String → Prop) where
  trichotomous _ _ notBefore notBehind :=
    String.le_antisymm (String.not_lt.1 notBehind) (String.not_lt.1 notBefore)

theorem Dependency.eq_of_not_viaBefore : (first second : Option String) →
    ¬ viaBefore first second → ¬ viaBefore second first → first = second
  | none, none, _, _ => rfl
  | none, some _, notBefore, _ => absurd rfl notBefore
  | some _, none, _, notBehind => absurd rfl notBehind
  | some first, some second, notBefore, notBehind => by
    simp only [viaBefore, decide_eq_true_eq] at notBefore notBehind
    rw [Std.Trichotomous.trichotomous first second notBefore notBehind]

instance trichotomous_dependency : Std.Trichotomous ((· < ·) : Dependency → Dependency → Prop) where
  trichotomous first second notBefore notBehind := by
    have field : first.field = second.field :=
      Std.Trichotomous.trichotomous _ _ (fun before => notBefore (.inl before))
        (fun behind => notBehind (.inl behind))
    have via : first.via = second.via :=
      Dependency.eq_of_not_viaBefore _ _ (fun before => notBefore (.inr ⟨field, before⟩))
        (fun behind => notBehind (.inr ⟨field.symm, behind⟩))
    cases first
    cases second
    simp only at field via
    rw [field, via]

theorem Dependency.viaBefore_trans : {first second third : Option String} →
    viaBefore first second → viaBefore second third → viaBefore first third
  | none, some _, some _, _, _ => rfl
  | some _, some _, some _, before, behind => by
    simp only [viaBefore, decide_eq_true_eq] at before behind ⊢
    exact String.lt_trans before behind

instance trans_dependency : Trans ((· < ·) : Dependency → Dependency → Prop) (· < ·) (· < ·) where
  trans := by
    rintro first second third (before | ⟨same, before⟩) (behind | ⟨sameBehind, behind⟩)
    · exact .inl (String.lt_trans before behind)
    · exact .inl (sameBehind ▸ before)
    · exact .inl (same ▸ behind)
    · exact .inr ⟨same.trans sameBehind, Dependency.viaBefore_trans before behind⟩

instance irrefl_dependency : Std.Irrefl ((· < ·) : Dependency → Dependency → Prop) where
  irrefl := by
    rintro ⟨field, via⟩ (before | ⟨_, before⟩)
    · exact String.lt_irrefl field before
    · cases via with
      | none => cases before
      | some via => exact String.lt_irrefl via (of_decide_eq_true before)

variable {α : Type} [LT α]

/-- Lists in increasing order are equal if they have the same members. -/
theorem eq_of_mem_iff [Std.Irrefl ((· < ·) : α → α → Prop)]
    [Trans ((· < ·) : α → α → Prop) (· < ·) (· < ·)] {first second : List α}
    (sorted : first.Pairwise (· < ·)) (sortedSecond : second.Pairwise (· < ·))
    (same : ∀ item, item ∈ first ↔ item ∈ second) : first = second := by
  refine List.Perm.eq_of_pairwise (fun item _ _ _ before behind => ?_) sorted sortedSecond
    ((List.perm_ext_iff_of_nodup sorted.nodup sortedSecond.nodup).2 same)
  exact absurd (Trans.trans before behind : item < item) (Std.Irrefl.irrefl item)

variable [DecidableLT α] [Std.Trichotomous ((· < ·) : α → α → Prop)]

@[simp] theorem mem_insertSorted {item other : α} {items : List α} :
    other ∈ insertSorted item items ↔ other = item ∨ other ∈ items := by
  induction items with
  | nil => simp [insertSorted]
  | cons first rest ih =>
    unfold insertSorted
    split
    · exact List.mem_cons
    · next notBefore =>
      split
      · rw [List.mem_cons, List.mem_cons, ih, or_left_comm]
      · next notBehind =>
        rw [Std.Trichotomous.trichotomous item first notBefore notBehind, List.mem_cons,
          or_self_left]

theorem pairwise_insertSorted [Trans ((· < ·) : α → α → Prop) (· < ·) (· < ·)] {item : α}
    {items : List α} (sorted : items.Pairwise (· < ·)) :
    (insertSorted item items).Pairwise (· < ·) := by
  induction items with
  | nil => exact List.pairwise_singleton _ _
  | cons first rest ih =>
    obtain ⟨lowest, restSorted⟩ := List.pairwise_cons.1 sorted
    unfold insertSorted
    split
    · next before =>
      refine List.pairwise_cons.2 ⟨fun other member => ?_, sorted⟩
      rcases List.mem_cons.1 member with rfl | behind
      · exact before
      · exact Trans.trans before (lowest other behind)
    · split
      · next behind =>
        refine List.pairwise_cons.2 ⟨fun other member => ?_, ih restSorted⟩
        rcases mem_insertSorted.1 member with rfl | held
        · exact behind
        · exact lowest other held
      · exact sorted

theorem mem_foldl_insertSorted {other : α} {items sorted : List α} :
    other ∈ items.foldl (fun sorted item => insertSorted item sorted) sorted ↔
      other ∈ items ∨ other ∈ sorted := by
  induction items generalizing sorted with
  | nil => simp
  | cons first rest ih =>
    rw [List.foldl_cons, ih, mem_insertSorted, List.mem_cons, or_left_comm, or_assoc]

@[simp] theorem mem_sortedSet {other : α} {items : List α} :
    other ∈ sortedSet items ↔ other ∈ items := by
  simp [sortedSet, mem_foldl_insertSorted]

theorem pairwise_sortedSet [Trans ((· < ·) : α → α → Prop) (· < ·) (· < ·)] (items : List α) :
    (sortedSet items).Pairwise (· < ·) := by
  have kept (sorted : List α) (increasing : sorted.Pairwise (· < ·)) :
      (items.foldl (fun sorted item => insertSorted item sorted) sorted).Pairwise (· < ·) := by
    induction items generalizing sorted with
    | nil => exact increasing
    | cons first rest ih => exact ih _ (pairwise_insertSorted increasing)
  exact kept [] .nil

end FieldFormula
