import Mathlib.Algebra.Order.BigOperators.Group.List
import Mathlib.Algebra.Order.Ring.Nat
import Mathlib.Data.Finset.Card
import Mathlib.Data.Finset.Dedup
import MetricMesh.Foundation.Tables

/-!
# The aggregates of groups

Every row is in the group of its key and in no other.  So what is counted in the
groups adds up to what is counted in the table, and what is counted once in the
table is counted at least once in the groups.

Nothing in this module mentions a particular program.
-/

namespace MetricMesh
namespace Foundation

universe u v w

variable {α : Type u} {κ : Type v} {β : Type w} [DecidableEq κ]

theorem mem_groupKeys {key : α -> κ} {rows : List α} {k : κ} :
    k ∈ groupKeys key rows <-> k ∈ rows.map key :=
  List.mem_dedup

theorem mem_group {key : α -> κ} {rows : List α} {k : κ} {r : α} :
    r ∈ group key k rows <-> r ∈ rows ∧ key r = k := by
  unfold group
  rw [List.mem_filter, decide_eq_true_iff]

theorem group_filter_ne {key : α -> κ} {k k₀ : κ} (h : k ≠ k₀) (rows : List α) :
    group key k (rows.filter fun r => !decide (key r = k₀)) = group key k rows := by
  apply filter_filter_of_imp
  intro r hr
  rw [of_decide_eq_true hr, decide_eq_false h]
  rfl

omit [DecidableEq κ] in
theorem eq_nil_of_no_key {key : α -> κ} {rows : List α}
    (h : forall r, r ∈ rows -> key r ∈ ([] : List κ)) : rows = [] := by
  apply List.eq_nil_iff_forall_not_mem.mpr
  intro r hr
  cases h r hr

theorem key_mem_of_filter_ne {key : α -> κ} {rows : List α} {k : κ} {rest : List κ}
    (h : forall r, r ∈ rows -> key r ∈ k :: rest) :
    forall r, r ∈ rows.filter (fun r => !decide (key r = k)) -> key r ∈ rest := by
  intro r hr
  rcases List.mem_filter.mp hr with ⟨hmem, hne⟩
  rcases List.mem_cons.mp (h r hmem) with heq | hmem
  · simp [heq] at hne
  · exact hmem

theorem countP_eq_sum_groups (key : α -> κ) (p : α -> Bool) {keys : List κ}
    (hnodup : keys.Nodup) : forall rows : List α, (forall r, r ∈ rows -> key r ∈ keys) ->
      rows.countP p = (keys.map fun k => (group key k rows).countP p).sum := by
  induction keys with
  | nil =>
      intro rows hkeys
      rw [eq_nil_of_no_key hkeys]
      rfl
  | cons k rest ih =>
      intro rows hkeys
      rcases List.nodup_cons.mp hnodup with ⟨hnot, hrest⟩
      have hothers := key_mem_of_filter_ne hkeys
      have hsame : (rest.map fun k' => (group key k'
          (rows.filter fun r => !decide (key r = k))).countP p) =
            rest.map fun k' => (group key k' rows).countP p := by
        apply List.map_congr_left
        intro k' hk'
        have hne : k' ≠ k := by
          intro heq
          rw [heq] at hk'
          exact hnot hk'
        rw [group_filter_ne hne]
      have hsplit := (List.filter_append_perm (fun r => decide (key r = k)) rows).countP_eq p
      rw [List.countP_append] at hsplit
      rw [List.map_cons, List.sum_cons, ← hsplit, ih hrest _ hothers, hsame]
      rfl

/-!
# Distinct values
-/

section Distinct

variable [DecidableEq β] (value : α -> β)

def countDistinct (rows : List α) : Nat :=
  (rows.map value).dedup.length

theorem countDistinct_eq_card (rows : List α) :
    countDistinct value rows = (rows.map value).toFinset.card :=
  (List.card_toFinset _).symm

theorem countDistinct_pos_iff {rows : List α} :
    0 < countDistinct value rows <-> exists r, r ∈ rows := by
  rw [countDistinct_eq_card, Finset.card_pos]
  constructor
  · intro h
    rcases h with ⟨x, hx⟩
    rcases List.mem_map.mp (List.mem_toFinset.mp hx) with ⟨r, hr, _⟩
    exact ⟨r, hr⟩
  · intro h
    rcases h with ⟨r, hr⟩
    exact ⟨value r, List.mem_toFinset.mpr (List.mem_map_of_mem hr)⟩

theorem countDistinct_mono {rows rows' : List α} (h : forall r, r ∈ rows -> r ∈ rows') :
    countDistinct value rows ≤ countDistinct value rows' := by
  rw [countDistinct_eq_card, countDistinct_eq_card]
  apply Finset.card_le_card
  intro x hx
  rcases List.mem_map.mp (List.mem_toFinset.mp hx) with ⟨r, hr, hvalue⟩
  exact List.mem_toFinset.mpr (List.mem_map.mpr ⟨r, h r hr, hvalue⟩)

theorem countDistinct_le_add (cond : α -> Bool) (rows : List α) :
    countDistinct value rows ≤ countDistinct value (rows.filter cond) +
      countDistinct value (rows.filter fun r => !cond r) := by
  rw [countDistinct_eq_card, countDistinct_eq_card, countDistinct_eq_card]
  apply le_trans _ (Finset.card_union_le _ _)
  apply Finset.card_le_card
  intro x hx
  rcases List.mem_map.mp (List.mem_toFinset.mp hx) with ⟨r, hr, hvalue⟩
  rw [Finset.mem_union, List.mem_toFinset, List.mem_toFinset]
  cases hcond : cond r with
  | true =>
      exact Or.inl (List.mem_map.mpr ⟨r, List.mem_filter.mpr ⟨hr, hcond⟩, hvalue⟩)
  | false =>
      exact Or.inr (List.mem_map.mpr ⟨r, List.mem_filter.mpr ⟨hr, by simp [hcond]⟩, hvalue⟩)

theorem countDistinct_le_sum_groups (key : α -> κ) (keys : List κ) :
    forall rows : List α, (forall r, r ∈ rows -> key r ∈ keys) ->
      countDistinct value rows ≤
        (keys.map fun k => countDistinct value (group key k rows)).sum := by
  induction keys with
  | nil =>
      intro rows hkeys
      rw [eq_nil_of_no_key hkeys]
      exact le_refl _
  | cons k rest ih =>
      intro rows hkeys
      have hothers := key_mem_of_filter_ne hkeys
      have hsmaller : (rest.map fun k' => countDistinct value
          (group key k' (rows.filter fun r => !decide (key r = k)))).sum ≤
            (rest.map fun k' => countDistinct value (group key k' rows)).sum := by
        apply List.sum_le_sum
        intro k' _
        apply countDistinct_mono
        intro r hr
        rcases mem_group.mp hr with ⟨hmem, hkey⟩
        exact mem_group.mpr ⟨(List.mem_filter.mp hmem).1, hkey⟩
      rw [List.map_cons, List.sum_cons]
      apply (countDistinct_le_add value (fun r => decide (key r = k)) rows).trans
      exact Nat.add_le_add_left ((ih _ hothers).trans hsmaller) _

end Distinct

end Foundation
end MetricMesh
