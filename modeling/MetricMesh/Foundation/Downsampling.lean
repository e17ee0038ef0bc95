import MetricMesh.Foundation.Grouping

/-!
# Grouping what a condition keeps

A summary of the groups of a table and a summary of the groups of its selected
rows agree on a group exactly when the condition drops no row of it.  Which of
the ordered keys a limit shows is a matter of how many smaller keys there are.

Nothing in this module mentions a particular program.
-/

namespace MetricMesh
namespace Foundation

universe u v w

variable {α : Type u} {κ : Type v} {ι : Type w}

/-!
# Groups of selected rows
-/

section Groups

variable [DecidableEq κ] (key : α -> κ) (k : κ) (keep : α -> Bool) (rows : List α)

theorem group_filter :
    group key k (rows.filter keep) = (group key k rows).filter keep := by
  unfold group
  exact List.filter_comm _ _ rows

theorem length_group_filter_eq_iff :
    (group key k (rows.filter keep)).length = (group key k rows).length <->
      forall r, r ∈ group key k rows -> keep r = true := by
  rw [group_filter]
  exact List.length_filter_eq_length_iff

theorem group_filter_of_forall (h : forall r, r ∈ group key k rows -> keep r = true) :
    group key k (rows.filter keep) = group key k rows := by
  rw [group_filter]
  exact List.filter_eq_self.mpr h

theorem group_pair [DecidableEq ι] (owner : α -> ι) (o : ι) :
    group (fun r => (key r, owner r)) (k, o) rows =
      group key k (rows.filter fun r => owner r = o) := by
  unfold group
  rw [List.filter_filter]
  apply List.filter_congr
  intro r _
  simp [Prod.mk.injEq]

end Groups

/-!
# Ordered keys
-/

section Rank

variable [LinearOrder κ]

theorem mem_take_iff_of_increasing {keys : List κ}
    (h : keys.Pairwise fun a b => a < b) {k : κ} :
    forall {limit : Nat},
      k ∈ keys.take limit <-> k ∈ keys ∧ (keys.countP fun a => a < k) < limit := by
  induction keys with
  | nil =>
      intro limit
      simp
  | cons first rest ih =>
      rcases List.pairwise_cons.mp h with ⟨hfirst, hrest⟩
      intro limit
      cases limit with
      | zero =>
          simp
      | succ limit =>
          rw [List.take_succ_cons, List.mem_cons, List.mem_cons, ih hrest, List.countP_cons]
          rcases lt_trichotomy first k with hlt | heq | hgt
          · have hne : k ≠ first := ne_of_gt hlt
            simp [hlt, hne]
          · subst heq
            have hnone : rest.countP (fun a => a < first) = 0 := by
              rw [List.countP_eq_zero]
              intro a ha
              simpa using le_of_lt (hfirst a ha)
            simp [hnone]
          · have hnot : k ∉ rest := by
              intro hmem
              exact lt_asymm hgt (hfirst k hmem)
            have hne : k ≠ first := ne_of_lt hgt
            simp [hnot, hne]

theorem mem_take_groupKeys_iff {key : α -> κ} {rows : List α} {k : κ} {limit : Nat} :
    k ∈ ((groupKeys key rows).insertionSort (fun a b => a ≤ b)).take limit <->
      k ∈ groupKeys key rows ∧ ((groupKeys key rows).countP fun a => a < k) < limit := by
  have hperm := List.perm_insertionSort (fun a b => a ≤ b) (groupKeys key rows)
  rw [mem_take_iff_of_increasing (pairwise_groupKeys key rows), hperm.mem_iff, hperm.countP_eq]

theorem sum_length_groups (key : α -> κ) (rows : List α) :
    (((groupKeys key rows).insertionSort (fun a b => a ≤ b)).map fun k =>
      (group key k rows).length).sum = rows.length := by
  have hcount := countP_eq_sum_groups key (fun _ => true)
    (List.nodup_dedup (rows.map key)) rows
    (fun r hr => mem_groupKeys.mpr (List.mem_map_of_mem hr))
  simp only [List.countP_true] at hcount
  rw [hcount]
  exact (List.Perm.map _ (List.perm_insertionSort _ _)).sum_eq

end Rank

end Foundation
end MetricMesh
