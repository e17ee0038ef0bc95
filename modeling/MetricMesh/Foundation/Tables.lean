import Mathlib.Data.List.Dedup
import Mathlib.Data.List.Sort
import Mathlib.Tactic.Common

/-!
# Tables as lists of rows

The statements of a relational store on a table that is read as a list of rows:
update the rows that satisfy a condition, insert or replace by key, group by a
key.  Rows have owners, and the main facts say how each statement appears in the
part of a table that belongs to one owner.

Nothing in this module mentions a particular program.
-/

namespace MetricMesh
namespace Foundation

universe u v

variable {α : Type u} {κ : Type v}

/-- `UPDATE ... WHERE`. -/
def updateWhere (cond : α -> Bool) (change : α -> α) (rows : List α) : List α :=
  rows.map fun r => if cond r then change r else r

/-- `INSERT ... ON CONFLICT (key) DO UPDATE`, replacing the row of the key. -/
def upsert [DecidableEq κ] (key : α -> κ) (x : α) : List α -> List α
  | [] => [x]
  | r :: rest => if key r = key x then x :: rest else r :: upsert key x rest

/-- The keys of a `GROUP BY`, in some order. -/
def groupKeys [DecidableEq κ] (key : α -> κ) (rows : List α) : List κ :=
  (rows.map key).dedup

def group [DecidableEq κ] (key : α -> κ) (k : κ) (rows : List α) : List α :=
  rows.filter fun r => key r = k

/-- `ORDER BY ... LIMIT ... OFFSET ...`. -/
def page (before : α -> α -> Prop) [DecidableRel before] (limit offset : Nat)
    (rows : List α) : List α :=
  ((rows.insertionSort before).drop offset).take limit

theorem mem_of_mem_page {before : α -> α -> Prop} [DecidableRel before]
    {limit offset : Nat} {rows : List α} {r : α} (h : r ∈ page before limit offset rows) :
    r ∈ rows :=
  (List.mem_insertionSort before).mp (List.mem_of_mem_drop (List.mem_of_mem_take h))

/-- What is shown of the rows one by one determines what is shown of them all. -/
theorem map_insertionSort_of_pages {β : Type v} (render : α -> β)
    (before : α -> α -> Prop) [DecidableRel before] {rows rows' : List α}
    (h : forall k, (page before 1 k rows).map render = (page before 1 k rows').map render) :
    (rows.insertionSort before).map render = (rows'.insertionSort before).map render := by
  apply List.ext_getElem?
  intro k
  have hk := congrArg List.head? (h k)
  unfold page at hk
  simpa [List.head?_map, List.head?_take, List.head?_drop] using hk

theorem eq_of_perm_of_increasing [LinearOrder κ] {key : α -> κ} {rows rows' : List α}
    (h : rows.Perm rows') (hrows : rows.Pairwise fun a b => key a < key b)
    (hrows' : rows'.Pairwise fun a b => key a < key b) : rows = rows' := by
  apply List.Perm.eq_of_pairwise _ hrows hrows' h
  intro a b _ _ hab hba
  exact absurd hba (lt_asymm hab)

theorem eq_of_filter_of_increasing [LinearOrder κ] {key : α -> κ}
    {rows rows' : List α} (hrows : rows.Pairwise fun a b => key a < key b)
    (hrows' : rows'.Pairwise fun a b => key a < key b) (cond : α -> Bool)
    (hin : rows.filter cond = rows'.filter cond)
    (hout : rows.filter (fun r => !cond r) = rows'.filter fun r => !cond r) :
    rows = rows' := by
  apply eq_of_perm_of_increasing _ hrows hrows'
  have hparts := (List.filter_append_perm cond rows).symm
  rw [hin, hout] at hparts
  exact hparts.trans (List.filter_append_perm cond rows')

theorem pairwise_groupKeys [LinearOrder κ] (key : α -> κ) (rows : List α) :
    ((groupKeys key rows).insertionSort (fun a b => a ≤ b)).Pairwise
      (fun a b => a < b) := by
  have hsorted : ((groupKeys key rows).insertionSort (fun a b => a ≤ b)).Pairwise
      (fun a b => a ≤ b) :=
    List.pairwise_insertionSort _ _
  have hnodup : ((groupKeys key rows).insertionSort (fun a b => a ≤ b)).Nodup :=
    (List.perm_insertionSort _ _).nodup_iff.mpr (List.nodup_dedup _)
  apply List.Pairwise.imp _ (hsorted.and hnodup)
  intro a b h
  exact lt_of_le_of_ne h.1 h.2

/-!
# The row of a key

A lookup by key finds the row that was inserted or replaced last.
-/

theorem find?_upsert_self [DecidableEq κ] (key : α -> κ) (x : α) (rows : List α) :
    (upsert key x rows).find? (fun r => key r = key x) = some x := by
  induction rows with
  | nil =>
      simp [upsert]
  | cons r rest ih =>
      unfold upsert
      by_cases hkey : key r = key x
      · simp [hkey]
      · rw [if_neg hkey, List.find?_cons_of_neg (by simpa using hkey), ih]

theorem find?_upsert_of_ne [DecidableEq κ] (key : α -> κ) {x : α} {k : κ} (h : key x ≠ k)
    (rows : List α) :
    (upsert key x rows).find? (fun r => key r = k) = rows.find? (fun r => key r = k) := by
  induction rows with
  | nil =>
      simp [upsert, h]
  | cons r rest ih =>
      unfold upsert
      by_cases hkey : key r = key x
      · rw [if_pos hkey, List.find?_cons_of_neg (by simpa using h),
          List.find?_cons_of_neg (by simpa [hkey] using h)]
      · rw [if_neg hkey, List.find?_cons, List.find?_cons, ih]

theorem find?_and_of_find? {p q : α -> Bool} {rows : List α} {x : α}
    (h : rows.find? p = some x) (hx : q x = true) :
    rows.find? (fun r => p r && q r) = some x := by
  induction rows with
  | nil =>
      cases h
  | cons r rest ih =>
      rw [List.find?_cons] at h
      rw [List.find?_cons]
      cases hp : p r with
      | true =>
          rw [hp] at h
          injection h with h
          simp [h, hx]
      | false =>
          rw [hp] at h
          exact ih h

/-!
# Groups of a part
-/

theorem filter_dedup [DecidableEq κ] (own : κ -> Bool) (ks : List κ) :
    ks.dedup.filter own = (ks.filter own).dedup := by
  induction ks with
  | nil =>
      rfl
  | cons k rest ih =>
      by_cases hmem : k ∈ rest
      · rw [List.dedup_cons_of_mem hmem, ih]
        cases hown : own k with
        | false =>
            rw [List.filter_cons_of_neg (by simp [hown])]
        | true =>
            rw [List.filter_cons_of_pos hown,
              List.dedup_cons_of_mem (List.mem_filter.mpr ⟨hmem, hown⟩)]
      · rw [List.dedup_cons_of_notMem hmem]
        cases hown : own k with
        | false =>
            rw [List.filter_cons_of_neg (by simp [hown]),
              List.filter_cons_of_neg (by simp [hown]), ih]
        | true =>
            rw [List.filter_cons_of_pos hown, List.filter_cons_of_pos hown, ih,
              List.dedup_cons_of_notMem fun h => hmem (List.mem_filter.mp h).1]

theorem filter_groupKeys [DecidableEq κ] (key : α -> κ) (own : κ -> Bool)
    (rows : List α) :
    (groupKeys key rows).filter own =
      groupKeys key (rows.filter fun r => own (key r)) := by
  unfold groupKeys
  rw [filter_dedup, List.filter_map]
  rfl

/-!
# One owner's part of a table
-/

section Owner

variable (own : α -> Bool)

theorem filter_filter_of_imp {cond : α -> Bool}
    (h : forall r, cond r = true -> own r = true) (rows : List α) :
    (rows.filter own).filter cond = rows.filter cond := by
  rw [List.filter_filter]
  apply List.filter_congr
  intro r _
  cases hcond : cond r with
  | false =>
      rfl
  | true =>
      exact h r hcond

theorem filter_updateWhere {cond : α -> Bool} {change : α -> α}
    (hown : forall r, own (change r) = own r) (rows : List α) :
    (updateWhere cond change rows).filter own =
      updateWhere cond change (rows.filter own) := by
  induction rows with
  | nil =>
      rfl
  | cons r rest ih =>
      have hhead : own (if cond r then change r else r) = own r := by
        split
        · exact hown r
        · rfl
      unfold updateWhere at ih
      unfold updateWhere
      rw [List.map_cons, List.filter_cons, List.filter_cons, hhead, ih]
      cases own r <;> rfl

theorem filter_updateWhere_of_other {cond : α -> Bool} {change : α -> α}
    (hown : forall r, own (change r) = own r)
    (hother : forall r, cond r = true -> own r = false) (rows : List α) :
    (updateWhere cond change rows).filter own = rows.filter own := by
  rw [filter_updateWhere own hown]
  unfold updateWhere
  have hkeep : forall r, r ∈ rows.filter own ->
      (if cond r then change r else r) = r := by
    intro r hr
    rw [if_neg]
    intro hcond
    have howned : own r = true := (List.mem_filter.mp hr).2
    rw [hother r hcond] at howned
    exact Bool.false_ne_true howned
  rw [List.map_congr_left hkeep]
  exact List.map_id' _

theorem filter_upsert [DecidableEq κ] {key : α -> κ}
    (hown : forall r s, key r = key s -> own r = own s) (x : α) (rows : List α) :
    (upsert key x rows).filter own =
      if own x then upsert key x (rows.filter own) else rows.filter own := by
  induction rows with
  | nil =>
      cases hx : own x <;> simp [upsert, hx]
  | cons r rest ih =>
      by_cases hkey : key r = key x
      · have hr : own r = own x := hown r x hkey
        cases hx : own x <;> simp [upsert, hkey, hr, hx]
      · have hstep : upsert key x (r :: rest) = r :: upsert key x rest := by
          simp [upsert, hkey]
        rw [hstep, List.filter_cons, List.filter_cons, ih]
        cases own r <;> cases own x <;> simp [upsert, hkey]

end Owner

end Foundation
end MetricMesh
