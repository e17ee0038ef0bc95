import Mathlib.Data.List.MinMax
import Mathlib.Data.List.Sort

/-!
# Rankings

Items in descending order of a key, where items with equal keys keep their
order.  The first item of a ranking is the first item with a greatest key.
-/

namespace MetricMesh
namespace Foundation

universe u v w

variable {α : Type u} {β : Type v} {κ : Type w} [LinearOrder κ]

/-- `sorted(items, key=key, reverse=True)`. -/
def rank (key : α -> κ) (items : List α) : List α :=
  items.insertionSort (fun a b => key b ≤ key a)

instance rankTrans (key : α -> κ) : IsTrans α (fun a b => key b ≤ key a) :=
  ⟨fun _ _ _ hab hbc => hbc.trans hab⟩

instance rankTotal (key : α -> κ) : Std.Total (fun a b => key b ≤ key a) :=
  ⟨fun a b => le_total (key b) (key a)⟩

theorem rank_perm (key : α -> κ) (items : List α) : (rank key items).Perm items :=
  List.perm_insertionSort _ _

theorem rank_pairwise (key : α -> κ) (items : List α) :
    (rank key items).Pairwise (fun a b => key b ≤ key a) :=
  List.pairwise_insertionSort _ _

theorem filter_rank (key : α -> κ) (k : κ) (items : List α) :
    (rank key items).filter (fun a => key a = k) = items.filter (fun a => key a = k) := by
  have htied : (items.filter (fun a => key a = k)).Pairwise (fun a b => key b ≤ key a) := by
    apply List.pairwise_of_forall_mem_list
    intro a ha b hb
    have hka := of_decide_eq_true (List.mem_filter.mp ha).2
    have hkb := of_decide_eq_true (List.mem_filter.mp hb).2
    rw [hka, hkb]
  have hsub : (items.filter (fun a => key a = k)).Sublist (rank key items) :=
    List.sublist_insertionSort htied List.filter_sublist
  have hkeep := hsub.filter (fun a => key a = k)
  rw [List.filter_filter] at hkeep
  simp only [Bool.and_self] at hkeep
  symm
  apply hkeep.eq_of_length
  exact ((rank_perm key items).filter _).length_eq.symm

theorem rank_map (key : β -> κ) (f : α -> β) (items : List α) :
    rank key (items.map f) = (rank (key ∘ f) items).map f := by
  symm
  apply List.map_insertionSort
  intro a _ b _
  rfl

theorem head?_orderedInsert (key : α -> κ) (a : α) (items : List α) :
    (items.orderedInsert (fun a b => key b ≤ key a) a).head? =
      some (match items.head? with
        | none => a
        | some b => if key a < key b then b else a) := by
  cases items with
  | nil =>
      rfl
  | cons b rest =>
      rw [List.orderedInsert_cons, List.head?_cons]
      by_cases hlt : key a < key b
      · simp only [if_neg (not_le.mpr hlt), if_pos hlt, List.head?_cons]
      · simp only [if_pos (not_lt.mp hlt), if_neg hlt, List.head?_cons]

theorem head?_rank (key : α -> κ) (items : List α) :
    (rank key items).head? = items.argmax key := by
  induction items with
  | nil =>
      rfl
  | cons a rest ih =>
      unfold rank at ih
      unfold rank
      rw [List.insertionSort_cons, head?_orderedInsert, ih, List.argmax_cons]
      cases rest.argmax key with
      | none =>
          rfl
      | some b =>
          by_cases hlt : key a < key b
          · simp only [if_pos hlt]
          · simp only [if_neg hlt]

theorem argmax_cons_of_le {key : α -> κ} {a : α} {rest : List α}
    (h : forall b, b ∈ rest -> key b ≤ key a) : (a :: rest).argmax key = some a := by
  rw [List.argmax_cons]
  cases hmax : rest.argmax key with
  | none =>
      rfl
  | some b =>
      have hle := h b (List.argmax_mem hmax)
      simp only [if_neg (not_lt.mpr hle)]

end Foundation
end MetricMesh
