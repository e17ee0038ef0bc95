import Mathlib.Data.Finset.Card
import Mathlib.Data.List.Infix

/-!
# Quorums over a batch

Every item of a batch casts one vote for its key, and an item passes when
enough distinct voters chose its key in the batch.  Whether an item passes
depends on the votes for its key only, so the laws of the filter are laws of
the vote sets.
-/

namespace MetricMesh
namespace Foundation

universe u v w

variable {α : Type u} {κ : Type v} {ν : Type w}
variable [DecidableEq κ] [DecidableEq ν]

/-- The distinct voters for a key. -/
def votes (key : α -> κ) (voter : α -> ν) (batch : List α) (k : κ) : Finset ν :=
  ((batch.filter (fun a => key a = k)).map voter).toFinset

/-- The items whose key has at least `n` voters. -/
def quorum (key : α -> κ) (voter : α -> ν) (n : Int) (batch : List α) : List α :=
  batch.filter (fun a => n ≤ (votes key voter batch (key a)).card)

section Laws

variable {key : α -> κ} {voter : α -> ν}

theorem mem_votes {batch : List α} {k : κ} {v : ν} :
    v ∈ votes key voter batch k <-> exists a, a ∈ batch ∧ key a = k ∧ voter a = v := by
  unfold votes
  rw [List.mem_toFinset, List.mem_map]
  constructor
  · intro h
    rcases h with ⟨a, ha, hv⟩
    rcases List.mem_filter.mp ha with ⟨hmem, hkey⟩
    exact ⟨a, hmem, of_decide_eq_true hkey, hv⟩
  · intro h
    rcases h with ⟨a, hmem, hkey, hv⟩
    exact ⟨a, List.mem_filter.mpr ⟨hmem, decide_eq_true hkey⟩, hv⟩

theorem mem_quorum {n : Int} {batch : List α} {a : α} :
    a ∈ quorum key voter n batch <->
      a ∈ batch ∧ n ≤ (votes key voter batch (key a)).card := by
  unfold quorum
  rw [List.mem_filter, decide_eq_true_iff]

theorem votes_mono {batch more : List α} (h : batch ⊆ more) (k : κ) :
    votes key voter batch k ⊆ votes key voter more k := by
  intro v hv
  rcases mem_votes.mp hv with ⟨a, hmem, hkey, hvoter⟩
  exact mem_votes.mpr ⟨a, h hmem, hkey, hvoter⟩

theorem quorum_sublist (n : Int) (batch : List α) :
    (quorum key voter n batch).Sublist batch :=
  List.filter_sublist

theorem quorum_subset (n : Int) (batch : List α) : quorum key voter n batch ⊆ batch :=
  (quorum_sublist n batch).subset

theorem mem_quorum_congr {n : Int} {batch : List α} {a b : α} (ha : a ∈ batch)
    (hb : b ∈ batch) (hkey : key a = key b) :
    a ∈ quorum key voter n batch <-> b ∈ quorum key voter n batch := by
  rw [mem_quorum, mem_quorum, hkey]
  simp [ha, hb]

/-- A key that passes keeps all of its votes. -/
theorem votes_quorum {n : Int} {batch : List α} {a : α}
    (h : a ∈ quorum key voter n batch) :
    votes key voter (quorum key voter n batch) (key a) =
      votes key voter batch (key a) := by
  apply Finset.Subset.antisymm
  · exact votes_mono (quorum_subset n batch) _
  · intro v hv
    rcases mem_votes.mp hv with ⟨b, hmem, hkey, hvoter⟩
    have hb : b ∈ quorum key voter n batch :=
      (mem_quorum_congr hmem (quorum_subset n batch h) hkey).mpr h
    exact mem_votes.mpr ⟨b, hb, hkey, hvoter⟩

theorem quorum_quorum (n : Int) (batch : List α) :
    quorum key voter n (quorum key voter n batch) = quorum key voter n batch := by
  apply List.filter_eq_self.mpr
  intro a ha
  rw [votes_quorum ha]
  exact decide_eq_true (mem_quorum.mp ha).2

theorem quorum_perm [DecidableEq α] {batch other : List α} (h : other.Perm batch)
    (n : Int) :
    quorum key voter n other = other.filter (fun a => a ∈ quorum key voter n batch) := by
  have hvotes : forall k, votes key voter other k = votes key voter batch k := by
    intro k
    exact Finset.Subset.antisymm (votes_mono h.subset k) (votes_mono h.symm.subset k)
  apply List.filter_congr
  intro a ha
  rw [hvotes (key a)]
  apply decide_eq_decide.mpr
  rw [mem_quorum]
  simp [h.subset ha]

theorem quorum_antitone {m n : Int} (h : m ≤ n) (batch : List α) :
    (quorum key voter n batch).Sublist (quorum key voter m batch) := by
  apply List.monotone_filter_right
  intro a ha
  exact decide_eq_true (h.trans (of_decide_eq_true ha))

theorem quorum_mono {batch more : List α} (h : batch.Sublist more) (n : Int) :
    (quorum key voter n batch).Sublist (quorum key voter n more) := by
  have hwider : (quorum key voter n batch).Sublist
      (batch.filter (fun a => n ≤ (votes key voter more (key a)).card)) := by
    apply List.monotone_filter_right
    intro a ha
    have hvotes : votes key voter batch (key a) ⊆ votes key voter more (key a) :=
      votes_mono h.subset _
    have hcard := Finset.card_le_card hvotes
    have henough := of_decide_eq_true ha
    exact decide_eq_true (by omega)
  exact hwider.trans (h.filter _)

/-- What the items of a key share can be restricted to before or after the vote. -/
theorem quorum_filter {P : α -> Bool} (hkey : forall a b, key a = key b -> P a = P b)
    (n : Int) (batch : List α) :
    (quorum key voter n batch).filter P = quorum key voter n (batch.filter P) := by
  unfold quorum
  rw [List.filter_filter, List.filter_filter]
  apply List.filter_congr
  intro a _
  cases hP : P a with
  | false =>
      simp
  | true =>
      have hvotes : votes key voter (batch.filter P) (key a) =
          votes key voter batch (key a) := by
        unfold votes
        rw [List.filter_filter]
        congr 2
        apply List.filter_congr
        intro b _
        by_cases hb : key b = key a
        · simp [hb, hkey b a hb, hP]
        · simp [hb]
      simp [hvotes]

theorem quorum_of_le_one {n : Int} (h : n ≤ 1) (batch : List α) :
    quorum key voter n batch = batch := by
  apply List.filter_eq_self.mpr
  intro a ha
  have hvote : voter a ∈ votes key voter batch (key a) :=
    mem_votes.mpr ⟨a, ha, rfl, rfl⟩
  have hcard := Finset.card_pos.mpr ⟨voter a, hvote⟩
  exact decide_eq_true (by omega)

end Laws

end Foundation
end MetricMesh
