import Mathlib.Algebra.Order.Group.Basic
import MetricMesh.Foundation.ClaimBatch

/-!
# Asking for more and asking for less

Two stores are claimed at the same times, for claims of one length, and whenever
the second is asked for a key the first is asked for it as well.  Then the first
grants the key at least as often: a claim that only the second grants falls into
a claim of the first that the second has not matched.
-/

namespace MetricMesh
namespace Foundation

universe u v w

namespace ClaimStore

variable {κ : Type u} {τ : Type v}

section Batches

variable [LinearOrder τ] [DecidableEq κ] {α : Type w} (key : α -> κ)

variable {now : τ} {k : κ} {store : ClaimStore κ τ}

def grants (store : ClaimStore κ τ) (now expiry : τ) (k : κ) (xs : List α) : Nat :=
  ((store.claimAll key now expiry xs).1.map key).count k

theorem grants_eq {expiry : τ} (hlt : now < expiry) (store : ClaimStore κ τ) (k : κ)
    (xs : List α) :
    store.grants key now expiry k xs =
      if k ∈ xs.map key ∧ store.live k now = false then 1 else 0 := by
  unfold grants
  rw [(nodup_claimAll key hlt xs store).count]
  simp only [mem_claimAll key hlt]

theorem live_claimAll_of_not {expiry : τ} (hlt : now < expiry) {xs : List α}
    (hnot : ¬ (k ∈ xs.map key ∧ store.live k now = false)) {t : τ} (ht : now ≤ t) :
    (store.claimAll key now expiry xs).2.live k t = true <-> store.live k t = true := by
  rw [live_claimAll key xs store k t ht, mem_claimAll key hlt]
  exact or_iff_right fun h => hnot h.1

theorem live_claimAll_of_granted {expiry : τ} (hlt : now < expiry) {xs : List α}
    (hgranted : k ∈ xs.map key ∧ store.live k now = false) {t : τ} (ht : now ≤ t) :
    (store.claimAll key now expiry xs).2.live k t = true <-> t < expiry := by
  rw [live_claimAll key xs store k t ht, mem_claimAll key hlt]
  constructor
  · intro h
    rcases h with hnew | hold
    · exact hnew.2
    · rw [live_antitone ht hold] at hgranted
      cases hgranted.2
  · intro h
    exact Or.inl ⟨hgranted, h⟩

end Batches

/-!
# Being ahead
-/

section Leads

variable [AddCommGroup τ] [LinearOrder τ]

/--
The first store has granted the key more often than the second, or as often and
its claim ends no later.
-/
structure Leads (c now : τ) (k : κ) (n n' : Nat) (store store' : ClaimStore κ τ) :
    Prop where
  ends : forall t, store.live k t = true -> t < now + c
  ahead : n' < n ∨ n' = n ∧
    forall t, now ≤ t -> store.live k t = true -> store'.live k t = true

variable {c now : τ} {k : κ} {n n' : Nat} {store store' : ClaimStore κ τ}

theorem leads_empty : Leads c now k 0 0 (empty : ClaimStore κ τ) empty where
  ends := by
    intro t h
    cases h
  ahead := Or.inr ⟨rfl, fun _ _ h => h⟩

theorem Leads.le (h : Leads c now k n n' store store') : n' ≤ n := by
  rcases h.ahead with hlt | ⟨heq, _⟩
  · exact le_of_lt hlt
  · exact le_of_eq heq

theorem Leads.later [IsOrderedAddMonoid τ] (h : Leads c now k n n' store store')
    {later : τ} (hle : now ≤ later) : Leads c later k n n' store store' where
  ends := by
    intro t ht
    exact lt_of_lt_of_le (h.ends t ht) (add_le_add_left hle c)
  ahead := by
    rcases h.ahead with hlt | ⟨heq, hlive⟩
    · exact Or.inl hlt
    · exact Or.inr ⟨heq, fun t ht => hlive t (le_trans hle ht)⟩

variable [IsOrderedAddMonoid τ] [DecidableEq κ] {α : Type w} (key : α -> κ)

theorem Leads.ends_claimAll (hc : 0 < c) (h : Leads c now k n n' store store')
    (xs : List α) (t : τ)
    (ht : (store.claimAll key now (now + c) xs).2.live k t = true) : t < now + c := by
  have hlt : now < now + c := lt_add_of_pos_right now hc
  rcases lt_or_ge t now with hearly | hle
  · exact hearly.trans hlt
  · rcases (live_claimAll key xs store k t hle).mp ht with hnew | hold
    · exact hnew.2
    · exact h.ends t hold

theorem Leads.claimAll (hc : 0 < c) (h : Leads c now k n n' store store')
    {xs ys : List α} (hmore : k ∈ ys.map key -> k ∈ xs.map key) :
    Leads c now k (n + store.grants key now (now + c) k xs)
      (n' + store'.grants key now (now + c) k ys)
      (store.claimAll key now (now + c) xs).2
      (store'.claimAll key now (now + c) ys).2 where
  ends := h.ends_claimAll key hc xs
  ahead := by
    have hlt : now < now + c := lt_add_of_pos_right now hc
    rw [grants_eq key hlt, grants_eq key hlt]
    by_cases hfirst : k ∈ xs.map key ∧ store.live k now = false
    · rw [if_pos hfirst]
      by_cases hsecond : k ∈ ys.map key ∧ store'.live k now = false
      · -- Both are granted, and both claims end together.
        rw [if_pos hsecond]
        rcases h.ahead with hless | ⟨heq, _⟩
        · left
          omega
        · refine Or.inr ⟨by omega, fun t ht hlive => ?_⟩
          rw [live_claimAll_of_granted key hlt hfirst ht] at hlive
          exact (live_claimAll_of_granted key hlt hsecond ht).mpr hlive
      · rw [if_neg hsecond]
        have hle := h.le
        left
        omega
    · rw [if_neg hfirst]
      by_cases hsecond : k ∈ ys.map key ∧ store'.live k now = false
      · -- The first is held by an earlier claim, which the new one outlasts.
        rw [if_pos hsecond]
        have hlive : store.live k now = true := by
          by_contra hfree
          exact hfirst ⟨hmore hsecond.1, eq_false_of_ne_true hfree⟩
        rcases h.ahead with hless | ⟨_, himplies⟩
        · rcases Nat.lt_or_ge (n' + 1) n with hfar | hnear
          · exact Or.inl hfar
          · refine Or.inr ⟨by omega, fun t ht hold => ?_⟩
            rw [live_claimAll_of_not key hlt hfirst ht] at hold
            exact (live_claimAll_of_granted key hlt hsecond ht).mpr (h.ends t hold)
        · have hheld := himplies now (le_refl now) hlive
          rw [hsecond.2] at hheld
          cases hheld
      · rw [if_neg hsecond]
        rcases h.ahead with hless | ⟨heq, himplies⟩
        · exact Or.inl hless
        · refine Or.inr ⟨heq, fun t ht hold => ?_⟩
          rw [live_claimAll_of_not key hlt hfirst ht] at hold
          exact (live_claimAll_of_not key hlt hsecond ht).mpr (himplies t ht hold)

end Leads

end ClaimStore

end Foundation
end MetricMesh
