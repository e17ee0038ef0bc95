import MetricMesh.Foundation.ClaimStore
import Mathlib.Algebra.Order.Group.Basic

/-!
# How often a key can be claimed

Every claim on a key pushes its expiry by at least the length of a claim.  So the
expiry bounds how many claims of one length there have been since some time,
whatever order the clocks of the claimants come in.
-/

namespace MetricMesh
namespace Foundation

universe u v

namespace ClaimStore

variable {κ : Type u} {τ : Type v} [AddCommGroup τ] [LinearOrder τ]

/-- The expiry of a key leaves room for `n` claims that were made in the interval. -/
def Fits (c start stop : τ) (n : Nat) (store : ClaimStore κ τ) (k : κ) : Prop :=
  n = 0 ∨ exists expiry, store k = some expiry ∧ start + n • c ≤ expiry ∧
    expiry ≤ stop + c

variable {c start stop : τ} {store : ClaimStore κ τ} {k : κ} {m n : Nat}

theorem Fits.put_of_ne [DecidableEq κ] (h : Fits c start stop n store k) {k' : κ}
    (hne : k ≠ k') (expiry : τ) : Fits c start stop n (store.put k' expiry) k := by
  rcases h with hzero | ⟨e, he, hbounds⟩
  · exact Or.inl hzero
  · right
    refine ⟨e, ?_, hbounds⟩
    unfold put
    rw [if_neg hne]
    exact he

variable [IsOrderedAddMonoid τ]

theorem Fits.mono (hc : 0 ≤ c) (h : Fits c start stop n store k) (hle : m ≤ n) :
    Fits c start stop m store k := by
  rcases h with hzero | ⟨expiry, hexpiry, hlower, hupper⟩
  · left
    omega
  · right
    refine ⟨expiry, hexpiry, le_trans ?_ hlower, hupper⟩
    exact add_le_add_right (nsmul_le_nsmul_left hc hle) start

theorem Fits.put_self [DecidableEq κ] {now : τ} (h : Fits c start stop n store k)
    (hlive : store.live k now = false) (hstart : start ≤ now) (hstop : now ≤ stop) :
    Fits c start stop (n + 1) (store.put k (now + c)) k := by
  right
  refine ⟨now + c, by simp [put], ?_, add_le_add_left hstop c⟩
  have hroom : start + n • c ≤ now := by
    rcases h with hzero | ⟨expiry, hexpiry, hlower, _⟩
    · rw [hzero, zero_nsmul, add_zero]
      exact hstart
    · unfold live at hlive
      rw [hexpiry] at hlive
      exact le_trans hlower (not_lt.mp (of_decide_eq_false hlive))
  calc
    start + (n + 1) • c = start + n • c + c := by
      rw [succ_nsmul, add_assoc]
    _ ≤ now + c := add_le_add_left hroom c

/-- No more claims fit than the length of the interval allows, and one. -/
theorem Fits.bound (hc : 0 ≤ c) (hle : start ≤ stop) (h : Fits c start stop n store k) :
    n • c ≤ stop - start + c := by
  rcases h with hzero | ⟨expiry, _, hlower, hupper⟩
  · rw [hzero, zero_nsmul]
    exact add_nonneg (sub_nonneg.mpr hle) hc
  · have hchain := le_trans hlower hupper
    rw [sub_add_eq_add_sub]
    exact le_sub_iff_add_le'.mpr hchain

end ClaimStore

end Foundation
end MetricMesh
