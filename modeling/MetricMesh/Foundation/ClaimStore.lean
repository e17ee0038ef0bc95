import Mathlib.Order.Lattice
import Mathlib.Data.List.Basic
import Mathlib.Data.List.Pairwise

/-!
# Expiring claims

A shared map from keys to expiry times in which a key can be claimed only while
it holds no live claim.  An attempt on a key is one atomic test-and-set.

The second half describes the history of such a map: a log of attempts, newest
first, in which every verdict is explained by the granted attempts before it.
Time is any linear order, and a claim is its interval from the attempt to its
expiry.
-/

namespace MetricMesh
namespace Foundation

universe u v w

variable {κ : Type u} {τ : Type v}

def ClaimStore (κ : Type u) (τ : Type v) : Type (max u v) :=
  κ -> Option τ

namespace ClaimStore

def empty : ClaimStore κ τ :=
  fun _ => none

def put [DecidableEq κ] (store : ClaimStore κ τ) (k : κ) (expiry : τ) :
    ClaimStore κ τ :=
  fun k' => if k' = k then some expiry else store k'

variable [LinearOrder τ]

/-- A key is live while its expiry lies in the future. -/
def live (store : ClaimStore κ τ) (k : κ) (now : τ) : Bool :=
  match store k with
  | none => false
  | some expiry => decide (now < expiry)

/-- Claim a key unless it is live; a refused attempt changes nothing. -/
def setNX [DecidableEq κ] (store : ClaimStore κ τ) (k : κ) (now expiry : τ) :
    Bool × ClaimStore κ τ :=
  if store.live k now then
    (false, store)
  else
    (true, store.put k expiry)

@[simp] theorem live_empty (k : κ) (now : τ) :
    (empty : ClaimStore κ τ).live k now = false := rfl

theorem live_antitone {store : ClaimStore κ τ} {k : κ} {now later : τ}
    (hle : now ≤ later) (h : store.live k later = true) :
    store.live k now = true := by
  unfold live at h ⊢
  cases hk : store k with
  | none =>
      rw [hk] at h
      cases h
  | some expiry =>
      rw [hk] at h
      have hlt : later < expiry := by simpa using h
      simpa using lt_of_le_of_lt hle hlt

def AgreeOn (own : κ -> Bool) (store store' : ClaimStore κ τ) : Prop :=
  forall k, own k = true -> store k = store' k

theorem AgreeOn.live {own : κ -> Bool} {store store' : ClaimStore κ τ}
    (h : AgreeOn own store store') {k : κ} (hk : own k = true) (t : τ) :
    store.live k t = store'.live k t := by
  unfold ClaimStore.live
  rw [h k hk]

section Claiming

variable [DecidableEq κ]

@[simp] theorem live_put_self (store : ClaimStore κ τ) (k : κ) (expiry t : τ) :
    (store.put k expiry).live k t = decide (t < expiry) := by
  simp [live, put]

theorem live_put_of_ne (store : ClaimStore κ τ) {k k' : κ} (h : k' ≠ k)
    (expiry t : τ) : (store.put k expiry).live k' t = store.live k' t := by
  simp [live, put, h]

theorem setNX_of_live {store : ClaimStore κ τ} {k : κ} {now expiry : τ}
    (h : store.live k now = true) :
    store.setNX k now expiry = (false, store) := by
  simp [setNX, h]

theorem setNX_of_not_live {store : ClaimStore κ τ} {k : κ} {now expiry : τ}
    (h : store.live k now = false) :
    store.setNX k now expiry = (true, store.put k expiry) := by
  simp [setNX, h]

theorem setNX_granted (store : ClaimStore κ τ) (k : κ) (now expiry : τ) :
    (store.setNX k now expiry).1 = !store.live k now := by
  cases h : store.live k now <;> simp [setNX, h]

end Claiming

end ClaimStore

/-!
# Attempt logs

An attempt records its key, its interval, the verdict, and whatever its author
wants to remember about it.  A key is owned at a time when some granted attempt
on it has not expired by then.
-/

structure ClaimAttempt (κ : Type u) (τ : Type v) (π : Type w) where
  key : κ
  time : τ
  expiry : τ
  granted : Bool
  payload : π

namespace ClaimLog

variable {π : Type w} [LinearOrder τ]

def Owned (log : List (ClaimAttempt κ τ π)) (k : κ) (t : τ) : Prop :=
  exists a, a ∈ log ∧ a.granted = true ∧ a.key = k ∧ t < a.expiry

/-- Every verdict of the log, newest first, is decided by the log before it. -/
inductive Sound : List (ClaimAttempt κ τ π) -> Prop where
  | nil : Sound []
  | cons {a : ClaimAttempt κ τ π} {log : List (ClaimAttempt κ τ π)} :
      (a.granted = true <-> ¬ Owned log a.key a.time) ->
      (forall b, b ∈ log -> b.time ≤ a.time) ->
      Sound log -> Sound (a :: log)

/-- From `now` on, the store and the log name the same live keys. -/
def Agrees (store : ClaimStore κ τ) (log : List (ClaimAttempt κ τ π))
    (now : τ) : Prop :=
  forall k t, now ≤ t -> (store.live k t = true <-> Owned log k t)

theorem owned_cons {a : ClaimAttempt κ τ π} {log : List (ClaimAttempt κ τ π)}
    {k : κ} {t : τ} :
    Owned (a :: log) k t <->
      (a.granted = true ∧ a.key = k ∧ t < a.expiry) ∨ Owned log k t := by
  simp [Owned]

theorem agrees_empty (now : τ) :
    Agrees (ClaimStore.empty : ClaimStore κ τ)
      ([] : List (ClaimAttempt κ τ π)) now := by
  intro k t _
  simp [Owned]

theorem Agrees.later {store : ClaimStore κ τ} {log : List (ClaimAttempt κ τ π)}
    {now later : τ} (h : Agrees store log now) (hle : now ≤ later) :
    Agrees store log later :=
  fun k t ht => h k t (le_trans hle ht)

section Attempting

variable [DecidableEq κ]

def attempt (store : ClaimStore κ τ) (k : κ) (now expiry : τ) (payload : π) :
    ClaimAttempt κ τ π where
  key := k
  time := now
  expiry := expiry
  granted := (store.setNX k now expiry).1
  payload := payload

theorem attempt_granted_iff {store : ClaimStore κ τ}
    {log : List (ClaimAttempt κ τ π)} {now : τ}
    (h : Agrees store log now) (k : κ) (expiry : τ) (payload : π) :
    (attempt store k now expiry payload).granted = true <->
      ¬ Owned log k now := by
  have hlive := h k now (le_refl now)
  rw [← hlive]
  simp [attempt, ClaimStore.setNX_granted]

theorem Agrees.setNX {store : ClaimStore κ τ}
    {log : List (ClaimAttempt κ τ π)} {now : τ}
    (h : Agrees store log now) (k : κ) (expiry : τ) (payload : π) :
    Agrees (store.setNX k now expiry).2
      (attempt store k now expiry payload :: log) now := by
  intro k' t ht
  rw [owned_cons, ← h k' t ht]
  cases hlive : store.live k now with
  | true =>
      -- A refused attempt leaves the store alone and owns nothing.
      simp [attempt, ClaimStore.setNX_of_live hlive]
  | false =>
      rw [ClaimStore.setNX_of_not_live hlive]
      by_cases hk : k' = k
      · subst hk
        have hdead : store.live k' t = false := by
          cases hlater : store.live k' t with
          | false => rfl
          | true =>
              rw [ClaimStore.live_antitone ht hlater] at hlive
              cases hlive
        simp [attempt, ClaimStore.setNX_of_not_live hlive, hdead]
      · simp [ClaimStore.live_put_of_ne store hk, attempt, Ne.symm hk]

theorem Sound.setNX {store : ClaimStore κ τ}
    {log : List (ClaimAttempt κ τ π)} {now : τ}
    (hsound : Sound log) (h : Agrees store log now)
    (hpast : forall b, b ∈ log -> b.time ≤ now)
    (k : κ) (expiry : τ) (payload : π) :
    Sound (attempt store k now expiry payload :: log) :=
  Sound.cons (attempt_granted_iff h k expiry payload) hpast hsound

end Attempting

/-!
# What a sound log says

Granted attempts on one key never overlap, and a refused attempt lies inside
the interval of exactly one granted attempt.
-/

theorem Sound.verdict {log : List (ClaimAttempt κ τ π)} (h : Sound log) :
    forall {later earlier : List (ClaimAttempt κ τ π)}
      {a : ClaimAttempt κ τ π}, log = later ++ a :: earlier ->
      (a.granted = true <-> ¬ Owned earlier a.key a.time) := by
  induction h with
  | nil =>
      intro later earlier a hsplit
      simp at hsplit
  | cons hverdict _ _ ih =>
      intro later earlier a hsplit
      cases later with
      | nil =>
          cases hsplit
          exact hverdict
      | cons _ later =>
          cases hsplit
          exact ih rfl

theorem Sound.disjoint {log : List (ClaimAttempt κ τ π)} (h : Sound log) :
    log.Pairwise (fun later earlier =>
      later.granted = true -> earlier.granted = true ->
        later.key = earlier.key -> earlier.expiry ≤ later.time) := by
  induction h with
  | nil =>
      exact List.Pairwise.nil
  | cons hverdict _ _ ih =>
      apply List.Pairwise.cons
      · intro b hb hlater hearlier hkey
        by_contra hlt
        exact hverdict.mp hlater
          ⟨b, hb, hearlier, hkey.symm, lt_of_not_ge hlt⟩
      · exact ih

theorem Sound.of_append {later earlier : List (ClaimAttempt κ τ π)}
    (h : Sound (later ++ earlier)) : Sound earlier := by
  induction later with
  | nil =>
      exact h
  | cons a later ih =>
      cases h with
      | cons _ _ hrest =>
          exact ih hrest

/-- Two granted attempts on one key that cover one time are the same. -/
theorem Sound.owner_unique {log : List (ClaimAttempt κ τ π)} (h : Sound log)
    {a b : ClaimAttempt κ τ π} (ha : a ∈ log) (hb : b ∈ log)
    (hga : a.granted = true) (hgb : b.granted = true) (hkey : a.key = b.key)
    {t : τ} (hat : a.time ≤ t) (hbt : b.time ≤ t)
    (hta : t < a.expiry) (htb : t < b.expiry) : a = b := by
  let Apart := fun x y : ClaimAttempt κ τ π =>
    x.granted = true -> y.granted = true -> x.key = y.key ->
      y.expiry ≤ x.time ∨ x.expiry ≤ y.time ∨ x = y
  have hsymm : Std.Symm Apart := by
    constructor
    intro x y hxy hgy hgx hkey
    rcases hxy hgx hgy hkey.symm with hle | hle | heq
    · exact Or.inr (Or.inl hle)
    · exact Or.inl hle
    · exact Or.inr (Or.inr heq.symm)
  have hpairs : log.Pairwise Apart :=
    h.disjoint.imp (fun hxy hgx hgy hkey => Or.inl (hxy hgx hgy hkey))
  have hapart := hpairs.forall_of_forall
    (fun x _ _ _ _ => Or.inr (Or.inr rfl)) ha hb hga hgb hkey
  rcases hapart with hle | hle | heq
  · exact absurd (lt_of_lt_of_le htb hle) (not_lt_of_ge hat)
  · exact absurd (lt_of_lt_of_le hta hle) (not_lt_of_ge hbt)
  · exact heq

/-- A refused attempt lies inside the interval of exactly one granted attempt. -/
theorem Sound.refused_owner {later earlier : List (ClaimAttempt κ τ π)}
    {a : ClaimAttempt κ τ π} (h : Sound (later ++ a :: earlier))
    (hrefused : a.granted = false) :
    exists owner, (owner ∈ earlier ∧ owner.granted = true ∧
        owner.key = a.key ∧ owner.time ≤ a.time ∧ a.time < owner.expiry) ∧
      forall other, (other ∈ earlier ∧ other.granted = true ∧
        other.key = a.key ∧ other.time ≤ a.time ∧ a.time < other.expiry) ->
        other = owner := by
  have htail : Sound (a :: earlier) := h.of_append
  cases htail with
  | cons hverdict hpast hsound =>
      have howned : Owned earlier a.key a.time := by
        by_contra hfree
        rw [hverdict.mpr hfree] at hrefused
        cases hrefused
      rcases howned with ⟨owner, hmem, hgranted, hkey, hlt⟩
      refine ⟨owner, ⟨hmem, hgranted, hkey, hpast owner hmem, hlt⟩, ?_⟩
      intro other hother
      rcases hother with ⟨hmem', hgranted', hkey', hle', hlt'⟩
      exact hsound.owner_unique hmem' hmem hgranted' hgranted
        (hkey'.trans hkey.symm) hle' (hpast owner hmem) hlt' hlt

end ClaimLog

end Foundation
end MetricMesh
