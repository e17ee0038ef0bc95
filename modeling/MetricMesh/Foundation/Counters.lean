import Mathlib.Order.Lattice
import Mathlib.Data.List.Basic
import Mathlib.Data.Finset.Basic

/-!
# Expiring counters

A shared map from keys to counters.  Incrementing an absent or expired key
starts a counter at one that never expires; an expiry is set by a later command
of its own and is kept by further increments.

The second part is about lists of numbered entries, newest first, in which every
entry carries one more than the number of earlier entries under its key.
-/

namespace MetricMesh
namespace Foundation

universe u v w

variable {κ : Type u} {τ : Type v}

def CounterStore (κ : Type u) (τ : Type v) : Type (max u v) :=
  κ -> Option (Nat × Option τ)

namespace CounterStore

def put [DecidableEq κ] (store : CounterStore κ τ) (k : κ) (entry : Nat × Option τ) :
    CounterStore κ τ :=
  fun k' => if k' = k then some entry else store k'

@[simp] theorem put_self [DecidableEq κ] (store : CounterStore κ τ) (k : κ)
    (entry : Nat × Option τ) : store.put k entry k = some entry :=
  if_pos rfl

theorem put_of_ne [DecidableEq κ] (store : CounterStore κ τ) {k k' : κ} (h : k' ≠ k)
    (entry : Nat × Option τ) : store.put k entry k' = store k' :=
  if_neg h

variable [LinearOrder τ]

def lookup (store : CounterStore κ τ) (k : κ) (now : τ) : Option (Nat × Option τ) :=
  match store k with
  | none => none
  | some (n, none) => some (n, none)
  | some (n, some expiry) => if now < expiry then some (n, some expiry) else none

section Commands

variable [DecidableEq κ]

def incr (store : CounterStore κ τ) (k : κ) (now : τ) : Nat × CounterStore κ τ :=
  match store.lookup k now with
  | none => (1, store.put k (1, none))
  | some (n, expiry) => (n + 1, store.put k (n + 1, expiry))

/-- The reply is one when the key exists, and zero otherwise. -/
def expire (store : CounterStore κ τ) (k : κ) (now expiry : τ) :
    Nat × CounterStore κ τ :=
  match store.lookup k now with
  | none => (0, store)
  | some (n, _) => (1, store.put k (n, some expiry))

theorem incr_of_ne (store : CounterStore κ τ) {k k' : κ} (h : k' ≠ k) (now : τ) :
    (store.incr k now).2 k' = store k' := by
  unfold incr
  cases store.lookup k now with
  | none =>
      exact put_of_ne store h _
  | some entry =>
      exact put_of_ne store h _

theorem expire_of_ne (store : CounterStore κ τ) {k k' : κ} (h : k' ≠ k)
    (now expiry : τ) : (store.expire k now expiry).2 k' = store k' := by
  unfold expire
  cases store.lookup k now with
  | none =>
      rfl
  | some entry =>
      exact put_of_ne store h _

theorem incr_congr {store store' : CounterStore κ τ} {k : κ} (h : store k = store' k)
    (now : τ) : (store.incr k now).1 = (store'.incr k now).1 ∧
      (store.incr k now).2 k = (store'.incr k now).2 k := by
  have hlookup : store.lookup k now = store'.lookup k now := by
    unfold lookup
    rw [h]
  unfold incr
  rw [hlookup]
  cases store'.lookup k now with
  | none =>
      exact ⟨rfl, (put_self store k _).trans (put_self store' k _).symm⟩
  | some entry =>
      exact ⟨rfl, (put_self store k _).trans (put_self store' k _).symm⟩

theorem expire_congr {store store' : CounterStore κ τ} {k : κ} (h : store k = store' k)
    (now expiry : τ) : (store.expire k now expiry).1 = (store'.expire k now expiry).1 ∧
      (store.expire k now expiry).2 k = (store'.expire k now expiry).2 k := by
  have hlookup : store.lookup k now = store'.lookup k now := by
    unfold lookup
    rw [h]
  unfold expire
  rw [hlookup]
  cases store'.lookup k now with
  | none =>
      exact ⟨rfl, h⟩
  | some entry =>
      exact ⟨rfl, (put_self store k _).trans (put_self store' k _).symm⟩

end Commands

/-!
# Counters that hold until a horizon

A counter that was incremented `n` times and whose expiry, if it has one yet,
lies no earlier than the horizon is read back as `n` until then.
-/

def Holds (store : CounterStore κ τ) (k : κ) (horizon : τ) (n : Nat) : Prop :=
  (n = 0 ∧ store k = none) ∨
    (0 < n ∧ exists expiry, store k = some (n, expiry) ∧
      forall e, expiry = some e -> horizon ≤ e)

theorem Holds.congr {store store' : CounterStore κ τ} {k : κ} {horizon : τ} {n : Nat}
    (h : store.Holds k horizon n) (heq : store' k = store k) :
    store'.Holds k horizon n := by
  unfold Holds
  rw [heq]
  exact h

theorem Holds.lookup {store : CounterStore κ τ} {k : κ} {horizon now : τ} {n : Nat}
    (h : store.Holds k horizon n) (hn : 0 < n) (hnow : now < horizon) :
    exists expiry, store.lookup k now = some (n, expiry) ∧
      forall e, expiry = some e -> horizon ≤ e := by
  rcases h with ⟨hzero, _⟩ | ⟨_, expiry, hentry, hlate⟩
  · exact absurd hzero (Nat.pos_iff_ne_zero.mp hn)
  · refine ⟨expiry, ?_, hlate⟩
    unfold CounterStore.lookup
    cases expiry with
    | none =>
        simp [hentry]
    | some e =>
        simp [hentry, lt_of_lt_of_le hnow (hlate e rfl)]

variable [DecidableEq κ]

theorem Holds.incr {store : CounterStore κ τ} {k : κ} {horizon now : τ} {n : Nat}
    (h : store.Holds k horizon n) (hnow : now < horizon) :
    (store.incr k now).1 = n + 1 ∧ (store.incr k now).2.Holds k horizon (n + 1) := by
  cases n with
  | zero =>
      have hnone : store k = none := by
        rcases h with ⟨_, hnone⟩ | ⟨hpos, _⟩
        · exact hnone
        · exact absurd hpos (Nat.lt_irrefl 0)
      have hlookup : store.lookup k now = none := by
        unfold CounterStore.lookup
        rw [hnone]
      unfold CounterStore.incr
      rw [hlookup]
      refine ⟨rfl, Or.inr ⟨Nat.one_pos, none, put_self store k _, ?_⟩⟩
      intro e he
      cases he
  | succ n =>
      rcases h.lookup (Nat.succ_pos n) hnow with ⟨expiry, hlookup, hlate⟩
      unfold CounterStore.incr
      rw [hlookup]
      exact ⟨rfl, Or.inr ⟨Nat.succ_pos _, expiry, put_self store k _, hlate⟩⟩

theorem Holds.expire {store : CounterStore κ τ} {k k' : κ} {horizon now expiry : τ}
    {n : Nat} (h : store.Holds k horizon n) (hlate : k = k' -> horizon ≤ expiry) :
    (store.expire k' now expiry).2.Holds k horizon n := by
  by_cases hk : k = k'
  · subst hk
    rcases h with ⟨hzero, hnone⟩ | ⟨hpos, old, hentry, hold⟩
    · have hlookup : store.lookup k now = none := by
        unfold CounterStore.lookup
        rw [hnone]
      unfold CounterStore.expire
      rw [hlookup]
      exact Or.inl ⟨hzero, hnone⟩
    · unfold CounterStore.expire
      cases hlookup : store.lookup k now with
      | none =>
          exact Or.inr ⟨hpos, old, hentry, hold⟩
      | some entry =>
          have hvalue : entry.1 = n := by
            unfold CounterStore.lookup at hlookup
            rw [hentry] at hlookup
            cases old with
            | none =>
                exact congrArg Prod.fst (Option.some.inj hlookup).symm
            | some e =>
                simp only at hlookup
                split at hlookup
                · exact congrArg Prod.fst (Option.some.inj hlookup).symm
                · cases hlookup
          refine Or.inr ⟨hpos, some expiry, ?_, ?_⟩
          · simp only
            rw [hvalue]
            exact put_self store k _
          · intro e he
            exact Option.some.inj he ▸ hlate rfl
  · exact h.congr (expire_of_ne store hk now expiry)

end CounterStore

/-!
# Numbered entries
-/

section Numbered

variable {α : Type u} {key : α -> κ} [DecidableEq κ]

def countKey (key : α -> κ) (k : κ) (l : List α) : Nat :=
  l.countP (fun a => key a = k)

/-- Every entry is accounted for by its place among the entries under its key. -/
def Numbered (key : α -> κ) (place : α -> Nat -> Prop) : List α -> Prop
  | [] => True
  | a :: earlier =>
      place a (countKey key (key a) earlier + 1) ∧ Numbered key place earlier

theorem countKey_cons_of_eq {a : α} {k : κ} (h : key a = k) (l : List α) :
    countKey key k (a :: l) = countKey key k l + 1 := by
  simp [countKey, h]

theorem countKey_cons_of_ne {a : α} {k : κ} (h : key a ≠ k) (l : List α) :
    countKey key k (a :: l) = countKey key k l := by
  simp [countKey, h]

theorem countKey_replace {a a' : α} (hkey : key a' = key a) (k : κ)
    (newer older : List α) :
    countKey key k (newer ++ a' :: older) = countKey key k (newer ++ a :: older) := by
  simp [countKey, List.countP_append, List.countP_cons, hkey]

variable {place : α -> Nat -> Prop}

theorem Numbered.replace {a a' : α} {older : List α} (hkey : key a' = key a)
    (hplace : forall n, place a n -> place a' n) :
    forall newer : List α, Numbered key place (newer ++ a :: older) ->
      Numbered key place (newer ++ a' :: older)
  | [], h => by
      refine ⟨?_, h.2⟩
      rw [hkey]
      exact hplace _ h.1
  | b :: newer, h => by
      refine ⟨?_, h.2.replace hkey hplace newer⟩
      have hb : place b (countKey key (key b) (newer ++ a :: older) + 1) := h.1
      rw [← countKey_replace hkey] at hb
      exact hb

theorem Numbered.place_of_mem {a : α} : forall {l : List α}, Numbered key place l ->
    a ∈ l -> exists n, place a n
  | [], _, h => by cases h
  | b :: l, hnum, h => by
      rcases List.mem_cons.mp h with heq | h
      · exact ⟨_, heq ▸ hnum.1⟩
      · exact hnum.2.place_of_mem h

/-- Of the entries under one key, those in the first `quota` places are `good`. -/
theorem Numbered.count_good {good : α -> Bool} {quota : Nat}
    (hgood : forall a n, place a n -> (good a = true <-> n ≤ quota)) (k : κ) :
    forall {l : List α}, Numbered key place l ->
      l.countP (fun a => decide (key a = k) && good a) = min (countKey key k l) quota
  | [], _ => by
      simp [countKey]
  | a :: l, h => by
      have ih := h.2.count_good hgood k
      by_cases hk : key a = k
      · subst hk
        rw [countKey_cons_of_eq rfl]
        have hplace := hgood a _ h.1
        by_cases hle : countKey key (key a) l + 1 ≤ quota
        · rw [List.countP_cons_of_pos (by simp [hplace.mpr hle]), ih]
          omega
        · have hbad : good a = false := by
            cases hcase : good a with
            | false => rfl
            | true => exact absurd (hplace.mp hcase) hle
          rw [List.countP_cons_of_neg (by simp [hbad]), ih]
          omega
      · rw [countKey_cons_of_ne hk, List.countP_cons_of_neg (by simp [hk]), ih]

end Numbered

/-!
# Covering a count
-/

theorem countP_le_add {α : Type u} {p q r : α -> Bool} :
    forall {l : List α}, (forall a, a ∈ l -> p a = true -> q a = true ∨ r a = true) ->
      l.countP p ≤ l.countP q + l.countP r
  | [], _ => by
      simp
  | a :: l, h => by
      have ih := countP_le_add (fun b hb => h b (List.mem_cons_of_mem a hb))
      have ha := h a List.mem_cons_self
      rw [List.countP_cons, List.countP_cons, List.countP_cons]
      cases hp : p a with
      | false =>
          simp only [Bool.false_eq_true, if_false]
          omega
      | true =>
          rcases ha hp with hq | hr
          · simp only [hq, if_true]
            omega
          · simp only [hr, if_true]
            omega

theorem countP_or_of_disjoint {α : Type u} {p q : α -> Bool}
    (h : forall a, p a = true -> q a = false) :
    forall l : List α, l.countP (fun a => p a || q a) = l.countP p + l.countP q
  | [] => by
      simp
  | a :: l => by
      have ih := countP_or_of_disjoint h l
      rw [List.countP_cons, List.countP_cons, List.countP_cons, ih]
      cases hp : p a with
      | false =>
          simp only [Bool.false_or, Bool.false_eq_true, if_false]
          omega
      | true =>
          rw [h a hp]
          simp only [Bool.or_false, Bool.false_eq_true, if_true, if_false]
          omega

end Foundation
end MetricMesh
