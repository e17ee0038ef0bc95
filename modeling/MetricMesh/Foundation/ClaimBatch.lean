import Mathlib.Data.List.Dedup
import MetricMesh.Foundation.ClaimStore

/-!
# Claiming a batch at one instant

The keys of a list of items are claimed one after the other while the clock
stands still.  An item passes when its key was free at the start and no item
before it has the key.
-/

namespace MetricMesh
namespace Foundation
namespace ClaimStore

universe u v w

variable {κ : Type u} {τ : Type v} [LinearOrder τ]

variable [DecidableEq κ] {α : Type w} (key : α -> κ)

def claimAll (store : ClaimStore κ τ) (now expiry : τ) :
    List α -> List α × ClaimStore κ τ
  | [] => ([], store)
  | a :: rest =>
      let claim := store.setNX (key a) now expiry
      let tail := claimAll claim.2 now expiry rest
      (if claim.1 then a :: tail.1 else tail.1, tail.2)

@[simp] theorem claimAll_nil (store : ClaimStore κ τ) (now expiry : τ) :
    store.claimAll key now expiry [] = ([], store) := rfl

theorem claimAll_cons_live {store : ClaimStore κ τ} {now expiry : τ} {a : α}
    (h : store.live (key a) now = true) (rest : List α) :
    store.claimAll key now expiry (a :: rest) =
      store.claimAll key now expiry rest := by
  simp [claimAll, setNX_of_live h]

theorem claimAll_cons_free {store : ClaimStore κ τ} {now expiry : τ} {a : α}
    (h : store.live (key a) now = false) (rest : List α) :
    store.claimAll key now expiry (a :: rest) =
      (a :: ((store.put (key a) expiry).claimAll key now expiry rest).1,
        ((store.put (key a) expiry).claimAll key now expiry rest).2) := by
  simp [claimAll, setNX_of_not_live h]

theorem claimAll_append (xs ys : List α) :
    forall (store : ClaimStore κ τ) (now expiry : τ),
      store.claimAll key now expiry (xs ++ ys) =
        ((store.claimAll key now expiry xs).1 ++
            ((store.claimAll key now expiry xs).2.claimAll key now expiry ys).1,
          ((store.claimAll key now expiry xs).2.claimAll key now expiry ys).2) := by
  induction xs with
  | nil =>
      intro store now expiry
      rfl
  | cons a rest ih =>
      intro store now expiry
      rw [List.cons_append]
      cases h : store.live (key a) now with
      | true =>
          rw [claimAll_cons_live key h, claimAll_cons_live key h, ih]
      | false =>
          rw [claimAll_cons_free key h, claimAll_cons_free key h, ih]
          rfl

theorem live_put_of_lt {store : ClaimStore κ τ} {k k' : κ} {now expiry : τ}
    (hlt : now < expiry) :
    (store.put k expiry).live k' now = true <->
      k' = k ∨ store.live k' now = true := by
  by_cases hk : k' = k
  · subst hk
    simp [hlt]
  · simp [live_put_of_ne store hk, hk]

theorem mem_claimAll {now expiry : τ} (hlt : now < expiry) (xs : List α) :
    forall (store : ClaimStore κ τ) (k : κ),
      k ∈ (store.claimAll key now expiry xs).1.map key <->
        k ∈ xs.map key ∧ store.live k now = false := by
  induction xs with
  | nil =>
      intro store k
      simp
  | cons a rest ih =>
      intro store k
      cases h : store.live (key a) now with
      | true =>
          rw [claimAll_cons_live key h, ih, List.map_cons, List.mem_cons]
          constructor
          · intro hgranted
            exact ⟨Or.inr hgranted.1, hgranted.2⟩
          · intro hdue
            rcases hdue with ⟨hkey | hmem, hfree⟩
            · rw [hkey, h] at hfree
              cases hfree
            · exact ⟨hmem, hfree⟩
      | false =>
          rw [claimAll_cons_free key h]
          simp only [List.map_cons, List.mem_cons, ih,
            Bool.eq_false_iff, ne_eq, live_put_of_lt hlt, not_or]
          constructor
          · intro hgranted
            rcases hgranted with hkey | ⟨hmem, _, hfree⟩
            · exact ⟨Or.inl hkey, by simp [hkey, h]⟩
            · exact ⟨Or.inr hmem, hfree⟩
          · intro hdue
            rcases hdue with ⟨hkey | hmem, hfree⟩
            · exact Or.inl hkey
            · by_cases hk : k = key a
              · exact Or.inl hk
              · exact Or.inr ⟨hmem, hk, hfree⟩

theorem nodup_claimAll {now expiry : τ} (hlt : now < expiry) (xs : List α) :
    forall store : ClaimStore κ τ,
      ((store.claimAll key now expiry xs).1.map key).Nodup := by
  induction xs with
  | nil =>
      intro store
      exact List.nodup_nil
  | cons a rest ih =>
      intro store
      cases h : store.live (key a) now with
      | true =>
          rw [claimAll_cons_live key h]
          exact ih store
      | false =>
          rw [claimAll_cons_free key h, List.map_cons, List.nodup_cons]
          refine ⟨?_, ih _⟩
          rw [mem_claimAll key hlt]
          intro hgranted
          have hfree := hgranted.2
          simp [hlt] at hfree

/-- The keys of a batch that are free, each counted once. -/
def freeKeys (store : ClaimStore κ τ) (now : τ) (xs : List α) : List κ :=
  ((xs.map key).filter (fun k => !store.live k now)).dedup

theorem length_claimAll {now expiry : τ} (hlt : now < expiry) (xs : List α)
    (store : ClaimStore κ τ) :
    (store.claimAll key now expiry xs).1.length =
      (store.freeKeys key now xs).length := by
  have hperm : ((store.claimAll key now expiry xs).1.map key).Perm
      (store.freeKeys key now xs) := by
    apply (List.perm_ext_iff_of_nodup (nodup_claimAll key hlt xs store)
      (List.nodup_dedup _)).mpr
    intro k
    rw [mem_claimAll key hlt]
    simp
  simpa using hperm.length_eq

theorem claimAll_eq_nil_iff {now expiry : τ} (hlt : now < expiry)
    (store : ClaimStore κ τ) (xs : List α) :
    (store.claimAll key now expiry xs).1 = [] <->
      forall a, a ∈ xs -> store.live (key a) now = true := by
  constructor
  · intro hnil a ha
    cases hlive : store.live (key a) now with
    | true =>
        rfl
    | false =>
        have hmem := (mem_claimAll key hlt xs store (key a)).mpr
          ⟨List.mem_map_of_mem ha, hlive⟩
        rw [hnil] at hmem
        cases hmem
  · intro hall
    apply List.eq_nil_iff_forall_not_mem.mpr
    intro a ha
    rcases (mem_claimAll key hlt xs store (key a)).mp
      (List.mem_map_of_mem ha) with ⟨hmem, hfree⟩
    rcases List.mem_map.mp hmem with ⟨b, hb, hkey⟩
    rw [← hkey, hall b hb] at hfree
    cases hfree

/-!
# First occurrences

Claiming a batch passes the first item of every free key, in order.
-/

section Firsts

variable {β : Type v} [DecidableEq β] {tag : α -> β}

/-- The items whose tag occurs neither in `seen` nor in an item before them. -/
def firstsFrom (tag : α -> β) (seen : List α) : List α -> List α
  | [] => []
  | a :: rest =>
      if tag a ∈ seen.map tag then firstsFrom tag seen rest
      else a :: firstsFrom tag (a :: seen) rest

def firsts (tag : α -> β) (xs : List α) : List α :=
  firstsFrom tag [] xs

theorem firsts_ne_nil {xs : List α} (h : xs ≠ []) : firsts tag xs ≠ [] := by
  cases xs with
  | nil =>
      exact absurd rfl h
  | cons a rest =>
      simp [firsts, firstsFrom]

theorem firstsFrom_congr {β' : Type v} [DecidableEq β'] {tag' : α -> β'}
    (xs : List α) :
    forall seen : List α,
      (forall a, a ∈ xs -> forall b, b ∈ seen ++ xs -> (tag a = tag b <-> tag' a = tag' b)) ->
        firstsFrom tag seen xs = firstsFrom tag' seen xs := by
  induction xs with
  | nil =>
      intro seen _
      rfl
  | cons a rest ih =>
      intro seen h
      have hmem : tag a ∈ seen.map tag <-> tag' a ∈ seen.map tag' := by
        simp only [List.mem_map]
        constructor
        · intro hold
          rcases hold with ⟨b, hb, heq⟩
          exact ⟨b, hb, ((h a List.mem_cons_self b
            (List.mem_append_left _ hb)).mp heq.symm).symm⟩
        · intro hold
          rcases hold with ⟨b, hb, heq⟩
          exact ⟨b, hb, ((h a List.mem_cons_self b
            (List.mem_append_left _ hb)).mpr heq.symm).symm⟩
      have hseen := ih seen (fun b hb c hc => h b (List.mem_cons_of_mem _ hb) c (by
        rcases List.mem_append.mp hc with hc | hc
        · exact List.mem_append_left _ hc
        · exact List.mem_append_right _ (List.mem_cons_of_mem _ hc)))
      have hnew := ih (a :: seen) (fun b hb c hc => h b (List.mem_cons_of_mem _ hb) c (by
        rcases List.mem_cons.mp hc with hc | hc
        · rw [hc]
          exact List.mem_append_right _ List.mem_cons_self
        · rcases List.mem_append.mp hc with hc | hc
          · exact List.mem_append_left _ hc
          · exact List.mem_append_right _ (List.mem_cons_of_mem _ hc)))
      unfold firstsFrom
      by_cases hold : tag a ∈ seen.map tag
      · rw [if_pos hold, if_pos (hmem.mp hold), hseen]
      · rw [if_neg hold, if_neg (fun hold' => hold (hmem.mpr hold')), hnew]

end Firsts

theorem claimAll_eq_firstsFrom {now expiry : τ} (hlt : now < expiry)
    (start : ClaimStore κ τ) (xs : List α) :
    forall (seen : List α) (store : ClaimStore κ τ),
      (forall k, store.live k now = true <->
        k ∈ seen.map key ∨ start.live k now = true) ->
        (store.claimAll key now expiry xs).1 =
          firstsFrom key seen (xs.filter (fun a => !start.live (key a) now)) := by
  induction xs with
  | nil =>
      intro seen store _
      rfl
  | cons a rest ih =>
      intro seen store hstore
      cases hlive : store.live (key a) now with
      | true =>
          rw [claimAll_cons_live key hlive, ih seen store hstore]
          rcases (hstore (key a)).mp hlive with hseen | hstart
          · cases hstart : start.live (key a) now with
            | true =>
                rw [List.filter_cons_of_neg (by simp [hstart])]
            | false =>
                rw [List.filter_cons_of_pos (by simp [hstart]), firstsFrom,
                  if_pos hseen]
          · rw [List.filter_cons_of_neg (by simp [hstart])]
      | false =>
          have hfree : ¬ (key a ∈ seen.map key ∨ start.live (key a) now = true) := by
            rw [← hstore, hlive]
            exact Bool.false_ne_true
          rcases not_or.mp hfree with ⟨hseen, hstart⟩
          rw [claimAll_cons_free key hlive,
            List.filter_cons_of_pos (by simp [hstart]), firstsFrom, if_neg hseen]
          refine congrArg (List.cons a) (ih (a :: seen) _ ?_)
          intro k
          rw [live_put_of_lt hlt, hstore, List.map_cons, List.mem_cons, or_assoc]

/-- The batch passes the first item of every key that was free at the start. -/
theorem claimAll_eq_firsts {now expiry : τ} (hlt : now < expiry)
    (store : ClaimStore κ τ) (xs : List α) :
    (store.claimAll key now expiry xs).1 =
      firsts key (xs.filter (fun a => !store.live (key a) now)) :=
  claimAll_eq_firstsFrom key hlt store xs [] store (by simp)

theorem claimAll_store {now expiry : τ} (xs : List α) :
    forall store : ClaimStore κ τ,
      (store.claimAll key now expiry xs).2 =
        fun k => if k ∈ (store.claimAll key now expiry xs).1.map key then some expiry
          else store k := by
  induction xs with
  | nil =>
      intro store
      simp
  | cons a rest ih =>
      intro store
      cases hlive : store.live (key a) now with
      | true =>
          rw [claimAll_cons_live key hlive]
          exact ih store
      | false =>
          rw [claimAll_cons_free key hlive, ih]
          funext k
          by_cases hrest : k ∈ ((store.put (key a) expiry).claimAll key now expiry
              rest).1.map key
          · simp [hrest]
          · by_cases hk : k = key a <;> simp [hrest, hk, put]

theorem live_claimAll {now expiry : τ} (xs : List α) :
    forall (store : ClaimStore κ τ) (k : κ) (t : τ), now ≤ t ->
      ((store.claimAll key now expiry xs).2.live k t = true <->
        (k ∈ (store.claimAll key now expiry xs).1.map key ∧ t < expiry) ∨
          store.live k t = true) := by
  induction xs with
  | nil =>
      intro store k t _
      simp
  | cons a rest ih =>
      intro store k t ht
      cases h : store.live (key a) now with
      | true =>
          rw [claimAll_cons_live key h]
          exact ih store k t ht
      | false =>
          rw [claimAll_cons_free key h]
          simp only [List.map_cons, List.mem_cons]
          rw [ih _ k t ht]
          by_cases hk : k = key a
          · subst hk
            have hdead : store.live (key a) t = false := by
              apply Bool.eq_false_iff.mpr
              intro hlater
              rw [live_antitone ht hlater] at h
              cases h
            simp [hdead]
          · simp [live_put_of_ne store hk, hk]

/--
A property of items that the keys respect can be restricted to before or after
the batch is claimed.
-/
theorem claimAll_filter {now expiry : τ} (P : α -> Bool) (xs : List α)
    (hkey : forall a, a ∈ xs -> forall b, b ∈ xs -> P a = true -> P b = false ->
      key a ≠ key b) :
    forall store store' : ClaimStore κ τ,
      (forall a, a ∈ xs -> P a = true ->
        store.live (key a) now = store'.live (key a) now) ->
      (store.claimAll key now expiry xs).1.filter P =
        (store'.claimAll key now expiry (xs.filter P)).1 := by
  induction xs with
  | nil =>
      intro store store' _
      rfl
  | cons a rest ih =>
      have hrest := ih (fun b hb c hc => hkey b (List.mem_cons_of_mem _ hb) c
        (List.mem_cons_of_mem _ hc))
      intro store store' hagree
      have htail : forall b, b ∈ rest -> P b = true ->
          store.live (key b) now = store'.live (key b) now :=
        fun b hb => hagree b (List.mem_cons_of_mem _ hb)
      cases hP : P a with
      | false =>
          rw [List.filter_cons_of_neg (by simp [hP])]
          cases h : store.live (key a) now with
          | true =>
              rw [claimAll_cons_live key h]
              exact hrest store store' htail
          | false =>
              rw [claimAll_cons_free key h, List.filter_cons_of_neg (by simp [hP])]
              apply hrest
              intro b hb hPb
              have hne : key b ≠ key a :=
                hkey b (List.mem_cons_of_mem _ hb) a List.mem_cons_self hPb hP
              rw [live_put_of_ne store hne]
              exact htail b hb hPb
      | true =>
          rw [List.filter_cons_of_pos hP]
          have hhead := hagree a List.mem_cons_self hP
          cases h : store.live (key a) now with
          | true =>
              rw [claimAll_cons_live key h,
                claimAll_cons_live key (hhead.symm.trans h)]
              exact hrest store store' htail
          | false =>
              rw [claimAll_cons_free key h,
                claimAll_cons_free key (hhead.symm.trans h),
                List.filter_cons_of_pos hP]
              congr 1
              apply hrest
              intro b hb hPb
              by_cases hk : key b = key a
              · simp [hk]
              · rw [live_put_of_ne store hk, live_put_of_ne store' hk]
                exact htail b hb hPb

theorem sublist_claimAll {now expiry : τ} (xs : List α) :
    forall store : ClaimStore κ τ,
      ((store.claimAll key now expiry xs).1).Sublist xs := by
  induction xs with
  | nil =>
      intro store
      exact List.Sublist.refl []
  | cons a rest ih =>
      intro store
      cases h : store.live (key a) now with
      | true =>
          rw [claimAll_cons_live key h]
          exact (ih store).cons a
      | false =>
          rw [claimAll_cons_free key h]
          exact (ih _).cons_cons a

/-!
Two stores that are one on a part of the keys stay one on it, when only the items
with such keys are claimed from the second.
-/

section Part

variable {own : κ -> Bool} {key} {P : α -> Bool} {xs : List α}
variable (hkeys : forall a, a ∈ xs -> own (key a) = P a)

include hkeys

theorem AgreeOn.claimAll_fst {store store' : ClaimStore κ τ}
    (h : AgreeOn own store store') (now expiry : τ) :
    (store.claimAll key now expiry xs).1.filter P =
      (store'.claimAll key now expiry (xs.filter P)).1 := by
  apply claimAll_filter
  · intro a ha b hb hPa hPb hkey
    have hown := hkeys a ha
    rw [hkey, hkeys b hb, hPb, hPa] at hown
    cases hown
  · intro a ha hPa
    apply h.live
    rw [hkeys a ha, hPa]

theorem AgreeOn.claimAll_snd {store store' : ClaimStore κ τ}
    (h : AgreeOn own store store') (now expiry : τ) :
    AgreeOn own (store.claimAll key now expiry xs).2
      (store'.claimAll key now expiry (xs.filter P)).2 := by
  intro k hk
  have hgranted : k ∈ (store.claimAll key now expiry xs).1.map key <->
      k ∈ (store'.claimAll key now expiry (xs.filter P)).1.map key := by
    rw [← h.claimAll_fst hkeys]
    constructor
    · intro hmem
      rcases List.mem_map.mp hmem with ⟨a, ha, hkey⟩
      have hPa : P a = true := by
        rw [← hkeys a ((sublist_claimAll key xs store).subset ha), hkey]
        exact hk
      rw [← hkey]
      exact List.mem_map_of_mem (List.mem_filter.mpr ⟨ha, hPa⟩)
    · intro hmem
      rcases List.mem_map.mp hmem with ⟨a, ha, hkey⟩
      rw [← hkey]
      exact List.mem_map_of_mem (List.mem_filter.mp ha).1
  rw [claimAll_store, claimAll_store]
  dsimp only
  by_cases hmem : k ∈ (store.claimAll key now expiry xs).1.map key
  · rw [if_pos hmem, if_pos (hgranted.mp hmem)]
  · rw [if_neg hmem, if_neg fun h' => hmem (hgranted.mpr h')]
    exact h k hk

end Part

end ClaimStore
end Foundation
end MetricMesh
