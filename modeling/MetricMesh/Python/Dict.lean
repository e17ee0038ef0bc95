import Mathlib.Data.List.Basic
import Mathlib.Data.List.Dedup

/-!
# Insertion-ordered dictionaries

A dictionary is the list of its items in insertion order.  Assigning to a key
that is present replaces the value in place, and a new key goes to the end.
-/

namespace MetricMesh
namespace Python

universe u v w

variable {κ : Type u} {α : Type v}

abbrev Dict (κ : Type u) (α : Type v) : Type (max u v) :=
  List (κ × α)

namespace Dict

variable [DecidableEq κ]

def get? : Dict κ α -> κ -> Option α
  | [], _ => none
  | (k', v) :: rest, k => if k' = k then some v else get? rest k

def insert : Dict κ α -> κ -> α -> Dict κ α
  | [], k, v => [(k, v)]
  | (k', v') :: rest, k, v =>
      if k' = k then (k', v) :: rest else (k', v') :: insert rest k v

def ofPairs (pairs : List (κ × α)) : Dict κ α :=
  pairs.foldl (fun d p => insert d p.1 p.2) []

@[simp] theorem get?_nil (k : κ) : get? ([] : Dict κ α) k = none := rfl

theorem get?_insert (d : Dict κ α) (k k' : κ) (v : α) :
    get? (insert d k v) k' = if k = k' then some v else get? d k' := by
  induction d with
  | nil =>
      rfl
  | cons p rest ih =>
      rcases p with ⟨k₀, v₀⟩
      by_cases hk : k₀ = k
      · subst hk
        by_cases hk' : k₀ = k' <;> simp [insert, get?, hk']
      · by_cases hk' : k₀ = k'
        · subst hk'
          simp [insert, get?, hk, Ne.symm hk]
        · simp [insert, get?, hk, hk', ih]

theorem insert_ne_nil (d : Dict κ α) (k : κ) (v : α) : insert d k v ≠ [] := by
  cases d with
  | nil =>
      simp [insert]
  | cons p rest =>
      by_cases hk : p.1 = k <;> simp [insert, hk]

/-!
# What a sequence of assignments builds

The keys are those that are assigned to, each once, and a key has the value of
the last assignment to it.
-/

def keys (d : Dict κ α) : List κ :=
  d.map Prod.fst

def last? : List (κ × α) -> κ -> Option α
  | [], _ => none
  | p :: rest, k => (last? rest k).or (if p.1 = k then some p.2 else none)

theorem keys_insert (d : Dict κ α) (k : κ) (v : α) :
    keys (insert d k v) = if k ∈ keys d then keys d else keys d ++ [k] := by
  induction d with
  | nil =>
      rfl
  | cons p rest ih =>
      rcases p with ⟨k', v'⟩
      by_cases hk : k' = k
      · simp [insert, keys, hk]
      · have hne : k ≠ k' := Ne.symm hk
        have hcons : keys ((k', v') :: rest) = k' :: keys rest := rfl
        rw [insert, if_neg hk, hcons]
        show k' :: keys (insert rest k v) = _
        rw [ih]
        by_cases hmem : k ∈ keys rest
        · rw [if_pos hmem, if_pos (List.mem_cons_of_mem k' hmem)]
        · rw [if_neg hmem, if_neg (by
            intro h
            rcases List.mem_cons.mp h with h | h
            · exact hne h
            · exact hmem h)]
          rfl

theorem nodup_keys_insert {d : Dict κ α} (h : (keys d).Nodup) (k : κ) (v : α) :
    (keys (insert d k v)).Nodup := by
  rw [keys_insert]
  by_cases hmem : k ∈ keys d
  · rw [if_pos hmem]
    exact h
  · rw [if_neg hmem, List.nodup_append]
    refine ⟨h, List.nodup_singleton k, ?_⟩
    intro a ha b hb
    rw [List.mem_singleton.mp hb]
    intro hab
    exact hmem (hab ▸ ha)

theorem mem_iff_get? {d : Dict κ α} (h : (keys d).Nodup) {k : κ} {v : α} :
    (k, v) ∈ d <-> d.get? k = some v := by
  induction d with
  | nil =>
      simp
  | cons p rest ih =>
      rcases p with ⟨k', v'⟩
      rcases List.nodup_cons.mp h with ⟨hnot, hrest⟩
      rw [List.mem_cons, get?, ih hrest, Prod.mk.injEq]
      by_cases hk : k' = k
      · have hnone : ¬ get? rest k = some v := by
          rw [← ih hrest]
          intro hmem
          rw [hk] at hnot
          exact hnot (List.mem_map.mpr ⟨(k, v), hmem, rfl⟩)
        rw [if_pos hk, or_iff_left hnone, Option.some.injEq]
        constructor
        · intro heq
          exact heq.2.symm
        · intro heq
          exact ⟨hk.symm, heq.symm⟩
      · rw [if_neg hk]
        constructor
        · intro hor
          rcases hor with heq | hget
          · exact absurd heq.1.symm hk
          · exact hget
        · intro hget
          exact Or.inr hget

theorem get?_ofPairs_from (pairs : List (κ × α)) (k : κ) :
    forall d : Dict κ α,
      (pairs.foldl (fun d p => insert d p.1 p.2) d).get? k =
        (last? pairs k).or (d.get? k) := by
  induction pairs with
  | nil =>
      intro d
      simp [last?]
  | cons p rest ih =>
      intro d
      rw [List.foldl_cons, ih, get?_insert, last?]
      by_cases hk : p.1 = k <;> cases last? rest k <;> simp [hk]

theorem get?_ofPairs (pairs : List (κ × α)) (k : κ) :
    (ofPairs pairs).get? k = last? pairs k := by
  unfold ofPairs
  rw [get?_ofPairs_from, get?_nil, Option.or_none]

theorem keys_ofPairs_from (pairs : List (κ × α)) :
    forall d : Dict κ α, (keys d).Nodup ->
      (keys (pairs.foldl (fun d p => insert d p.1 p.2) d)).Nodup ∧
        forall k, k ∈ keys (pairs.foldl (fun d p => insert d p.1 p.2) d) <->
          k ∈ keys d ∨ k ∈ pairs.map Prod.fst := by
  induction pairs with
  | nil =>
      intro d hd
      exact ⟨hd, by simp⟩
  | cons p rest ih =>
      intro d hd
      rcases ih (insert d p.1 p.2) (nodup_keys_insert hd p.1 p.2) with ⟨hnodup, hmem⟩
      refine ⟨hnodup, ?_⟩
      intro k
      rw [List.foldl_cons, hmem k, keys_insert, List.map_cons, List.mem_cons]
      by_cases hp : p.1 ∈ keys d
      · rw [if_pos hp]
        constructor
        · intro h
          rcases h with h | h
          · exact Or.inl h
          · exact Or.inr (Or.inr h)
        · intro h
          rcases h with h | h | h
          · exact Or.inl h
          · exact Or.inl (h ▸ hp)
          · exact Or.inr h
      · rw [if_neg hp, List.mem_append, List.mem_singleton, or_assoc]

theorem nodup_keys_ofPairs (pairs : List (κ × α)) : (keys (ofPairs pairs)).Nodup :=
  (keys_ofPairs_from pairs [] List.nodup_nil).1

theorem length_ofPairs (pairs : List (κ × α)) :
    (ofPairs pairs).length = (pairs.map Prod.fst).dedup.length := by
  have hperm : (keys (ofPairs pairs)).Perm (pairs.map Prod.fst).dedup := by
    apply (List.perm_ext_iff_of_nodup (nodup_keys_ofPairs pairs)
      (List.nodup_dedup _)).mpr
    intro k
    unfold ofPairs
    rw [(keys_ofPairs_from pairs [] List.nodup_nil).2 k, List.mem_dedup]
    simp [keys]
  rw [← hperm.length_eq]
  exact (List.length_map Prod.fst).symm

theorem mem_ofPairs {pairs : List (κ × α)} {k : κ} {v : α} :
    (k, v) ∈ ofPairs pairs <-> last? pairs k = some v := by
  rw [mem_iff_get? (nodup_keys_ofPairs pairs), get?_ofPairs]

theorem last?_isSome {pairs : List (κ × α)} {k : κ} :
    (exists v, last? pairs k = some v) <-> k ∈ pairs.map Prod.fst := by
  induction pairs with
  | nil =>
      simp [last?]
  | cons p rest ih =>
      rw [last?, List.map_cons, List.mem_cons, ← ih]
      cases hlast : last? rest k with
      | some v =>
          simp
      | none =>
          by_cases hk : p.1 = k
          · simp [hk]
          · simp [hk, Ne.symm hk]

theorem insert_of_not_mem {d : Dict κ α} {k : κ} (h : k ∉ keys d) (v : α) :
    insert d k v = d ++ [(k, v)] := by
  induction d with
  | nil =>
      rfl
  | cons p rest ih =>
      have hne : p.1 ≠ k := fun heq => h (heq ▸ List.mem_cons_self)
      rw [insert, if_neg hne, ih (fun hmem => h (List.mem_cons_of_mem _ hmem))]
      rfl

theorem ofPairs_from_of_nodup (pairs : List (κ × α)) :
    forall d : Dict κ α, (keys (d ++ pairs)).Nodup ->
      pairs.foldl (fun d p => insert d p.1 p.2) d = d ++ pairs := by
  induction pairs with
  | nil =>
      intro d _
      simp
  | cons p rest ih =>
      intro d h
      have hassoc : d ++ p :: rest = d ++ [p] ++ rest := by simp
      have hnew : p.1 ∉ keys d := by
        intro hmem
        unfold keys at h hmem
        rw [List.map_append, List.nodup_append] at h
        exact h.2.2 p.1 hmem p.1 List.mem_cons_self rfl
      rw [List.foldl_cons, insert_of_not_mem hnew, hassoc]
      exact ih (d ++ [p]) (hassoc ▸ h)

theorem ofPairs_of_nodup {pairs : List (κ × α)} (h : (pairs.map Prod.fst).Nodup) :
    ofPairs pairs = pairs := by
  unfold ofPairs
  rw [ofPairs_from_of_nodup pairs [] h]
  rfl

theorem last?_concat (pairs : List (κ × α)) (k : κ) (v : α) :
    last? (pairs ++ [(k, v)]) k = some v := by
  induction pairs with
  | nil =>
      simp [last?]
  | cons p rest ih =>
      rw [List.cons_append, last?, ih, Option.some_or]

theorem mem_of_last? {pairs : List (κ × α)} {k : κ} {v : α}
    (h : last? pairs k = some v) : (k, v) ∈ pairs := by
  induction pairs with
  | nil =>
      cases h
  | cons p rest ih =>
      rw [last?] at h
      cases hlast : last? rest k with
      | some w =>
          rw [hlast, Option.some_or] at h
          exact List.mem_cons_of_mem p (ih (hlast.trans h))
      | none =>
          rw [hlast, Option.none_or] at h
          by_cases hk : p.1 = k
          · rw [if_pos hk] at h
            injection h with h
            rw [← hk, ← h]
            exact List.mem_cons_self
          · rw [if_neg hk] at h
            cases h

/-!
# Values that are determined by their keys
-/

theorem last?_of_determined {pairs : List (κ × α)} {value : κ -> α}
    (h : forall p, p ∈ pairs -> p.2 = value p.1) (k : κ) :
    last? pairs k = if k ∈ pairs.map Prod.fst then some (value k) else none := by
  by_cases hk : k ∈ pairs.map Prod.fst
  · rcases last?_isSome.mpr hk with ⟨v, hlast⟩
    have hv : v = value k := h (k, v) (mem_of_last? hlast)
    rw [if_pos hk, hlast, hv]
  · rw [if_neg hk]
    cases hlast : last? pairs k with
    | none =>
        rfl
    | some v =>
        exact absurd (List.mem_map_of_mem (mem_of_last? hlast)) hk

theorem getD_ofPairs_of_determined {pairs : List (κ × α)} {value : κ -> α} {default : α}
    (h : forall p, p ∈ pairs -> p.2 = value p.1) {k : κ}
    (hdefault : k ∉ pairs.map Prod.fst -> value k = default) :
    ((ofPairs pairs).get? k).getD default = value k := by
  rw [get?_ofPairs, last?_of_determined h]
  by_cases hk : k ∈ pairs.map Prod.fst
  · rw [if_pos hk, Option.getD_some]
  · rw [if_neg hk, Option.getD_none, hdefault hk]

/-!
# Items collected under their keys

A key has the list of what was collected under it, in order.
-/

section Collect

variable {β : Type w}

/-- `d.setdefault(key(b), []).append(value(b))` for each of the items. -/
def collect (key : β -> κ) (value : β -> α) (items : List β) : Dict κ (List α) :=
  items.foldl (fun d b => d.insert (key b) ((d.get? (key b)).getD [] ++ [value b])) []

theorem get?_collect_from (key : β -> κ) (value : β -> α) (items : List β) (k : κ) :
    forall d : Dict κ (List α),
      (items.foldl (fun d b => d.insert (key b) ((d.get? (key b)).getD [] ++ [value b])) d).get?
          k =
        if k ∈ items.map key then
          some ((d.get? k).getD [] ++ (items.filter fun b => key b = k).map value)
        else d.get? k := by
  induction items with
  | nil =>
      intro d
      rfl
  | cons b rest ih =>
      intro d
      rw [List.foldl_cons, ih, get?_insert, List.map_cons]
      by_cases hk : key b = k
      · rw [hk, List.filter_cons_of_pos (by simpa using hk), if_pos rfl,
          if_pos List.mem_cons_self]
        by_cases hrest : k ∈ rest.map key
        · rw [if_pos hrest]
          simp
        · have hempty : rest.filter (fun b => key b = k) = [] := by
            apply List.filter_eq_nil_iff.mpr
            intro c hc hck
            exact hrest (List.mem_map.mpr ⟨c, hc, of_decide_eq_true hck⟩)
          rw [if_neg hrest, hempty]
          simp
      · rw [List.filter_cons_of_neg (by simpa using hk), if_neg hk]
        by_cases hrest : k ∈ rest.map key
        · rw [if_pos hrest, if_pos (List.mem_cons_of_mem _ hrest)]
        · rw [if_neg hrest, if_neg (by
            intro hmem
            rcases List.mem_cons.mp hmem with heq | hmem
            · exact hk heq.symm
            · exact hrest hmem)]

theorem get?_collect (key : β -> κ) (value : β -> α) (items : List β) (k : κ) :
    (collect key value items).get? k =
      if k ∈ items.map key then some ((items.filter fun b => key b = k).map value)
      else none := by
  unfold collect
  rw [get?_collect_from, get?_nil]
  rfl

theorem nodup_keys_collect (key : β -> κ) (value : β -> α) (items : List β) :
    (keys (collect key value items)).Nodup := by
  have hfrom : forall d : Dict κ (List α), (keys d).Nodup ->
      (keys (items.foldl
        (fun d b => d.insert (key b) ((d.get? (key b)).getD [] ++ [value b])) d)).Nodup := by
    induction items with
    | nil =>
        intro d hd
        exact hd
    | cons b rest ih =>
        intro d hd
        exact ih _ (nodup_keys_insert hd _ _)
  exact hfrom [] List.nodup_nil

theorem mem_collect {key : β -> κ} {value : β -> α} {items : List β} {k : κ}
    {values : List α} :
    (k, values) ∈ collect key value items <->
      k ∈ items.map key ∧ values = (items.filter fun b => key b = k).map value := by
  rw [mem_iff_get? (nodup_keys_collect key value items), get?_collect]
  by_cases hk : k ∈ items.map key
  · rw [if_pos hk, Option.some.injEq]
    constructor
    · intro h
      exact ⟨hk, h.symm⟩
    · intro h
      exact h.2.symm
  · rw [if_neg hk]
    constructor
    · intro h
      cases h
    · intro h
      exact absurd h.1 hk

theorem flatMap_insert_perm (d : Dict κ (List α)) (k : κ) (v : α) :
    ((d.insert k ((d.get? k).getD [] ++ [v])).flatMap Prod.snd).Perm
      (d.flatMap Prod.snd ++ [v]) := by
  induction d with
  | nil =>
      exact List.Perm.refl _
  | cons p rest ih =>
      rcases p with ⟨k', values⟩
      by_cases hk : k' = k
      · rw [insert, if_pos hk, get?, if_pos hk, Option.getD_some, List.flatMap_cons,
          List.flatMap_cons, List.append_assoc, List.append_assoc]
        exact List.perm_append_comm.append_left values
      · rw [insert, if_neg hk, get?, if_neg hk, List.flatMap_cons, List.flatMap_cons,
          List.append_assoc]
        exact ih.append_left values

theorem flatMap_collect_perm (key : β -> κ) (value : β -> α) (items : List β) :
    ((collect key value items).flatMap Prod.snd).Perm (items.map value) := by
  have hfrom : forall d : Dict κ (List α),
      ((items.foldl
        (fun d b => d.insert (key b) ((d.get? (key b)).getD [] ++ [value b])) d).flatMap
          Prod.snd).Perm (d.flatMap Prod.snd ++ items.map value) := by
    induction items with
    | nil =>
        intro d
        simp
    | cons b rest ih =>
        intro d
        have hstep := (flatMap_insert_perm d (key b) (value b)).append_right (rest.map value)
        rw [List.append_assoc] at hstep
        exact (ih _).trans hstep
  exact hfrom []

end Collect

end Dict

end Python
end MetricMesh
