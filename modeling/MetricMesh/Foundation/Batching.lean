import Mathlib.Data.List.Basic
import Mathlib.Data.List.Infix

/-!
# Batching loops

A loop that collects its inputs in a buffer and commits the buffer to a store as
soon as it is full.  A commit that raises ends the loop with what was committed
before.  So what is committed is the front of the inputs in their order, and
while the loop runs, what is missing is what the buffer holds.

Nothing in this module mentions a particular program.
-/

namespace MetricMesh
namespace Foundation

universe u v w

/-- A batching loop between two inputs, with a record of what it has committed. -/
structure BatchLoop (σ : Type u) (α : Type v) where
  store : σ
  buffer : List α := []
  committed : List α := []
  running : Bool := true
deriving DecidableEq

namespace BatchLoop

variable {σ : Type u} {α : Type v} {ι : Type w}
variable (size : Nat) (item : ι -> α) (commit : ι -> σ -> List α -> Option σ)

def next (s : BatchLoop σ α) (x : ι) : BatchLoop σ α :=
  if s.running then
    let buffer := s.buffer ++ [item x]
    if size ≤ buffer.length then
      match commit x s.store buffer with
      | some store => { store := store, committed := s.committed ++ buffer }
      | none => { s with buffer := buffer, running := false }
    else { s with buffer := buffer }
  else s

def run (s : BatchLoop σ α) (xs : List ι) : BatchLoop σ α :=
  xs.foldl (next size item commit) s

@[simp] theorem run_nil (s : BatchLoop σ α) : s.run size item commit [] = s := rfl

@[simp] theorem run_cons (s : BatchLoop σ α) (x : ι) (xs : List ι) :
    s.run size item commit (x :: xs) = (s.next size item commit x).run size item commit xs :=
  rfl

theorem run_append (s : BatchLoop σ α) (xs ys : List ι) :
    s.run size item commit (xs ++ ys) = (s.run size item commit xs).run size item commit ys :=
  List.foldl_append

/-!
# One turn
-/

variable {size item commit}

theorem next_of_stopped {s : BatchLoop σ α} (h : s.running = false) (x : ι) :
    s.next size item commit x = s := by
  simp [next, h]

theorem next_of_room {s : BatchLoop σ α} (h : s.running = true)
    (hroom : s.buffer.length + 1 < size) (x : ι) :
    s.next size item commit x = { s with buffer := s.buffer ++ [item x] } := by
  have hfull : ¬ size ≤ (s.buffer ++ [item x]).length := by simpa using hroom
  simp only [next, h, if_true, if_neg hfull]

theorem next_of_commit {s : BatchLoop σ α} {x : ι} {store : σ} (h : s.running = true)
    (hfull : size ≤ s.buffer.length + 1)
    (hcommit : commit x s.store (s.buffer ++ [item x]) = some store) :
    s.next size item commit x =
      { store := store, committed := s.committed ++ (s.buffer ++ [item x]) } := by
  have hfull : size ≤ (s.buffer ++ [item x]).length := by simpa using hfull
  simp only [next, h, if_true, if_pos hfull, hcommit]

theorem next_of_raise {s : BatchLoop σ α} {x : ι} (h : s.running = true)
    (hfull : size ≤ s.buffer.length + 1)
    (hcommit : commit x s.store (s.buffer ++ [item x]) = none) :
    s.next size item commit x =
      { s with buffer := s.buffer ++ [item x], running := false } := by
  have hfull : size ≤ (s.buffer ++ [item x]).length := by simpa using hfull
  simp only [next, h, if_true, if_pos hfull, hcommit]

/-- All that a turn can do. -/
theorem next_cases (size : Nat) (item : ι -> α) (commit : ι -> σ -> List α -> Option σ)
    (s : BatchLoop σ α) (x : ι) :
    (s.running = false ∧ s.next size item commit x = s) ∨
      (s.running = true ∧ s.buffer.length + 1 < size ∧
        s.next size item commit x = { s with buffer := s.buffer ++ [item x] }) ∨
      (exists store, s.running = true ∧ size ≤ s.buffer.length + 1 ∧
        commit x s.store (s.buffer ++ [item x]) = some store ∧
        s.next size item commit x =
          { store := store, committed := s.committed ++ (s.buffer ++ [item x]) }) ∨
      (s.running = true ∧ size ≤ s.buffer.length + 1 ∧
        commit x s.store (s.buffer ++ [item x]) = none ∧
        s.next size item commit x =
          { s with buffer := s.buffer ++ [item x], running := false }) := by
  cases hrunning : s.running with
  | false =>
      exact Or.inl ⟨rfl, next_of_stopped hrunning x⟩
  | true =>
      rcases Nat.lt_or_ge (s.buffer.length + 1) size with hroom | hfull
      · have hnext := @next_of_room σ α ι size item commit s hrunning hroom x
        rw [hrunning] at hnext
        exact Or.inr (Or.inl ⟨rfl, hroom, hnext⟩)
      · cases hcommit : commit x s.store (s.buffer ++ [item x]) with
        | some store =>
            have hnext := next_of_commit hrunning hfull hcommit
            exact Or.inr (Or.inr (Or.inl ⟨store, rfl, hfull, rfl, hnext⟩))
        | none =>
            have hnext := next_of_raise hrunning hfull hcommit
            exact Or.inr (Or.inr (Or.inr ⟨rfl, hfull, rfl, hnext⟩))

/-!
# Order
-/

/-- The committed items are the front of the inputs, and the buffer holds the rest. -/
structure InOrder (size : Nat) (item : ι -> α) (xs : List ι) (s : BatchLoop σ α) :
    Prop where
  order : s.committed <+: xs.map item
  pending : s.running = true ->
    s.committed ++ s.buffer = xs.map item ∧ s.buffer.length < size

theorem InOrder.next {xs : List ι} {s : BatchLoop σ α} (hsize : 1 ≤ size)
    (h : s.InOrder size item xs) (commit : ι -> σ -> List α -> Option σ) (x : ι) :
    (s.next size item commit x).InOrder size item (xs ++ [x]) := by
  have hgrown : (xs ++ [x]).map item = xs.map item ++ [item x] := List.map_append
  have hfront : s.committed <+: (xs ++ [x]).map item := by
    rw [hgrown]
    exact h.order.trans (List.prefix_append _ _)
  rcases next_cases size item commit s x with ⟨hstopped, hnext⟩ | ⟨hrunning, hroom, hnext⟩ |
    ⟨store, hrunning, _, _, hnext⟩ | ⟨_, _, _, hnext⟩
  · rw [hnext]
    refine ⟨hfront, ?_⟩
    intro hrunning
    rw [hstopped] at hrunning
    cases hrunning
  · rw [hnext]
    refine ⟨hfront, ?_⟩
    intro _
    constructor
    · rw [hgrown, ← (h.pending hrunning).1, List.append_assoc]
    · rw [List.length_append]
      exact hroom
  · have hall : s.committed ++ (s.buffer ++ [item x]) = (xs ++ [x]).map item := by
      rw [hgrown, ← (h.pending hrunning).1, List.append_assoc]
    rw [hnext]
    constructor
    · rw [hall]
    · intro _
      exact ⟨by rw [List.append_nil, hall], hsize⟩
  · rw [hnext]
    refine ⟨hfront, ?_⟩
    intro hrunning
    cases hrunning

theorem InOrder.run (hsize : 1 ≤ size) (commit : ι -> σ -> List α -> Option σ)
    (xs : List ι) : forall {done : List ι} {s : BatchLoop σ α}, s.InOrder size item done ->
      (s.run size item commit xs).InOrder size item (done ++ xs) := by
  induction xs with
  | nil =>
      intro done s h
      rw [List.append_nil]
      exact h
  | cons x rest ih =>
      intro done s h
      have hrest := ih (h.next hsize commit x)
      rw [List.append_assoc] at hrest
      exact hrest

theorem inOrder_start (hsize : 1 ≤ size) (store : σ) :
    InOrder size item [] { store := store } :=
  ⟨List.prefix_rfl, fun _ => ⟨rfl, hsize⟩⟩

/-!
# The store
-/

/-- What every commit keeps relates the store of a run to what was committed. -/
theorem run_store {Rel : σ -> List α -> Prop}
    (hcommit : forall x store done batch store', Rel store done ->
      commit x store batch = some store' -> Rel store' (done ++ batch))
    (xs : List ι) : forall s : BatchLoop σ α, Rel s.store s.committed ->
      Rel (s.run size item commit xs).store (s.run size item commit xs).committed := by
  induction xs with
  | nil =>
      intro s h
      exact h
  | cons x rest ih =>
      intro s h
      apply ih
      rcases next_cases size item commit s x with ⟨_, hnext⟩ | ⟨_, _, hnext⟩ |
        ⟨store, _, _, hsome, hnext⟩ | ⟨_, _, _, hnext⟩
      · rw [hnext]
        exact h
      · rw [hnext]
        exact h
      · rw [hnext]
        exact hcommit x s.store s.committed _ store h hsome
      · rw [hnext]
        exact h

/-!
# The first commit
-/

theorem run_of_stopped {s : BatchLoop σ α} (h : s.running = false) (xs : List ι) :
    s.run size item commit xs = s := by
  induction xs with
  | nil =>
      rfl
  | cons x rest ih =>
      rw [run_cons, next_of_stopped h, ih]

theorem run_of_room (xs : List ι) : forall {s : BatchLoop σ α}, s.running = true ->
    s.buffer.length + xs.length < size ->
      s.run size item commit xs = { s with buffer := s.buffer ++ xs.map item } := by
  induction xs with
  | nil =>
      intro s _ _
      simp
  | cons x rest ih =>
      intro s hrunning hroom
      rw [List.length_cons] at hroom
      have hshort : (s.buffer ++ [item x]).length + rest.length < size := by
        rw [List.length_append, List.length_singleton]
        omega
      have hrest := @ih { s with buffer := s.buffer ++ [item x] } hrunning hshort
      rw [run_cons, next_of_room hrunning (by omega), hrest, List.append_assoc]
      rfl

theorem committed_prefix_run (xs : List ι) : forall s : BatchLoop σ α,
    s.committed <+: (s.run size item commit xs).committed := by
  induction xs with
  | nil =>
      intro s
      exact List.prefix_rfl
  | cons x rest ih =>
      intro s
      apply List.IsPrefix.trans _ (ih _)
      rcases next_cases size item commit s x with ⟨_, hnext⟩ | ⟨_, _, hnext⟩ |
        ⟨store, _, _, _, hnext⟩ | ⟨_, _, _, hnext⟩
      · rw [hnext]
      · rw [hnext]
      · rw [hnext]
        exact List.prefix_append _ _
      · rw [hnext]

def FirstCommits (size : Nat) (item : ι -> α) (commit : ι -> σ -> List α -> Option σ)
    (store : σ) (xs : List ι) : Prop :=
  exists front x rest, xs = front ++ x :: rest ∧ front.length + 1 = size ∧
    (commit x store (front.map item ++ [item x])).isSome = true

theorem exists_first_full (hsize : 1 ≤ size) {xs : List ι} (h : size ≤ xs.length) :
    exists front x rest, xs = front ++ x :: rest ∧ front.length + 1 = size := by
  have hfront : (xs.take (size - 1)).length + 1 = size := by
    rw [List.length_take]
    omega
  cases hdrop : xs.drop (size - 1) with
  | nil =>
      have hshort := List.drop_eq_nil_iff.mp hdrop
      omega
  | cons x rest =>
      exact ⟨xs.take (size - 1), x, rest, by rw [← hdrop, List.take_append_drop], hfront⟩

section FirstFull

variable {front : List ι} {s : BatchLoop σ α} {x : ι}

theorem run_front (hfront : front.length + 1 = size) (hrunning : s.running = true)
    (hbuffer : s.buffer = []) (rest : List ι) :
    s.run size item commit (front ++ x :: rest) =
      (next size item commit { s with buffer := front.map item } x).run
        size item commit rest := by
  rw [run_append, run_of_room front hrunning (by rw [hbuffer, List.length_nil]; omega),
    hbuffer, run_cons]
  rfl

theorem run_first_commit (hfront : front.length + 1 = size) (hrunning : s.running = true)
    (hbuffer : s.buffer = []) (rest : List ι) {store : σ}
    (hcommit : commit x s.store (front.map item ++ [item x]) = some store) :
    s.run size item commit (front ++ x :: rest) =
      run size item commit
        { store := store, committed := s.committed ++ (front.map item ++ [item x]) } rest := by
  have hfull : size ≤ (front.map item).length + 1 := by
    rw [List.length_map]
    omega
  rw [run_front hfront hrunning hbuffer]
  rw [@next_of_commit σ α ι size item commit { s with buffer := front.map item } x store
    hrunning hfull hcommit]

theorem run_first_raise (hfront : front.length + 1 = size) (hrunning : s.running = true)
    (hbuffer : s.buffer = []) (rest : List ι)
    (hcommit : commit x s.store (front.map item ++ [item x]) = none) :
    s.run size item commit (front ++ x :: rest) =
      { s with buffer := front.map item ++ [item x], running := false } := by
  have hfull : size ≤ (front.map item).length + 1 := by
    rw [List.length_map]
    omega
  rw [run_front hfront hrunning hbuffer]
  rw [@next_of_raise σ α ι size item commit { s with buffer := front.map item } x
    hrunning hfull hcommit, run_of_stopped rfl]

end FirstFull

theorem committed_ne_nil_iff (hsize : 1 ≤ size) (store : σ) (xs : List ι) :
    (run size item commit { store := store } xs).committed ≠ [] <->
      FirstCommits size item commit store xs := by
  constructor
  · intro h
    rcases Nat.lt_or_ge xs.length size with hshort | hlong
    · have hroom := @run_of_room σ α ι size item commit xs { store := store } rfl
        (by simpa using hshort)
      rw [hroom] at h
      exact absurd rfl h
    · rcases exists_first_full hsize hlong with ⟨front, x, rest, hxs, hfront⟩
      refine ⟨front, x, rest, hxs, hfront, ?_⟩
      cases hcommit : commit x store (front.map item ++ [item x]) with
      | some store' =>
          rfl
      | none =>
          rw [hxs, run_first_raise hfront rfl rfl rest hcommit] at h
          exact absurd rfl h
  · intro h hnil
    rcases h with ⟨front, x, rest, hxs, hfront, hsome⟩
    rcases Option.isSome_iff_exists.mp hsome with ⟨store', hcommit⟩
    rw [hxs, run_first_commit hfront rfl rfl rest hcommit] at hnil
    have hprefix := @committed_prefix_run σ α ι size item commit rest
      { store := store', committed := [] ++ (front.map item ++ [item x]) }
    rw [hnil] at hprefix
    simp at hprefix

/-!
# Whole batches
-/

theorem run_subset (xs : List ι) : forall s : BatchLoop σ α,
    (s.run size item commit xs).committed ++ (s.run size item commit xs).buffer ⊆
      s.committed ++ s.buffer ++ xs.map item := by
  induction xs with
  | nil =>
      intro s
      simp
  | cons x rest ih =>
      intro s
      have hturn : (s.next size item commit x).committed ++
          (s.next size item commit x).buffer ⊆ s.committed ++ s.buffer ++ [item x] := by
        rcases next_cases size item commit s x with ⟨_, hnext⟩ | ⟨_, _, hnext⟩ |
          ⟨store, _, _, _, hnext⟩ | ⟨_, _, _, hnext⟩ <;> rw [hnext] <;> simp
      intro a ha
      rcases List.mem_append.mp (ih (s.next size item commit x) ha) with ha | ha
      · have hmem := hturn ha
        rw [List.mem_append, List.mem_singleton] at hmem
        rw [List.map_cons, List.mem_append, List.mem_cons]
        exact hmem.imp id Or.inl
      · rw [List.map_cons, List.mem_append]
        exact Or.inr (List.mem_cons_of_mem _ ha)

/-- So many batches come before the first one whose last input raises. -/
structure UntilRaise (size : Nat) (raises : ι -> Prop) (xs : List ι) (batches : Nat) :
    Prop where
  le : batches ≤ xs.length / size
  before : forall n, n < batches ->
    exists x, xs[n * size + (size - 1)]? = some x ∧ ¬ raises x
  next : batches < xs.length / size ->
    exists x, xs[batches * size + (size - 1)]? = some x ∧ raises x

section UntilRaise

variable {raises : ι -> Prop} {front rest : List ι} {x : ι}

theorem getElem?_last (hfront : front.length + 1 = size) :
    (front ++ x :: rest)[0 * size + (size - 1)]? = some x := by
  rw [← hfront]
  simp

theorem getElem?_later (hfront : front.length + 1 = size) (n : Nat) :
    (front ++ x :: rest)[(n + 1) * size + (size - 1)]? = rest[n * size + (size - 1)]? := by
  have hindex : (n + 1) * size + (size - 1) = front.length + ((n * size + (size - 1)) + 1) := by
    rw [Nat.succ_mul]
    omega
  rw [hindex, List.getElem?_append_right (Nat.le_add_right _ _), Nat.add_sub_cancel_left,
    List.getElem?_cons_succ]

theorem length_div_first (hfront : front.length + 1 = size) :
    (front ++ x :: rest).length / size = rest.length / size + 1 := by
  have hlength : (front ++ x :: rest).length = rest.length + size := by
    rw [List.length_append, List.length_cons]
    omega
  rw [hlength, Nat.add_div_right _ (by omega)]

theorem UntilRaise.short {xs : List ι} (h : xs.length < size) :
    UntilRaise size raises xs 0 where
  le := Nat.zero_le _
  before := fun n hn => absurd hn (Nat.not_lt_zero n)
  next := fun hmore => absurd hmore (by rw [Nat.div_eq_of_lt h]; exact Nat.lt_irrefl 0)

theorem UntilRaise.first (hfront : front.length + 1 = size) (hraises : raises x) :
    UntilRaise size raises (front ++ x :: rest) 0 where
  le := Nat.zero_le _
  before := fun n hn => absurd hn (Nat.not_lt_zero n)
  next := fun _ => ⟨x, getElem?_last hfront, hraises⟩

theorem UntilRaise.succ (hfront : front.length + 1 = size) (hraises : ¬ raises x)
    {batches : Nat} (h : UntilRaise size raises rest batches) :
    UntilRaise size raises (front ++ x :: rest) (batches + 1) := by
  constructor
  · rw [length_div_first hfront]
    exact Nat.succ_le_succ h.le
  · intro n hn
    cases n with
    | zero =>
        exact ⟨x, getElem?_last hfront, hraises⟩
    | succ n =>
        rw [getElem?_later hfront]
        exact h.before n (Nat.lt_of_succ_lt_succ hn)
  · rw [length_div_first hfront, getElem?_later hfront]
    exact fun hmore => h.next (Nat.lt_of_succ_lt_succ hmore)

end UntilRaise

/--
If a commit raises by the input that calls for it alone, the loop commits the
batches before the first of these inputs.
-/
theorem committed_untilRaise {P : α -> Prop} {raises : ι -> Prop} (hsize : 1 ≤ size)
    (hcommit : forall x store batch, (forall a, a ∈ batch -> P a) ->
      ((commit x store batch).isSome = true <-> ¬ raises x)) (total : Nat) :
    forall (xs : List ι) (s : BatchLoop σ α), xs.length / size = total ->
      (forall x, x ∈ xs -> P (item x)) -> s.running = true -> s.buffer = [] ->
        exists batches, UntilRaise size raises xs batches ∧
          (s.run size item commit xs).committed =
            s.committed ++ (xs.map item).take (batches * size) := by
  induction total with
  | zero =>
      intro xs s htotal _ hrunning hbuffer
      have hshort := (Nat.div_eq_zero_iff_lt hsize).mp htotal
      refine ⟨0, UntilRaise.short hshort, ?_⟩
      rw [run_of_room xs hrunning (by simpa [hbuffer] using hshort)]
      simp
  | succ total ih =>
      intro xs s htotal hitems hrunning hbuffer
      have hlong : size ≤ xs.length := by
        by_contra hshort
        rw [Nat.div_eq_of_lt (Nat.lt_of_not_le hshort)] at htotal
        cases htotal
      rcases exists_first_full hsize hlong with ⟨front, x, rest, hxs, hfront⟩
      subst hxs
      rw [length_div_first hfront] at htotal
      have hbatch : forall a, a ∈ front.map item ++ [item x] -> P a := by
        intro a ha
        have hmem : a ∈ (front ++ [x]).map item := by simpa using ha
        rcases List.mem_map.mp hmem with ⟨y, hy, heq⟩
        rw [← heq]
        apply hitems
        rw [List.append_cons]
        exact List.mem_append_left rest hy
      have hcall := hcommit x s.store _ hbatch
      cases hresult : commit x s.store (front.map item ++ [item x]) with
      | none =>
          have hraises : raises x := by simpa [hresult] using hcall
          refine ⟨0, UntilRaise.first hfront hraises, ?_⟩
          rw [run_first_raise hfront hrunning hbuffer rest hresult]
          simp
      | some store =>
          have hraises : ¬ raises x := hcall.mp (by rw [hresult]; rfl)
          rcases ih rest { store := store
                           committed := s.committed ++ (front.map item ++ [item x]) }
            (Nat.succ.inj htotal)
            (fun y hy => hitems y (List.mem_append_right front (List.mem_cons_of_mem x hy)))
            rfl rfl with ⟨batches, huntil, hcommitted⟩
          refine ⟨batches + 1, huntil.succ hfront hraises, ?_⟩
          have hlength : ((front ++ [x]).map item).length = size := by
            simpa using hfront
          rw [run_first_commit hfront hrunning hbuffer rest hresult, hcommitted,
            List.append_cons front x rest, List.map_append, Nat.succ_mul,
            Nat.add_comm, ← hlength, List.take_length_add_append, List.map_append,
            List.append_assoc]
          rfl

end BatchLoop

end Foundation
end MetricMesh
