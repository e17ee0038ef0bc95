import Mathlib.Data.List.Basic

/-!
# Bounded retries

A task is executed until an execution does not fail, and at most a fixed number
of times after the first.  The executions are a run of failures followed by the
final one, which is the only one that can have succeeded.
-/

namespace MetricMesh
namespace Foundation
namespace Retry

universe u v

variable {execution : Type u}
variable (attempt : Nat -> execution) (failed : execution -> Bool)

/-- The executions from attempt `i` on, with `n` retries left. -/
def executions : Nat -> Nat -> List execution
  | 0, i => [attempt i]
  | n + 1, i =>
      if failed (attempt i) then attempt i :: executions n (i + 1)
      else [attempt i]

def final : Nat -> Nat -> execution
  | 0, i => attempt i
  | n + 1, i => if failed (attempt i) then final n (i + 1) else attempt i

theorem length_executions_le (n : Nat) :
    forall i, (executions attempt failed n i).length ≤ n + 1 := by
  induction n with
  | zero =>
      intro i
      exact Nat.le_refl _
  | succ n ih =>
      intro i
      cases h : failed (attempt i) with
      | true =>
          simpa [executions, h] using ih (i + 1)
      | false =>
          simp [executions, h]

theorem executions_eq (n : Nat) :
    forall i, exists failures,
      executions attempt failed n i = failures ++ [final attempt failed n i] ∧
        forall e, e ∈ failures -> failed e = true := by
  induction n with
  | zero =>
      intro i
      exact ⟨[], rfl, by simp⟩
  | succ n ih =>
      intro i
      cases h : failed (attempt i) with
      | true =>
          rcases ih (i + 1) with ⟨failures, heq, hfailed⟩
          refine ⟨attempt i :: failures, ?_, ?_⟩
          · simp [executions, final, h, heq]
          · intro e he
            rcases List.mem_cons.mp he with rfl | he
            · exact h
            · exact hfailed e he
      | false =>
          exact ⟨[], by simp [executions, final, h], by simp⟩

theorem eq_attempt_of_getElem? (n : Nat) :
    forall i k e, (executions attempt failed n i)[k]? = some e ->
      k ≤ n ∧ e = attempt (i + k) := by
  induction n with
  | zero =>
      intro i k e he
      rcases List.getElem?_eq_some_iff.mp he with ⟨hk, heq⟩
      have hzero : k = 0 := by simpa [executions] using hk
      subst hzero
      exact ⟨Nat.le_refl 0, heq.symm⟩
  | succ n ih =>
      intro i k e he
      cases k with
      | zero =>
          have heq : attempt i = e := by
            cases h : failed (attempt i) <;> simpa [executions, h] using he
          exact ⟨Nat.zero_le _, heq.symm⟩
      | succ k =>
          cases h : failed (attempt i) with
          | true =>
              rw [executions, if_pos h, List.getElem?_cons_succ] at he
              rcases ih (i + 1) k e he with ⟨hk, heq⟩
              refine ⟨Nat.succ_le_succ hk, ?_⟩
              rw [heq, Nat.add_assoc, Nat.add_comm 1 k]
          | false =>
              simp [executions, h] at he

theorem mem_executions (n i : Nat) {e : execution} (he : e ∈ executions attempt failed n i) :
    exists j, j ≤ n ∧ e = attempt (i + j) := by
  rcases List.mem_iff_getElem?.mp he with ⟨k, hk⟩
  exact ⟨k, eq_attempt_of_getElem? attempt failed n i k e hk⟩

theorem final_mem (n i : Nat) :
    final attempt failed n i ∈ executions attempt failed n i := by
  rcases executions_eq attempt failed n i with ⟨failures, heq, _⟩
  rw [heq]
  simp

theorem final_succeeds_iff (n : Nat) :
    forall i, failed (final attempt failed n i) = false <->
      exists j, j ≤ n ∧ failed (attempt (i + j)) = false := by
  induction n with
  | zero =>
      intro i
      simp [final]
  | succ n ih =>
      intro i
      cases h : failed (attempt i) with
      | true =>
          simp only [final, h, if_true]
          rw [ih (i + 1)]
          constructor
          · intro hlater
            rcases hlater with ⟨j, hj, hok⟩
            refine ⟨j + 1, Nat.succ_le_succ hj, ?_⟩
            rwa [Nat.add_comm j 1, ← Nat.add_assoc]
          · intro hsome
            rcases hsome with ⟨j, hj, hok⟩
            cases j with
            | zero =>
                rw [Nat.add_zero, h] at hok
                cases hok
            | succ j =>
                refine ⟨j, Nat.le_of_succ_le_succ hj, ?_⟩
                rwa [Nat.add_assoc, Nat.add_comm 1 j]
      | false =>
          constructor
          · intro _
            exact ⟨0, Nat.zero_le _, h⟩
          · intro _
            simp [final, h]

theorem length_of_final_failed (n : Nat) :
    forall i, failed (final attempt failed n i) = true ->
      (executions attempt failed n i).length = n + 1 := by
  induction n with
  | zero =>
      intro i _
      rfl
  | succ n ih =>
      intro i hfinal
      cases h : failed (attempt i) with
      | true =>
          simp only [final, h, if_true] at hfinal
          simpa [executions, h] using ih (i + 1) hfinal
      | false =>
          simp [final, h] at hfinal

theorem final_eq_of_append {n i : Nat} {before : List execution} {e : execution}
    (heq : executions attempt failed n i = before ++ [e]) :
    final attempt failed n i = e := by
  rcases executions_eq attempt failed n i with ⟨failures, hexec, _⟩
  have hboth : failures ++ [final attempt failed n i] = before ++ [e] :=
    hexec.symm.trans heq
  injection (List.append_inj' hboth rfl).2

theorem eq_final_of_succeeded {n i : Nat} {e : execution}
    (he : e ∈ executions attempt failed n i) (h : failed e = false) :
    e = final attempt failed n i := by
  rcases executions_eq attempt failed n i with ⟨failures, heq, hfailed⟩
  rw [heq, List.mem_append, List.mem_singleton] at he
  rcases he with he | he
  · rw [hfailed e he] at h
    cases h
  · exact he

theorem nothing_after_succeeded {n i : Nat} {before after : List execution}
    {e : execution}
    (heq : executions attempt failed n i = before ++ e :: after)
    (h : failed e = false) : after = [] := by
  rcases executions_eq attempt failed n i with ⟨failures, hexec, hfailed⟩
  rw [hexec] at heq
  rcases List.eq_nil_or_concat after with hnil | ⟨rest, last, hlast⟩
  · exact hnil
  · rw [hlast] at heq
    have hsplit : failures ++ [final attempt failed n i] =
        (before ++ e :: rest) ++ [last] := by
      simpa using heq
    have hinit := (List.append_inj' hsplit rfl).1
    have hmem : e ∈ failures := by
      rw [hinit]
      simp
    rw [hfailed e hmem] at h
    cases h

/--
What the executions do, when a failed one does nothing of the kind: exactly what
the final execution does.
-/
theorem flatMap_executions {event : Type v} {events : execution -> List event}
    {n i : Nat}
    (hsilent : forall e, e ∈ executions attempt failed n i ->
      failed e = true -> events e = []) :
    (executions attempt failed n i).flatMap events =
      events (final attempt failed n i) := by
  rcases executions_eq attempt failed n i with ⟨failures, heq, hfailed⟩
  have hnone : failures.flatMap events = [] := by
    rw [List.flatMap_eq_nil_iff]
    intro e he
    apply hsilent e _ (hfailed e he)
    rw [heq]
    exact List.mem_append_left _ he
  rw [heq, List.flatMap_append, hnone]
  simp

end Retry
end Foundation
end MetricMesh
