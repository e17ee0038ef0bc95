import MetricMesh.Foundation.Runs

/-!
# Memos that expire

The result of a computation is kept with the time at which it was made, and it is
used again while it is young enough.  Using it again does not make it younger.

Nothing in this module mentions a particular program.
-/

namespace MetricMesh
namespace Foundation

universe u

variable {ν : Type u}

structure Entry (ν : Type u) where
  value : ν
  madeAt : Int

/-- A use, with what a computation would give; a result that cannot be kept is none. -/
structure Use (ν : Type u) where
  now : Int
  candidate : Option ν

inductive Service (ν : Type u) where
  | reused (e : Entry ν)
  | computed (made : Option (Entry ν))

namespace Memo

def fresh (u : Use ν) : Option (Entry ν) :=
  u.candidate.map fun v => { value := v, madeAt := u.now }

variable (maxAge : Int)

def serve (memo : Option (Entry ν)) (u : Use ν) : Service ν × Option (Entry ν) :=
  match memo with
  | none => (.computed (fresh u), fresh u)
  | some e =>
      if u.now - maxAge < e.madeAt then (.reused e, some e)
      else (.computed (fresh u), (fresh u).or (some e))

def makes (memo : Option (Entry ν)) (u : Use ν) : List (Entry ν) :=
  match (serve maxAge memo u).1 with
  | .reused _ => []
  | .computed made => made.toList

def made : Option (Entry ν) -> List (Use ν) -> List (Entry ν) :=
  emitted (serve maxAge) (makes maxAge)

variable {maxAge}

theorem serve_cases (memo : Option (Entry ν)) (u : Use ν) :
    (exists e, memo = some e ∧ u.now - maxAge < e.madeAt ∧
        serve maxAge memo u = (.reused e, some e)) ∨
      (forall e, memo = some e -> e.madeAt + maxAge ≤ u.now) ∧
        serve maxAge memo u = (.computed (fresh u), (fresh u).or memo) := by
  cases memo with
  | none =>
      right
      constructor
      · intro e he
        cases he
      · unfold serve
        rw [Option.or_none]
  | some e =>
      by_cases hyoung : u.now - maxAge < e.madeAt
      · exact Or.inl ⟨e, rfl, hyoung, if_pos hyoung⟩
      · right
        constructor
        · intro e' he
          injection he with he
          rw [← he]
          omega
        · exact if_neg hyoung

/-- Whatever the clock does, entries are made at least the maximum age apart. -/
theorem made_spaced (hage : 0 ≤ maxAge) (us : List (Use ν)) :
    forall memo : Option (Entry ν),
      (forall e, memo = some e -> forall x, x ∈ made maxAge memo us ->
        e.madeAt + maxAge ≤ x.madeAt) ∧
      (made maxAge memo us).Pairwise fun a b => a.madeAt + maxAge ≤ b.madeAt := by
  induction us with
  | nil =>
      intro memo
      refine ⟨?_, List.Pairwise.nil⟩
      intro e _ x hx
      cases hx
  | cons u rest ih =>
      intro memo
      rcases serve_cases memo u with ⟨e, hmemo, _, hserve⟩ | ⟨hold, hserve⟩
      · have hmade : made maxAge memo (u :: rest) = made maxAge (some e) rest := by
          unfold made
          rw [emitted, makes, hserve]
          rfl
        rw [hmade, hmemo]
        exact ih (some e)
      · have hmade : made maxAge memo (u :: rest) =
            (fresh u).toList ++ made maxAge ((fresh u).or memo) rest := by
          unfold made
          rw [emitted, makes, hserve]
        rw [hmade]
        cases hfresh : fresh u with
        | none =>
            rw [Option.none_or]
            exact ih memo
        | some x =>
            have hx : x.madeAt = u.now := by
              rcases Option.map_eq_some_iff.mp hfresh with ⟨v, _, heq⟩
              rw [← heq]
            rcases ih (some x) with ⟨hlater, hpairwise⟩
            rw [Option.some_or]
            constructor
            · intro e he y hy
              have hfirst : e.madeAt + maxAge ≤ x.madeAt := by
                rw [hx]
                exact hold e he
              rcases List.mem_cons.mp hy with heq | hy
              · rw [heq]
                exact hfirst
              · have hsecond := hlater x rfl y hy
                omega
            · exact List.pairwise_cons.mpr ⟨hlater x rfl, hpairwise⟩

end Memo

end Foundation
end MetricMesh
