import MetricMesh.Python.Host

/-!
# The alert router

One call of `route` offers an anomaly to every registered sink.  What a sink
does with it is outside the program: a send either accepts the anomaly or raises
with some text.
-/

namespace MetricMesh
namespace Alerting

open Python

structure Send where
  position : Nat
  sink : String
  accepted : Bool
deriving DecidableEq

structure Routing where
  sends : List Send
  routed : List String
  errors : List (String × String)

/-- The loop over the sinks from a position on; `raised` is what a send raises. -/
def routeFrom (raised : Nat -> Option String) : Nat -> List String -> Routing
  | _, [] => { sends := [], routed := [], errors := [] }
  | position, sink :: rest =>
      let later := routeFrom raised (position + 1) rest
      match raised position with
      | none =>
          { sends := { position := position, sink := sink, accepted := true } ::
              later.sends
            routed := sink :: later.routed
            errors := later.errors }
      | some text =>
          { sends := { position := position, sink := sink, accepted := false } ::
              later.sends
            routed := later.routed
            errors := (sink, text) :: later.errors }

def route (host : Host) (sinks : List String) (raised : Nat -> Option String) :
    List Send × Except PyError (List String) :=
  let routing := routeFrom raised 0 sinks
  (routing.sends,
    if routing.errors ≠ [] ∧ routing.errors.length = sinks.length then
      .error (.runtimeError ("All sinks failed: " ++ host.reprPairs routing.errors))
    else
      .ok routing.routed)

/-!
# What the loop computes
-/

def offered : Nat -> List String -> List (Nat × String)
  | _, [] => []
  | position, sink :: rest => (position, sink) :: offered (position + 1) rest

theorem routeFrom_sends (raised : Nat -> Option String) (sinks : List String) :
    forall position,
      (routeFrom raised position sinks).sends.map
          (fun s => (s.position, s.sink)) =
        offered position sinks := by
  induction sinks with
  | nil =>
      intro position
      rfl
  | cons sink rest ih =>
      intro position
      cases h : raised position with
      | none =>
          simp [routeFrom, offered, h, ih]
      | some text =>
          simp [routeFrom, offered, h, ih]

theorem routeFrom_routed (raised : Nat -> Option String) (sinks : List String) :
    forall position,
      (routeFrom raised position sinks).routed =
        ((routeFrom raised position sinks).sends.filter
          (fun s => s.accepted)).map (fun s => s.sink) := by
  induction sinks with
  | nil =>
      intro position
      rfl
  | cons sink rest ih =>
      intro position
      cases h : raised position with
      | none =>
          simp [routeFrom, h, ih]
      | some text =>
          simp [routeFrom, h, ih]

theorem routeFrom_accepted (raised : Nat -> Option String) (sinks : List String) :
    forall position s, s ∈ (routeFrom raised position sinks).sends ->
      (s.accepted = true <-> raised s.position = none) := by
  induction sinks with
  | nil =>
      intro position s hs
      cases hs
  | cons sink rest ih =>
      intro position s hs
      cases h : raised position with
      | none =>
          simp only [routeFrom, h, List.mem_cons] at hs
          rcases hs with rfl | hs
          · simp [h]
          · exact ih (position + 1) s hs
      | some text =>
          simp only [routeFrom, h, List.mem_cons] at hs
          rcases hs with rfl | hs
          · simp [h]
          · exact ih (position + 1) s hs

theorem routeFrom_length (raised : Nat -> Option String) (sinks : List String) :
    forall position,
      (routeFrom raised position sinks).routed.length +
          (routeFrom raised position sinks).errors.length = sinks.length := by
  induction sinks with
  | nil =>
      intro position
      rfl
  | cons sink rest ih =>
      intro position
      have hrest := ih (position + 1)
      cases h : raised position with
      | none =>
          simp only [routeFrom, h, List.length_cons]
          omega
      | some text =>
          simp only [routeFrom, h, List.length_cons]
          omega

theorem offered_positions (sinks : List String) :
    forall position, (offered position sinks).map Prod.fst =
      List.range' position sinks.length := by
  induction sinks with
  | nil =>
      intro position
      rfl
  | cons sink rest ih =>
      intro position
      rw [offered, List.map_cons, ih, List.length_cons, List.range'_succ]

theorem offered_nodup (sinks : List String) (position : Nat) :
    ((offered position sinks).map Prod.fst).Nodup := by
  rw [offered_positions]
  exact List.nodup_range'

theorem route_result (host : Host) {sinks : List String} (hne : sinks ≠ [])
    (raised : Nat -> Option String) :
    (exists e, (route host sinks raised).2 = .error e) ∧
        (route host sinks raised).1.filter (fun s => s.accepted) = [] ∨
      (route host sinks raised).2 =
          .ok (((route host sinks raised).1.filter
            (fun s => s.accepted)).map (fun s => s.sink)) ∧
        (route host sinks raised).1.filter (fun s => s.accepted) ≠ [] := by
  have hlength := routeFrom_length raised sinks 0
  have hrouted := routeFrom_routed raised sinks 0
  have hpos : 0 < sinks.length := List.length_pos_of_ne_nil hne
  simp only [route]
  by_cases hall : (routeFrom raised 0 sinks).errors.length = sinks.length
  · have herrors : (routeFrom raised 0 sinks).errors ≠ [] := by
      intro hnil
      rw [hnil, List.length_nil] at hall
      omega
    have hnone : (routeFrom raised 0 sinks).routed = [] := by
      apply List.eq_nil_of_length_eq_zero
      omega
    left
    rw [if_pos ⟨herrors, hall⟩]
    refine ⟨⟨_, rfl⟩, ?_⟩
    rw [hnone] at hrouted
    exact List.map_eq_nil_iff.mp hrouted.symm
  · right
    rw [if_neg (fun h => hall h.2)]
    refine ⟨by rw [← hrouted], ?_⟩
    intro hnil
    rw [hnil] at hrouted
    have hzero : (routeFrom raised 0 sinks).routed.length = 0 := by
      rw [hrouted]
      rfl
    omega

end Alerting
end MetricMesh
