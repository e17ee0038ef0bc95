import Mathlib.Data.List.Basic

/-!
# Runs of state machines

Two views of a run are used throughout the development.  A nondeterministic
system is given by a start predicate and a step relation, and its safety
properties are invariants of the reachable states.  A deterministic service is
given by a function that executes one request, and two runs of it are compared
by deleting the requests of all but one party.

Nothing in this module mentions a particular program.
-/

namespace MetricMesh
namespace Foundation

universe u v w x

/-!
# Reachable states

An invariant that holds at the start and is kept by every step holds of every
reachable state.
-/

inductive Reachable {state : Type u} (start : state -> Prop)
    (step : state -> state -> Prop) : state -> Prop where
  | start {s : state} : start s -> Reachable start step s
  | step {s t : state} :
      Reachable start step s -> step s t -> Reachable start step t

theorem Reachable.invariant {state : Type u} {start : state -> Prop}
    {step : state -> state -> Prop} {Inv : state -> Prop}
    (hstart : forall s, start s -> Inv s)
    (hstep : forall s t, Inv s -> step s t -> Inv t)
    {s : state} (h : Reachable start step s) : Inv s := by
  induction h with
  | start hs =>
      exact hstart _ hs
  | step _ ht ih =>
      exact hstep _ _ ih ht

/-!
# Executing a list of requests

`outputs` pairs every request with its response, in order.  The party that
owns a request is read off by a function, so that one request type serves all
parties.
-/

section Requests

variable {state : Type u} {request : Type v} {response : Type w}

def outputs (exec : state -> request -> response × state) :
    state -> List request -> List (request × response)
  | _, [] => []
  | s, r :: rest =>
      (r, (exec s r).1) :: outputs exec (exec s r).2 rest

def finalState (exec : state -> request -> response × state) :
    state -> List request -> state
  | s, [] => s
  | s, r :: rest => finalState exec (exec s r).2 rest

@[simp] theorem outputs_nil (exec : state -> request -> response × state)
    (s : state) : outputs exec s [] = [] := rfl

@[simp] theorem outputs_cons (exec : state -> request -> response × state)
    (s : state) (r : request) (rest : List request) :
    outputs exec s (r :: rest) =
      (r, (exec s r).1) :: outputs exec (exec s r).2 rest := rfl

@[simp] theorem finalState_nil (exec : state -> request -> response × state)
    (s : state) : finalState exec s [] = s := rfl

@[simp] theorem finalState_cons (exec : state -> request -> response × state)
    (s : state) (r : request) (rest : List request) :
    finalState exec s (r :: rest) = finalState exec (exec s r).2 rest := rfl

theorem finalState_append (exec : state -> request -> response × state)
    (rs more : List request) :
    forall s, finalState exec s (rs ++ more) = finalState exec (finalState exec s rs) more := by
  induction rs with
  | nil =>
      intro s
      rfl
  | cons r rest ih =>
      intro s
      exact ih _

/-- What every admitted request keeps holds after a run of admitted requests. -/
theorem finalState_invariant {exec : state -> request -> response × state}
    {Inv : state -> Prop} {P : request -> Prop}
    (hstep : forall s r, P r -> Inv s -> Inv (exec s r).2) (rs : List request)
    (hrs : forall r, r ∈ rs -> P r) :
    forall s, Inv s -> Inv (finalState exec s rs) := by
  induction rs with
  | nil =>
      intro s hs
      exact hs
  | cons r rest ih =>
      intro s hs
      rw [finalState_cons]
      exact ih (fun q hq => hrs q (List.mem_cons_of_mem r hq)) _
        (hstep s r (hrs r List.mem_cons_self) hs)

/-- A condition on every request of a run and the state in which it is executed. -/
def Along (exec : state -> request -> response × state)
    (P : state -> request -> Prop) : state -> List request -> Prop
  | _, [] => True
  | s, r :: rest => P s r ∧ Along exec P (exec s r).2 rest

end Requests

/-!
# Deleting the requests of the other parties

A view of the state is unwound along a run: requests of other parties leave the
view unchanged, and a request of the observed party has a response and a next
view that depend on the current view only.  Then the observed party cannot tell
the run from the one in which nobody else sent anything.
-/

section Unwinding

variable {state : Type u} {request : Type v} {response : Type w}
variable {view : Type x}

structure Unwinding (exec : state -> request -> response × state)
    (mine : request -> Bool) (observe : state -> view) : Prop where
  /-- Requests of other parties do not touch the view. -/
  silent : forall s r, mine r = false -> observe (exec s r).2 = observe s
  /-- The observed party's responses are read off the view. -/
  response : forall s t r, mine r = true -> observe s = observe t ->
    (exec s r).1 = (exec t r).1
  /-- The observed party's requests change the view as the view prescribes. -/
  next : forall s t r, mine r = true -> observe s = observe t ->
    observe (exec s r).2 = observe (exec t r).2

theorem Unwinding.outputs_eq {exec : state -> request -> response × state}
    {mine : request -> Bool} {observe : state -> view}
    (h : Unwinding exec mine observe) (rs : List request) :
    forall s t : state, observe s = observe t ->
      (outputs exec s rs).filter (fun p => mine p.1) =
        outputs exec t (rs.filter mine) := by
  induction rs with
  | nil =>
      intro s t _
      rfl
  | cons r rest ih =>
      intro s t hview
      cases hmine : mine r with
      | false =>
          have hkeep : observe (exec s r).2 = observe t := by
            rw [h.silent s r hmine, hview]
          simpa [hmine] using ih (exec s r).2 t hkeep
      | true =>
          have hresp := h.response s t r hmine hview
          have hnext := ih (exec s r).2 (exec t r).2 (h.next s t r hmine hview)
          simp [hmine, hresp, hnext]

end Unwinding

/-!
# Simulating a part of a run

A second state follows the first one along a run.  It skips the requests that
are not its own, and takes the others with the same response, as long as every
request of the first run meets a condition on the state that it finds.
-/

section Follows

variable {state : Type u} {request : Type v} {response : Type w}

structure Follows (exec : state -> request -> response × state) (mine : request -> Bool)
    (P : state -> request -> Prop) (R : state -> state -> Prop) : Prop where
  skip : forall s t r, mine r = false -> P s r -> R s t -> R (exec s r).2 t
  response : forall s t r, mine r = true -> P s r -> R s t -> (exec s r).1 = (exec t r).1
  next : forall s t r, mine r = true -> P s r -> R s t -> R (exec s r).2 (exec t r).2

theorem Follows.run {exec : state -> request -> response × state} {mine : request -> Bool}
    {P : state -> request -> Prop} {R : state -> state -> Prop} (h : Follows exec mine P R)
    (rs : List request) :
    forall s t : state, Along exec P s rs -> R s t ->
      (outputs exec s rs).filter (fun p => mine p.1) = outputs exec t (rs.filter mine) ∧
        R (finalState exec s rs) (finalState exec t (rs.filter mine)) := by
  induction rs with
  | nil =>
      intro s t _ hst
      exact ⟨rfl, hst⟩
  | cons r rest ih =>
      intro s t halong hst
      rcases halong with ⟨hr, hrest⟩
      cases hmine : mine r with
      | false =>
          simpa [hmine] using ih _ t hrest (h.skip s t r hmine hr hst)
      | true =>
          have hnext := ih _ _ hrest (h.next s t r hmine hr hst)
          have hresponse := h.response s t r hmine hr hst
          simp [hmine, hresponse, hnext.1, hnext.2]

end Follows

/-!
# Refining a smaller machine

Each request of a run is an action of the smaller machine, or it is nothing to
it.  What the two emit can be compared step by step.
-/

section Refinement

variable {state : Type u} {request : Type v} {response : Type w}
variable {state' : Type u} {action : Type v} {response' : Type w} {emission : Type x}

def actions (exec : state -> request -> response × state)
    (action? : state -> request -> Option action) : state -> List request -> List action
  | _, [] => []
  | s, r :: rest => (action? s r).toList ++ actions exec action? (exec s r).2 rest

def emitted (exec : state -> request -> response × state)
    (emit : state -> request -> List emission) : state -> List request -> List emission
  | _, [] => []
  | s, r :: rest => emit s r ++ emitted exec emit (exec s r).2 rest

theorem emitted_map {exec : state -> request -> response × state}
    {emit : state -> request -> List emission} {emission' : Type x}
    (f : emission -> emission') (rs : List request) :
    forall s, emitted exec (fun s r => (emit s r).map f) s rs =
      (emitted exec emit s rs).map f := by
  induction rs with
  | nil =>
      intro s
      rfl
  | cons r rest ih =>
      intro s
      unfold emitted
      rw [List.map_append, ih]

structure Refines (exec : state -> request -> response × state)
    (exec' : state' -> action -> response' × state')
    (action? : state -> request -> Option action) (P : request -> Prop)
    (R : state -> state' -> Prop) : Prop where
  stutter : forall s t r, P r -> R s t -> action? s r = none -> R (exec s r).2 t
  act : forall s t r a, P r -> R s t -> action? s r = some a ->
    R (exec s r).2 (exec' t a).2

theorem Refines.finalState {exec : state -> request -> response × state}
    {exec' : state' -> action -> response' × state'}
    {action? : state -> request -> Option action} {P : request -> Prop}
    {R : state -> state' -> Prop} (h : Refines exec exec' action? P R) (rs : List request)
    (hrs : forall r, r ∈ rs -> P r) :
    forall s t, R s t ->
      R (finalState exec s rs) (finalState exec' t (actions exec action? s rs)) := by
  induction rs with
  | nil =>
      intro s t hst
      exact hst
  | cons r rest ih =>
      intro s t hst
      have hr := hrs r List.mem_cons_self
      have hrest := ih fun q hq => hrs q (List.mem_cons_of_mem r hq)
      unfold actions
      cases haction : action? s r with
      | none =>
          exact hrest _ t (h.stutter s t r hr hst haction)
      | some a =>
          exact hrest _ _ (h.act s t r a hr hst haction)

theorem Refines.emitted {exec : state -> request -> response × state}
    {exec' : state' -> action -> response' × state'}
    {action? : state -> request -> Option action} {P : request -> Prop}
    {R : state -> state' -> Prop} (h : Refines exec exec' action? P R)
    {emit : state -> request -> List emission} {emit' : state' -> action -> List emission}
    (hsilent : forall s t r, P r -> R s t -> action? s r = none -> emit s r = [])
    (hemit : forall s t r a, P r -> R s t -> action? s r = some a ->
      emit s r = emit' t a) (rs : List request) (hrs : forall r, r ∈ rs -> P r) :
    forall s t, R s t ->
      Foundation.emitted exec emit s rs =
        Foundation.emitted exec' emit' t (actions exec action? s rs) := by
  induction rs with
  | nil =>
      intro s t _
      rfl
  | cons r rest ih =>
      intro s t hst
      have hr := hrs r List.mem_cons_self
      have hrest := ih fun q hq => hrs q (List.mem_cons_of_mem r hq)
      unfold actions
      cases haction : action? s r with
      | none =>
          show emit s r ++ _ = _
          rw [hsilent s t r hr hst haction]
          exact hrest _ t (h.stutter s t r hr hst haction)
      | some a =>
          show emit s r ++ _ = emit' t a ++ _
          rw [hemit s t r a hr hst haction,
            hrest _ _ (h.act s t r a hr hst haction)]
          rfl

end Refinement

end Foundation
end MetricMesh
