import Mathlib.Order.Lattice
import Mathlib.Data.List.Basic

/-!
# Interleaved programs

A program asks a shared store one command at a time and goes on with the reply.
Many programs run against one store under one clock: a command is atomic, and
between two commands of a program any other program and the clock may move.  A
program issues its first command at the instant at which it is started.
-/

namespace MetricMesh
namespace Foundation

universe u

inductive Program (command reply result : Type u) where
  | done (r : result)
  | ask (c : command) (next : reply -> Program command reply result)

namespace Program

variable {command reply result store τ : Type u}

def advance (run : command -> τ -> store -> reply × store) (now : τ) (s : store) :
    Program command reply result -> Program command reply result × store
  | .done r => (.done r, s)
  | .ask c next => (next (run c now s).1, (run c now s).2)

def isPending : Program command reply result -> Bool
  | .done _ => false
  | .ask _ _ => true

def run (serve : command -> store -> reply × store) :
    Program command reply result -> store -> result × store
  | .done r, s => (r, s)
  | .ask c next, s => run serve (next (serve c s).1) (serve c s).2

/-- Every command that a program asks, whatever the replies, meets a condition. -/
def Asks (P : command -> Prop) : Program command reply result -> Prop
  | .done _ => True
  | .ask c next => P c ∧ forall reply, Asks P (next reply)

/-- Stores that its commands do not tell apart make a program end alike. -/
theorem run_related {serve : command -> store -> reply × store} {P : command -> Prop}
    {R : store -> store -> Prop}
    (h : forall c s t, P c -> R s t -> (serve c s).1 = (serve c t).1 ∧
      R (serve c s).2 (serve c t).2) {p : Program command reply result} (hp : p.Asks P) :
    forall s t, R s t -> (p.run serve s).1 = (p.run serve t).1 ∧
      R (p.run serve s).2 (p.run serve t).2 := by
  induction p with
  | done r =>
      intro s t hst
      exact ⟨rfl, hst⟩
  | ask c next ih =>
      intro s t hst
      rcases h c s t hp.1 hst with ⟨hreply, hnext⟩
      unfold run
      rw [hreply]
      exact ih _ (hp.2 _) _ _ hnext

/-- What its commands keep is kept by the whole program. -/
theorem run_invariant {serve : command -> store -> reply × store} {P : command -> Prop}
    {Inv : store -> Prop} (h : forall c s, P c -> Inv s -> Inv (serve c s).2)
    {p : Program command reply result} (hp : p.Asks P) :
    forall s, Inv s -> Inv (p.run serve s).2 := by
  induction p with
  | done r =>
      intro s hs
      exact hs
  | ask c next ih =>
      intro s hs
      exact ih _ (hp.2 _) _ (h c s hp.1 hs)

end Program

structure Task (origin command reply result τ : Type u) where
  origin : origin
  time : τ
  program : Program command reply result

/-- The clock, the store, and all programs started so far, newest first. -/
structure Interleaving (origin command reply result store τ : Type u) where
  now : τ
  store : store
  tasks : List (Task origin command reply result τ)

namespace Interleaving

variable {origin command reply result store τ : Type u} [LE τ]
variable (run : command -> τ -> store -> reply × store)
variable (body : origin -> τ -> Program command reply result)

inductive Step : Interleaving origin command reply result store τ ->
    Interleaving origin command reply result store τ -> Prop where
  | tick {s : Interleaving origin command reply result store τ} (later : τ) :
      s.now ≤ later -> Step s { s with now := later }
  | begin {s : Interleaving origin command reply result store τ} (o : origin) :
      Step s
        { s with
          store := ((body o s.now).advance run s.now s.store).2,
          tasks :=
            { origin := o, time := s.now,
              program := ((body o s.now).advance run s.now s.store).1 } :: s.tasks }
  | proceed {s : Interleaving origin command reply result store τ}
      (newer older : List (Task origin command reply result τ))
      (t : Task origin command reply result τ) :
      s.tasks = newer ++ t :: older ->
      Step s
        { s with
          store := (t.program.advance run s.now s.store).2,
          tasks :=
            newer ++ { t with program := (t.program.advance run s.now s.store).1 } :: older }

end Interleaving

end Foundation
end MetricMesh
