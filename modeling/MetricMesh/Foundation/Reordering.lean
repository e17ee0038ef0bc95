import MetricMesh.Foundation.Runs

/-!
# Reordering a run

Requests that do not depend on each other can be exchanged where they follow one
another.  If such an exchange changes no response, and the state only up to what
no later response tells apart, then no number of exchanges does.

Nothing in this module mentions a particular program.
-/

namespace MetricMesh
namespace Foundation

universe u v w x

section Reordered

variable {request : Type v}

/-- One list results from the other by exchanging independent neighbours. -/
inductive Reordered (indep : request -> request -> Prop) :
    List request -> List request -> Prop where
  | nil : Reordered indep [] []
  | cons (r : request) {rs rs' : List request} :
      Reordered indep rs rs' -> Reordered indep (r :: rs) (r :: rs')
  | swap {a b : request} (rs : List request) :
      indep a b -> Reordered indep (a :: b :: rs) (b :: a :: rs)
  | trans {rs rs' rs'' : List request} :
      Reordered indep rs rs' -> Reordered indep rs' rs'' -> Reordered indep rs rs''

theorem Reordered.refl {indep : request -> request -> Prop} (rs : List request) :
    Reordered indep rs rs := by
  induction rs with
  | nil =>
      exact .nil
  | cons r rest ih =>
      exact .cons r ih

theorem Reordered.move {indep : request -> request -> Prop} {r : request}
    {before : List request} (after : List request)
    (h : forall b, b ∈ before -> indep r b) :
    Reordered indep (r :: (before ++ after)) (before ++ r :: after) := by
  induction before with
  | nil =>
      exact .refl _
  | cons b rest ih =>
      have hrest := ih fun c hc => h c (List.mem_cons_of_mem b hc)
      exact .trans (.swap _ (h b List.mem_cons_self)) (.cons b hrest)

theorem Reordered.map {event : Type w} {indep : request -> request -> Prop}
    {indep' : event -> event -> Prop} {f : request -> event}
    (himp : forall a b, indep a b -> indep' (f a) (f b)) {rs rs' : List request}
    (h : Reordered indep rs rs') : Reordered indep' (rs.map f) (rs'.map f) := by
  induction h with
  | nil =>
      exact .nil
  | cons r _ ih =>
      exact .cons (f r) ih
  | swap rs hindep =>
      exact .swap (rs.map f) (himp _ _ hindep)
  | trans _ _ ih ih' =>
      exact .trans ih ih'

/--
Where requests of different kinds are independent, it is enough that each kind
has its requests in the same order.
-/
theorem reordered_of_filter_eq {κ : Type x} [DecidableEq κ] (kind : request -> κ)
    (rs : List request) :
    forall rs' : List request,
      (forall k, rs.filter (fun r => kind r = k) = rs'.filter fun r => kind r = k) ->
        Reordered (fun a b => kind a ≠ kind b) rs rs' := by
  induction rs with
  | nil =>
      intro rs' h
      cases rs' with
      | nil =>
          exact .nil
      | cons r rest =>
          have hnone := h (kind r)
          simp at hnone
  | cons r rest ih =>
      intro rs' h
      have hfirst := h (kind r)
      rw [List.filter_cons_of_pos (by simp)] at hfirst
      rcases List.filter_eq_cons_iff.mp hfirst.symm with
        ⟨before, after, hsplit, hbefore, _, _⟩
      have hother : forall b, b ∈ before -> kind r ≠ kind b := by
        intro b hb heq
        exact hbefore b hb (decide_eq_true heq.symm)
      subst hsplit
      refine .trans (.cons r (ih (before ++ after) ?_)) (.move after hother)
      intro k
      have hk := h k
      rw [List.filter_append, List.filter_cons, List.filter_cons] at hk
      rw [List.filter_append]
      by_cases hkind : kind r = k
      · have hnone : before.filter (fun b => kind b = k) = [] := by
          rw [List.filter_eq_nil_iff]
          intro b hb hbk
          exact hother b hb (hkind.trans (of_decide_eq_true hbk).symm)
        simpa [hkind, hnone] using hk
      · simpa [hkind] using hk

end Reordered

/-!
# Exchanging neighbours in a run
-/

section Commutes

variable {state : Type u} {request : Type v} {response : Type w}

/-- Neither of two requests notices which one is executed first. -/
structure Exchange (exec : state -> request -> response × state)
    (alike : state -> state -> Prop) (s : state) (a b : request) : Prop where
  first : (exec s a).1 = (exec (exec s b).2 a).1
  second : (exec (exec s a).2 b).1 = (exec s b).1
  both : alike (exec (exec s a).2 b).2 (exec (exec s b).2 a).2

structure Commutes (exec : state -> request -> response × state)
    (indep : request -> request -> Prop) (alike : state -> state -> Prop) : Prop where
  equivalence : Equivalence alike
  /-- Alike states answer alike, and stay alike. -/
  response : forall s t r, alike s t -> (exec s r).1 = (exec t r).1
  next : forall s t r, alike s t -> alike (exec s r).2 (exec t r).2
  exchange : forall s a b, indep a b -> Exchange exec alike s a b

variable {exec : state -> request -> response × state}
  {indep : request -> request -> Prop} {alike : state -> state -> Prop}

theorem Exchange.of_swap (hrefl : forall s, alike s s) {s t : state} {a b : request}
    (ha : exec (exec s b).2 a = ((exec s a).1, t))
    (hb : exec (exec s a).2 b = ((exec s b).1, t)) : Exchange exec alike s a b := by
  constructor
  · rw [ha]
  · rw [hb]
  · rw [ha, hb]
    exact hrefl t

theorem Exchange.symm (hsymm : forall {s t}, alike s t -> alike t s) {s : state}
    {a b : request} (h : Exchange exec alike s a b) : Exchange exec alike s b a where
  first := h.second.symm
  second := h.first.symm
  both := hsymm h.both

theorem Commutes.congr (h : Commutes exec indep alike) (rs : List request) :
    forall s t : state, alike s t ->
      outputs exec s rs = outputs exec t rs ∧
        alike (finalState exec s rs) (finalState exec t rs) := by
  induction rs with
  | nil =>
      intro s t hst
      exact ⟨rfl, hst⟩
  | cons r rest ih =>
      intro s t hst
      rcases ih _ _ (h.next s t r hst) with ⟨houtputs, hfinal⟩
      rw [outputs_cons, outputs_cons, h.response s t r hst, houtputs]
      exact ⟨rfl, hfinal⟩

/-- A reordered run gives every request the same response. -/
theorem Commutes.reordered (h : Commutes exec indep alike) {rs rs' : List request}
    (horder : Reordered indep rs rs') :
    forall s : state, (outputs exec s rs).Perm (outputs exec s rs') ∧
      alike (finalState exec s rs) (finalState exec s rs') := by
  induction horder with
  | nil =>
      intro s
      exact ⟨.refl _, h.equivalence.refl s⟩
  | cons r _ ih =>
      intro s
      rcases ih (exec s r).2 with ⟨houtputs, hfinal⟩
      exact ⟨houtputs.cons _, hfinal⟩
  | @swap a b rs hindep =>
      intro s
      rcases h.exchange s a b hindep with ⟨hfirst, hsecond, hboth⟩
      rcases h.congr rs _ _ hboth with ⟨houtputs, hfinal⟩
      simp only [outputs_cons, finalState_cons]
      rw [houtputs, hfirst, hsecond]
      exact ⟨.swap _ _ _, hfinal⟩
  | trans _ _ ih ih' =>
      intro s
      rcases ih s with ⟨houtputs, hfinal⟩
      rcases ih' s with ⟨houtputs', hfinal'⟩
      exact ⟨houtputs.trans houtputs', h.equivalence.trans hfinal hfinal'⟩

end Commutes

end Foundation
end MetricMesh
