import MetricMesh.Alerting.DedupTotality
import MetricMesh.Foundation.Runs

/-!
# Concurrent deduplication

Any number of alert workers run `filter` against one Redis.  A step of the
system lets the clock advance, starts a call, runs one turn of one call's loop,
or ends a call; the turns of different calls interleave freely, and the workers
need not agree on their bucket widths.

Every SET command is logged, newest first, with the call that issued it.

A call that raises loses the anomalies whose keys it has already been granted.
Which batches can do so depends on the order of their anomalies only.
-/

namespace MetricMesh
namespace Alerting

open Foundation
open Python

/-- What the log remembers about a SET command besides the claim itself. -/
structure SetInfo where
  call : Nat
  source : Anomaly
  stamped : Anomaly
deriving DecidableEq

abbrev SetCommand : Type := ClaimAttempt String Rat SetInfo

/-- A call of `filter` between two turns of its loop. -/
structure FilterCall where
  id : Nat
  batch : List Anomaly
  pending : List Anomaly
  unique : List Anomaly

structure FinishedCall where
  id : Nat
  batch : List Anomaly
  /-- The anomalies that the call returned, or the exception it raised. -/
  outcome : Except PyError (List Anomaly)

structure DedupSystem (worker : Type) where
  now : Rat
  redis : Redis
  calls : worker -> Option FilterCall
  nextCall : Nat
  log : List SetCommand
  finished : List FinishedCall

namespace DedupSystem

variable {worker : Type} [DecidableEq worker]

def setCall (s : DedupSystem worker) (w : worker) (c : Option FilterCall) :
    DedupSystem worker :=
  { s with calls := fun w' => if w' = w then c else s.calls w' }

def Initial (s : DedupSystem worker) : Prop :=
  s.redis = ClaimStore.empty ∧ s.calls = (fun _ => none) ∧ s.log = [] ∧
    s.finished = []

def startCall (s : DedupSystem worker) (w : worker) (batch : List Anomaly) :
    DedupSystem worker :=
  { s.setCall w (some
      { id := s.nextCall, batch := batch, pending := batch, unique := [] }) with
    nextCall := s.nextCall + 1 }

def command (s : DedupSystem worker) (cooldown : Int) (c : FilterCall) (a : Anomaly)
    (fp : String) : SetCommand :=
  ClaimLog.attempt s.redis (keyPrefix ++ fp) s.now (s.now + cooldown)
    { call := c.id, source := a, stamped := { a with fingerprint := some fp } }

def afterTurn (s : DedupSystem worker) (w : worker) (cooldown : Int)
    (c : FilterCall) (a : Anomaly) (rest : List Anomaly) (fp : String) :
    DedupSystem worker :=
  { s.setCall w (some { c with
      pending := rest
      unique :=
        if (s.command cooldown c a fp).granted then
          c.unique ++ [{ a with fingerprint := some fp }]
        else c.unique }) with
    redis := (s.redis.setNX (keyPrefix ++ fp) s.now (s.now + cooldown)).2
    log := s.command cooldown c a fp :: s.log }

def endCall (s : DedupSystem worker) (w : worker) (c : FilterCall)
    (outcome : Except PyError (List Anomaly)) : DedupSystem worker :=
  { s.setCall w none with
    finished := { id := c.id, batch := c.batch, outcome := outcome } ::
      s.finished }

/-- The steps of a system whose workers are only passed batches that `Admits` holds of. -/
inductive Step (host : Host) (settings : Settings)
    (dedup : worker -> AlertDeduplicator) (Admits : List Anomaly -> Prop) :
    DedupSystem worker -> DedupSystem worker -> Prop where
  | tick {s : DedupSystem worker} {later : Rat} :
      s.now ≤ later -> Step host settings dedup Admits s { s with now := later }
  | call {s : DedupSystem worker} {w : worker} {batch : List Anomaly} :
      s.calls w = none -> Admits batch ->
      Step host settings dedup Admits s (s.startCall w batch)
  | turn {s : DedupSystem worker} {w : worker} {c : FilterCall} {a : Anomaly}
      {rest : List Anomaly} {fp : String} :
      s.calls w = some c -> c.pending = a :: rest ->
      (dedup w).fingerprint host settings s.now a = .ok fp ->
      Step host settings dedup Admits s (s.afterTurn w (dedup w).cooldown c a rest fp)
  | fail {s : DedupSystem worker} {w : worker} {c : FilterCall} {a : Anomaly}
      {rest : List Anomaly} {e : PyError} :
      s.calls w = some c -> c.pending = a :: rest ->
      (dedup w).fingerprint host settings s.now a = .error e ->
      Step host settings dedup Admits s (s.endCall w c (.error e))
  | finish {s : DedupSystem worker} {w : worker} {c : FilterCall} :
      s.calls w = some c -> c.pending = [] ->
      Step host settings dedup Admits s (s.endCall w c (.ok c.unique))

theorem calls_setCall_some {s : DedupSystem worker} {w w' : worker}
    {c c' : FilterCall} (h : (s.setCall w (some c)).calls w' = some c') :
    (w' = w ∧ c' = c) ∨ (w' ≠ w ∧ s.calls w' = some c') := by
  by_cases hw : w' = w
  · simp only [setCall, hw, if_true, Option.some.injEq] at h
    exact Or.inl ⟨hw, h.symm⟩
  · simp only [setCall, if_neg hw] at h
    exact Or.inr ⟨hw, h⟩

theorem calls_setCall_none {s : DedupSystem worker} {w w' : worker}
    {c : FilterCall} (h : (s.setCall w none).calls w' = some c) :
    w' ≠ w ∧ s.calls w' = some c := by
  by_cases hw : w' = w
  · simp [setCall, hw] at h
  · simp only [setCall, if_neg hw] at h
    exact ⟨hw, h⟩

@[simp] theorem calls_setCall_self (s : DedupSystem worker) (w : worker)
    (c : Option FilterCall) : (s.setCall w c).calls w = c := by
  simp [setCall]

theorem calls_setCall_of_ne (s : DedupSystem worker) {w w' : worker}
    (h : w' ≠ w) (c : Option FilterCall) :
    (s.setCall w c).calls w' = s.calls w' := by
  simp [setCall, h]

/-!
# The commands of one call

The log determines what a call has looked at and what it has been granted, both
in the order of its batch.
-/

def issued (log : List SetCommand) (id : Nat) : List Anomaly :=
  ((log.filter (fun e => e.payload.call = id)).map
    (fun e => e.payload.source)).reverse

def granted (log : List SetCommand) (id : Nat) : List Anomaly :=
  ((log.filter (fun e => e.payload.call = id ∧ e.granted = true)).map
    (fun e => e.payload.stamped)).reverse

theorem issued_cons_self (e : SetCommand) (log : List SetCommand) :
    issued (e :: log) e.payload.call =
      issued log e.payload.call ++ [e.payload.source] := by
  simp [issued]

theorem issued_cons_of_ne {e : SetCommand} {id : Nat}
    (h : e.payload.call ≠ id) (log : List SetCommand) :
    issued (e :: log) id = issued log id := by
  simp [issued, h]

theorem granted_cons_self (e : SetCommand) (log : List SetCommand) :
    granted (e :: log) e.payload.call =
      if e.granted then granted log e.payload.call ++ [e.payload.stamped]
      else granted log e.payload.call := by
  cases h : e.granted <;> simp [granted, h]

theorem granted_cons_of_ne {e : SetCommand} {id : Nat}
    (h : e.payload.call ≠ id) (log : List SetCommand) :
    granted (e :: log) id = granted log id := by
  simp [granted, h]

theorem mem_granted {log : List SetCommand} {e : SetCommand} (h : e ∈ log)
    (hgranted : e.granted = true) :
    e.payload.stamped ∈ granted log e.payload.call := by
  simp only [granted, List.mem_reverse, List.mem_map, List.mem_filter]
  exact ⟨e, ⟨h, by simp [hgranted]⟩, rfl⟩

theorem mem_issued {log : List SetCommand} {e : SetCommand} (h : e ∈ log) :
    e.payload.source ∈ issued log e.payload.call := by
  simp only [issued, List.mem_reverse, List.mem_map, List.mem_filter]
  exact ⟨e, ⟨h, by simp⟩, rfl⟩

theorem exists_of_mem_issued {log : List SetCommand} {id : Nat} {a : Anomaly}
    (h : a ∈ issued log id) :
    exists e, e ∈ log ∧ e.payload.call = id ∧ e.payload.source = a := by
  simp only [issued, List.mem_reverse, List.mem_map, List.mem_filter, decide_eq_true_eq] at h
  rcases h with ⟨e, ⟨he, hid⟩, hsource⟩
  exact ⟨e, he, hid, hsource⟩

/-!
# The invariant

Two halves.  The log is sound, describes Redis, and gives every claim the
cooldown; and every call is where its commands in the log say it is.
-/

def Keyed (host : Host) (settings : Settings)
    (dedup : worker -> AlertDeduplicator) (e : SetCommand) : Prop :=
  exists w fp,
    (dedup w).fingerprint host settings e.time e.payload.source = .ok fp ∧
      e.key = keyPrefix ++ fp ∧
      e.payload.stamped = { e.payload.source with fingerprint := some fp }

/-- Redis and the log tell the same story. -/
structure ClaimsInv (host : Host) (settings : Settings)
    (dedup : worker -> AlertDeduplicator) (cooldown : Int)
    (s : DedupSystem worker) : Prop where
  agrees : ClaimLog.Agrees s.redis s.log s.now
  sound : ClaimLog.Sound s.log
  past : forall e, e ∈ s.log -> e.time ≤ s.now
  ttl : forall e, e ∈ s.log -> e.expiry = e.time + cooldown
  keyed : forall e, e ∈ s.log -> Keyed host settings dedup e

def FinishedCall.Explained (host : Host) (log : List SetCommand) (f : FinishedCall) : Prop :=
  match f.outcome with
  | .ok unique => unique = granted log f.id ∧ f.batch = issued log f.id
  | .error _ => exists a rest,
      f.batch = issued log f.id ++ a :: rest ∧
        (a.HasFingerprint host -> issued log f.id = [])

structure CallsInv (host : Host) (dedup : worker -> AlertDeduplicator)
    (Admits : List Anomaly -> Prop) (s : DedupSystem worker) : Prop where
  callFresh : forall w c, s.calls w = some c -> c.id < s.nextCall
  finishedFresh : forall f, f ∈ s.finished -> f.id < s.nextCall
  logFresh : forall e, e ∈ s.log -> e.payload.call < s.nextCall
  callDistinct : forall w w' c c', s.calls w = some c ->
    s.calls w' = some c' -> c.id = c'.id -> w = w'
  callFinished : forall w c f, s.calls w = some c -> f ∈ s.finished ->
    c.id ≠ f.id
  callLog : forall w c, s.calls w = some c ->
    c.unique = granted s.log c.id ∧ c.batch = issued s.log c.id ++ c.pending
  finishedLog : forall f, f ∈ s.finished -> FinishedCall.Explained host s.log f
  logOwned : forall e, e ∈ s.log ->
    (exists w c, s.calls w = some c ∧ c.id = e.payload.call) ∨
      exists f, f ∈ s.finished ∧ f.id = e.payload.call
  /-- A worker whose width has no double issues nothing. -/
  callWidth : forall w c, s.calls w = some c -> issued s.log c.id ≠ [] ->
    Host.HasDouble (dedup w).bucketSeconds
  callAdmitted : forall w c, s.calls w = some c -> Admits c.batch
  finishedAdmitted : forall f, f ∈ s.finished -> Admits f.batch

section Steps

variable {host : Host} {settings : Settings}
variable {dedup : worker -> AlertDeduplicator} {cooldown : Int}
variable {Admits : List Anomaly -> Prop}

omit [DecidableEq worker] in
theorem ClaimsInv.start {s : DedupSystem worker} (h : s.Initial) :
    ClaimsInv host settings dedup cooldown s := by
  rcases h with ⟨hredis, _, hlog, _⟩
  constructor
  · rw [hredis, hlog]
    exact ClaimLog.agrees_empty s.now
  · rw [hlog]
    exact ClaimLog.Sound.nil
  · simp [hlog]
  · simp [hlog]
  · simp [hlog]

omit [DecidableEq worker] in
theorem CallsInv.start {s : DedupSystem worker} (h : s.Initial) :
    CallsInv host dedup Admits s := by
  rcases h with ⟨_, hcalls, hlog, hfinished⟩
  constructor <;> simp [hcalls, hlog, hfinished]

omit [DecidableEq worker] in
theorem ClaimsInv.tick {s : DedupSystem worker} {later : Rat}
    (h : ClaimsInv host settings dedup cooldown s) (hle : s.now ≤ later) :
    ClaimsInv host settings dedup cooldown { s with now := later } where
  agrees := h.agrees.later hle
  sound := h.sound
  past := fun e he => le_trans (h.past e he) hle
  ttl := h.ttl
  keyed := h.keyed

theorem ClaimsInv.turn {s : DedupSystem worker} {w : worker} {c : FilterCall}
    {a : Anomaly} {rest : List Anomaly} {fp : String}
    (h : ClaimsInv host settings dedup cooldown s)
    (hcool : (dedup w).cooldown = cooldown)
    (hfp : (dedup w).fingerprint host settings s.now a = .ok fp) :
    ClaimsInv host settings dedup cooldown
      (s.afterTurn w (dedup w).cooldown c a rest fp) := by
  constructor
  · exact h.agrees.setNX _ _ _
  · exact h.sound.setNX h.agrees h.past _ _ _
  · intro e he
    rcases List.mem_cons.mp he with rfl | he
    · exact le_refl s.now
    · exact h.past e he
  · intro e he
    rcases List.mem_cons.mp he with rfl | he
    · show s.now + ((dedup w).cooldown : Rat) = s.now + cooldown
      rw [hcool]
    · exact h.ttl e he
  · intro e he
    rcases List.mem_cons.mp he with rfl | he
    · exact ⟨w, fp, hfp, rfl, rfl⟩
    · exact h.keyed e he

/-!
# The calls stay where the log puts them
-/

theorem CallsInv.startCall {s : DedupSystem worker} {w : worker}
    (h : CallsInv host dedup Admits s) (hidle : s.calls w = none)
    {batch : List Anomaly} (hadmits : Admits batch) :
    CallsInv host dedup Admits (s.startCall w batch) := by
  -- A fresh identifier has no commands in the log.
  have hissued : issued s.log s.nextCall = [] := by
    simp only [issued, List.reverse_eq_nil_iff, List.map_eq_nil_iff,
      List.filter_eq_nil_iff, decide_eq_true_eq]
    intro e he
    exact ne_of_lt (h.logFresh e he)
  have hgranted : granted s.log s.nextCall = [] := by
    simp only [granted, List.reverse_eq_nil_iff, List.map_eq_nil_iff,
      List.filter_eq_nil_iff, decide_eq_true_eq]
    intro e he hcall
    exact ne_of_lt (h.logFresh e he) hcall.1
  constructor
  · intro w' c hc
    rcases calls_setCall_some hc with ⟨_, rfl⟩ | ⟨_, hc⟩
    · exact Nat.lt_succ_self _
    · exact Nat.lt_succ_of_lt (h.callFresh w' c hc)
  · intro f hf
    exact Nat.lt_succ_of_lt (h.finishedFresh f hf)
  · intro e he
    exact Nat.lt_succ_of_lt (h.logFresh e he)
  · intro w₁ w₂ c₁ c₂ hc₁ hc₂ hid
    rcases calls_setCall_some hc₁ with ⟨hw₁, rfl⟩ | ⟨_, hc₁⟩
    · rcases calls_setCall_some hc₂ with ⟨hw₂, _⟩ | ⟨_, hc₂⟩
      · rw [hw₁, hw₂]
      · exact absurd hid.symm (ne_of_lt (h.callFresh w₂ c₂ hc₂))
    · rcases calls_setCall_some hc₂ with ⟨_, rfl⟩ | ⟨_, hc₂⟩
      · exact absurd hid (ne_of_lt (h.callFresh w₁ c₁ hc₁))
      · exact h.callDistinct w₁ w₂ c₁ c₂ hc₁ hc₂ hid
  · intro w' c f hc hf
    rcases calls_setCall_some hc with ⟨_, rfl⟩ | ⟨_, hc⟩
    · exact (ne_of_lt (h.finishedFresh f hf)).symm
    · exact h.callFinished w' c f hc hf
  · intro w' c hc
    rcases calls_setCall_some hc with ⟨_, rfl⟩ | ⟨_, hc⟩
    · exact ⟨hgranted.symm, by
        show batch = issued s.log s.nextCall ++ batch
        rw [hissued]
        rfl⟩
    · exact h.callLog w' c hc
  · exact h.finishedLog
  · intro e he
    rcases h.logOwned e he with ⟨w', c, hc, hid⟩ | hfinished
    · have hne : w' ≠ w := by
        intro hw
        rw [hw, hidle] at hc
        cases hc
      exact Or.inl ⟨w', c, (calls_setCall_of_ne s hne _).trans hc, hid⟩
    · exact Or.inr hfinished
  · intro w' c hc
    rcases calls_setCall_some hc with ⟨_, rfl⟩ | ⟨_, hc⟩
    · intro hsome
      exact absurd hissued hsome
    · exact h.callWidth w' c hc
  · intro w' c hc
    rcases calls_setCall_some hc with ⟨_, rfl⟩ | ⟨_, hc⟩
    · exact hadmits
    · exact h.callAdmitted w' c hc
  · exact h.finishedAdmitted

theorem CallsInv.turn {s : DedupSystem worker} {w : worker} {c : FilterCall}
    {a : Anomaly} {rest : List Anomaly} {cooldown : Int} {fp : String}
    (h : CallsInv host dedup Admits s) (hcall : s.calls w = some c)
    (hpending : c.pending = a :: rest) (hdouble : Host.HasDouble (dedup w).bucketSeconds) :
    CallsInv host dedup Admits (s.afterTurn w cooldown c a rest fp) := by
  let e₀ := s.command cooldown c a fp
  have hlog : (s.afterTurn w cooldown c a rest fp).log = e₀ :: s.log := rfl
  have hothers : forall w' c', w' ≠ w -> s.calls w' = some c' -> c.id ≠ c'.id := by
    intro w' c' hne hc' hid
    exact hne (h.callDistinct w' w c' c hc' hcall hid.symm)
  constructor
  · intro w' c' hc'
    rcases calls_setCall_some hc' with ⟨_, rfl⟩ | ⟨_, hc'⟩
    · exact h.callFresh w c hcall
    · exact h.callFresh w' c' hc'
  · exact h.finishedFresh
  · intro e he
    rcases List.mem_cons.mp he with rfl | he
    · exact h.callFresh w c hcall
    · exact h.logFresh e he
  · intro w₁ w₂ c₁ c₂ hc₁ hc₂ hid
    rcases calls_setCall_some hc₁ with ⟨hw₁, rfl⟩ | ⟨hne₁, hc₁⟩
    · rcases calls_setCall_some hc₂ with ⟨hw₂, _⟩ | ⟨hne₂, hc₂⟩
      · rw [hw₁, hw₂]
      · exact absurd hid (hothers w₂ c₂ hne₂ hc₂)
    · rcases calls_setCall_some hc₂ with ⟨_, rfl⟩ | ⟨_, hc₂⟩
      · exact absurd hid.symm (hothers w₁ c₁ hne₁ hc₁)
      · exact h.callDistinct w₁ w₂ c₁ c₂ hc₁ hc₂ hid
  · intro w' c' f hc' hf
    rcases calls_setCall_some hc' with ⟨_, rfl⟩ | ⟨_, hc'⟩
    · exact h.callFinished w c f hcall hf
    · exact h.callFinished w' c' f hc' hf
  · intro w' c' hc'
    rw [hlog]
    rcases calls_setCall_some hc' with ⟨_, rfl⟩ | ⟨hne, hc'⟩
    · rcases h.callLog w c hcall with ⟨hunique, hbatch⟩
      have hissued := issued_cons_self e₀ s.log
      have hgranted := granted_cons_self e₀ s.log
      constructor
      · show (if e₀.granted then c.unique ++ [e₀.payload.stamped] else c.unique) =
          granted (e₀ :: s.log) e₀.payload.call
        rw [hgranted, hunique]
        rfl
      · show c.batch = issued (e₀ :: s.log) e₀.payload.call ++ rest
        rw [hissued, hbatch, hpending, List.append_assoc]
        rfl
    · have hid : e₀.payload.call ≠ c'.id := hothers w' c' hne hc'
      rw [issued_cons_of_ne hid, granted_cons_of_ne hid]
      exact h.callLog w' c' hc'
  · intro f hf
    have hid : e₀.payload.call ≠ f.id := h.callFinished w c f hcall hf
    have hold := h.finishedLog f hf
    unfold FinishedCall.Explained at hold ⊢
    rw [hlog, issued_cons_of_ne hid, granted_cons_of_ne hid]
    exact hold
  · intro e he
    have hstill : forall id, (exists w' c', s.calls w' = some c' ∧ c'.id = id) ->
        exists w' c', (s.afterTurn w cooldown c a rest fp).calls w' = some c' ∧
          c'.id = id := by
      intro id hcalls
      rcases hcalls with ⟨w', c', hc', hid⟩
      by_cases hw : w' = w
      · rw [hw, hcall] at hc'
        cases hc'
        exact ⟨w, _, calls_setCall_self s w _, hid⟩
      · exact ⟨w', c', (calls_setCall_of_ne s hw _).trans hc', hid⟩
    rcases List.mem_cons.mp he with rfl | he
    · exact Or.inl (hstill c.id ⟨w, c, hcall, rfl⟩)
    · rcases h.logOwned e he with hflight | hfinished
      · exact Or.inl (hstill e.payload.call hflight)
      · exact Or.inr hfinished
  · intro w' c' hc' hsome
    rcases calls_setCall_some hc' with ⟨hw, rfl⟩ | ⟨hne, hc'⟩
    · rw [hw]
      exact hdouble
    · have hid : e₀.payload.call ≠ c'.id := hothers w' c' hne hc'
      rw [hlog, issued_cons_of_ne hid] at hsome
      exact h.callWidth w' c' hc' hsome
  · intro w' c' hc'
    rcases calls_setCall_some hc' with ⟨_, rfl⟩ | ⟨_, hc'⟩
    · exact h.callAdmitted w c hcall
    · exact h.callAdmitted w' c' hc'
  · exact h.finishedAdmitted

theorem CallsInv.endCall {s : DedupSystem worker} {w : worker} {c : FilterCall}
    {outcome : Except PyError (List Anomaly)}
    (h : CallsInv host dedup Admits s) (hcall : s.calls w = some c)
    (hexplained : FinishedCall.Explained host s.log
      { id := c.id, batch := c.batch, outcome := outcome }) :
    CallsInv host dedup Admits (s.endCall w c outcome) := by
  constructor
  · intro w' c' hc'
    exact h.callFresh w' c' (calls_setCall_none hc').2
  · intro f hf
    rcases List.mem_cons.mp hf with rfl | hf
    · exact h.callFresh w c hcall
    · exact h.finishedFresh f hf
  · exact h.logFresh
  · intro w₁ w₂ c₁ c₂ hc₁ hc₂ hid
    exact h.callDistinct w₁ w₂ c₁ c₂ (calls_setCall_none hc₁).2
      (calls_setCall_none hc₂).2 hid
  · intro w' c' f hc' hf
    rcases calls_setCall_none hc' with ⟨hne, hc'⟩
    rcases List.mem_cons.mp hf with rfl | hf
    · intro hid
      exact hne (h.callDistinct w' w c' c hc' hcall hid)
    · exact h.callFinished w' c' f hc' hf
  · intro w' c' hc'
    exact h.callLog w' c' (calls_setCall_none hc').2
  · intro f hf
    rcases List.mem_cons.mp hf with rfl | hf
    · exact hexplained
    · exact h.finishedLog f hf
  · intro e he
    rcases h.logOwned e he with ⟨w', c', hc', hid⟩ | ⟨f, hf, hid⟩
    · by_cases hw : w' = w
      · rw [hw, hcall] at hc'
        cases hc'
        exact Or.inr ⟨_, List.mem_cons_self, hid⟩
      · exact Or.inl ⟨w', c', (calls_setCall_of_ne s hw _).trans hc', hid⟩
    · exact Or.inr ⟨f, List.mem_cons_of_mem _ hf, hid⟩
  · intro w' c' hc'
    exact h.callWidth w' c' (calls_setCall_none hc').2
  · intro w' c' hc'
    exact h.callAdmitted w' c' (calls_setCall_none hc').2
  · intro f hf
    rcases List.mem_cons.mp hf with rfl | hf
    · exact h.callAdmitted w c hcall
    · exact h.finishedAdmitted f hf

/-!
# Every run

One step keeps both halves of the invariant, and so does every run.
-/

theorem inv_step (hcool : forall w, (dedup w).cooldown = cooldown)
    {s t : DedupSystem worker}
    (h : ClaimsInv host settings dedup cooldown s ∧ CallsInv host dedup Admits s)
    (hstep : Step host settings dedup Admits s t) :
    ClaimsInv host settings dedup cooldown t ∧ CallsInv host dedup Admits t := by
  rcases h with ⟨hclaims, hcalls⟩
  cases hstep with
  | tick hle =>
      refine ⟨hclaims.tick hle, ?_⟩
      exact ⟨hcalls.callFresh, hcalls.finishedFresh, hcalls.logFresh,
        hcalls.callDistinct, hcalls.callFinished, hcalls.callLog,
        hcalls.finishedLog, hcalls.logOwned, hcalls.callWidth, hcalls.callAdmitted,
        hcalls.finishedAdmitted⟩
  | call hidle hadmits =>
      refine ⟨?_, hcalls.startCall hidle hadmits⟩
      exact ⟨hclaims.agrees, hclaims.sound, hclaims.past, hclaims.ttl,
        hclaims.keyed⟩
  | turn hcall hpending hfp =>
      exact ⟨hclaims.turn (hcool _) hfp, hcalls.turn hcall hpending
        (AlertDeduplicator.hasDouble_of_fingerprint hfp)⟩
  | @fail w c a rest e hcall hpending hraised =>
      refine ⟨⟨hclaims.agrees, hclaims.sound, hclaims.past, hclaims.ttl,
        hclaims.keyed⟩, ?_⟩
      apply hcalls.endCall hcall
      refine ⟨a, rest, ?_, ?_⟩
      · rw [← hpending]
        exact (hcalls.callLog w c hcall).2
      · intro hhas
        by_contra hsome
        rw [AlertDeduplicator.fingerprint_of_hasFingerprint
          (hcalls.callWidth w c hcall hsome) hhas] at hraised
        cases hraised
  | @finish w c hcall hpending =>
      refine ⟨⟨hclaims.agrees, hclaims.sound, hclaims.past, hclaims.ttl,
        hclaims.keyed⟩, ?_⟩
      apply hcalls.endCall hcall
      rcases hcalls.callLog w c hcall with ⟨hunique, hbatch⟩
      refine ⟨hunique, ?_⟩
      simpa [hpending] using hbatch

theorem inv_reachable (hcool : forall w, (dedup w).cooldown = cooldown)
    {s : DedupSystem worker}
    (h : Reachable Initial (Step host settings dedup Admits) s) :
    ClaimsInv host settings dedup cooldown s ∧ CallsInv host dedup Admits s :=
  h.invariant
    (fun _ hstart => ⟨ClaimsInv.start hstart, CallsInv.start hstart⟩)
    (fun _ _ hinv hstep => inv_step hcool hinv hstep)

end Steps

/-!
# One grant a window

The claims that the log grants are the windows of length `cooldown` that open
at a granted command.  The main result reads the two invariants off as what the
cooldown promises: the windows of a key are disjoint, a command outside every
window opens one, and a command inside one is suppressed by the single command
that opened it, whose anomaly its call returns.
-/

/-- The window that a granted command opens on its key. -/
def Opens (cooldown : Int) (e : SetCommand) (key : String) (t : Rat) : Prop :=
  e.granted = true ∧ e.key = key ∧ e.time ≤ t ∧ t < e.time + cooldown

/-- The anomaly of a granted command: its call has returned it, or still holds it. -/
def Delivered (s : DedupSystem worker) (e : SetCommand) : Prop :=
  (exists f unique, f ∈ s.finished ∧ f.id = e.payload.call ∧
      f.outcome = .ok unique ∧ e.payload.stamped ∈ unique) ∨
    exists w c, s.calls w = some c ∧ c.id = e.payload.call ∧
      e.payload.stamped ∈ c.unique

/-- What the dedup keys promise about every command issued so far. -/
structure OneGrantPerWindow (host : Host) (settings : Settings)
    (dedup : worker -> AlertDeduplicator) (cooldown : Int)
    (s : DedupSystem worker) : Prop where
  /-- A command is about the fingerprint of one anomaly of its call's batch. -/
  keyed : forall e, e ∈ s.log -> Keyed host settings dedup e
  /-- Two grants of one key are at least a cooldown apart. -/
  spaced : s.log.Pairwise (fun later earlier : SetCommand =>
    later.granted = true -> earlier.granted = true ->
      later.key = earlier.key -> earlier.time + cooldown ≤ later.time)
  /-- A command is granted exactly when no earlier grant covers its time. -/
  granted_iff : forall later earlier e, s.log = later ++ e :: earlier ->
    (e.granted = true <->
      ¬ exists owner, owner ∈ earlier ∧ Opens cooldown owner e.key e.time)
  /-- A suppressed command lies in the window of one grant. -/
  suppressed : forall later earlier e, s.log = later ++ e :: earlier ->
    e.granted = false -> exists owner,
      (owner ∈ earlier ∧ Opens cooldown owner e.key e.time) ∧
        forall other, other ∈ earlier ∧ Opens cooldown other e.key e.time ->
          other = owner
  /-- The live keys are those of the granted windows, and of nothing else. -/
  live_iff : forall key t, s.now ≤ t ->
    (s.redis.live key t = true <->
      exists e, e ∈ s.log ∧ Opens cooldown e key t)
  /-- What is granted is delivered. -/
  delivered : forall e, e ∈ s.log -> e.granted = true -> Delivered s e
  /-- What is delivered is granted, one anomaly for every grant of the call. -/
  returned : forall f unique, f ∈ s.finished -> f.outcome = .ok unique ->
    unique = DedupSystem.granted s.log f.id ∧
      f.batch = DedupSystem.issued s.log f.id

/-- If any anomaly of the batch has no fingerprint, the first one has none. -/
def RaisesAtOnce (host : Host) (batch : List Anomaly) : Prop :=
  forall a rest, batch = a :: rest -> a.HasFingerprint host ->
    forall b, b ∈ rest -> b.HasFingerprint host

section Promise

variable {host : Host} {settings : Settings}
variable {dedup : worker -> AlertDeduplicator} {cooldown : Int}
variable {Admits : List Anomaly -> Prop}

omit [DecidableEq worker] in
theorem ClaimsInv.opens_iff {s : DedupSystem worker}
    (h : ClaimsInv host settings dedup cooldown s) {e : SetCommand}
    (he : e ∈ s.log) {key : String} {t : Rat} (hle : e.time ≤ t) :
    Opens cooldown e key t <->
      e.granted = true ∧ e.key = key ∧ t < e.expiry := by
  rw [h.ttl e he]
  constructor
  · intro hopen
    exact ⟨hopen.1, hopen.2.1, hopen.2.2.2⟩
  · intro hopen
    exact ⟨hopen.1, hopen.2.1, hle, hopen.2.2⟩

omit [DecidableEq worker] in
theorem ClaimsInv.owned_iff {s : DedupSystem worker}
    (h : ClaimsInv host settings dedup cooldown s) {log : List SetCommand}
    {key : String} {t : Rat}
    (hlog : forall e, e ∈ log -> e ∈ s.log ∧ e.time ≤ t) :
    ClaimLog.Owned log key t <->
      exists e, e ∈ log ∧ Opens cooldown e key t := by
  unfold ClaimLog.Owned
  constructor
  · intro howned
    rcases howned with ⟨e, he, hopen⟩
    exact ⟨e, he, (h.opens_iff (hlog e he).1 (hlog e he).2).mpr hopen⟩
  · intro hopens
    rcases hopens with ⟨e, he, hopen⟩
    exact ⟨e, he, (h.opens_iff (hlog e he).1 (hlog e he).2).mp hopen⟩

theorem earlier_mem {log later earlier : List SetCommand} {e : SetCommand}
    (hsound : ClaimLog.Sound log) (hsplit : log = later ++ e :: earlier) :
    forall x, x ∈ earlier -> x ∈ log ∧ x.time ≤ e.time := by
  intro x hx
  constructor
  · rw [hsplit]
    simp [hx]
  · rw [hsplit] at hsound
    cases hsound.of_append with
    | cons _ hpast _ =>
        exact hpast x hx

omit [DecidableEq worker] in
theorem issued_eq_nil_of_error {s : DedupSystem worker}
    (hclaims : ClaimsInv host settings dedup cooldown s) (hcalls : CallsInv host dedup Admits s)
    {f : FinishedCall} (hf : f ∈ s.finished) {err : PyError} (herr : f.outcome = .error err)
    (hbatch : RaisesAtOnce host f.batch) : issued s.log f.id = [] := by
  have hexplained := hcalls.finishedLog f hf
  unfold FinishedCall.Explained at hexplained
  rw [herr] at hexplained
  rcases hexplained with ⟨b, rest, hsplit, hnothing⟩
  cases hissued : issued s.log f.id with
  | nil =>
      rfl
  | cons a more =>
      rw [hissued, List.cons_append] at hsplit
      have ha : a ∈ issued s.log f.id := by
        rw [hissued]
        exact List.mem_cons_self
      rcases exists_of_mem_issued ha with ⟨e, he, _, hsource⟩
      rcases hclaims.keyed e he with ⟨w, fp, hfp, _⟩
      rw [hsource] at hfp
      have hhas := AlertDeduplicator.hasFingerprint_of_fingerprint hfp
      have hnil := hnothing (hbatch a _ hsplit hhas b (by simp))
      rw [hissued] at hnil
      cases hnil

omit [DecidableEq worker] in
theorem CallsInv.delivered {s : DedupSystem worker} (h : CallsInv host dedup Admits s)
    (hclaims : ClaimsInv host settings dedup cooldown s)
    (hbatches : forall w batch, Host.HasDouble (dedup w).bucketSeconds -> Admits batch ->
      RaisesAtOnce host batch)
    {e : SetCommand} (he : e ∈ s.log) (hgranted : e.granted = true) : Delivered s e := by
  have hmem := mem_granted he hgranted
  rcases h.logOwned e he with ⟨w, c, hcall, hid⟩ | ⟨f, hf, hid⟩
  · refine Or.inr ⟨w, c, hcall, hid, ?_⟩
    rw [(h.callLog w c hcall).1, hid]
    exact hmem
  · have hexplained := h.finishedLog f hf
    unfold FinishedCall.Explained at hexplained
    cases houtcome : f.outcome with
    | ok unique =>
        rw [houtcome] at hexplained
        refine Or.inl ⟨f, unique, hf, hid, houtcome, ?_⟩
        rw [hexplained.1, hid]
        exact hmem
    | error err =>
        rcases hclaims.keyed e he with ⟨w, fp, hfp, _⟩
        have hnil := issued_eq_nil_of_error hclaims h hf houtcome
          (hbatches w f.batch (AlertDeduplicator.hasDouble_of_fingerprint hfp)
            (h.finishedAdmitted f hf))
        have hissued := mem_issued he
        rw [← hid, hnil] at hissued
        cases hissued

/--
When every batch raises at once or not at all, every dedup key is granted once per
window and nothing is suppressed outside one, in every run of any number of workers.
-/
theorem oneGrantPerWindow_of_raisesAtOnce (hcool : forall w, (dedup w).cooldown = cooldown)
    (hbatches : forall w batch, Host.HasDouble (dedup w).bucketSeconds -> Admits batch ->
      RaisesAtOnce host batch)
    {s : DedupSystem worker}
    (h : Reachable Initial (Step host settings dedup Admits) s) :
    OneGrantPerWindow host settings dedup cooldown s := by
  rcases inv_reachable hcool h with ⟨hclaims, hcalls⟩
  constructor
  · exact hclaims.keyed
  · refine hclaims.sound.disjoint.imp_of_mem ?_
    intro later earlier _ hearlier hdisjoint hlater hgranted hkey
    rw [← hclaims.ttl earlier hearlier]
    exact hdisjoint hlater hgranted hkey
  · intro later earlier e hsplit
    rw [hclaims.sound.verdict hsplit,
      hclaims.owned_iff (earlier_mem hclaims.sound hsplit)]
  · intro later earlier e hsplit hrefused
    have hold := earlier_mem hclaims.sound hsplit
    have hsound := hclaims.sound
    rw [hsplit] at hsound
    rcases hsound.refused_owner hrefused with
      ⟨owner, ⟨hmem, hgranted, hkey, hle, hlt⟩, hunique⟩
    have hopen := (hclaims.opens_iff (hold owner hmem).1 hle).mpr
      ⟨hgranted, hkey, hlt⟩
    refine ⟨owner, ⟨hmem, hopen⟩, ?_⟩
    intro other hother
    rcases hother with ⟨hmem', hopen'⟩
    have hclose := (hclaims.opens_iff (hold other hmem').1
      (hold other hmem').2).mp hopen'
    exact hunique other
      ⟨hmem', hclose.1, hclose.2.1, (hold other hmem').2, hclose.2.2⟩
  · intro key t ht
    rw [hclaims.agrees key t ht]
    exact hclaims.owned_iff
      (fun e he => ⟨he, le_trans (hclaims.past e he) ht⟩)
  · intro e he hgranted
    exact hcalls.delivered hclaims hbatches he hgranted
  · intro f unique hf houtcome
    have hexplained := hcalls.finishedLog f hf
    unfold FinishedCall.Explained at hexplained
    rw [houtcome] at hexplained
    exact hexplained

/-!
# Calls that raise too late

A call that has been granted a key and then looks at an anomaly without a
fingerprint raises, and what it was granted is neither returned nor held.
-/

theorem not_delivered_of_error {s : DedupSystem worker} (h : CallsInv host dedup Admits s)
    {w : worker} {c : FilterCall} (hcall : s.calls w = some c) {e : SetCommand}
    (hid : e.payload.call = c.id) (err : PyError) :
    ¬ Delivered (s.endCall w c (.error err)) e := by
  intro hdelivered
  rcases hdelivered with ⟨f, unique, hf, hfid, houtcome, _⟩ | ⟨w', c', hcall', hid', _⟩
  · rcases List.mem_cons.mp hf with rfl | hf
    · cases houtcome
    · exact h.callFinished w c f hcall hf (hid.symm.trans hfid.symm)
  · rcases calls_setCall_none hcall' with ⟨hne, hother⟩
    exact hne (h.callDistinct w' w c' c hother hcall (hid'.trans hid))

theorem reachable_not_delivered (hcool : forall w, (dedup w).cooldown = cooldown)
    {w : worker} {e : SetCommand} (hgranted : e.granted = true) (pending : List Anomaly) :
    forall (s : DedupSystem worker) (c : FilterCall),
      Reachable Initial (Step host settings dedup Admits) s ->
      s.calls w = some c -> c.pending = pending ->
      e ∈ s.log -> e.payload.call = c.id ->
      (exists b, b ∈ pending ∧ ¬ b.HasFingerprint host) ->
      exists t, Reachable Initial (Step host settings dedup Admits) t ∧
        e ∈ t.log ∧ e.granted = true ∧ ¬ Delivered t e := by
  induction pending with
  | nil =>
      intro s c _ _ _ _ _ hbad
      rcases hbad with ⟨b, hb, _⟩
      cases hb
  | cons a rest ih =>
      intro s c hreach hcall hpending he hid hbad
      cases hfp : (dedup w).fingerprint host settings s.now a with
      | error err =>
          exact ⟨_, Reachable.step hreach (Step.fail hcall hpending hfp), he, hgranted,
            not_delivered_of_error (inv_reachable hcool hreach).2 hcall hid err⟩
      | ok fp =>
          have hturn := Reachable.step hreach (Step.turn hcall hpending hfp)
          apply ih _ _ hturn (calls_setCall_self s w _) rfl (List.mem_cons_of_mem _ he) hid
          rcases hbad with ⟨b, hb, hnot⟩
          rcases List.mem_cons.mp hb with rfl | hb
          · exact absurd (AlertDeduplicator.hasFingerprint_of_fingerprint hfp) hnot
          · exact ⟨b, hb, hnot⟩

def idle : DedupSystem worker where
  now := 0
  redis := ClaimStore.empty
  calls := fun _ => none
  nextCall := 0
  log := []
  finished := []

theorem reachable_of_not_raisesAtOnce (hcool : forall w, (dedup w).cooldown = cooldown)
    {w : worker} (hdouble : Host.HasDouble (dedup w).bucketSeconds) {batch : List Anomaly}
    (hadmits : Admits batch) (hbatch : ¬ RaisesAtOnce host batch) :
    exists t e, Reachable Initial (Step host settings dedup Admits) t ∧
      e ∈ t.log ∧ e.granted = true ∧ ¬ Delivered t e := by
  unfold RaisesAtOnce at hbatch
  push Not at hbatch
  rcases hbatch with ⟨a, rest, hcons, hhas, hbad⟩
  let s : DedupSystem worker := idle.startCall w batch
  let c : FilterCall := { id := 0, batch := batch, pending := batch, unique := [] }
  have hstart : Reachable Initial (Step host settings dedup Admits) (idle : DedupSystem worker) :=
    Reachable.start ⟨rfl, rfl, rfl, rfl⟩
  have hcalled : Reachable Initial (Step host settings dedup Admits) s :=
    Reachable.step hstart (Step.call rfl hadmits)
  have hcall : s.calls w = some c := calls_setCall_self idle w _
  have hturn := Reachable.step hcalled (Step.turn hcall hcons
    (AlertDeduplicator.fingerprint_of_hasFingerprint hdouble hhas))
  rcases reachable_not_delivered hcool rfl rest _ _ hturn (calls_setCall_self s w _) rfl
    List.mem_cons_self rfl hbad with ⟨t, ht, hlost⟩
  exact ⟨t, _, ht, hlost⟩

/--
In every run of any number of workers that share a cooldown, every dedup key is
granted once per window and nothing is suppressed outside one, exactly when every
batch raises at once or not at all, or no worker has a width with a double.
-/
theorem filter_oneGrantPerWindow_iff (hcool : forall w, (dedup w).cooldown = cooldown) :
    (forall s, Reachable Initial (Step host settings dedup Admits) s ->
      OneGrantPerWindow host settings dedup cooldown s) <->
      forall w batch, Host.HasDouble (dedup w).bucketSeconds -> Admits batch ->
        RaisesAtOnce host batch := by
  constructor
  · intro h w batch hdouble hadmits
    by_contra hbatch
    rcases reachable_of_not_raisesAtOnce hcool hdouble hadmits hbatch with
      ⟨t, e, ht, he, hgranted, hlost⟩
    exact hlost ((h t ht).delivered e he hgranted)
  · intro hbatches s h
    exact oneGrantPerWindow_of_raisesAtOnce hcool hbatches h

/-!
Two workers see one spike: the first command opens the window, and the second
is suppressed inside it.  When the first call raises on a later anomaly, the
spike is suppressed although nobody has returned it.
-/

def sharedDedup : Bool -> AlertDeduplicator :=
  fun _ => AlertDeduplicator.init .defaults none none

theorem fingerprint_spike (w : Bool) :
    (sharedDedup w).fingerprint spikeHost .defaults 0 spike = .ok "327026f9cbd5" := by
  cases w <;> decide +kernel

theorem filter_oneGrantPerWindow_iff_spikes :
    exists s : DedupSystem Bool, s.log.map (fun e => e.granted) = [false, true] ∧
      OneGrantPerWindow spikeHost .defaults sharedDedup 300 s := by
  let Admits : List Anomaly -> Prop := fun batch => batch = [spike]
  let c : Nat -> FilterCall := fun id =>
    { id := id, batch := [spike], pending := [spike], unique := [] }
  let start : DedupSystem Bool := (idle.startCall false [spike]).startCall true [spike]
  have hidle : Reachable Initial (Step spikeHost .defaults sharedDedup Admits) idle :=
    Reachable.start ⟨rfl, rfl, rfl, rfl⟩
  have hstart : Reachable Initial (Step spikeHost .defaults sharedDedup Admits) start :=
    Reachable.step (Reachable.step hidle (Step.call rfl rfl)) (Step.call rfl rfl)
  have hfirst := Reachable.step hstart
    (Step.turn (show start.calls false = some (c 0) from rfl) rfl (fingerprint_spike false))
  have hsecond := Reachable.step hfirst
    (Step.turn (show (start.afterTurn false 300 (c 0) spike [] "327026f9cbd5").calls true =
      some (c 1) from rfl) rfl (fingerprint_spike true))
  refine ⟨_, by decide +kernel,
    (filter_oneGrantPerWindow_iff (fun _ => rfl)).mpr ?_ _ hsecond⟩
  intro _ batch _ hbatch a rest hcons _ b hb
  have hnil : batch = [spike] := hbatch
  rw [hnil] at hcons
  cases hcons
  cases hb

def interrupted : FilterCall where
  id := 0
  batch := [spike, nanSpike]
  pending := [spike, nanSpike]
  unique := []

def repeated : FilterCall where
  id := 1
  batch := [spike]
  pending := [spike]
  unique := []

def afterInterruption : DedupSystem Bool :=
  let taken := (idle.startCall false [spike, nanSpike]).afterTurn false 300 interrupted spike
    [nanSpike] "327026f9cbd5"
  let held : FilterCall :=
    { interrupted with
      pending := [nanSpike]
      unique := [{ spike with fingerprint := some "327026f9cbd5" }] }
  (taken.endCall false held (.error .valueError)).startCall true [spike]

theorem reachable_afterInterruption :
    Reachable Initial (Step spikeHost .defaults sharedDedup (fun _ => True))
      afterInterruption := by
  have hidle : Reachable Initial (Step spikeHost .defaults sharedDedup (fun _ => True)) idle :=
    Reachable.start ⟨rfl, rfl, rfl, rfl⟩
  have hcalled : Reachable Initial (Step spikeHost .defaults sharedDedup (fun _ => True))
      ((idle : DedupSystem Bool).startCall false [spike, nanSpike]) :=
    Reachable.step hidle (Step.call rfl trivial)
  have hturn := Reachable.step hcalled (Step.turn
    (show _ = some interrupted from rfl) rfl (fingerprint_spike false))
  have hraised : (sharedDedup false).fingerprint spikeHost .defaults 0 nanSpike =
      .error .valueError := by
    decide +kernel
  have hfailed := Reachable.step hturn (Step.fail (calls_setCall_self _ _ _) rfl hraised)
  exact Reachable.step hfailed (Step.call rfl trivial)

/-- Nobody has returned the spike, and its claim suppresses it. -/
theorem nanSpike_suppresses :
    exists s : DedupSystem Bool,
      Reachable Initial (Step spikeHost .defaults sharedDedup (fun _ => True)) s ∧
        (forall w, s.calls w = none) ∧
        (forall f unique, f ∈ s.finished -> f.outcome = .ok unique -> unique = []) ∧
        s.log.map (fun e => e.granted) = [false, true] ∧
        ¬ OneGrantPerWindow spikeHost .defaults sharedDedup 300 s := by
  let refused : FilterCall := { repeated with pending := [] }
  have hturn := Reachable.step reachable_afterInterruption (Step.turn
    (show afterInterruption.calls true = some repeated from rfl) rfl (fingerprint_spike true))
  let t := afterInterruption.afterTurn true 300 repeated spike [] "327026f9cbd5"
  let s := t.endCall true refused (.ok [])
  have hrefused : (afterInterruption.command 300 repeated spike "327026f9cbd5").granted =
      false := by
    decide +kernel
  have hdone : Reachable Initial (Step spikeHost .defaults sharedDedup (fun _ => True)) s := by
    have hcall : t.calls true = some refused := by
      refine (calls_setCall_self afterInterruption true _).trans ?_
      rw [hrefused]
      rfl
    exact Reachable.step hturn (Step.finish hcall rfl)
  have hcalls : forall w, s.calls w = none := by
    intro w
    cases w <;> rfl
  have hreturned : forall f unique, f ∈ s.finished -> f.outcome = .ok unique ->
      unique = [] := by
    intro f unique hf houtcome
    rcases List.mem_cons.mp hf with rfl | hf
    · exact (Except.ok.inj houtcome).symm
    · rw [List.mem_singleton.mp hf] at houtcome
      cases houtcome
  refine ⟨s, hdone, hcalls, hreturned, by decide +kernel, ?_⟩
  intro hpromise
  let owner := (idle : DedupSystem Bool).command 300 interrupted spike "327026f9cbd5"
  have howner : owner ∈ s.log := List.mem_cons_of_mem _ List.mem_cons_self
  rcases hpromise.delivered owner howner rfl with
    ⟨f, unique, hf, _, houtcome, hmem⟩ | ⟨w, c, hcall, _⟩
  · rw [hreturned f unique hf houtcome] at hmem
    cases hmem
  · rw [hcalls w] at hcall
    cases hcall

end Promise

/-!
# The function and the system

A worker that is left alone with the clock standing still runs its call to the
end, and what it returns and leaves in Redis is what `filter` computes when Redis
accepts the cooldown.
-/

section Function

variable {host : Host} {settings : Settings} {dedup : worker -> AlertDeduplicator}
variable {Admits : List Anomaly -> Prop} {w : worker}

theorem filterLoop_reaches (pending : List Anomaly) :
    forall (s : DedupSystem worker) (c : FilterCall),
      Redis.Accepts s.now (dedup w).cooldown ->
      Reachable Initial (Step host settings dedup Admits) s ->
      s.calls w = some c -> c.pending = pending ->
      exists t, Reachable Initial (Step host settings dedup Admits) t ∧
        t.redis = ((dedup w).filterLoop host settings s.now s.redis pending
          c.unique).2 ∧
        t.finished =
          { id := c.id, batch := c.batch,
            outcome := ((dedup w).filterLoop host settings s.now s.redis pending
              c.unique).1 } :: s.finished := by
  induction pending with
  | nil =>
      intro s c _ hreach hcall hpending
      exact ⟨s.endCall w c (.ok c.unique),
        Reachable.step hreach (Step.finish hcall hpending), rfl, rfl⟩
  | cons a rest ih =>
      intro s c hex hreach hcall hpending
      cases hfp : (dedup w).fingerprint host settings s.now a with
      | error e =>
          have hclaim : (dedup w).claim host settings s.now s.redis a = .error e := by
            simp [AlertDeduplicator.claim, hfp]
          refine ⟨s.endCall w c (.error e),
            Reachable.step hreach (Step.fail hcall hpending hfp), ?_⟩
          simp [AlertDeduplicator.filterLoop, hclaim, DedupSystem.endCall, setCall]
      | ok fp =>
          have hclaim := AlertDeduplicator.claim_of_fingerprint hex hfp s.redis
          have hturn := Reachable.step hreach (Step.turn hcall hpending hfp)
          rcases ih (s.afterTurn w (dedup w).cooldown c a rest fp) _ hex hturn
            (calls_setCall_self s w _) rfl with
            ⟨t, ht, hredis, hfinished⟩
          refine ⟨t, ht, ?_, ?_⟩
          · rw [hredis]
            simp only [AlertDeduplicator.filterLoop, hclaim]
            rfl
          · rw [hfinished]
            simp only [AlertDeduplicator.filterLoop, hclaim]
            rfl

theorem filter_reaches {s : DedupSystem worker}
    (hex : Redis.Accepts s.now (dedup w).cooldown)
    (hreach : Reachable Initial (Step host settings dedup Admits) s)
    (hidle : s.calls w = none) {batch : List Anomaly} (hadmits : Admits batch) :
    exists t, Reachable Initial (Step host settings dedup Admits) t ∧
      t.redis = ((dedup w).filter host settings s.now s.redis batch).2 ∧
      t.finished =
        { id := s.nextCall, batch := batch,
          outcome := ((dedup w).filter host settings s.now s.redis batch).1 } ::
          s.finished := by
  have hcall := Reachable.step hreach (Step.call hidle hadmits)
  exact filterLoop_reaches batch (s.startCall w batch) _ hex hcall
    (calls_setCall_self s w _) rfl

end Function

end DedupSystem

end Alerting
end MetricMesh
