import MetricMesh.Workers.Reports

/-!
# Tenants of one installation

What a tenant has of an installation is its rows, its keys in Redis, its tasks in
the chords and its anomalies in the queue.  Along every interleaving of events
that part evolves as an installation of its own would, in which the other
tenants' events never happen, as long as no task of another tenant keeps a
callback from running and no anomaly of another tenant claims one of its keys.
-/

namespace MetricMesh
namespace Workers

open Foundation
open Foundation.ClaimStore
open Python
open Alerting
open Detection
open Storage

/-!
# Chords

A tenant's part of a chord are its tasks.
-/

namespace Chord

def ofTenant (tenant : String) (chord : Chord) : Chord :=
  chord.filter fun entry => entry.1.tenant = tenant

theorem ofTenant_ofTasks (tenant : String) (tasks : List Signature) :
    (ofTasks tasks).ofTenant tenant =
      ofTasks (tasks.filter fun task => task.tenant = tenant) := by
  unfold ofTenant ofTasks
  rw [List.filter_map]
  rfl

theorem waits_ofTenant (chord : Chord) (task : Signature) :
    (chord.ofTenant task.tenant).waits task = chord.waits task := by
  unfold waits ofTenant
  rw [List.any_filter]
  apply List.any_congr rfl
  intro entry
  by_cases htask : entry.1 = task
  · simp [htask]
  · simp [htask]

theorem record_fst (task : Signature) (result : Attempt) (entry : Signature × Progress) :
    (if entry.1 = task then (entry.1, entry.2.after result) else entry).1 = entry.1 := by
  split <;> rfl

theorem ofTenant_record (chord : Chord) (task : Signature) (result : Attempt)
    (tenant : String) :
    (chord.record task result).ofTenant tenant =
      (chord.ofTenant tenant).record task result := by
  unfold ofTenant record
  rw [List.filter_map]
  apply congrArg
  apply List.filter_congr
  intro entry _
  simp only [Function.comp_apply, record_fst]

theorem record_of_other {chord : Chord} {task : Signature} {tenant : String}
    (h : task.tenant ≠ tenant) (result : Attempt) :
    (chord.ofTenant tenant).record task result = chord.ofTenant tenant := by
  unfold record
  have hkeep : forall entry, entry ∈ chord.ofTenant tenant ->
      (if entry.1 = task then (entry.1, entry.2.after result) else entry) = entry := by
    intro entry hentry
    have htenant : entry.1.tenant = tenant := by
      simpa using (List.mem_filter.mp hentry).2
    rw [if_neg]
    intro htask
    exact h (htask ▸ htenant)
  rw [List.map_congr_left hkeep]
  exact List.map_id' _

theorem reported_ofTenant {host : Host} {chord : Chord}
    (h : chord.Every (ReportedBy host))
    (tenant : String) :
    (chord.ofTenant tenant).reported = Alerting.ofTenant tenant chord.reported := by
  induction chord with
  | nil =>
      rfl
  | cons entry rest ih =>
      have hrest := ih fun e he => h e (List.mem_cons_of_mem entry he)
      have hown : forall a, a ∈ Chord.reported [entry] ->
          a.tenantName = entry.1.tenant := by
        intro a ha
        rcases mem_reported.mp ha with ⟨e, report, he, hdone, ha⟩
        rw [List.mem_singleton.mp he] at hdone
        exact (h entry List.mem_cons_self report hdone a ha).tenant
      have hsplit : Chord.reported (entry :: rest) =
          Chord.reported [entry] ++ Chord.reported rest := by
        simp [reported]
      rw [hsplit, Alerting.ofTenant, List.filter_append]
      by_cases htenant : entry.1.tenant = tenant
      · have hall : (Chord.reported [entry]).filter (fun a => a.tenantName = tenant) =
            Chord.reported [entry] := by
          rw [List.filter_eq_self]
          intro a ha
          rw [hown a ha]
          exact decide_eq_true htenant
        have hkeep : Chord.ofTenant tenant (entry :: rest) =
            entry :: Chord.ofTenant tenant rest := by
          simp [ofTenant, htenant]
        rw [hall, hkeep]
        show Chord.reported ([entry] ++ Chord.ofTenant tenant rest) = _
        simp only [reported, List.flatMap_append] at hrest ⊢
        rw [hrest]
        rfl
      · have hnone : (Chord.reported [entry]).filter (fun a => a.tenantName = tenant) =
            [] := by
          rw [List.filter_eq_nil_iff]
          intro a ha
          rw [hown a ha]
          simpa using htenant
        have hdrop : Chord.ofTenant tenant (entry :: rest) =
            Chord.ofTenant tenant rest := by
          simp [ofTenant, htenant]
        rw [hnone, hdrop, hrest]
        rfl

end Chord

theorem allTasks_ownedBy (db : Database) (now : Instant) (tenant : String) :
    allTasks (listActiveMetricsSync (db.ownedBy tenant) now 1) =
      (allTasks (listActiveMetricsSync db now 1)).filter fun task =>
        task.tenant = tenant := by
  have hpairs : listActiveMetricsSync (db.ownedBy tenant) now 1 =
      (listActiveMetricsSync db now 1).filter fun pair => pair.1 = tenant := by
    unfold listActiveMetricsSync Database.ownedBy
    rw [filter_groupKeys, List.filter_filter, List.filter_filter]
    apply congrArg
    apply List.filter_congr
    intro r _
    exact Bool.and_comm _ _
  have hsignatures : forall pair : String × String,
      (signaturesOf pair).filter (fun task => task.tenant = tenant) =
        if pair.1 = tenant then signaturesOf pair else [] := by
    intro pair
    by_cases htenant : pair.1 = tenant
    · simp [signaturesOf, Signature.tenant, htenant]
    · simp [signaturesOf, Signature.tenant, htenant]
  rw [hpairs]
  unfold allTasks
  rw [List.filter_flatMap]
  induction listActiveMetricsSync db now 1 with
  | nil =>
      rfl
  | cons pair rest ih =>
      rw [List.flatMap_cons, hsignatures, ← ih]
      by_cases htenant : pair.1 = tenant
      · rw [List.filter_cons_of_pos (by simpa using htenant), if_pos htenant,
          List.flatMap_cons]
      · rw [List.filter_cons_of_neg (by simpa using htenant), if_neg htenant]
        rfl

/-!
# Claims

The anomalies of a tenant among those that are dispatched are what the tenant's
own anomalies claim from a store that agrees on the tenant's keys.
-/

section Claims

variable {host : Host} {settings : Settings} {now : Rat}
variable {tenant : String} {own : String -> Bool}

def KeysOf (host : Host) (settings : Settings) (tenant : String) (own : String -> Bool)
    (anomalies : List Anomaly) : Prop :=
  forall a, a ∈ anomalies ->
    own (keyOf host settings a) = decide (a.tenantName = tenant)

theorem claims_ofTenant {redis redis' : Redis} (h : AgreeOn own redis redis')
    {anomalies : List Anomaly} (hkeys : KeysOf host settings tenant own anomalies) :
    ofTenant tenant (claims host settings now redis anomalies).1 =
        (claims host settings now redis' (ofTenant tenant anomalies)).1 ∧
      AgreeOn own (claims host settings now redis anomalies).2
        (claims host settings now redis' (ofTenant tenant anomalies)).2 :=
  ⟨h.claimAll_fst hkeys _ _, h.claimAll_snd hkeys _ _⟩

theorem outcome_ofTenant (now : Rat) {redis redis' : Redis} (h : AgreeOn own redis redis')
    {results results' : List TaskResult}
    (hpart : allAnomalies results' = ofTenant tenant (allAnomalies results))
    (hkeyed : forall a, a ∈ allAnomalies results -> a.HasKey host)
    (hkeys : KeysOf host settings tenant own (allAnomalies results)) :
    (outcome host settings now redis' results' .never).queue =
        ofTenant tenant (outcome host settings now redis results .never).queue ∧
      AgreeOn own (outcome host settings now redis results .never).redis
        (outcome host settings now redis' results' .never).redis := by
  have hkeyed' : forall a, a ∈ allAnomalies results' -> a.HasKey host := by
    intro a ha
    rw [hpart] at ha
    exact hkeyed a (List.mem_filter.mp ha).1
  have hclaim : toClaim host settings results' =
      ofTenant tenant (toClaim host settings results) := by
    unfold toClaim
    rw [hpart, confirmed_ofTenant]
  have hkeys' : KeysOf host settings tenant own (toClaim host settings results) :=
    fun a ha => hkeys a (mem_of_mem_confirmed ha)
  by_cases hready : (AlertDeduplicator.ofSettings settings).CanClaim now
  · rw [outcome_of_hasKey hready.width hkeyed, outcome_of_hasKey hready.width hkeyed',
      complete_enter hready (toClaim_hasKey hkeyed),
      complete_enter hready (toClaim_hasKey hkeyed'), hclaim]
    constructor
    · show [] ++ _ = ofTenant tenant ([] ++ _)
      rw [List.nil_append, List.nil_append, ← (claims_ofTenant h hkeys').1, ofTenant, ofTenant,
        List.filter_map]
      rfl
    · exact (claims_ofTenant h hkeys').2
  · rcases @outcome_of_not_canClaim host settings now redis results hready .never with
      ⟨phase, hrun⟩
    rcases @outcome_of_not_canClaim host settings now redis' results' hready .never with
      ⟨phase', hrun'⟩
    rw [hrun, hrun']
    exact ⟨rfl, h⟩

end Claims

/-!
# Alerts
-/

theorem storeAlert_ownedBy (host : Host) (db : Database) (now : Instant) (alertId : Int)
    (anomaly : Anomaly) (accepted : Option (List String)) (tenant : String) :
    (storeAlert host now alertId anomaly accepted db).ownedBy tenant =
      if anomaly.tenantName = tenant then
        storeAlert host now alertId anomaly accepted (db.ownedBy tenant)
      else db.ownedBy tenant := by
  cases accepted with
  | none =>
      exact (ite_self _).symm
  | some sinks =>
      exact persistAlert_ownedBy host db now alertId anomaly sinks tenant

/-!
# Runs
-/

namespace Installation

/-- An event that the tenant would see in an installation of its own. -/
def Event.concerns (tenant : String) : Event -> Bool
  | .request r => r.op.tenant = tenant
  | .beat _ _ => true
  | .execute _ task _ => task.tenant = tenant
  | .callback _ _ _ => true
  | .route anomaly _ _ _ => anomaly.tenantName = tenant

/--
What the other tenants must not do: keep a callback from running, or claim a key
of the tenant.  A failure of the callback itself strikes all tenants at once.
-/
def Undisturbed (host : Host) (settings : Settings) (tenant : String)
    (own : String -> Bool) (s : Installation) : Event -> Prop
  | .callback id _ failure =>
      failure = .never ∧
        (forall entry, entry ∈ s.chords id -> entry.1.tenant ≠ tenant ->
          Chord.succeeded entry) ∧
        KeysOf host settings tenant own (s.chords id).reported
  | _ => True

/-- The second installation holds the tenant's part of the first one. -/
structure HoldsPart (host : Host) (tenant : String) (own : String -> Bool)
    (s t : Installation) : Prop where
  db : t.db = s.db.ownedBy tenant
  redis : AgreeOn own s.redis t.redis
  chords : forall id, t.chords id = (s.chords id).ofTenant tenant
  queue : t.queue = ofTenant tenant s.queue
  reported : s.Reported host

def part (tenant : String) (s : Installation) : Installation where
  db := s.db.ownedBy tenant
  redis := s.redis
  chords := fun id => (s.chords id).ofTenant tenant
  queue := ofTenant tenant s.queue

section Runs

variable {lib : Libraries} {settings : Settings} {collation : Collation}
variable {tenant : String} {own : String -> Bool} {s t : Installation}

theorem holdsPart_part {host : Host} (h : s.Reported host) :
    HoldsPart host tenant own s (s.part tenant) where
  db := rfl
  redis := fun _ _ => rfl
  chords := fun _ => rfl
  queue := rfl
  reported := h

theorem HoldsPart.update_chords {host : Host} (h : HoldsPart host tenant own s t)
    (id : Nat) {chord chord' : Chord} (hchord : chord' = chord.ofTenant tenant) :
    forall i, Function.update t.chords id chord' i =
      (Function.update s.chords id chord i).ofTenant tenant := by
  intro i
  by_cases hi : i = id
  · rw [hi, Function.update_self, Function.update_self]
    exact hchord
  · rw [Function.update_of_ne hi, Function.update_of_ne hi]
    exact h.chords i

/-!
One lemma for every kind of event, or two where an event concerns some tenants
only.
-/

theorem HoldsPart.beat (h : HoldsPart lib.host tenant own s t) (id : Nat)
    (now : Instant) :
    HoldsPart lib.host tenant own (s.beat id now) (t.beat id now) where
  db := h.db
  redis := h.redis
  chords := by
    apply h.update_chords
    rw [Chord.ofTenant_ofTasks, ← allTasks_ownedBy, h.db]
  queue := h.queue
  reported := forall_update h.reported id (Chord.every_ofTasks _ _)

theorem HoldsPart.execute_other (h : HoldsPart lib.host tenant own s t) (id : Nat)
    {task : Signature} (now : Instant) (hother : task.tenant ≠ tenant) :
    HoldsPart lib.host tenant own (s.execute lib settings id task now) t := by
  have hreported : (s.execute lib settings id task now).Reported lib.host :=
    reported_execute h.reported id task now
  cases hwaits : (s.chords id).waits task with
  | false =>
      unfold execute
      rw [hwaits]
      exact h
  | true =>
      have hkeep : t.chords id = ((s.chords id).record task
          (execTask lib settings now s.db task).1).ofTenant tenant := by
        rw [Chord.ofTenant_record, Chord.record_of_other hother, h.chords]
      have hchords := h.update_chords id hkeep
      rw [Function.update_eq_self] at hchords
      unfold execute at hreported ⊢
      rw [hwaits] at hreported ⊢
      refine ⟨?_, h.redis, hchords, h.queue, hreported⟩
      show t.db = (execTask lib settings now s.db task).2.ownedBy tenant
      rw [execTask_other s.db hother, h.db]

theorem HoldsPart.execute_own (h : HoldsPart lib.host tenant own s t) (id : Nat)
    {task : Signature} (now : Instant) (hown : task.tenant = tenant) :
    HoldsPart lib.host tenant own (s.execute lib settings id task now)
      (t.execute lib settings id task now) := by
  have hreported : (s.execute lib settings id task now).Reported lib.host :=
    reported_execute h.reported id task now
  have hwaits : (t.chords id).waits task = (s.chords id).waits task := by
    rw [h.chords, ← hown, Chord.waits_ofTenant]
  have hrun : execTask lib settings now t.db task =
      ((execTask lib settings now s.db task).1,
        (execTask lib settings now s.db task).2.ownedBy tenant) := by
    rw [h.db, ← hown, execTask_ownedBy]
  unfold execute at hreported ⊢
  rw [hwaits]
  cases hwaiting : (s.chords id).waits task with
  | false =>
      exact h
  | true =>
      rw [hwaiting] at hreported
      refine ⟨?_, h.redis, ?_, h.queue, hreported⟩
      · show (execTask lib settings now t.db task).2 = _
        rw [hrun]
        rfl
      · apply h.update_chords
        rw [hrun, Chord.ofTenant_record, h.chords]

theorem HoldsPart.callback (hreads : ReadsInstants lib.host)
    (h : HoldsPart lib.host tenant own s t) {id : Nat} {now : Rat} {failure : Failure}
    (hundisturbed : Undisturbed lib.host settings tenant own s (.callback id now failure)) :
    HoldsPart lib.host tenant own (s.callback lib settings id now failure)
      (t.callback lib settings id now failure) := by
  rcases hundisturbed with ⟨hnever, hothers, hkeys⟩
  subst hnever
  have hreported : (s.callback lib settings id now .never).Reported lib.host :=
    every_callback h.reported id now .never
  have hkeyed : forall a, a ∈ (s.chords id).reported -> a.HasKey lib.host := by
    intro a ha
    rcases (h.reported id).of_mem_reported ha with ⟨task, hreportedBy⟩
    exact hreportedBy.hasKey hreads
  -- The callback runs for the tenant when it runs for all.
  have hboth : (t.chords id).results.isSome = (s.chords id).results.isSome := by
    rw [Bool.eq_iff_iff, Chord.results_isSome_iff, Chord.results_isSome_iff, h.chords]
    constructor
    · intro hall entry hentry
      by_cases htenant : entry.1.tenant = tenant
      · exact hall entry (List.mem_filter.mpr ⟨hentry, decide_eq_true htenant⟩)
      · exact hothers entry hentry htenant
    · intro hall entry hentry
      exact hall entry (List.mem_filter.mp hentry).1
  unfold Installation.callback at hreported ⊢
  cases hs : (s.chords id).results with
  | none =>
      rw [hs, Option.isSome_none, Option.isSome_eq_false_iff, Option.isNone_iff_eq_none]
        at hboth
      rw [hboth]
      exact h
  | some results =>
      rw [hs] at hboth hreported
      rcases Option.isSome_iff_exists.mp hboth with ⟨results', ht⟩
      rw [ht]
      have hall := Chord.allAnomalies_results hs
      have hpart : allAnomalies results' = ofTenant tenant (allAnomalies results) := by
        rw [hall, Chord.allAnomalies_results ht, h.chords,
          Chord.reported_ofTenant (h.reported id)]
      rw [← hall] at hkeyed hkeys
      rcases outcome_ofTenant now h.redis hpart hkeyed hkeys with
        ⟨hqueue, hredis⟩
      refine ⟨h.db, hredis, h.update_chords id rfl, ?_, hreported⟩
      show t.queue ++ _ = ofTenant tenant (s.queue ++ _)
      rw [hqueue, h.queue]
      exact (List.filter_append ..).symm

theorem HoldsPart.route_other (h : HoldsPart lib.host tenant own s t) {anomaly : Anomaly}
    (now : Instant) (alertId : Int) (handling : Handling)
    (hother : anomaly.tenantName ≠ tenant) :
    HoldsPart lib.host tenant own (s.route lib anomaly now alertId handling) t := by
  unfold route
  by_cases hmem : anomaly ∈ s.queue
  · rw [if_pos hmem]
    refine ⟨?_, h.redis, h.chords, ?_, h.reported⟩
    · show t.db = (storeAlert lib.host now alertId anomaly handling.accepted s.db).ownedBy tenant
      rw [storeAlert_ownedBy, if_neg hother, h.db]
    · show t.queue = ofTenant tenant (handling.waiting anomaly s.queue)
      have hnotMem : anomaly ∉ ofTenant tenant s.queue := by
        intro hin
        exact hother (of_decide_eq_true (List.mem_filter.mp hin).2)
      unfold ofTenant at hnotMem ⊢
      rw [handling.filter_waiting, handling.waiting_of_not_mem anomaly _ hnotMem]
      exact h.queue
  · rw [if_neg hmem]
    exact h

theorem HoldsPart.route_own (h : HoldsPart lib.host tenant own s t) {anomaly : Anomaly}
    (now : Instant) (alertId : Int) (handling : Handling)
    (hown : anomaly.tenantName = tenant) :
    HoldsPart lib.host tenant own (s.route lib anomaly now alertId handling)
      (t.route lib anomaly now alertId handling) := by
  have hqueued : anomaly ∈ t.queue <-> anomaly ∈ s.queue := by
    rw [h.queue]
    constructor
    · intro hmem
      exact (List.mem_filter.mp hmem).1
    · intro hmem
      exact List.mem_filter.mpr ⟨hmem, decide_eq_true hown⟩
  unfold route
  by_cases hmem : anomaly ∈ s.queue
  · rw [if_pos hmem, if_pos (hqueued.mpr hmem)]
    refine ⟨?_, h.redis, h.chords, ?_, h.reported⟩
    · show storeAlert lib.host now alertId anomaly handling.accepted t.db =
        (storeAlert lib.host now alertId anomaly handling.accepted s.db).ownedBy tenant
      rw [storeAlert_ownedBy, if_pos hown, h.db]
    · show handling.waiting anomaly t.queue =
        ofTenant tenant (handling.waiting anomaly s.queue)
      unfold ofTenant
      rw [handling.filter_waiting, h.queue]
      rfl
  · rw [if_neg hmem, if_neg fun hin => hmem (hqueued.mp hin)]
    exact h

/-- The tenant's part follows every undisturbed run. -/
theorem follows_holdsPart (hreads : ReadsInstants lib.host) (settings : Settings)
    (collation : Collation) (tenant : String) (own : String -> Bool) :
    Follows (step lib settings collation) (Event.concerns tenant)
      (Undisturbed lib.host settings tenant own) (HoldsPart lib.host tenant own) where
  skip := by
    intro s t e he _ h
    cases e with
    | request r =>
        have hother : r.op.tenant ≠ tenant := of_decide_eq_false he
        refine ⟨?_, h.redis, h.chords, h.queue, h.reported⟩
        show t.db = (exec lib.host settings collation s.db r).2.ownedBy tenant
        rw [exec_ownedBy, if_neg hother, h.db]
    | beat id now =>
        cases he
    | execute id task now =>
        exact h.execute_other id now (of_decide_eq_false he)
    | callback id now failure =>
        cases he
    | route anomaly now alertId handling =>
        exact h.route_other now alertId handling (of_decide_eq_false he)
  response := by
    intro s t e he _ h
    cases e with
    | request r =>
        have hown : r.op.tenant = tenant := of_decide_eq_true he
        show (exec lib.host settings collation s.db r).1 =
          (exec lib.host settings collation t.db r).1
        rw [h.db, ← hown, answer_ownedBy]
    | beat id now =>
        rfl
    | execute id task now =>
        rfl
    | callback id now failure =>
        rfl
    | route anomaly now alertId handling =>
        rfl
  next := by
    intro s t e he hundisturbed h
    cases e with
    | request r =>
        have hown : r.op.tenant = tenant := of_decide_eq_true he
        refine ⟨?_, h.redis, h.chords, h.queue, h.reported⟩
        show (exec lib.host settings collation t.db r).2 =
          (exec lib.host settings collation s.db r).2.ownedBy tenant
        rw [exec_ownedBy, if_pos hown, h.db]
    | beat id now =>
        exact h.beat id now
    | execute id task now =>
        exact h.execute_own id now (of_decide_eq_true he)
    | callback id now failure =>
        exact h.callback hreads hundisturbed
    | route anomaly now alertId handling =>
        exact h.route_own now alertId handling (of_decide_eq_true he)

/--
A tenant cannot tell an undisturbed run of a shared installation from the run in
which the events of the other tenants are left out: its requests are answered
alike, and what the two runs leave of it is the same.
-/
theorem tenant_runs_alone (hreads : ReadsInstants lib.host) (hstart : s.Reported lib.host)
    (events : List Event)
    (hundisturbed : Along (step lib settings collation)
      (Undisturbed lib.host settings tenant own) s events) :
    (outputs (step lib settings collation) s events).filter
          (fun p => p.1.concerns tenant) =
        outputs (step lib settings collation) (s.part tenant)
          (events.filter (Event.concerns tenant)) ∧
      HoldsPart lib.host tenant own (finalState (step lib settings collation) s events)
        (finalState (step lib settings collation) (s.part tenant)
          (events.filter (Event.concerns tenant))) :=
  (follows_holdsPart hreads settings collation tenant own).run events s (s.part tenant)
    hundisturbed (holdsPart_part hstart)

end Runs

/-!
With a threshold of zero both tenants' tasks report an anomaly, and neither
tenant claims the other's key.
-/

def fromAcme : String -> Bool :=
  fun k => k = keyOf punctualHost touchySettings (Anomaly.spikeOf "acme" "cpu_usage")

theorem tenant_runs_alone_acme :
    (outputs (step punctual touchySettings fun _ _ => true) {} twoTenants).filter
          (fun p => p.1.concerns "acme") =
        outputs (step punctual touchySettings fun _ _ => true) (part "acme" {})
          (twoTenants.filter (Event.concerns "acme")) ∧
      HoldsPart punctual.host "acme" fromAcme
        (finalState (step punctual touchySettings fun _ _ => true) {} twoTenants)
        (finalState (step punctual touchySettings fun _ _ => true) (part "acme" {})
          (twoTenants.filter (Event.concerns "acme"))) := by
  apply tenant_runs_alone
  · exact punctual_readsInstants
  · intro id entry hentry
    cases hentry
  · refine ⟨trivial, trivial, trivial, trivial, trivial, trivial, trivial, trivial, trivial,
      trivial, trivial, ⟨rfl, ?_, ?_⟩, trivial⟩
    · decide +kernel
    · unfold KeysOf
      decide +kernel

end Installation

end Workers
end MetricMesh
