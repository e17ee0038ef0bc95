import MetricMesh.Foundation.Reordering
import MetricMesh.Storage.ModelKeys
import MetricMesh.Workers.Installation
import MetricMesh.Workers.Reports

/-!
# Schedules

Workers take the events of an installation in any order.  Events that share no
chord, no model and no tenant can be exchanged: every request is answered alike,
and the installation ends in the same state, but for the order of the rows of
`detector_models`, which nothing reads.
-/

namespace MetricMesh
namespace Workers

open Foundation
open Python
open Alerting
open Detection
open Storage

def Signature.modelKey (task : Signature) : String × String × String :=
  (task.tenant, task.metricName, task.detectorType)

/-!
# The model of a task
-/

section Models

variable {settings : Settings}

/-- The rows of `detector_models` after a task has handed over its state. -/
def withState (now : Instant) (task : Signature) (state : Option Json)
    (models : List ModelRow) : List ModelRow :=
  match state with
  | none => models
  | some parameters =>
      if isStandard parameters then
        upsert ModelRow.key
          { tenant := task.tenant, metricName := task.metricName,
            detectorType := task.detectorType, parameters := jsonb parameters,
            trainedAt := now } models
      else models

theorem storeModel_eq (now : Instant) (db : Database) (task : Signature)
    (state : Option Json) :
    storeModel now db task state =
      { db with models := withState now task state db.models } := by
  cases state with
  | none =>
      rfl
  | some parameters =>
      unfold storeModel persistDetectorModel withState
      dsimp only
      split <;> rfl

theorem filter_withState (now : Instant) (task : Signature) (state : Option Json)
    (models : List ModelRow) (key : String × String × String) :
    (withState now task state models).filter (fun r => r.key = key) =
      if task.modelKey = key then
        withState now task state (models.filter fun r => r.key = key)
      else models.filter fun r => r.key = key := by
  cases state with
  | none =>
      exact (ite_self _).symm
  | some parameters =>
      unfold withState
      dsimp only
      by_cases hstandard : isStandard parameters = true
      · rw [if_pos hstandard, if_pos hstandard, filter_upsert_key]
        rfl
      · rw [if_neg hstandard, if_neg hstandard, ite_self]

theorem filter_withState_withState {a b : Signature} (h : a.modelKey ≠ b.modelKey)
    (now later : Instant) (state state' : Option Json) (models : List ModelRow)
    (key : String × String × String) :
    (withState now a state (withState later b state' models)).filter
        (fun r => r.key = key) =
      (withState later b state' (withState now a state models)).filter
        fun r => r.key = key := by
  rw [filter_withState, filter_withState, filter_withState, filter_withState]
  by_cases ha : a.modelKey = key
  · have hb : b.modelKey ≠ key := fun heq => h (ha.trans heq.symm)
    rw [if_pos ha, if_neg hb, if_neg hb, if_pos ha]
  · rw [if_neg ha, if_neg ha]

theorem storedModel_congr {db db' : Database} {task : Signature}
    (h : db.models.filter (fun r => r.key = task.modelKey) =
      db'.models.filter fun r => r.key = task.modelKey) (host : Host) (now : Instant) :
    storedModel settings now host db task = storedModel settings now host db' task := by
  unfold storedModel
  rw [fetchDetectorModel_congr h]

theorem storedModel_withState {a b : Signature} (h : a.modelKey ≠ b.modelKey)
    (host : Host) (now later : Instant) (state : Option Json) (db : Database) :
    storedModel settings now host { db with models := withState later a state db.models } b =
      storedModel settings now host db b := by
  apply storedModel_congr
  rw [filter_withState, if_neg h]

end Models

/-!
# Executions
-/

section Executions

variable (lib : Libraries) (settings : Settings)

def stateOf (now : Instant) (db : Database) (task : Signature) : Option Json :=
  handedOver lib settings (storedModel settings now lib.host db task)
    (fetchSeries settings db now task.metricName none task.tenant) task

variable {lib settings}

theorem execTask_snd (now : Instant) (db : Database) (task : Signature) :
    (execTask lib settings now db task).2 =
      { db with
        models := withState now task (stateOf lib settings now db task) db.models } := by
  unfold execTask stateOf
  dsimp only
  rw [storeModel_eq]

theorem execTask_congr {db db' : Database} {task : Signature} (now : Instant)
    (hseries : fetchSeries settings db now task.metricName none task.tenant =
      fetchSeries settings db' now task.metricName none task.tenant)
    (hstored : storedModel settings now lib.host db task =
      storedModel settings now lib.host db' task) :
    (execTask lib settings now db task).1 = (execTask lib settings now db' task).1 ∧
      stateOf lib settings now db task = stateOf lib settings now db' task := by
  unfold execTask stateOf
  dsimp only
  rw [hseries, hstored]
  exact ⟨rfl, rfl⟩

theorem execTask_alike {db db' : Database} (h : db.Alike db') (now : Instant)
    (task : Signature) :
    (execTask lib settings now db task).1 = (execTask lib settings now db' task).1 ∧
      (execTask lib settings now db task).2.Alike
        (execTask lib settings now db' task).2 := by
  have hseries : fetchSeries settings db now task.metricName none task.tenant =
      fetchSeries settings db' now task.metricName none task.tenant := by
    unfold fetchSeries
    rw [h.metrics]
  rcases @execTask_congr lib _ _ _ _ now hseries
    (storedModel_congr (h.models task.modelKey) lib.host now) with ⟨hresult, hstate⟩
  refine ⟨hresult, ?_⟩
  rw [execTask_snd, execTask_snd, hstate]
  refine ⟨h.metrics, h.alerts, ?_⟩
  intro key
  dsimp only
  rw [filter_withState, filter_withState, h.models key]

theorem execTask_execTask {a b : Signature} (h : a.modelKey ≠ b.modelKey)
    (now later : Instant) (db : Database) :
    (execTask lib settings later (execTask lib settings now db a).2 b).1 =
        (execTask lib settings later db b).1 ∧
      (execTask lib settings later (execTask lib settings now db a).2 b).2.Alike
        (execTask lib settings now (execTask lib settings later db b).2 a).2 := by
  have hresult : forall {x y : Signature} (t u : Instant), x.modelKey ≠ y.modelKey ->
      (execTask lib settings u (execTask lib settings t db x).2 y).1 =
          (execTask lib settings u db y).1 ∧
        stateOf lib settings u (execTask lib settings t db x).2 y =
          stateOf lib settings u db y := by
    intro x y t u hxy
    rw [execTask_snd]
    exact execTask_congr u rfl (storedModel_withState hxy lib.host u t _ db)
  refine ⟨(hresult now later h).1, ?_⟩
  rw [execTask_snd later, (hresult now later h).2, execTask_snd now,
    execTask_snd now (execTask lib settings later db b).2, (hresult later now h.symm).2,
    execTask_snd later]
  refine ⟨rfl, rfl, ?_⟩
  intro key
  exact filter_withState_withState h.symm later now _ _ db.models key

theorem execTask_exec {task : Signature} {r : Storage.Request}
    (h : task.tenant ≠ r.op.tenant) (collation : Collation) (now : Instant)
    (db : Database) :
    (execTask lib settings now (exec lib.host settings collation db r).2 task).1 =
        (execTask lib settings now db task).1 ∧
      (exec lib.host settings collation (execTask lib settings now db task).2 r).1 =
        (exec lib.host settings collation db r).1 ∧
      (exec lib.host settings collation (execTask lib settings now db task).2 r).2.Alike
        (execTask lib settings now (exec lib.host settings collation db r).2 task).2 := by
  have hpart : (exec lib.host settings collation db r).2.ownedBy task.tenant =
      db.ownedBy task.tenant := by
    rw [exec_ownedBy, if_neg h.symm]
  have hseries : fetchSeries settings (exec lib.host settings collation db r).2 now
        task.metricName none task.tenant =
      fetchSeries settings db now task.metricName none task.tenant := by
    rw [← fetchSeries_ownedBy, hpart, fetchSeries_ownedBy]
  have hstored : storedModel settings now lib.host (exec lib.host settings collation db r).2 task =
      storedModel settings now lib.host db task := by
    unfold storedModel
    rw [← fetchDetectorModel_ownedBy, hpart, fetchDetectorModel_ownedBy]
  rcases @execTask_congr lib _ _ _ _ now hseries hstored with ⟨hresult, hstate⟩
  refine ⟨hresult, ?_, ?_⟩
  · rw [← answer_ownedBy, execTask_other db h, answer_ownedBy]
  · rw [execTask_snd, execTask_snd, hstate]
    cases hmodels : r.op.onModels with
    | false =>
        rw [exec_withModels lib.host settings collation hmodels,
          models_exec lib.host settings collation hmodels]
        exact .refl _
    | true =>
        rcases r with ⟨asked, op⟩
        cases op with
        | persistDetectorModel metricName detectorType parameters tenant =>
            -- The request stores its model as the task of that method does.
            let other : Signature := .runStatistical metricName detectorType tenant
            have hkey : other.modelKey ≠ task.modelKey := by
              intro heq
              exact h (congrArg Prod.fst heq).symm
            have hstore : forall d : Database,
                (exec lib.host settings collation d ⟨asked, .persistDetectorModel metricName
                  detectorType parameters tenant⟩).2 =
                { d with models := withState asked other (some parameters) d.models } := by
              intro d
              exact storeModel_eq asked d other (some parameters)
            rw [hstore, hstore]
            refine ⟨rfl, rfl, ?_⟩
            intro key
            exact filter_withState_withState hkey asked now (some parameters)
              (stateOf lib settings now db task) db.models key
        | fetchDetectorModel metricName detectorType maxAgeSeconds tenant =>
            exact .refl _
        | _ =>
            cases hmodels

end Executions

/-!
# Independent events
-/

namespace Chord

theorem record_record {a b : Signature} (h : a ≠ b) (result result' : Attempt)
    (chord : Chord) :
    (chord.record a result).record b result' = (chord.record b result').record a result := by
  unfold record
  rw [List.map_map, List.map_map]
  apply List.map_congr_left
  intro entry _
  simp only [Function.comp_apply]
  by_cases ha : entry.1 = a
  · have hb : entry.1 ≠ b := fun heq => h (ha.symm.trans heq)
    rw [if_pos ha, if_neg hb, if_neg hb, if_pos ha]
  · rw [if_neg ha]
    by_cases hb : entry.1 = b
    · rw [if_pos hb, if_neg ha]
    · rw [if_neg hb, if_neg ha]

theorem waits_record {a b : Signature} (h : a ≠ b) (result : Attempt) (chord : Chord) :
    (chord.record a result).waits b = chord.waits b := by
  unfold waits record
  rw [List.any_map]
  apply List.any_congr rfl
  intro entry
  simp only [Function.comp_apply]
  by_cases ha : entry.1 = a
  · simp [ha, h]
  · rw [if_neg ha]

end Chord

namespace Installation

/-- The installations differ in the order of their models only. -/
structure Alike (s t : Installation) : Prop where
  db : s.db.Alike t.db
  redis : s.redis = t.redis
  chords : s.chords = t.chords
  queue : s.queue = t.queue

theorem equivalence_alike : Equivalence Alike where
  refl := by
    intro s
    exact ⟨.refl _, rfl, rfl, rfl⟩
  symm := by
    intro s t h
    exact ⟨h.db.symm, h.redis.symm, h.chords.symm, h.queue.symm⟩
  trans := by
    intro s t u h h'
    exact ⟨h.db.trans h'.db, h.redis.trans h'.redis, h.chords.trans h'.chords,
      h.queue.trans h'.queue⟩

/--
Two events that share no chord, no model and no tenant.  A request that only
reads stands apart from more of them.
-/
def Apart : Event -> Event -> Prop
  | .execute _ a _, .execute _ b _ => a.modelKey ≠ b.modelKey
  | .execute _ a _, .request r =>
      a.tenant ≠ r.op.tenant ∨ (r.op.reads = true ∧ r.op.onModels = false)
  | .execute _ _ _, .route _ _ _ _ => True
  | .execute i _ _, .beat j _ => i ≠ j
  | .execute i _ _, .callback j _ _ => i ≠ j
  | .beat i _, .beat j _ => i ≠ j
  | .beat i _, .callback j _ _ => i ≠ j
  | .beat _ _, .route _ _ _ _ => True
  | .beat _ _, .request r => r.op.reads = true
  | .request r, .request q => r.op.reads = true ∧ q.op.reads = true
  | .request _, .callback _ _ _ => True
  | _, _ => False

def Independent (e f : Event) : Prop :=
  Apart e f ∨ Apart f e

section Steps

variable (lib : Libraries) (settings : Settings)

def ranDb (task : Signature) (now : Instant) (chord : Chord) (db : Database) : Database :=
  if chord.waits task then (execTask lib settings now db task).2 else db

def ranChord (task : Signature) (now : Instant) (db : Database) (chord : Chord) : Chord :=
  if chord.waits task then chord.record task (execTask lib settings now db task).1
  else chord

variable {lib settings} {collation : Collation}

theorem execute_eq (s : Installation) (id : Nat) (task : Signature) (now : Instant) :
    s.execute lib settings id task now =
      { s with
        db := ranDb lib settings task now (s.chords id) s.db
        chords := Function.update s.chords id
          (ranChord lib settings task now s.db (s.chords id)) } := by
  unfold execute ranDb ranChord
  cases (s.chords id).waits task with
  | true =>
      rfl
  | false =>
      simp

theorem ranDb_metrics (task : Signature) (now : Instant) (chord : Chord)
    (db : Database) : (ranDb lib settings task now chord db).metrics = db.metrics := by
  unfold ranDb
  split
  · rw [execTask_snd]
  · rfl

theorem waits_ranChord {a b : Signature} (h : a ≠ b) (now : Instant) (db : Database)
    (chord : Chord) : (ranChord lib settings a now db chord).waits b = chord.waits b := by
  unfold ranChord
  split
  · exact Chord.waits_record h _ chord
  · rfl

theorem ranChord_ranDb {a b : Signature} (h : a.modelKey ≠ b.modelKey)
    (now later : Instant) (chord chord' : Chord) (db : Database) :
    ranChord lib settings b later (ranDb lib settings a now chord db) chord' =
      ranChord lib settings b later db chord' := by
  unfold ranChord ranDb
  split
  · split
    · rw [(execTask_execTask h now later db).1]
    · rfl
  · rfl

theorem ranDb_ranDb {a b : Signature} (h : a.modelKey ≠ b.modelKey) (now later : Instant)
    {chordA chordA' chordB chordB' : Chord} (hA : chordA'.waits a = chordA.waits a)
    (hB : chordB'.waits b = chordB.waits b) (db : Database) :
    (ranDb lib settings b later chordB' (ranDb lib settings a now chordA db)).Alike
      (ranDb lib settings a now chordA' (ranDb lib settings b later chordB db)) := by
  unfold ranDb
  rw [hA, hB]
  cases chordA.waits a with
  | true =>
      cases chordB.waits b with
      | true =>
          simp only [if_true]
          exact (execTask_execTask h now later db).2
      | false =>
          simp only [if_true, Bool.false_eq_true, if_false]
          exact .refl _
  | false =>
      simp only [Bool.false_eq_true, if_false]
      exact .refl _

theorem ranChord_ranChord {a b : Signature} (h : a ≠ b) (now later : Instant)
    (db : Database) (chord : Chord) :
    ranChord lib settings b later db (ranChord lib settings a now db chord) =
      ranChord lib settings a now db (ranChord lib settings b later db chord) := by
  have hab : (ranChord lib settings a now db chord).waits b = chord.waits b :=
    waits_ranChord h now db chord
  have hba : (ranChord lib settings b later db chord).waits a = chord.waits a :=
    waits_ranChord h.symm later db chord
  unfold ranChord at hab hba ⊢
  rw [hab, hba]
  cases chord.waits a with
  | true =>
      cases chord.waits b with
      | true =>
          simp only [if_true]
          exact Chord.record_record h _ _ chord
      | false =>
          simp only [if_true, Bool.false_eq_true, if_false]
  | false =>
      simp only [Bool.false_eq_true, if_false]

theorem storeAlert_alike {host : Host} {db db' : Database} (h : db.Alike db')
    (now : Instant) (alertId : Int) (anomaly : Anomaly) (accepted : Option (List String)) :
    (storeAlert host now alertId anomaly accepted db).Alike
      (storeAlert host now alertId anomaly accepted db') := by
  cases accepted with
  | none =>
      exact h
  | some sinks =>
      exact (exec_alike host .defaults (fun _ _ => true) h
        ⟨now, .persistAlert alertId anomaly sinks⟩).2

theorem storeAlert_withModels (host : Host) (db : Database) (models : List ModelRow)
    (now : Instant) (alertId : Int) (anomaly : Anomaly) (accepted : Option (List String)) :
    storeAlert host now alertId anomaly accepted { db with models := models } =
      { storeAlert host now alertId anomaly accepted db with models := models } := by
  cases accepted with
  | none =>
      rfl
  | some sinks =>
      unfold storeAlert
      dsimp only
      rw [persistAlert_withModels]

theorem route_eq (s : Installation) (anomaly : Anomaly) (now : Instant) (alertId : Int)
    (handling : Handling) :
    s.route lib anomaly now alertId handling =
      { s with
        db :=
          if anomaly ∈ s.queue then
            storeAlert lib.host now alertId anomaly handling.accepted s.db
          else s.db
        queue := handling.waiting anomaly s.queue } := by
  unfold route
  by_cases hmem : anomaly ∈ s.queue
  · rw [if_pos hmem, if_pos hmem]
  · rw [if_neg hmem, if_neg hmem, handling.waiting_of_not_mem anomaly s.queue hmem]

theorem callback_congr {s t : Installation} {id : Nat} (hredis : s.redis = t.redis)
    (hchord : s.chords id = t.chords id) (now : Rat) (failure : Failure) :
    (s.callback lib settings id now failure).redis =
        (t.callback lib settings id now failure).redis ∧
      exists (dispatched : List Anomaly) (chord : Chord),
        (s.callback lib settings id now failure).queue = s.queue ++ dispatched ∧
        (t.callback lib settings id now failure).queue = t.queue ++ dispatched ∧
        (s.callback lib settings id now failure).chords =
          Function.update s.chords id chord ∧
        (t.callback lib settings id now failure).chords =
          Function.update t.chords id chord := by
  unfold Installation.callback
  rw [hredis, hchord]
  cases (t.chords id).results with
  | none =>
      refine ⟨hredis, [], t.chords id, ?_, ?_, ?_, ?_⟩
      · simp
      · simp
      · rw [← hchord, Function.update_eq_self]
      · rw [Function.update_eq_self]
  | some results =>
      exact ⟨rfl, _, [], rfl, rfl, rfl, rfl⟩

@[simp] theorem callback_db (s : Installation) (id : Nat) (now : Rat) (failure : Failure) :
    (s.callback lib settings id now failure).db = s.db := by
  unfold Installation.callback
  split <;> rfl

theorem step_alike {s t : Installation} (h : Alike s t) (e : Event) :
    (step lib settings collation s e).1 = (step lib settings collation t e).1 ∧
      Alike (step lib settings collation s e).2 (step lib settings collation t e).2 := by
  cases e with
  | request r =>
      rcases exec_alike lib.host settings collation h.db r with ⟨hanswer, hdb⟩
      exact ⟨hanswer, hdb, h.redis, h.chords, h.queue⟩
  | beat id now =>
      refine ⟨rfl, h.db, h.redis, ?_, h.queue⟩
      show Function.update s.chords id _ = Function.update t.chords id _
      unfold listActiveMetricsSync
      rw [h.chords, h.db.metrics]
  | execute id task now =>
      refine ⟨rfl, ?_⟩
      rcases @execTask_alike lib settings _ _ h.db now task with ⟨hresult, hdb⟩
      show Alike (s.execute lib settings id task now) (t.execute lib settings id task now)
      rw [execute_eq, execute_eq]
      refine ⟨?_, h.redis, ?_, h.queue⟩
      · show (ranDb lib settings task now (s.chords id) s.db).Alike
          (ranDb lib settings task now (t.chords id) t.db)
        unfold ranDb
        rw [h.chords]
        split
        · exact hdb
        · exact h.db
      · dsimp only
        unfold ranChord
        rw [h.chords, hresult]
  | callback id now failure =>
      refine ⟨rfl, ?_⟩
      rcases @callback_congr lib settings _ _ id h.redis (congrFun h.chords id) now failure
        with ⟨hredis, dispatched, chord, hqueue, hqueue', hchords, hchords'⟩
      refine ⟨?_, hredis, ?_, ?_⟩
      · show (s.callback lib settings id now failure).db.Alike
          (t.callback lib settings id now failure).db
        rw [callback_db, callback_db]
        exact h.db
      · exact hchords.trans (by rw [h.chords]; exact hchords'.symm)
      · exact hqueue.trans (by rw [h.queue]; exact hqueue'.symm)
  | route anomaly now alertId handling =>
      refine ⟨rfl, ?_⟩
      show Alike (s.route lib anomaly now alertId handling)
        (t.route lib anomaly now alertId handling)
      rw [route_eq, route_eq]
      refine ⟨?_, h.redis, h.chords, ?_⟩
      · dsimp only
        rw [h.queue]
        split
        · exact storeAlert_alike h.db now alertId anomaly handling.accepted
        · exact h.db
      · dsimp only
        rw [h.queue]

/-!
One lemma for every kind of exchange.
-/

theorem execute_execute {a b : Signature} (h : a.modelKey ≠ b.modelKey)
    (s : Installation) (i j : Nat) (now later : Instant) :
    Alike ((s.execute lib settings i a now).execute lib settings j b later)
      ((s.execute lib settings j b later).execute lib settings i a now) := by
  have hne : a ≠ b := fun heq => h (congrArg Signature.modelKey heq)
  rw [execute_eq _ j, execute_eq s i, execute_eq _ i, execute_eq s j]
  by_cases hij : i = j
  · subst hij
    dsimp only
    rw [Function.update_self, Function.update_self, Function.update_idem,
      Function.update_idem, ranChord_ranDb h, ranChord_ranDb h.symm]
    refine ⟨?_, rfl, ?_, rfl⟩
    · exact ranDb_ranDb h now later (waits_ranChord hne.symm later s.db _)
        (waits_ranChord hne now s.db _) s.db
    · dsimp only
      rw [ranChord_ranChord hne]
  · dsimp only
    rw [Function.update_of_ne (Ne.symm hij), Function.update_of_ne hij, ranChord_ranDb h,
      ranChord_ranDb h.symm]
    refine ⟨?_, rfl, ?_, rfl⟩
    · exact ranDb_ranDb h now later rfl rfl s.db
    · exact Function.update_comm hij _ _ s.chords

theorem execute_request {task : Signature} {r : Storage.Request}
    (h : task.tenant ≠ r.op.tenant ∨ (r.op.reads = true ∧ r.op.onModels = false))
    (s : Installation) (id : Nat) (now : Instant) :
    (exec lib.host settings collation (s.execute lib settings id task now).db r).1 =
        (exec lib.host settings collation s.db r).1 ∧
      Alike
        (step lib settings collation (s.execute lib settings id task now) (.request r)).2
        ((step lib settings collation s (.request r)).2.execute lib settings id task
          now) := by
  have hexec : (execTask lib settings now (exec lib.host settings collation s.db r).2 task).1 =
        (execTask lib settings now s.db task).1 ∧
      (exec lib.host settings collation (execTask lib settings now s.db task).2 r).1 =
        (exec lib.host settings collation s.db r).1 ∧
      (exec lib.host settings collation (execTask lib settings now s.db task).2 r).2.Alike
        (execTask lib settings now (exec lib.host settings collation s.db r).2 task).2 := by
    rcases h with htenant | ⟨hreads, hmodels⟩
    · exact execTask_exec htenant collation now s.db
    · rw [exec_reads lib.host settings collation hreads,
        exec_reads lib.host settings collation hreads, execTask_snd,
        exec_withModels lib.host settings collation hmodels]
      exact ⟨rfl, rfl, .refl _⟩
  rcases hexec with ⟨hresult, hanswer, hdb⟩
  rw [execute_eq]
  constructor
  · dsimp only
    unfold ranDb
    split
    · exact hanswer
    · rfl
  · show Alike _ (Installation.execute lib settings id task now _)
    rw [execute_eq]
    dsimp only [step]
    refine ⟨?_, rfl, ?_, rfl⟩
    · dsimp only
      unfold ranDb
      split
      · exact hdb
      · exact .refl _
    · dsimp only
      unfold ranChord
      rw [hresult]

theorem execute_route (s : Installation) (id : Nat) (task : Signature) (now : Instant)
    (anomaly : Anomaly) (stored : Instant) (alertId : Int) (handling : Handling) :
    (s.execute lib settings id task now).route lib anomaly stored alertId handling =
      (s.route lib anomaly stored alertId handling).execute lib settings id task now := by
  have halert : forall db : Database, exists alerts,
      storeAlert lib.host stored alertId anomaly handling.accepted db =
        { db with alerts := alerts } := by
    intro db
    cases handling.accepted with
    | none =>
        exact ⟨db.alerts, rfl⟩
    | some sinks =>
        unfold storeAlert persistAlert
        dsimp only
        split
        · exact ⟨db.alerts, rfl⟩
        · exact ⟨_, rfl⟩
  rcases halert s.db with ⟨alerts, hstored⟩
  have hrun : execTask lib settings now { s.db with alerts := alerts } task =
      ((execTask lib settings now s.db task).1,
        { (execTask lib settings now s.db task).2 with alerts := alerts }) := by
    rcases @execTask_congr lib settings { s.db with alerts := alerts } s.db task now rfl
      rfl with ⟨hresult, hstate⟩
    apply Prod.ext
    · exact hresult
    · rw [execTask_snd, execTask_snd, hstate]
  rw [execute_eq, route_eq, route_eq, execute_eq]
  dsimp only
  by_cases hmem : anomaly ∈ s.queue
  · rw [if_pos hmem, if_pos hmem, hstored]
    unfold ranDb ranChord
    rw [hrun]
    cases (s.chords id).waits task with
    | true =>
        simp only [if_true]
        rw [execTask_snd, storeAlert_withModels, hstored]
    | false =>
        simp only [Bool.false_eq_true, if_false]
        rw [hstored]
  · rw [if_neg hmem, if_neg hmem]

theorem execute_beat (s : Installation) {i j : Nat} (hij : i ≠ j) (task : Signature)
    (now later : Instant) :
    (s.execute lib settings i task now).beat j later =
      (s.beat j later).execute lib settings i task now := by
  have hpairs : listActiveMetricsSync (ranDb lib settings task now (s.chords i) s.db)
      later 1 = listActiveMetricsSync s.db later 1 := by
    unfold listActiveMetricsSync
    rw [ranDb_metrics]
  rw [execute_eq, execute_eq]
  unfold beat
  dsimp only
  rw [hpairs, Function.update_of_ne hij, Function.update_comm hij]

theorem execute_callback (s : Installation) {i j : Nat} (hij : i ≠ j) (task : Signature)
    (now : Instant) (later : Rat) (failure : Failure) :
    (s.execute lib settings i task now).callback lib settings j later failure =
      (s.callback lib settings j later failure).execute lib settings i task now := by
  rw [execute_eq, execute_eq]
  unfold Installation.callback
  dsimp only
  rw [Function.update_of_ne (Ne.symm hij)]
  cases (s.chords j).results with
  | none =>
      rfl
  | some results =>
      dsimp only
      rw [Function.update_of_ne hij, Function.update_comm hij]

theorem beat_beat (s : Installation) {i j : Nat} (hij : i ≠ j) (now later : Instant) :
    (s.beat i now).beat j later = (s.beat j later).beat i now := by
  unfold beat
  dsimp only
  rw [Function.update_comm hij]

theorem beat_callback (s : Installation) {i j : Nat} (hij : i ≠ j) (now : Instant)
    (later : Rat) (failure : Failure) :
    (s.beat i now).callback lib settings j later failure =
      (s.callback lib settings j later failure).beat i now := by
  unfold beat Installation.callback
  dsimp only
  rw [Function.update_of_ne (Ne.symm hij)]
  cases (s.chords j).results with
  | none =>
      rfl
  | some results =>
      dsimp only
      rw [Function.update_comm hij]

theorem beat_route (s : Installation) (id : Nat) (now : Instant) (anomaly : Anomaly)
    (stored : Instant) (alertId : Int) (handling : Handling) :
    (s.beat id now).route lib anomaly stored alertId handling =
      (s.route lib anomaly stored alertId handling).beat id now := by
  have hmetrics : (storeAlert lib.host stored alertId anomaly handling.accepted s.db).metrics =
      s.db.metrics := by
    cases handling.accepted with
    | none =>
        rfl
    | some sinks =>
        unfold storeAlert persistAlert
        dsimp only
        split <;> rfl
  rw [route_eq, route_eq]
  unfold beat
  dsimp only
  split
  · unfold listActiveMetricsSync
    rw [hmetrics]
  · rfl

theorem beat_request (s : Installation) {r : Storage.Request} (h : r.op.reads = true)
    (id : Nat) (now : Instant) :
    step lib settings collation (s.beat id now) (.request r) =
      ((step lib settings collation s (.request r)).1,
        (step lib settings collation s (.request r)).2.beat id now) := by
  have hread := exec_reads lib.host settings collation h s.db
  unfold beat
  dsimp only [step]
  rw [hread]

theorem request_request (s : Installation) {r q : Storage.Request} (h : r.op.reads = true) :
    step lib settings collation (step lib settings collation s (.request r)).2 (.request q) =
      step lib settings collation s (.request q) := by
  dsimp only [step]
  rw [exec_reads lib.host settings collation h s.db]

theorem request_callback (s : Installation) (r : Storage.Request) (id : Nat) (now : Rat)
    (failure : Failure) :
    step lib settings collation (s.callback lib settings id now failure) (.request r) =
      ((step lib settings collation s (.request r)).1,
        (step lib settings collation s (.request r)).2.callback lib settings id now
          failure) := by
  unfold Installation.callback
  dsimp only [step]
  cases (s.chords id).results with
  | none =>
      rfl
  | some results =>
      rfl

theorem exchange_requests (s : Installation) {r q : Storage.Request}
    (hr : r.op.reads = true) (hq : q.op.reads = true) :
    Exchange (step lib settings collation) Alike s (.request r) (.request q) := by
  have hstays : (step lib settings collation s (.request q)).2 =
      (step lib settings collation s (.request r)).2 := by
    dsimp only [step]
    rw [exec_reads lib.host settings collation hr, exec_reads lib.host settings collation hq]
  apply Exchange.of_swap equivalence_alike.refl (request_request s hq)
  rw [request_request s hr]
  exact Prod.ext rfl hstays

theorem apart_step {e f : Event} (h : Apart e f) (s : Installation) :
    Exchange (step lib settings collation) Alike s e f := by
  have hrefl := equivalence_alike.refl
  cases e with
  | request r =>
      cases f with
      | request q =>
          exact exchange_requests s h.1 h.2
      | callback id now failure =>
          exact .of_swap hrefl (request_callback s r id now failure) rfl
      | _ =>
          cases h
  | beat id now =>
      cases f with
      | request r =>
          exact .of_swap hrefl rfl (beat_request s h id now)
      | beat id' now' =>
          exact .of_swap hrefl rfl (congrArg (Prod.mk _) (beat_beat s h now now'))
      | callback id' now' failure =>
          exact .of_swap hrefl rfl (congrArg (Prod.mk _) (beat_callback s h now now' failure))
      | route anomaly now' alertId handling =>
          have hswap := @beat_route lib s id now anomaly now' alertId handling
          exact .of_swap hrefl rfl (congrArg (Prod.mk _) hswap)
      | _ =>
          cases h
  | execute id task now =>
      cases f with
      | request r =>
          rcases @execute_request lib settings collation task r h s id now with
            ⟨hanswer, hstate⟩
          exact ⟨rfl, hanswer, hstate⟩
      | beat id' now' =>
          have hswap := @execute_beat lib settings s id id' h task now now'
          exact .of_swap hrefl rfl (congrArg (Prod.mk _) hswap)
      | execute id' task' now' =>
          exact ⟨rfl, rfl, execute_execute h s id id' now now'⟩
      | callback id' now' failure =>
          have hswap := @execute_callback lib settings s id id' h task now now' failure
          exact .of_swap hrefl rfl (congrArg (Prod.mk _) hswap)
      | route anomaly now' alertId handling =>
          have hswap := @execute_route lib settings s id task now anomaly now' alertId handling
          exact .of_swap hrefl rfl (congrArg (Prod.mk _) hswap)
  | callback id now failure =>
      cases h
  | route anomaly now alertId handling =>
      cases h

theorem commutes_step (lib : Libraries) (settings : Settings) (collation : Collation) :
    Commutes (step lib settings collation) Independent Alike where
  equivalence := equivalence_alike
  response := by
    intro s t e h
    exact (step_alike h e).1
  next := by
    intro s t e h
    exact (step_alike h e).2
  exchange := by
    intro s e f h
    rcases h with h | h
    · exact apart_step h s
    · exact (apart_step h s).symm equivalence_alike.symm

def Event.ofRun (run : Nat × Signature × Instant) : Event :=
  .execute run.1 run.2.1 run.2.2

/--
Workers may execute the tasks of all chords in any order, as long as the
executions that share a model keep theirs: whatever happens next, the same keys
are claimed and the same anomalies dispatched.
-/
theorem executions_in_any_order (lib : Libraries) (settings : Settings)
    (collation : Collation) {runs runs' : List (Nat × Signature × Instant)}
    (h : forall key, runs.filter (fun run => run.2.1.modelKey = key) =
      runs'.filter fun run => run.2.1.modelKey = key) (s : Installation)
    (later : List Event) :
    Alike
      (finalState (step lib settings collation)
        (finalState (step lib settings collation) s (runs.map Event.ofRun)) later)
      (finalState (step lib settings collation)
        (finalState (step lib settings collation) s (runs'.map Event.ofRun)) later) := by
  have horder : Reordered Independent (runs.map Event.ofRun) (runs'.map Event.ofRun) := by
    apply (reordered_of_filter_eq (fun run => run.2.1.modelKey) runs runs' h).map
    intro a b hkeys
    exact Or.inl hkeys
  have hcommutes := commutes_step lib settings collation
  exact (hcommutes.congr later _ _ (hcommutes.reordered horder s).2).2

end Steps

/-!
The sweep of two tenants, its tasks executed in two orders.
-/

def sweepRuns (tenant : String) : List (Nat × Signature × Instant) :=
  (signaturesOf (tenant, "cpu_usage")).map fun task => (0, task, 1700000000000000)

theorem filter_sweepRuns {tenant : String} {key : String × String × String}
    (h : key.1 ≠ tenant) :
    (sweepRuns tenant).filter (fun run => run.2.1.modelKey = key) = [] := by
  rw [List.filter_eq_nil_iff]
  intro run hrun hkey
  rcases List.mem_map.mp hrun with ⟨task, htask, heq⟩
  apply h
  rw [← of_decide_eq_true hkey, ← heq]
  simp only [signaturesOf, List.mem_cons, List.not_mem_nil, or_false] at htask
  rcases htask with htask | htask | htask <;> rw [htask] <;> rfl

def swept : Installation :=
  finalState (step punctual touchySettings fun _ _ => true) {} (twoTenants.take 5)

theorem executions_in_any_order_twoTenants :
    (finalState (step punctual touchySettings fun _ _ => true)
        (finalState (step punctual touchySettings fun _ _ => true) swept
          ((sweepRuns "globex" ++ sweepRuns "acme").map Event.ofRun))
        [.callback 0 1700000060 .never]).queue.length = 2 ∧
      Alike
        (finalState (step punctual touchySettings fun _ _ => true)
          (finalState (step punctual touchySettings fun _ _ => true) swept
            ((sweepRuns "globex" ++ sweepRuns "acme").map Event.ofRun))
          [.callback 0 1700000060 .never])
        (finalState (step punctual touchySettings fun _ _ => true)
          (finalState (step punctual touchySettings fun _ _ => true) swept
            ((sweepRuns "acme" ++ sweepRuns "globex").map Event.ofRun))
          [.callback 0 1700000060 .never]) := by
  refine ⟨by decide +kernel, executions_in_any_order punctual touchySettings _ ?_ swept _⟩
  intro key
  rw [List.filter_append, List.filter_append]
  by_cases hkey : key.1 = "acme"
  · rw [filter_sweepRuns (by rw [hkey]; decide : key.1 ≠ "globex"), List.nil_append,
      List.append_nil]
  · rw [filter_sweepRuns hkey, List.nil_append, List.append_nil]

end Installation

end Workers
end MetricMesh
