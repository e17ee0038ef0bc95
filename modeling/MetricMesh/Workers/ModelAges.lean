import MetricMesh.Foundation.ExpiringMemo
import MetricMesh.Storage.FittedModels
import MetricMesh.Workers.Reports
import MetricMesh.Workers.Schedules

/-!
# How old a reused model is

The rows of `detector_models` and the lookups of the statistical task make up a
memo of fitted detectors that expire.  Along every run of an installation, what
a statistical task reports is what the memoised detector of its key reports, or
what a detector reports that it fits itself.
-/

namespace MetricMesh
namespace Workers

open Foundation
open Python
open Alerting
open Detection
open Storage

/-!
# Fitted detectors
-/

theorem eq_of_fit {math : Math Rat} {detector fitted : StatisticalDetector Rat}
    {training : Series Rat} (h : detector.fit math training = .ok fitted) :
    { detector with params := fitted.params } = fitted := by
  rcases StatisticalDetector.window_of_fit h with ⟨hwindow, hmode, _⟩
  have hmethod := StatisticalDetector.fit_method h
  rcases detector with ⟨method, window, mode, params⟩
  rcases fitted with ⟨method', window', mode', params'⟩
  dsimp only at hwindow hmode hmethod ⊢
  rw [hwindow, hmode, hmethod]

/-- The fitted detector with its parameters as they come back from the store. -/
def reloaded (fitted : StatisticalDetector Rat) : StatisticalDetector Rat :=
  { fitted with
    params := fitted.params.map fun p => (p.1, Param.ofJson (jsonb p.2.toJson)) }

theorem map_ofJson_jsonbFields (params : List (String × Param Rat)) :
    (jsonbFields (params.map fun p => (p.1, p.2.toJson))).map
        (fun p => (p.1, Param.ofJson p.2)) =
      params.map fun p => (p.1, Param.ofJson (jsonb p.2.toJson)) := by
  induction params with
  | nil =>
      rfl
  | cons p rest ih =>
      rw [List.map_cons, jsonbFields, List.map_cons, ih, List.map_cons]

theorem loadState_of_fit {math : Math Rat} {detector fitted : StatisticalDetector Rat}
    {training : Series Rat} (h : detector.fit math training = .ok fitted) :
    detector.loadState (jsonb fitted.getState) = .ok (reloaded fitted) := by
  have hstate : jsonb fitted.getState =
      .obj [("method", .str fitted.method.name), ("window", .int fitted.window),
        ("params", .obj (jsonbFields (fitted.params.map fun p => (p.1, p.2.toJson))))] := by
    simp only [StatisticalDetector.getState, jsonb, jsonbFields]
  have hmethod : fitted.method.name = detector.method.name := by
    rw [StatisticalDetector.fit_method h]
  have hloaded : { detector with params := (reloaded fitted).params } = reloaded fitted := by
    conv_rhs => rw [reloaded, ← eq_of_fit h]
    rfl
  rw [hstate]
  unfold StatisticalDetector.loadState
  dsimp only
  rw [if_neg (by simp [Dict.get?, hmethod])]
  show Except.ok { detector with params := (jsonbFields _).map _ } = _
  rw [map_ofJson_jsonbFields]
  exact congrArg Except.ok hloaded

section Fits

variable (lib : Libraries) (settings : Settings)

/--
The detector that a statistical task fits on the points of its metric, if there
are any and the store accepts its state.
-/
def storableFit (db : Database) (now : Instant) (metricName method tenant : String) :
    Option (StatisticalDetector Rat) :=
  let series := fetchSeries settings db now metricName none tenant
  if series.points = [] then none
  else
    match StatisticalDetector.make method settings.scoringMode with
    | .error _ => none
    | .ok detector =>
        match detector.fit lib.math (series.before (series.split 1)) with
        | .error _ => none
        | .ok fitted => if isStandard fitted.getState then some fitted else none

def reportOf (series : Series Rat) (metricName method tenant : String) :
    Service (StatisticalDetector Rat) -> Attempt
  | .reused e => detectWith lib settings (reloaded e.value) series metricName method tenant
  | .computed _ => freshReport lib settings series metricName method tenant

def maxAge : Int :=
  settings.modelReuseMaxAgeSeconds * 1000000

def storeAt (db : Database) (now : Instant) (metricName method tenant : String) :
    StoreBehaviour where
  fetch := storedModel settings now lib.host db (.runStatistical metricName method tenant)

def useAt (db : Database) (now : Instant) (metricName method tenant : String) :
    Use (StatisticalDetector Rat) where
  now := now
  candidate := storableFit lib settings db now metricName method tenant

def rowOf (metricName method tenant : String) (e : Entry (StatisticalDetector Rat)) :
    ModelRow where
  tenant := tenant
  metricName := metricName
  detectorType := method
  parameters := jsonb e.value.getState
  trainedAt := e.madeAt

/-- The store holds the memo of a key, which was fitted on points of the store. -/
structure Remembers (metricName method tenant : String) (db : Database)
    (memo : Option (Entry (StatisticalDetector Rat))) : Prop where
  rows : db.models.filter (fun r => r.key = (tenant, metricName, method)) =
    memo.toList.map (rowOf metricName method tenant)
  fitted : forall e, memo = some e -> exists points : List MetricRow,
    points <+: db.metrics ∧
      storableFit lib settings { metrics := points } e.madeAt metricName method tenant =
        some e.value

end Fits

section Executions

variable {lib : Libraries} {settings : Settings} {db : Database} {now : Instant}
variable {metricName method tenant : String}
variable {memo : Option (Entry (StatisticalDetector Rat))}

theorem of_storableFit {fitted : StatisticalDetector Rat}
    (h : storableFit lib settings db now metricName method tenant = some fitted) :
    isStandard fitted.getState = true ∧
      exists detector, StatisticalDetector.make method settings.scoringMode = .ok detector ∧
        detector.loadState (jsonb fitted.getState) = .ok (reloaded fitted) := by
  unfold storableFit at h
  dsimp only at h
  split at h
  · cases h
  · split at h
    · cases h
    · rename_i detector hmake
      split at h
      · cases h
      · rename_i result hfit
        split at h
        · rename_i hstandard
          injection h with h
          rw [← h]
          exact ⟨hstandard, detector, hmake, loadState_of_fit hfit⟩
        · cases h

theorem storedModel_of_remembers
    (h : Remembers lib settings metricName method tenant db memo) :
    storedModel settings now lib.host db (.runStatistical metricName method tenant) =
      .ok ((memo.filter fun e => decide (now - maxAge settings < e.madeAt)).map
        fun e => jsonb e.value.getState) := by
  let held : Database := { models := memo.toList.map (rowOf metricName method tenant) }
  have hrows : db.models.filter (fun r => r.key = (tenant, metricName, method)) =
      held.models.filter fun r => r.key = (tenant, metricName, method) := by
    rw [h.rows]
    cases memo with
    | none => rfl
    | some e => simp [held, rowOf, ModelRow.key]
  unfold storedModel maxAge
  rw [Signature.metricName, Signature.detectorType, Signature.tenant,
    fetchDetectorModel_congr hrows]
  cases memo with
  | none =>
      rfl
  | some e =>
      by_cases hyoung : now - settings.modelReuseMaxAgeSeconds * 1000000 < e.madeAt
      · simp [held, fetchDetectorModel, rowOf, hyoung, decodeParameters,
          StatisticalDetector.getState, jsonb]
      · simp [held, fetchDetectorModel, rowOf, not_lt.mp hyoung]

theorem make_of_mem (settings : Settings) (h : method ∈ ["zscore", "iqr", "stl"]) :
    exists detector : StatisticalDetector Rat,
      StatisticalDetector.make method settings.scoringMode = .ok detector := by
  have hmade : exists x : Except PyError (StatisticalDetector Rat),
      StatisticalDetector.make method settings.scoringMode = x := ⟨_, rfl⟩
  rcases hmade with ⟨x, hmake⟩
  cases x with
  | ok detector =>
      exact ⟨detector, hmake⟩
  | error e =>
      exact absurd h (make_isError_iff.mp ⟨e, hmake⟩)

theorem withState_filter (task : Signature) (state : Option Json)
    (models : List ModelRow) :
    withState now task state models = withState now task (state.filter isStandard) models := by
  cases state with
  | none =>
      rfl
  | some parameters =>
      by_cases hstandard : isStandard parameters = true
      · rw [Option.filter_some, if_pos hstandard]
      · rw [Option.filter_some, if_neg hstandard]
        exact if_neg hstandard

theorem persisted_of_loaded {store : StoreBehaviour} {series : Series Rat}
    {detector loaded : StatisticalDetector Rat} {logged : List PyError}
    (hne : series.points ≠ [])
    (hmake : StatisticalDetector.make method settings.scoringMode = .ok detector)
    (hreuse : reuse settings store detector = .ok (true, logged, loaded)) :
    (runStatisticalOn lib settings store series metricName method tenant).persisted =
      none := by
  unfold runStatisticalOn
  simp only [if_neg hne, hmake, hreuse]

theorem persisted_of_fresh {store : StoreBehaviour} {series : Series Rat}
    {detector : StatisticalDetector Rat} {logged : List PyError}
    (hne : series.points ≠ [])
    (hmake : StatisticalDetector.make method settings.scoringMode = .ok detector)
    (hreuse : reuse settings store detector = .ok (false, logged, detector)) :
    (runStatisticalOn lib settings store series metricName method tenant).persisted =
      match detector.fit lib.math (series.before (series.split 1)) with
      | .error _ => none
      | .ok fitted => some fitted.getState := by
  unfold runStatisticalOn
  simp only [if_neg hne, hmake, hreuse]
  cases detector.fit lib.math (series.before (series.split 1)) <;> rfl

theorem reuse_of_remembers (now : Instant) (hage : 0 < settings.modelReuseMaxAgeSeconds)
    (h : Remembers lib settings metricName method tenant db memo)
    {detector : StatisticalDetector Rat}
    (hmake : StatisticalDetector.make method settings.scoringMode = .ok detector) :
    reuse settings (storeAt lib settings db now metricName method tenant) detector =
      match (Memo.serve (maxAge settings) memo
        (useAt lib settings db now metricName method tenant)).1 with
      | .reused e => .ok (true, [], reloaded e.value)
      | .computed _ => .ok (false, [], detector) := by
  have hfetch : (storeAt lib settings db now metricName method tenant).fetch = .ok _ :=
    storedModel_of_remembers h
  rcases Memo.serve_cases memo (useAt lib settings db now metricName method tenant) with
    ⟨e, hmemo, hyoung, hserve⟩ | ⟨hold, hserve⟩
  · have hyoung : now - maxAge settings < e.madeAt := hyoung
    rcases h.fitted e hmemo with ⟨points, _, hfit⟩
    rcases of_storableFit hfit with ⟨_, detector', hmake', hload⟩
    rw [hmake] at hmake'
    injection hmake' with hmake'
    rw [hmemo, Option.filter_some, if_pos (decide_eq_true hyoung), Option.map_some] at hfetch
    have hnull : jsonb e.value.getState ≠ .null := by
      simp [StatisticalDetector.getState, jsonb]
    rw [hserve, lookup_of_found settings detector hage hfetch hnull, hmake', hload]
  · have hnone : (memo.filter fun e => decide (now - maxAge settings < e.madeAt)) = none := by
      rw [Option.filter_eq_none_iff]
      intro e he hyoung
      have hspaced : e.madeAt + maxAge settings ≤ now := hold e he
      have hle : e.madeAt ≤ now - maxAge settings := by omega
      exact not_lt.mpr hle (of_decide_eq_true hyoung)
    rw [hnone] at hfetch
    rw [hserve]
    unfold reuse
    rw [if_pos hage, hfetch]
    rfl

theorem execTask_fst_of_remembers (hage : 0 < settings.modelReuseMaxAgeSeconds)
    (hmethod : method ∈ ["zscore", "iqr", "stl"])
    (h : Remembers lib settings metricName method tenant db memo)
    (hne : (fetchSeries settings db now metricName none tenant).points ≠ []) :
    (execTask lib settings now db (.runStatistical metricName method tenant)).1 =
      reportOf lib settings (fetchSeries settings db now metricName none tenant) metricName
        method tenant (Memo.serve (maxAge settings) memo
          (useAt lib settings db now metricName method tenant)).1 := by
  rcases make_of_mem settings hmethod with ⟨detector, hmake⟩
  have hreuse := reuse_of_remembers now hage h hmake
  have hresult := runStatisticalOn_result lib settings
    (storeAt lib settings db now metricName method tenant)
    (fetchSeries settings db now metricName none tenant) metricName method tenant
  show runStatistical lib settings (storeAt lib settings db now metricName method tenant).fetch
    (fetchSeries settings db now metricName none tenant) metricName method tenant = _
  rw [← hresult]
  cases hservice : (Memo.serve (maxAge settings) memo
      (useAt lib settings db now metricName method tenant)).1 with
  | reused e =>
      rw [hservice] at hreuse
      rw [run_of_loaded hne hmake hreuse, mapError_mapError_detection]
      rfl
  | computed made =>
      rw [hservice] at hreuse
      rw [run_of_fresh hne hmake hreuse, mapError_mapError_detection]
      rfl

theorem stateOf_of_remembers (now : Instant)
    (hage : 0 < settings.modelReuseMaxAgeSeconds)
    (hmethod : method ∈ ["zscore", "iqr", "stl"])
    (h : Remembers lib settings metricName method tenant db memo) :
    (stateOf lib settings now db (.runStatistical metricName method tenant)).filter
        isStandard =
      match (Memo.serve (maxAge settings) memo
        (useAt lib settings db now metricName method tenant)).1 with
      | .reused _ => none
      | .computed _ =>
          (storableFit lib settings db now metricName method tenant).map fun fitted =>
            fitted.getState := by
  rcases make_of_mem settings hmethod with ⟨detector, hmake⟩
  have hreuse := reuse_of_remembers now hage h hmake
  show Option.filter isStandard (runStatisticalOn lib settings
    (storeAt lib settings db now metricName method tenant)
    (fetchSeries settings db now metricName none tenant) metricName method
    tenant).persisted = _
  unfold storableFit
  dsimp only
  by_cases hempty : (fetchSeries settings db now metricName none tenant).points = []
  · have hnone : (runStatisticalOn lib settings
        (storeAt lib settings db now metricName method tenant)
        (fetchSeries settings db now metricName none tenant) metricName method
        tenant).persisted = none := by
      unfold runStatisticalOn
      rw [if_pos hempty]
    rw [hnone, if_pos hempty]
    cases (Memo.serve (maxAge settings) memo
      (useAt lib settings db now metricName method tenant)).1 <;> rfl
  · rw [if_neg hempty]
    cases hservice : (Memo.serve (maxAge settings) memo
        (useAt lib settings db now metricName method tenant)).1 with
    | reused e =>
        rw [hservice] at hreuse
        rw [persisted_of_loaded hempty hmake hreuse]
        rfl
    | computed made =>
        rw [hservice] at hreuse
        rw [persisted_of_fresh hempty hmake hreuse]
        simp only [hmake]
        cases detector.fit lib.math ((fetchSeries settings db now metricName none
            tenant).before ((fetchSeries settings db now metricName none tenant).split 1)) with
        | error e =>
            rfl
        | ok fitted =>
            by_cases hstandard : isStandard fitted.getState = true
            · simp [hstandard]
            · simp [hstandard]

/-- The store after an execution holds the memo after the use. -/
theorem Remembers.execTask (hage : 0 < settings.modelReuseMaxAgeSeconds)
    (hmethod : method ∈ ["zscore", "iqr", "stl"])
    (h : Remembers lib settings metricName method tenant db memo) :
    Remembers lib settings metricName method tenant
      (Workers.execTask lib settings now db (.runStatistical metricName method tenant)).2
      (Memo.serve (maxAge settings) memo
        (useAt lib settings db now metricName method tenant)).2 := by
  have hstate := stateOf_of_remembers now hage hmethod h
  rw [execTask_snd, withState_filter]
  rcases Memo.serve_cases memo (useAt lib settings db now metricName method tenant) with
    ⟨e, hmemo, _, hserve⟩ | ⟨_, hserve⟩
  · rw [hserve] at hstate ⊢
    rw [hstate, ← hmemo]
    exact h
  · rw [hserve] at hstate ⊢
    dsimp only at hstate ⊢
    rw [hstate]
    cases hfit : storableFit lib settings db now metricName method tenant with
    | none =>
        have hfresh : Memo.fresh (useAt lib settings db now metricName method tenant) =
            none := by
          unfold Memo.fresh useAt
          rw [hfit]
          rfl
        rw [hfresh, Option.none_or]
        exact h
    | some fitted =>
        have hfresh : Memo.fresh (useAt lib settings db now metricName method tenant) =
            some { value := fitted, madeAt := now } := by
          unfold Memo.fresh useAt
          rw [hfit]
          rfl
        rw [hfresh, Option.some_or]
        have hstandard : isStandard fitted.getState = true := (of_storableFit hfit).1
        have hkey : Signature.modelKey (.runStatistical metricName method tenant) =
            (tenant, metricName, method) := rfl
        constructor
        · dsimp only
          rw [filter_withState, if_pos hkey, h.rows]
          unfold withState
          rw [Option.map_some]
          dsimp only
          rw [if_pos hstandard]
          cases memo with
          | none => rfl
          | some e => exact if_pos rfl
        · intro e he
          injection he with he
          rw [← he]
          exact ⟨db.metrics, List.prefix_refl _, hfit⟩

theorem Remembers.frame (h : Remembers lib settings metricName method tenant db memo)
    {db' : Database}
    (hmodels : db'.models.filter (fun r => r.key = (tenant, metricName, method)) =
      db.models.filter fun r => r.key = (tenant, metricName, method))
    (hmetrics : db.metrics <+: db'.metrics) :
    Remembers lib settings metricName method tenant db' memo where
  rows := hmodels.trans h.rows
  fitted := by
    intro e he
    rcases h.fitted e he with ⟨points, hpoints, hfit⟩
    exact ⟨points, hpoints.trans hmetrics, hfit⟩

end Executions

/-!
# Runs
-/

namespace Installation

/-- The tenants have no endpoint that stores a model. -/
def Event.storesModel : Event -> Bool
  | .request { op := .persistDetectorModel _ _ _ _, .. } => true
  | _ => false

section Runs

variable (lib : Libraries) (settings : Settings) (collation : Collation)
variable (metricName method tenant : String)

def useOf (s : Installation) : Event -> Option (Use (StatisticalDetector Rat))
  | .execute id task now =>
      if task = .runStatistical metricName method tenant ∧ (s.chords id).waits task = true then
        some (useAt lib settings s.db now metricName method tenant)
      else none
  | _ => none

def refits (s : Installation) : Event -> List Instant
  | .execute id task now =>
      if task.modelKey = (tenant, metricName, method) ∧ (s.chords id).waits task = true then
        ((stateOf lib settings now s.db task).filter isStandard).toList.map fun _ => now
      else []
  | _ => []

variable {lib settings collation metricName method tenant}

theorem eq_of_modelKey (hmethod : method ∈ ["zscore", "iqr", "stl"]) {task : Signature}
    (h : task.modelKey = (tenant, metricName, method)) :
    task = .runStatistical metricName method tenant := by
  cases task with
  | runStatistical metricName' method' tenant' =>
      simp only [Signature.modelKey, Signature.tenant, Signature.metricName,
        Signature.detectorType, Prod.mk.injEq] at h
      rcases h with ⟨htenant, hmetric, hname⟩
      rw [htenant, hmetric, hname]
  | runIsolationForest metricName' tenant' =>
      simp only [Signature.modelKey, Signature.detectorType, Prod.mk.injEq] at h
      rw [← h.2.2] at hmethod
      exact absurd hmethod (by decide)
  | runProphet metricName' tenant' =>
      simp only [Signature.modelKey, Signature.detectorType, Prod.mk.injEq] at h
      rw [← h.2.2] at hmethod
      exact absurd hmethod (by decide)

theorem frame_step (lib : Libraries) (settings : Settings) (collation : Collation)
    (s : Installation) {e : Event} (he : e.storesModel = false)
    (hexecute : forall id task now, e ≠ .execute id task now) :
    (step lib settings collation s e).2.db.models = s.db.models ∧
      s.db.metrics <+: (step lib settings collation s e).2.db.metrics := by
  cases e with
  | request r =>
      refine ⟨?_, metrics_exec _ _ _ _ _⟩
      cases hop : r.op.onModels with
      | false =>
          exact models_exec lib.host settings collation hop s.db
      | true =>
          rcases r with ⟨now, op⟩
          cases op with
          | persistDetectorModel metricName detectorType parameters tenant =>
              cases he
          | fetchDetectorModel metricName detectorType maxAgeSeconds tenant =>
              rfl
          | _ =>
              cases hop
  | beat id now =>
      exact ⟨rfl, List.prefix_refl _⟩
  | execute id task now =>
      exact absurd rfl (hexecute id task now)
  | callback id now failure =>
      have hdb : (s.callback lib settings id now failure).db = s.db := by
        unfold callback
        split <;> rfl
      show (s.callback lib settings id now failure).db.models = _ ∧
        _ <+: (s.callback lib settings id now failure).db.metrics
      rw [hdb]
      exact ⟨rfl, List.prefix_refl _⟩
  | route anomaly now alertId handling =>
      show (s.route lib anomaly now alertId handling).db.models = _ ∧
        _ <+: (s.route lib anomaly now alertId handling).db.metrics
      unfold route
      split
      · rcases handling with ⟨accepted, workerLost⟩
        cases accepted with
        | none =>
            exact ⟨rfl, List.prefix_refl _⟩
        | some sinks =>
            show (persistAlert lib.host s.db now alertId anomaly sinks).2.models = _ ∧
              _ <+: (persistAlert lib.host s.db now alertId anomaly sinks).2.metrics
            unfold persistAlert
            split <;> exact ⟨rfl, List.prefix_refl _⟩
      · exact ⟨rfl, List.prefix_refl _⟩

/-- An installation refines the memo of a key. -/
theorem refines_memo (lib : Libraries) (collation : Collation) (metricName tenant : String)
    (hage : 0 < settings.modelReuseMaxAgeSeconds)
    (hmethod : method ∈ ["zscore", "iqr", "stl"]) :
    Refines (step lib settings collation) (Memo.serve (maxAge settings))
      (useOf lib settings metricName method tenant) (fun e => e.storesModel = false)
      (fun s memo => Remembers lib settings metricName method tenant s.db memo) where
  stutter := by
    intro s memo e he h haction
    by_cases hexecute : exists id task now, e = .execute id task now
    · rcases hexecute with ⟨id, task, now, heq⟩
      rw [heq] at haction ⊢
      show Remembers lib settings metricName method tenant
        (s.execute lib settings id task now).db memo
      unfold execute
      by_cases hwaits : (s.chords id).waits task = true
      · have hkey : task.modelKey ≠ (tenant, metricName, method) := by
          intro hkey
          simp [useOf, eq_of_modelKey hmethod hkey, eq_of_modelKey hmethod hkey ▸ hwaits]
            at haction
        rw [if_pos hwaits]
        apply h.frame
        · dsimp only
          rw [execTask_snd, filter_withState, if_neg hkey]
        · dsimp only
          rw [execTask_snd]
      · rw [if_neg hwaits]
        exact h
    · rcases frame_step lib settings collation s he
        (fun id task now heq => hexecute ⟨id, task, now, heq⟩) with ⟨hmodels, hmetrics⟩
      apply h.frame _ hmetrics
      rw [hmodels]
  act := by
    intro s memo e u he h haction
    cases e with
    | execute id task now =>
        dsimp only [useOf] at haction
        split at haction
        · rename_i hexecuted
          injection haction with haction
          rw [← haction]
          show Remembers lib settings metricName method tenant
            (s.execute lib settings id task now).db _
          unfold execute
          rw [if_pos hexecuted.2, hexecuted.1]
          exact h.execTask hage hmethod
        · cases haction
    | _ => cases haction

theorem remembers_nil {db : Database} (h : db.models = []) :
    Remembers lib settings metricName method tenant db none where
  rows := by
    rw [h]
    rfl
  fitted := by
    intro e he
    cases he

theorem refits_of_useOf (hage : 0 < settings.modelReuseMaxAgeSeconds)
    (hmethod : method ∈ ["zscore", "iqr", "stl"]) {s : Installation}
    {memo : Option (Entry (StatisticalDetector Rat))} {e : Event}
    {u : Use (StatisticalDetector Rat)}
    (h : Remembers lib settings metricName method tenant s.db memo)
    (haction : useOf lib settings metricName method tenant s e = some u) :
    refits lib settings metricName method tenant s e =
      (Memo.makes (maxAge settings) memo u).map Entry.madeAt := by
  cases e with
  | execute id task now =>
      dsimp only [useOf] at haction
      split at haction
      · rename_i hexecuted
        rcases hexecuted with ⟨htask, hwaits⟩
        injection haction with haction
        have hkey : task.modelKey = (tenant, metricName, method) := by
          rw [htask]
          rfl
        have hstate := stateOf_of_remembers now hage hmethod h
        have hcases := @Memo.serve_cases _ (maxAge settings) memo
          (useAt lib settings s.db now metricName method tenant)
        rcases hcases with ⟨held, _, _, hserve⟩ | ⟨_, hserve⟩
        · rw [hserve] at hstate
          dsimp only [refits]
          rw [if_pos ⟨hkey, hwaits⟩, htask, hstate, ← haction, Memo.makes, hserve]
          rfl
        · rw [hserve] at hstate
          dsimp only [refits]
          rw [if_pos ⟨hkey, hwaits⟩, htask, hstate, ← haction, Memo.makes, hserve]
          unfold Memo.fresh useAt
          dsimp only
          cases storableFit lib settings s.db now metricName method tenant <;> rfl
      · cases haction
  | _ => cases haction

theorem refits_of_not_useOf (hmethod : method ∈ ["zscore", "iqr", "stl"])
    {s : Installation} {e : Event}
    (haction : useOf lib settings metricName method tenant s e = none) :
    refits lib settings metricName method tenant s e = [] := by
  cases e with
  | execute id task now =>
      apply if_neg
      rintro ⟨hkey, hwaits⟩
      have htask := eq_of_modelKey hmethod hkey
      dsimp only [useOf] at haction
      rw [if_pos ⟨htask, hwaits⟩] at haction
      cases haction
  | _ => rfl

/--
With the reuse of models on, every execution of a statistical task in a run reports
what the memo of its key serves it with.  A detector that is served again was
fitted by that task, on points of its metric, less than the maximum age ago.
-/
theorem executions_memoised (lib : Libraries) (settings : Settings) (collation : Collation)
    (metricName method tenant : String) (start : Installation) (events : List Event)
    (now : Instant) (hage : 0 < settings.modelReuseMaxAgeSeconds)
    (hmethod : method ∈ ["zscore", "iqr", "stl"]) (hmodels : start.db.models = [])
    (hevents : forall e, e ∈ events -> e.storesModel = false)
    (hne : (fetchSeries settings
      (finalState (step lib settings collation) start events).db now metricName none
        tenant).points ≠ []) :
    exists service : Service (StatisticalDetector Rat),
      service = (Memo.serve (maxAge settings)
        (finalState (Memo.serve (maxAge settings)) none
          (actions (step lib settings collation)
            (useOf lib settings metricName method tenant) start events))
        (useAt lib settings (finalState (step lib settings collation) start events).db now
          metricName method tenant)).1 ∧
      (execTask lib settings now (finalState (step lib settings collation) start events).db
        (.runStatistical metricName method tenant)).1 =
          reportOf lib settings
            (fetchSeries settings (finalState (step lib settings collation) start events).db
              now metricName none tenant) metricName method tenant service ∧
      forall e, service = .reused e ->
        now - settings.modelReuseMaxAgeSeconds * 1000000 < e.madeAt ∧
          exists points : List MetricRow,
            points <+: (finalState (step lib settings collation) start events).db.metrics ∧
            storableFit lib settings { metrics := points } e.madeAt metricName method
              tenant = some e.value := by
  have h := (refines_memo lib collation metricName tenant hage hmethod).finalState events
    hevents start none (remembers_nil hmodels)
  refine ⟨_, rfl, execTask_fst_of_remembers hage hmethod h hne, ?_⟩
  intro e hservice
  rcases Memo.serve_cases _ _ with ⟨e', hmemo, hyoung, hserve⟩ | ⟨_, hserve⟩
  · rw [hserve] at hservice
    injection hservice with hservice
    rw [← hservice]
    exact ⟨hyoung, h.fitted e' hmemo⟩
  · rw [hserve] at hservice
    cases hservice

/-- In every run, models of one key are stored at least the maximum age apart. -/
theorem refits_spaced (lib : Libraries) (settings : Settings) (collation : Collation)
    (metricName method tenant : String) (start : Installation) (events : List Event)
    (hage : 0 < settings.modelReuseMaxAgeSeconds)
    (hmethod : method ∈ ["zscore", "iqr", "stl"]) (hmodels : start.db.models = [])
    (hevents : forall e, e ∈ events -> e.storesModel = false) :
    (emitted (step lib settings collation) (refits lib settings metricName method tenant)
      start events).Pairwise
        fun a b => a + settings.modelReuseMaxAgeSeconds * 1000000 ≤ b := by
  have h : emitted (step lib settings collation)
        (refits lib settings metricName method tenant) start events =
      emitted (Memo.serve (maxAge settings))
        (fun memo u => (Memo.makes (maxAge settings) memo u).map Entry.madeAt) none
        (actions (step lib settings collation)
          (useOf lib settings metricName method tenant) start events) :=
    (refines_memo lib collation metricName tenant hage hmethod).emitted
      (fun _ _ _ _ _ haction => refits_of_not_useOf hmethod haction)
      (fun _ _ _ _ _ hmemo haction => refits_of_useOf hage hmethod hmemo haction)
      events hevents start none (remembers_nil hmodels)
  have hnonneg : 0 ≤ maxAge settings := by
    unfold maxAge
    omega
  rw [h, emitted_map, List.pairwise_map]
  exact (Memo.made_spaced hnonneg _ none).2

end Runs

/-!
A batch of points and a sweep, and two hours later another batch and another
sweep.
-/

def zscoreTask : Signature :=
  .runStatistical "cpu_usage" "zscore" "acme"

def ingestMany (seconds : Rat) : Event :=
  .request
    { now := 0
      op := .bulkInsert ((List.range 13).map fun i =>
        ⟨.finite (seconds + 60 * i), "cpu_usage", .finite i⟩) "acme" }

def firstSweep : List Event :=
  [ingestMany 1699999200, .beat 0 1700000000000000,
    .execute 0 zscoreTask 1700000000000000]

def secondSweep : List Event :=
  firstSweep ++ [ingestMany 1700006400, .beat 1 1700007200000000,
    .execute 1 zscoreTask 1700007200000000]

def remembering (events : List Event) : Installation :=
  finalState (step punctual reusingSettings fun _ _ => true) {} events

def servedAt (now : Instant) (events : List Event) : Service (StatisticalDetector Rat) :=
  (Memo.serve (maxAge reusingSettings)
    (finalState (Memo.serve (maxAge reusingSettings)) none
      (actions (step punctual reusingSettings fun _ _ => true)
        (useOf punctual reusingSettings "cpu_usage" "zscore" "acme") {} events))
    (useAt punctual reusingSettings (remembering events).db now "cpu_usage" "zscore" "acme")).1

/-- Ten minutes after the first sweep its model is used again. -/
theorem executions_memoised_tenMinutes :
    exists e, servedAt 1700000600000000 firstSweep = .reused e ∧
      e.madeAt = 1700000000000000 ∧
      (execTask punctual reusingSettings 1700000600000000 (remembering firstSweep).db
        zscoreTask).1 =
          detectWith punctual reusingSettings (reloaded e.value)
            (fetchSeries reusingSettings (remembering firstSweep).db 1700000600000000
              "cpu_usage" none "acme") "cpu_usage" "zscore" "acme" := by
  have hserved : (match servedAt 1700000600000000 firstSweep with
      | .reused e => some e.madeAt
      | .computed _ => none) = some 1700000000000000 := by decide +kernel
  rcases executions_memoised punctual reusingSettings (fun _ _ => true) "cpu_usage" "zscore"
    "acme" {} firstSweep 1700000600000000 (by decide) (by decide) rfl (by decide)
    (by decide +kernel) with ⟨service, hservice, hreport, _⟩
  have hsame : service = servedAt 1700000600000000 firstSweep := hservice
  rw [← hsame] at hserved ⊢
  cases service with
  | reused e =>
      injection hserved with hserved
      exact ⟨e, rfl, hserved, hreport⟩
  | computed made =>
      cases hserved

theorem refits_spaced_twoSweeps :
    emitted (step punctual reusingSettings fun _ _ => true)
        (refits punctual reusingSettings "cpu_usage" "zscore" "acme") {} secondSweep =
          [1700000000000000, 1700007200000000] ∧
      (emitted (step punctual reusingSettings fun _ _ => true)
        (refits punctual reusingSettings "cpu_usage" "zscore" "acme") {} secondSweep).Pairwise
          fun a b => a + reusingSettings.modelReuseMaxAgeSeconds * 1000000 ≤ b :=
  ⟨by decide +kernel,
    refits_spaced punctual reusingSettings _ "cpu_usage" "zscore" "acme" {} secondSweep
      (by decide) (by decide) rfl (by decide)⟩

end Installation

end Workers
end MetricMesh
