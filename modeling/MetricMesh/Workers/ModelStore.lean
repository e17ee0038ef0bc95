import MetricMesh.Workers.DetectorTasks

/-!
# The model store around the statistical task

The statistical task looks up a stored model before it fits and stores the
fitted one afterwards.  The run below keeps apart what the store raises and what
the detector raises, and it follows the detector object through a state that is
refused.
-/

namespace MetricMesh
namespace Workers

open Python
open Alerting
open Detection

structure StoreBehaviour where
  fetch : StoredModel
  persist : Option PyError := none

/-- An exception that reaches the retry path, by where it comes from. -/
inductive TaskFailure where
  | store (e : PyError)
  | detection (e : PyError)

def TaskFailure.exception : TaskFailure -> PyError
  | .store e => e
  | .detection e => e

structure StatisticalRun where
  result : Except TaskFailure DetectorReport
  /-- Whether a stored model was loaded. -/
  reused : Bool := false
  /-- The state that was handed to the store. -/
  persisted : Option Json := none
  /-- The exceptions that were logged and forgotten. -/
  logged : List PyError := []

/-!
# The detector object
-/

/-- `detector.load_state(state)`: how it ends, and the object afterwards. -/
def loadInPlace (detector : StatisticalDetector Rat) (state : Json) :
    Except PyError Unit × StatisticalDetector Rat :=
  match state with
  | .obj fields =>
      if Dict.get? fields "method" ≠ some (.str detector.method.name) then
        (.error .valueError, detector)
      else
        match ((Dict.get? fields "params").getD (.obj [])).dict with
        | .error e => (.error e, detector)
        | .ok params =>
            (.ok (),
              { detector with params := params.map fun p => (p.1, Param.ofJson p.2) })
  | _ => (.error .attributeError, detector)

theorem loadInPlace_eq (detector : StatisticalDetector Rat) (state : Json) :
    loadInPlace detector state =
      match detector.loadState state with
      | .error e => (.error e, detector)
      | .ok loaded => (.ok (), loaded) := by
  cases state with
  | obj fields =>
      unfold loadInPlace StatisticalDetector.loadState
      by_cases hmethod :
          Dict.get? fields "method" ≠ some (.str detector.method.name)
      · simp only [if_pos hmethod]
      · simp only [if_neg hmethod]
        cases ((Dict.get? fields "params").getD (.obj [])).dict with
        | error e =>
            rfl
        | ok params =>
            rfl
  | null => rfl
  | bool b => rfl
  | int n => rfl
  | float x => rfl
  | str s => rfl
  | arr items => rfl

variable (lib : Libraries) (settings : Settings)

/-- Whether a stored model was loaded, what was logged, and the object before the fit. -/
def reuse (store : StoreBehaviour) (detector : StatisticalDetector Rat) :
    Except TaskFailure (Bool × List PyError × StatisticalDetector Rat) :=
  if 0 < settings.modelReuseMaxAgeSeconds then
    match store.fetch with
    | .error e => .error (.store e)
    -- A stored null is read as Python's None, which is what a miss returns.
    | .ok none | .ok (some .null) => .ok (false, [], detector)
    | .ok (some state) =>
        match loadInPlace detector state with
        | (.ok (), detector) => .ok (true, [], detector)
        | (.error e, detector) => .ok (false, [e], detector)
  else
    .ok (false, [], detector)

def detectWith (detector : StatisticalDetector Rat) (series : Series Rat)
    (metricName method tenant : String) : Except PyError DetectorReport := do
  let threshold <- taskThreshold lib settings (.runStatistical metricName method tenant)
  let anomalies <- detector.detectWith Double.nearest lib.math lib.stl
    (series.since (series.split 1)) metricName threshold
  return {
    metric := metricName
    detector := "statistical"
    method := some method
    anomalies := some (anomalies.map (AnomalyResult.toDict lib.host tenant)) }

def runStatisticalOn (store : StoreBehaviour) (series : Series Rat)
    (metricName method tenant : String) : StatisticalRun :=
  if series.points = [] then
    { result := .ok
        { metric := metricName, detector := "statistical", anomalies := some [] } }
  else
    match StatisticalDetector.make method settings.scoringMode with
    | .error e => { result := .error (.detection e) }
    | .ok detector =>
        match reuse settings store detector with
        | .error failure => { result := .error failure }
        | .ok (true, logged, detector) =>
            { result := (detectWith lib settings detector series metricName method
                tenant).mapError .detection
              reused := true
              logged := logged }
        | .ok (false, logged, detector) =>
            match detector.fit lib.math (series.before (series.split 1)) with
            | .error e => { result := .error (.detection e), logged := logged }
            | .ok fitted =>
                { result := (detectWith lib settings fitted series metricName method
                    tenant).mapError .detection
                  persisted := some fitted.getState
                  logged := logged ++ store.persist.toList }

/-!
# Harmless stores
-/

def freshReport (series : Series Rat) (metricName method tenant : String) :
    Except PyError DetectorReport :=
  match StatisticalDetector.make method settings.scoringMode with
  | .error e => .error e
  | .ok detector =>
      match detector.fit lib.math (series.before (series.split 1)) with
      | .error e => .error e
      | .ok fitted => detectWith lib settings fitted series metricName method tenant

structure StoreHarmless (store : StoreBehaviour) (series : Series Rat)
    (metricName method tenant : String) : Prop where
  quiet : forall e,
    (runStatisticalOn lib settings store series metricName method tenant).result ≠
      .error (.store e)
  fresh :
    (runStatisticalOn lib settings store series metricName method tenant).reused = false ->
      (runStatisticalOn lib settings store series metricName method tenant).result =
        (freshReport lib settings series metricName method tenant).mapError .detection
  rejected : forall (detector : StatisticalDetector Rat) (state : Json) (e : PyError),
    (loadInPlace detector state).1 = .error e ->
      (loadInPlace detector state).2.params = detector.params

/-- The store is not asked, or its lookup does not raise. -/
def LookupQuiet (store : StoreBehaviour) (method : String) : Prop :=
  settings.modelReuseMaxAgeSeconds ≤ 0 ∨ (exists found, store.fetch = .ok found) ∨
    method ∉ ["zscore", "iqr", "stl"]

/-!
# The lookup
-/

theorem lookup_of_found {store : StoreBehaviour} {state : Json}
    (detector : StatisticalDetector Rat) (hage : 0 < settings.modelReuseMaxAgeSeconds)
    (hfetch : store.fetch = .ok (some state)) (hnull : state ≠ .null) :
    reuse settings store detector =
      match detector.loadState state with
      | .error e => .ok (false, [e], detector)
      | .ok loaded => .ok (true, [], loaded) := by
  unfold reuse
  rw [if_pos hage, hfetch]
  simp only [loadInPlace_eq]
  cases detector.loadState state with
  | error e =>
      rfl
  | ok loaded =>
      rfl

/-- The lookup raises, or it loads a model, or it leaves the object as it was. -/
theorem reuse_cases (store : StoreBehaviour) (detector : StatisticalDetector Rat) :
    (exists e, 0 < settings.modelReuseMaxAgeSeconds ∧ store.fetch = .error e ∧
        reuse settings store detector = .error (.store e)) ∨
      (settings.modelReuseMaxAgeSeconds ≤ 0 ∨ exists found, store.fetch = .ok found) ∧
        ((exists logged loaded, reuse settings store detector = .ok (true, logged, loaded)) ∨
          exists logged, reuse settings store detector = .ok (false, logged, detector)) := by
  by_cases hage : 0 < settings.modelReuseMaxAgeSeconds
  · cases hfetch : store.fetch with
    | error e =>
        refine Or.inl ⟨e, hage, rfl, ?_⟩
        unfold reuse
        rw [if_pos hage, hfetch]
    | ok found =>
        refine Or.inr ⟨Or.inr ⟨found, rfl⟩, ?_⟩
        rcases found with _ | state
        · refine Or.inr ⟨[], ?_⟩
          unfold reuse
          rw [if_pos hage, hfetch]
        · by_cases hnull : state = .null
          · refine Or.inr ⟨[], ?_⟩
            unfold reuse
            rw [if_pos hage, hfetch, hnull]
          · have hlookup := lookup_of_found settings detector hage hfetch hnull
            cases hstate : detector.loadState state with
            | error e =>
                rw [hstate] at hlookup
                exact Or.inr ⟨[e], hlookup⟩
            | ok loaded =>
                rw [hstate] at hlookup
                exact Or.inl ⟨[], loaded, hlookup⟩
  · refine Or.inr ⟨Or.inl (not_lt.mp hage), Or.inr ⟨[], ?_⟩⟩
    unfold reuse
    rw [if_neg hage]

theorem loadInPlace_params {detector : StatisticalDetector Rat} {state : Json} {e : PyError}
    (h : (loadInPlace detector state).1 = .error e) :
    (loadInPlace detector state).2.params = detector.params := by
  rw [loadInPlace_eq] at h ⊢
  cases hload : detector.loadState state with
  | error e' =>
      rfl
  | ok loaded =>
      rw [hload] at h
      cases h

theorem mapError_detection_ne_store {α : Type} (x : Except PyError α) (e : PyError) :
    x.mapError TaskFailure.detection ≠ .error (.store e) := by
  cases x with
  | error e' =>
      intro h
      cases h
  | ok a =>
      intro h
      cases h

/-!
# The run
-/

section Run

variable {lib} {settings} {store : StoreBehaviour} {series : Series Rat}
variable {metricName method tenant : String} {detector : StatisticalDetector Rat}

theorem run_of_raise {e : PyError} (hne : series.points ≠ [])
    (hmake : StatisticalDetector.make method settings.scoringMode = .ok detector)
    (hreuse : reuse settings store detector = .error (.store e)) :
    (runStatisticalOn lib settings store series metricName method tenant).result =
      .error (.store e) := by
  unfold runStatisticalOn
  simp only [if_neg hne, hmake, hreuse]

theorem run_of_loaded {logged : List PyError} {loaded : StatisticalDetector Rat}
    (hne : series.points ≠ [])
    (hmake : StatisticalDetector.make method settings.scoringMode = .ok detector)
    (hreuse : reuse settings store detector = .ok (true, logged, loaded)) :
    (runStatisticalOn lib settings store series metricName method tenant).result =
      (detectWith lib settings loaded series metricName method tenant).mapError
        .detection := by
  unfold runStatisticalOn
  simp only [if_neg hne, hmake, hreuse]

theorem reused_of_loaded {logged : List PyError} {loaded : StatisticalDetector Rat}
    (hne : series.points ≠ [])
    (hmake : StatisticalDetector.make method settings.scoringMode = .ok detector)
    (hreuse : reuse settings store detector = .ok (true, logged, loaded)) :
    (runStatisticalOn lib settings store series metricName method tenant).reused =
      true := by
  unfold runStatisticalOn
  simp only [if_neg hne, hmake, hreuse]

theorem run_of_fresh {logged : List PyError} (hne : series.points ≠ [])
    (hmake : StatisticalDetector.make method settings.scoringMode = .ok detector)
    (hreuse : reuse settings store detector = .ok (false, logged, detector)) :
    (runStatisticalOn lib settings store series metricName method tenant).result =
      (freshReport lib settings series metricName method tenant).mapError .detection := by
  unfold runStatisticalOn freshReport
  simp only [if_neg hne, hmake, hreuse]
  cases detector.fit lib.math (series.before (series.split 1)) with
  | error e =>
      rfl
  | ok fitted =>
      rfl

theorem run_of_unknown {e : PyError} (hne : series.points ≠ [])
    (hmake : StatisticalDetector.make (K := Rat) method settings.scoringMode = .error e) :
    (runStatisticalOn lib settings store series metricName method tenant).result =
      (freshReport lib settings series metricName method tenant).mapError .detection := by
  unfold runStatisticalOn freshReport
  simp only [if_neg hne, hmake]
  rfl

theorem make_isError_iff :
    (exists e, StatisticalDetector.make (K := Rat) method settings.scoringMode = .error e) <->
      method ∉ ["zscore", "iqr", "stl"] := by
  unfold StatisticalDetector.make Method.ofName
  by_cases hz : method = "zscore"
  · simp [hz]
  · by_cases hi : method = "iqr"
    · simp [hi]
    · by_cases hs : method = "stl"
      · simp [hs]
      · simp [hz, hi, hs]

theorem make_isOk
    (hmake : StatisticalDetector.make (K := Rat) method settings.scoringMode = .ok detector) :
    method ∈ ["zscore", "iqr", "stl"] := by
  by_contra hunknown
  rcases make_isError_iff.mpr hunknown with ⟨e, he⟩
  rw [hmake] at he
  cases he

end Run

/-!
# The run and the task

The run is the task of the detector tasks once the two kinds of exception are no
longer kept apart.
-/

theorem mapError_mapError_detection {α : Type} (x : Except PyError α) :
    (x.mapError TaskFailure.detection).mapError TaskFailure.exception = x := by
  cases x with
  | error e =>
      rfl
  | ok a =>
      rfl

theorem fitStatistical_eq (store : StoreBehaviour) (method : String)
    (training : Series Rat) :
    fitStatistical lib settings store.fetch method training =
      match StatisticalDetector.make method settings.scoringMode with
      | .error e => .error e
      | .ok detector =>
          match reuse settings store detector with
          | .error failure => .error failure.exception
          | .ok (true, _, loaded) => .ok loaded
          | .ok (false, _, detector) => detector.fit lib.math training := by
  unfold fitStatistical
  cases StatisticalDetector.make (K := Rat) method settings.scoringMode with
  | error e =>
      rfl
  | ok detector =>
      by_cases hage : 0 < settings.modelReuseMaxAgeSeconds
      · cases hfetch : store.fetch with
        | error e =>
            simp only [reuse, if_pos hage, hfetch]
            rfl
        | ok found =>
            rcases found with _ | state
            · simp only [reuse, if_pos hage, hfetch]
            · by_cases hnull : state = .null
              · simp only [reuse, if_pos hage, hfetch, hnull]
                rfl
              · simp only [lookup_of_found settings detector hage hfetch hnull, if_pos hage]
                cases detector.loadState state with
                | error e =>
                    rfl
                | ok loaded =>
                    rfl
      · simp only [reuse, if_neg hage]

theorem runStatisticalOn_result (store : StoreBehaviour) (series : Series Rat)
    (metricName method tenant : String) :
    (runStatisticalOn lib settings store series metricName method tenant).result.mapError
        TaskFailure.exception =
      runStatistical lib settings store.fetch series metricName method tenant := by
  unfold runStatisticalOn runStatistical detectorTask
  simp only [fitStatistical_eq, decide_eq_true_eq]
  by_cases hempty : series.points = []
  · simp only [if_pos hempty]
    rfl
  · simp only [if_neg hempty]
    cases StatisticalDetector.make (K := Rat) method settings.scoringMode with
    | error e =>
        rfl
    | ok detector =>
        rcases hreuse : reuse settings store detector with
          failure | ⟨_ | _, logged, detector⟩
        · simp only [hreuse]
          rfl
        · simp only [hreuse]
          cases detector.fit lib.math (series.before (series.split 1)) with
          | error e =>
              rfl
          | ok fitted =>
              exact mapError_mapError_detection _
        · simp only [hreuse]
          exact mapError_mapError_detection _

/-!
# The promise
-/

theorem storeHarmless_of_result {store : StoreBehaviour} {series : Series Rat}
    {metricName method tenant : String} {report : Except PyError DetectorReport}
    (hresult : (runStatisticalOn lib settings store series metricName method tenant).result =
      report.mapError .detection)
    (hfresh :
      (runStatisticalOn lib settings store series metricName method tenant).reused = false ->
        report = freshReport lib settings series metricName method tenant) :
    StoreHarmless lib settings store series metricName method tenant := by
  refine ⟨?_, ?_, fun _ _ _ h => loadInPlace_params h⟩
  · intro e
    rw [hresult]
    exact mapError_detection_ne_store report e
  · intro hreused
    rw [hresult, hfresh hreused]

/-- The store is harmless exactly when its lookup cannot raise. -/
theorem storeHarmless_iff (store : StoreBehaviour) {series : Series Rat}
    (metricName method tenant : String) (hne : series.points ≠ []) :
    StoreHarmless lib settings store series metricName method tenant <->
      LookupQuiet settings store method := by
  cases hmake : StatisticalDetector.make (K := Rat) method settings.scoringMode with
  | error e =>
      have hunknown : method ∉ ["zscore", "iqr", "stl"] := make_isError_iff.mp ⟨e, hmake⟩
      exact iff_of_true
        (storeHarmless_of_result lib settings (run_of_unknown hne hmake) fun _ => rfl)
        (Or.inr (Or.inr hunknown))
  | ok detector =>
      have hknown : method ∈ ["zscore", "iqr", "stl"] := make_isOk hmake
      rcases reuse_cases settings store detector with
        ⟨e, hage, hfetch, hreuse⟩ | ⟨hquiet, hcases⟩
      · refine iff_of_false ?_ ?_
        · intro h
          exact h.quiet e (run_of_raise hne hmake hreuse)
        · intro h
          rcases h with hnever | ⟨found, hfound⟩ | hunknown
          · exact not_lt.mpr hnever hage
          · rw [hfetch] at hfound
            cases hfound
          · exact hunknown hknown
      · refine iff_of_true ?_ (hquiet.elim Or.inl (fun h => Or.inr (Or.inl h)))
        rcases hcases with ⟨logged, loaded, hreuse⟩ | ⟨logged, hreuse⟩
        · refine storeHarmless_of_result lib settings (run_of_loaded hne hmake hreuse) ?_
          intro hreused
          rw [reused_of_loaded hne hmake hreuse] at hreused
          cases hreused
        · exact storeHarmless_of_result lib settings (run_of_fresh hne hmake hreuse)
            fun _ => rfl

/-!
A stored value that is no object is refused, and the fitted model cannot be
stored either.
-/

def onePoint : Series Rat where
  points := [(0, .finite 0)]
  increasing := List.pairwise_singleton _ _

def noLibraries : Libraries where
  host := Host.withDigests []
  math := { sqrt := id, exp := id, sin := id, cos := id, pi := 3 }
  stl := fun _ _ => .error .valueError
  forest := fun _ _ => .error .valueError
  prophet := fun _ => .error .valueError

def reusingSettings : Settings :=
  { Settings.defaults with
    modelReuseMaxAgeSeconds := 3600
    modelReuseMaxAgeSeconds_ge := by decide }

theorem storeHarmless_iff_refused :
    onePoint.points ≠ [] ∧
      StoreHarmless noLibraries reusingSettings
        { fetch := .ok (some (.str "corrupt")), persist := some .connectionError }
        onePoint "cpu_usage" "zscore" "acme" := by
  have hne : onePoint.points ≠ [] := List.cons_ne_nil _ _
  exact ⟨hne, (storeHarmless_iff noLibraries reusingSettings _ "cpu_usage" "zscore" "acme"
    hne).mpr (Or.inr (Or.inl ⟨_, rfl⟩))⟩

/-- With reuse on, a lookup that raises ends the attempt. -/
theorem failedLookup_raises :
    ¬ forall (lib : Libraries) (settings : Settings) (store : StoreBehaviour)
      (series : Series Rat) (metricName method tenant : String), series.points ≠ [] ->
      StoreHarmless lib settings store series metricName method tenant := by
  intro h
  have hne : onePoint.points ≠ [] := List.cons_ne_nil _ _
  have hharmless := h noLibraries reusingSettings { fetch := .error .connectionError }
    onePoint "cpu_usage" "zscore" "acme" hne
  exact hharmless.quiet .connectionError (run_of_raise hne rfl rfl)

end Workers
end MetricMesh
