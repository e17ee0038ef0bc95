import MetricMesh.Detection.Fitting
import MetricMesh.Detection.ModelReuse
import MetricMesh.Foundation.Runs
import MetricMesh.Storage.Operations

/-!
# Fitted models in the store

A fitted detector is stored as the JSON text of its state, which the database
casts to JSONB.  The cast accepts standard JSON only, so a parameter that is not a
finite double is refused.  From `1e16` on a double comes back as the integer of its
shortest text, which need not be equal to it.
-/

namespace MetricMesh
namespace Storage

open Foundation
open Python
open Detection

/-!
# Equality of what is read back
-/

/-- What a number is compared as; an integer and a float are equal when their values are. -/
def numeric? : Json -> Option PyFloat
  | .bool b => some (.finite (if b then 1 else 0))
  | .int n => some (.finite n)
  | .float x => some x
  | _ => none

mutual

/-- `v == w`, for documents that list their keys in one order. -/
def pyEq : Json -> Json -> Bool
  | .null, .null => true
  | .str s, .str t => s = t
  | .arr vs, .arr ws => pyEqItems vs ws
  | .obj fs, .obj gs => pyEqFields fs gs
  | v, w =>
      match numeric? v, numeric? w with
      | some x, some y => x = y && !x.isNan
      | _, _ => false

def pyEqItems : List Json -> List Json -> Bool
  | [], [] => true
  | v :: vs, w :: ws => pyEq v w && pyEqItems vs ws
  | _, _ => false

def pyEqFields : List (String × Json) -> List (String × Json) -> Bool
  | [], [] => true
  | (k, v) :: fs, (l, w) :: gs => k = l && pyEq v w && pyEqFields fs gs
  | _, _ => false

end

def heldParam : Param Rat -> Param Rat
  | .number x => .number x.nearest
  | p => p

/-- The fitted detector with the double nearest to each of its parameters. -/
def held (fitted : StatisticalDetector Rat) : StatisticalDetector Rat :=
  { fitted with params := fitted.params.map fun p => (p.1, heldParam p.2) }

variable (host : Host) (settings : Settings) (collation : Collation)

/-- `persist_detector_model_sync(metric_name, detector_type, detector.get_state(), tenant)`. -/
def storeState (fitted : StatisticalDetector Rat) (now : Instant)
    (metricName detectorType tenant : String) : Request where
  now := now
  op := .persistDetectorModel metricName detectorType fitted.getState tenant

/-- `fetch_detector_model_sync(metric_name, detector_type, max_age_seconds, tenant)`. -/
def lookUp (now : Instant) (metricName detectorType : String) (maxAgeSeconds : Int)
    (tenant : String) : Request where
  now := now
  op := .fetchDetectorModel metricName detectorType maxAgeSeconds tenant

def storesUnder (key : String × String × String) (r : Request) : Bool :=
  match r.op with
  | .persistDetectorModel metricName detectorType _ tenant =>
      (tenant, metricName, detectorType) = key
  | _ => false

/--
The state of a fitted detector is accepted whatever the store holds, and until
another state is stored under its key, a lookup within the maximum age returns a
state that is equal to it.
-/
def Storable (fitted : StatisticalDetector Rat) : Prop :=
  forall (db : Database) (now : Instant) (metricName detectorType tenant : String),
    (exec host settings collation db
      (storeState fitted now metricName detectorType tenant)).1 = .done ∧
    forall rest : List Request,
      (forall r, r ∈ rest -> storesUnder (tenant, metricName, detectorType) r = false) ->
      forall (later : Instant) (maxAgeSeconds : Int),
        later - maxAgeSeconds * 1000000 < now ->
          exists state, (exec host settings collation
            (finalState (exec host settings collation)
              (exec host settings collation db
                (storeState fitted now metricName detectorType tenant)).2 rest)
            (lookUp later metricName detectorType maxAgeSeconds tenant)).1 =
              .model (some state) ∧
            pyEq state (held fitted).getState = true

/--
A finite double that comes back with its value: one below `1e16`, or one that is
equal to its shortest text.
-/
def Prints (x : PyFloat) : Prop :=
  exists q, x.nearest = .finite q ∧ (|q| < 10 ^ 16 ∨ (shortest q : Rat) = q)

def PrintsParam : Param Rat -> Prop
  | .number x => Prints x
  | _ => True

/--
What a fit computes comes back with its value: the mean and the deviation of the
last window of at least ten numbers, or the quartiles and their distance.
-/
def FitPrints (math : Math Rat) (detector : StatisticalDetector Rat)
    (numbers : List Rat) : Prop :=
  match detector.method with
  | .zscore =>
      let window := numbers.drop (numbers.length - detector.window)
      10 ≤ numbers.length ∧ Prints (mean window) ∧ Prints (std math window)
  | .iqr =>
      let q1 := orMissing (quantileOf 1 4 numbers)
      let q3 := orMissing (quantileOf 3 4 numbers)
      Prints q1 ∧ Prints q3 ∧ Prints (q3 - q1)
  | .stl => True

/-!
# The row of a key
-/

def rowUnder (key : String × String × String) (db : Database) : Option ModelRow :=
  db.models.find? (fun r => r.key = key)

theorem rowUnder_exec {key : String × String × String} {r : Request}
    (h : storesUnder key r = false) (db : Database) :
    rowUnder key (exec host settings collation db r).2 = rowUnder key db := by
  unfold exec
  unfold storesUnder at h
  cases hop : r.op with
  | persistDetectorModel metricName detectorType parameters tenant =>
      rw [hop] at h
      let row : ModelRow :=
        { tenant := tenant, metricName := metricName, detectorType := detectorType,
          parameters := jsonb parameters, trainedAt := r.now }
      have hkey : row.key ≠ key := of_decide_eq_false h
      unfold persistDetectorModel rowUnder
      dsimp only
      by_cases hstandard : isStandard parameters
      · rw [if_pos hstandard]
        exact find?_upsert_of_ne ModelRow.key hkey db.models
      · rw [if_neg hstandard]
  | bulkInsert points tenant =>
      dsimp only
      unfold bulkInsert
      split
      · rfl
      · rfl
  | persistAlert alertId anomaly routedTo =>
      dsimp only
      unfold persistAlert
      split
      · rfl
      · rfl
  | _ => rfl

theorem rowUnder_finalState {key : String × String × String} {rest : List Request}
    (h : forall r, r ∈ rest -> storesUnder key r = false) (db : Database) :
    rowUnder key (finalState (exec host settings collation) db rest) = rowUnder key db := by
  have hkeep : forall s r, storesUnder key r = false -> rowUnder key s = rowUnder key db ->
      rowUnder key (exec host settings collation s r).2 = rowUnder key db := by
    intro s r hr hs
    rw [rowUnder_exec host settings collation hr, hs]
  exact @finalState_invariant _ _ _ (exec host settings collation)
    (fun s => rowUnder key s = rowUnder key db) (fun r => storesUnder key r = false) hkeep
    rest h db rfl

theorem lookUp_of_rowUnder {db : Database} {row : ModelRow}
    {metricName detectorType tenant : String} {later : Instant} {maxAgeSeconds : Int}
    (h : rowUnder (tenant, metricName, detectorType) db = some row)
    (hfresh : later - maxAgeSeconds * 1000000 < row.trainedAt) :
    (exec host settings collation db
      (lookUp later metricName detectorType maxAgeSeconds tenant)).1 =
        modelAnswer ((decodeParameters host row.parameters).map some) := by
  have hcond : (fun r : ModelRow => r.metricName = metricName &&
      r.detectorType = detectorType && r.tenant = tenant &&
        decide (later - maxAgeSeconds * 1000000 < r.trainedAt)) =
      fun r => decide (r.key = (tenant, metricName, detectorType)) &&
        decide (later - maxAgeSeconds * 1000000 < r.trainedAt) := by
    funext r
    congr 1
    apply Bool.eq_iff_iff.mpr
    simp only [ModelRow.key, Prod.mk.injEq, Bool.and_eq_true, decide_eq_true_eq]
    constructor
    · intro hall
      exact ⟨hall.2, hall.1.1, hall.1.2⟩
    · intro hall
      exact ⟨⟨hall.2.1, hall.2.2⟩, hall.1⟩
  have hfound := find?_and_of_find? (q := fun r =>
    decide (later - maxAgeSeconds * 1000000 < r.trainedAt)) h (decide_eq_true hfresh)
  show modelAnswer
    (fetchDetectorModel host db later metricName detectorType maxAgeSeconds tenant) = _
  unfold fetchDetectorModel
  rw [List.head?_filter, hcond, hfound]
  dsimp only
  cases decodeParameters host row.parameters with
  | error e =>
      rfl
  | ok parameters =>
      rfl

/-!
# Parameters that come back
-/

theorem prints_iff (x : PyFloat) :
    Prints x <-> x.nearest.number?.isSome = true ∧
      pyEq (jsonbNumber x.nearest) (.float x.nearest) = true := by
  unfold Prints
  cases x.nearest with
  | finite q =>
      by_cases hsmall : |q| < 10 ^ 16
      · simp [jsonbNumber, hsmall, pyEq, numeric?, Double.number?, Double.isNan]
      · simp [jsonbNumber, hsmall, pyEq, numeric?, Double.number?, Double.isNan]
  | nan => simp [Double.number?]
  | inf => simp [Double.number?]
  | negInf => simp [Double.number?]

/-- A double from `1e16` on whose text stands for another integer. -/
example : ¬ Prints (.finite 1700000000123456768) := by
  rw [prints_iff]
  decide +kernel

theorem printsParam_iff (p : Param Rat) :
    PrintsParam p <-> isStandard p.toJson = true ∧
      pyEq (jsonb p.toJson) (heldParam p).toJson = true := by
  cases p with
  | number x =>
      simp only [PrintsParam, heldParam, Param.toJson, isStandard, jsonb]
      exact prints_iff x
  | blank =>
      simp [PrintsParam, heldParam, Param.toJson, isStandard, jsonb, pyEq]
  | other =>
      simp [PrintsParam, heldParam, Param.toJson, isStandard, isStandardItems, jsonb,
        jsonbItems, pyEq, pyEqItems]

theorem forall_printsParam_iff (params : List (String × Param Rat)) :
    (forall p, p ∈ params -> PrintsParam p.2) <->
      isStandardFields (params.map fun p => (p.1, p.2.toJson)) = true ∧
        pyEqFields (jsonbFields (params.map fun p => (p.1, p.2.toJson)))
          ((params.map fun p => (p.1, heldParam p.2)).map fun p => (p.1, p.2.toJson)) =
            true := by
  induction params with
  | nil =>
      simp [isStandardFields, jsonbFields, pyEqFields]
  | cons p rest ih =>
      rw [List.forall_mem_cons, ih, printsParam_iff]
      simp only [List.map_cons, isStandardFields, jsonbFields, pyEqFields, decide_true,
        Bool.true_and, Bool.and_eq_true]
      constructor
      · rintro ⟨⟨hstandard, heq⟩, hrest, hrestEq⟩
        exact ⟨⟨hstandard, hrest⟩, heq, hrestEq⟩
      · rintro ⟨⟨hstandard, hrest⟩, heq, hrestEq⟩
        exact ⟨⟨hstandard, heq⟩, hrest, hrestEq⟩

theorem prints_getState_iff (fitted : StatisticalDetector Rat) :
    (forall p, p ∈ fitted.params -> PrintsParam p.2) <->
      isStandard fitted.getState = true ∧
        pyEq (jsonb fitted.getState) (held fitted).getState = true := by
  rw [forall_printsParam_iff]
  simp [StatisticalDetector.getState, held, isStandard, isStandardFields, jsonb,
    jsonbFields, pyEq, pyEqFields, numeric?, Double.isNan]

/-!
# Storable states
-/

theorem exec_storeState {fitted : StatisticalDetector Rat}
    (h : isStandard fitted.getState = true) (db : Database) (now : Instant)
    (metricName detectorType tenant : String) :
    exec host settings collation db
        (storeState fitted now metricName detectorType tenant) =
      (.done,
        { db with
          models := upsert ModelRow.key
            { tenant := tenant, metricName := metricName, detectorType := detectorType,
              parameters := jsonb fitted.getState, trainedAt := now } db.models }) :=
  if_pos h

theorem lookUp_of_stored {fitted : StatisticalDetector Rat}
    (h : isStandard fitted.getState = true) (db : Database) {now : Instant}
    {metricName detectorType tenant : String} {rest : List Request}
    (hrest : forall r, r ∈ rest ->
      storesUnder (tenant, metricName, detectorType) r = false)
    {later : Instant} {maxAgeSeconds : Int}
    (hfresh : later - maxAgeSeconds * 1000000 < now) :
    (exec host settings collation
      (finalState (exec host settings collation)
        (exec host settings collation db
          (storeState fitted now metricName detectorType tenant)).2 rest)
      (lookUp later metricName detectorType maxAgeSeconds tenant)).1 =
        .model (some (jsonb fitted.getState)) := by
  let row : ModelRow :=
    { tenant := tenant, metricName := metricName, detectorType := detectorType,
      parameters := jsonb fitted.getState, trainedAt := now }
  have hrow : rowUnder (tenant, metricName, detectorType)
      (finalState (exec host settings collation)
        (exec host settings collation db
          (storeState fitted now metricName detectorType tenant)).2 rest) = some row := by
    rw [rowUnder_finalState host settings collation hrest,
      exec_storeState host settings collation h]
    exact find?_upsert_self ModelRow.key row db.models
  rw [lookUp_of_rowUnder host settings collation hrow hfresh]
  rfl

/-- A fitted detector is storable exactly when each of its parameters comes back. -/
theorem storable_iff_prints (fitted : StatisticalDetector Rat) :
    Storable host settings collation fitted <->
      forall p, p ∈ fitted.params -> PrintsParam p.2 := by
  rw [prints_getState_iff]
  constructor
  · intro h
    rcases h {} 0 "" "" "" with ⟨hdone, hback⟩
    have hstandard : isStandard fitted.getState = true := by
      by_contra hstandard
      have hraised : (exec host settings collation {}
          (storeState fitted 0 "" "" "")).1 = .raised :=
        congrArg Prod.fst (if_neg hstandard)
      rw [hraised] at hdone
      cases hdone
    have hnone : forall r, r ∈ ([] : List Request) -> storesUnder ("", "", "") r = false := by
      intro r hr
      cases hr
    rcases hback [] hnone 0 1 (by decide) with ⟨state, hfound, heq⟩
    rw [lookUp_of_stored host settings collation hstandard {} hnone (by decide)] at hfound
    injection hfound with hfound
    injection hfound with hfound
    rw [← hfound] at heq
    exact ⟨hstandard, heq⟩
  · intro h db now metricName detectorType tenant
    constructor
    · rw [exec_storeState host settings collation h.1]
    · intro rest hrest later maxAgeSeconds hfresh
      exact ⟨_, lookUp_of_stored host settings collation h.1 db hrest hfresh, h.2⟩

/-!
# Which fits are storable

The rolling statistics of a fit need ten numbers, and below that they are not
numbers.
-/

theorem not_prints_nan : ¬ Prints .nan := by
  rintro ⟨q, hq, _⟩
  cases hq

theorem prints_lastWindow_iff {width : Nat} (hwidth : 10 ≤ width)
    (statistic : List Rat -> PyFloat) (numbers : List Rat) :
    Prints (StatisticalDetector.lastWindow width 10 statistic numbers) <->
      10 ≤ numbers.length ∧ Prints (statistic (numbers.drop (numbers.length - width))) := by
  have hmin : Nat.min width numbers.length < 10 <-> numbers.length < 10 := by
    show min width numbers.length < 10 <-> numbers.length < 10
    omega
  unfold StatisticalDetector.lastWindow
  by_cases hshort : numbers.length < 10
  · rw [if_pos (hmin.mpr hshort)]
    exact iff_of_false not_prints_nan (fun h => not_le.mpr hshort h.1)
  · rw [if_neg (fun h => hshort (hmin.mp h)), and_iff_right (not_lt.mp hshort)]

theorem prints_fittedParams_iff (math : Math Rat) {detector : StatisticalDetector Rat}
    (hwindow : detector.method = .zscore -> 10 ≤ detector.window) (numbers : List Rat) :
    (forall p, p ∈ StatisticalDetector.fittedParams math detector numbers ->
        PrintsParam p.2) <-> FitPrints math detector numbers := by
  unfold StatisticalDetector.fittedParams FitPrints
  cases hmethod : detector.method with
  | zscore =>
      have hmean := prints_lastWindow_iff (hwindow hmethod) mean numbers
      have hstd := prints_lastWindow_iff (hwindow hmethod) (std math) numbers
      simp only [List.forall_mem_cons, PrintsParam, hmean, hstd, List.not_mem_nil,
        false_implies, implies_true, and_true]
      constructor
      · rintro ⟨⟨hten, hmean⟩, _, hstd⟩
        exact ⟨hten, hmean, hstd⟩
      · rintro ⟨hten, hmean, hstd⟩
        exact ⟨⟨hten, hmean⟩, hten, hstd⟩
  | iqr =>
      simp only [List.forall_mem_cons, PrintsParam, List.not_mem_nil, false_implies,
        implies_true, and_true]
  | stl =>
      simp

def firstPoint : Series Rat where
  points := [(0, .finite 5)]
  increasing := List.pairwise_singleton _ _

end Storage
end MetricMesh
