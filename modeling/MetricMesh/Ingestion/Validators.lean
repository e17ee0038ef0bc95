import MetricMesh.Python.Host
import MetricMesh.Python.Text

/-!
# The validator of metric points

`MetricPoint` checks the fields of a point one by one and then its labels.  A
value of the type carries what the checks establish.

A metric name reaches storage in two ways: under the pattern that the ingest API
enforces, or as the name that the scraper makes of an exported sample.
-/

namespace MetricMesh
namespace Ingestion

open Python

def isNameStart (c : Char) : Bool :=
  c.isLower || c = '_'

def isNameChar (c : Char) : Bool :=
  c.isLower || c.isDigit || c = '_' || c = '.'

def metricNameValid (name : String) : Bool :=
  match name.toList with
  | [] => false
  | c :: rest => isNameStart c && rest.all isNameChar && rest.length < 128

/-- The name under which the scraper yields a sample, if it yields it. -/
def safeName (host : Host) (name : String) : Option String :=
  let safe := replaceChar (host.lower name) '-' "_"
  match safe.toList with
  | [] => none
  | c :: _ => if host.isAlpha c then some safe else none

def Storable (host : Host) (name : String) : Prop :=
  metricNameValid name = true ∨ exists raw, safeName host raw = some name

/-- The dictionary of a point, as a producer hands it on. -/
structure PointDict where
  metricName : String
  value : PyFloat
  timestamp : PyFloat
  labels : Dict String String := []
  source : String := "api"
deriving DecidableEq

inductive PointError where
  | field (name : String)
  | value (text : String)
deriving DecidableEq

def isFinite : PyFloat -> Bool
  | .finite _ => true
  | _ => false

structure LabelsValid (labels : Dict String String) : Prop where
  count : labels.length ≤ 20
  key : forall item, item ∈ labels -> item.1.length ≤ 64
  value : forall item, item ∈ labels -> item.2.length ≤ 256

structure MetricPoint extends PointDict where
  metricName_valid : metricNameValid metricName = true
  source_le : source.length ≤ 64
  value_finite : isFinite value = true
  labels_valid : LabelsValid labels

section Checks

variable (host : Host)

def valueMustBeFinite (v : PyFloat) : Except PointError Unit :=
  if isFinite v then .ok ()
  else .error (.value ("value must be finite, got " ++ host.repr (.float v)))

def checkLabels : Dict String String -> Except PointError Unit
  | [] => .ok ()
  | (k, v) :: rest =>
      if 64 < k.length then
        .error (.value ("label key too long: " ++ host.quoted k))
      else if 256 < v.length then
        .error (.value ("label value too long for key " ++ host.quoted k))
      else checkLabels rest

def validateLabelConstraints (labels : Dict String String) : Except PointError Unit :=
  if 20 < labels.length then .error (.value "max 20 labels per metric point")
  else checkLabels host labels

/-- The first check of a point that fails, in the order of the checks. -/
def checkPoint (p : PointDict) : Except PointError Unit :=
  if metricNameValid p.metricName = false then .error (.field "metric_name")
  else if 64 < p.source.length then .error (.field "source")
  else
    match valueMustBeFinite host p.value with
    | .error e => .error e
    | .ok () => validateLabelConstraints host p.labels

theorem checkLabels_eq_ok (labels : Dict String String) :
    checkLabels host labels = .ok () <->
      forall item, item ∈ labels -> item.1.length ≤ 64 ∧ item.2.length ≤ 256 := by
  induction labels with
  | nil =>
      simp [checkLabels]
  | cons item rest ih =>
      rcases item with ⟨k, v⟩
      rw [checkLabels]
      by_cases hk : 64 < k.length
      · simp [hk]
      · by_cases hv : 256 < v.length
        · simp [hk, hv]
        · simp [hk, hv, ih, Nat.not_lt.mp hk, Nat.not_lt.mp hv]

theorem validateLabelConstraints_eq_ok (labels : Dict String String) :
    validateLabelConstraints host labels = .ok () <-> LabelsValid labels := by
  unfold validateLabelConstraints
  by_cases hcount : 20 < labels.length
  · rw [if_pos hcount]
    constructor
    · intro h
      cases h
    · intro h
      exact absurd h.count (Nat.not_le.mpr hcount)
  · rw [if_neg hcount, checkLabels_eq_ok]
    constructor
    · intro h
      exact ⟨Nat.not_lt.mp hcount, fun item hi => (h item hi).1, fun item hi => (h item hi).2⟩
    · intro h item hi
      exact ⟨h.key item hi, h.value item hi⟩

theorem checkPoint_eq_ok (p : PointDict) :
    checkPoint host p = .ok () <-> exists m : MetricPoint, m.toPointDict = p := by
  unfold checkPoint valueMustBeFinite
  constructor
  · intro h
    by_cases hname : metricNameValid p.metricName = false
    · simp [hname] at h
    · by_cases hsource : 64 < p.source.length
      · simp [hname, hsource] at h
      · by_cases hvalue : isFinite p.value = true
        · simp only [if_neg hname, if_neg hsource, hvalue, if_true,
            validateLabelConstraints_eq_ok] at h
          exact ⟨{ p with
            metricName_valid := by simpa using hname
            source_le := Nat.not_lt.mp hsource
            value_finite := hvalue
            labels_valid := h }, rfl⟩
        · simp [hname, hsource, hvalue] at h
  · intro h
    rcases h with ⟨m, hm⟩
    rw [← hm]
    simp only [m.metricName_valid, Bool.true_eq_false, if_false,
      if_neg (Nat.not_lt.mpr m.source_le), m.value_finite, if_true,
      validateLabelConstraints_eq_ok]
    exact m.labels_valid

end Checks

end Ingestion
end MetricMesh
