import MetricMesh.Ingestion.Api

/-!
# Feedback on alerts

A caller labels one of its alerts.  Who labelled which alert and how is written
to the audit log.
-/

namespace MetricMesh
namespace Api

open Python
open Storage
open Ingestion

inductive FeedbackLabel where
  | truePositive
  | falsePositive
deriving DecidableEq

def FeedbackLabel.text : FeedbackLabel -> String
  | .truePositive => "true_positive"
  | .falsePositive => "false_positive"

structure FeedbackResponse where
  id : Int
  label : String
deriving DecidableEq

def feedbackSubmitted (alertId : Int) (label : FeedbackLabel) (clientHost : Option String)
    (identity : Identity) : AuditEvent where
  action := "feedback.submitted"
  principal := some identity.principal
  outcome := some "success"
  resource := some ("alert:" ++ toString alertId)
  sourceIp := clientHost
  detail := [("label", .str label.text), ("tenant", .str identity.tenant)]

/-- `auditId` and `now` are what the sequence and the clock give to the audit row. -/
def submitFeedback (settings : Settings) (faults : Faults) (auditId : Int)
    (now : Detection.Instant) (alertId : Int) (label : FeedbackLabel)
    (clientHost : Option String) (identity : Identity) (scope : Scope) :
    Except Raised FeedbackResponse × Scope :=
  match scope.setAlertLabel faults alertId label.text identity.tenant with
  | (.error e, scope) => (.error (.exception e), scope)
  | (.ok false, scope) =>
      (.error (.http
        { statusCode := 404, detail := "Alert " ++ toString alertId ++ " not found" }),
        scope)
  | (.ok true, scope) =>
      (.ok { id := alertId, label := label.text },
        scope.recordAudit settings faults auditId now
          (feedbackSubmitted alertId label clientHost identity))

/-!
# What the handler leaves in its scope
-/

section Outcomes

variable {settings : Settings} {faults : Faults} {auditId : Int} {now : Detection.Instant}
variable {alertId : Int} {label : FeedbackLabel} {clientHost : Option String}
variable {identity : Identity} {db : Database}

theorem row?_feedbackSubmitted :
    LoggedEvent.row? settings
        { id := auditId, loggedAt := now,
          event := feedbackSubmitted alertId label clientHost identity,
          insertRaises := faults.auditRaises } =
      if settings.auditEnabled = true ∧ faults.auditRaises = false then
        some { toAuditEvent := feedbackSubmitted alertId label clientHost identity,
               id := auditId, loggedAt := now }
      else none := by
  have hstandard : isStandardFields
      (feedbackSubmitted alertId label clientHost identity).detail = true := rfl
  unfold LoggedEvent.row?
  simp only [hstandard, if_true]
  cases settings.auditEnabled with
  | false =>
      simp
  | true =>
      cases faults.auditRaises with
      | false =>
          simp
      | true =>
          simp

theorem submitFeedback_of_raise {e : PyError} (hexecute : faults.execute = some e) :
    submitFeedback settings faults auditId now alertId label clientHost identity
        { db := db } =
      (.error (.exception e), { db := db, pending := [] }) := by
  unfold submitFeedback Scope.setAlertLabel
  simp only [hexecute]

theorem submitFeedback_of_unknown (hexecute : faults.execute = none)
    (hcount : ¬ 0 < db.alerts.countP (labelled alertId identity.tenant)) :
    submitFeedback settings faults auditId now alertId label clientHost identity
        { db := db } =
      (.error (.http
        { statusCode := 404, detail := "Alert " ++ toString alertId ++ " not found" }),
        { db := db, pending := [.setLabel alertId label.text identity.tenant] }) := by
  have hview : Scope.view { db := db } = db := rfl
  unfold submitFeedback Scope.setAlertLabel
  simp only [hexecute, hview, hcount, decide_false]
  rfl

theorem submitFeedback_of_found (settings : Settings) (auditId : Int)
    (now : Detection.Instant) (label : FeedbackLabel) (clientHost : Option String)
    (hexecute : faults.execute = none)
    (hcount : 0 < db.alerts.countP (labelled alertId identity.tenant)) :
    submitFeedback settings faults auditId now alertId label clientHost identity
        { db := db } =
      (.ok { id := alertId, label := label.text },
        { db := db
          pending := [.setLabel alertId label.text identity.tenant]
          audit :=
            if settings.auditEnabled = true ∧ faults.auditRaises = false then
              [{ toAuditEvent := feedbackSubmitted alertId label clientHost identity,
                 id := auditId, loggedAt := now }]
            else [] }) := by
  have hview : Scope.view { db := db } = db := rfl
  unfold submitFeedback Scope.setAlertLabel Scope.recordAudit
  simp only [hexecute, hview, hcount, decide_true, row?_feedbackSubmitted]
  by_cases haudit : settings.auditEnabled = true ∧ faults.auditRaises = false
  · simp only [if_pos haudit]
    rfl
  · simp only [if_neg haudit]
    rfl

end Outcomes

end Api
end MetricMesh
