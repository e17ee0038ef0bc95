import MetricMesh.Config

/-!
# Configured sinks

The log sink is always there, and every other sink is there when its settings
are.
-/

namespace MetricMesh
namespace Alerting

open Python

inductive Sink where
  | log
  | slack (webhookUrl : String)
  | pagerduty (routingKey : String)
  | teams (webhookUrl : String)
  | webhook (url : String) (headers : Dict String String)
  | email (host : String) (port : Int) (sender : String) (recipients : List String)
      (username password : String) (useTls : Bool)
  | sms (accountSid authToken sender : String) (recipients : List String)
deriving DecidableEq

def Sink.name : Sink -> String
  | .log => "log"
  | .slack _ => "slack"
  | .pagerduty _ => "pagerduty"
  | .teams _ => "teams"
  | .webhook _ _ => "webhook"
  | .email _ _ _ _ _ _ _ => "email"
  | .sms _ _ _ _ => "sms"

/-- `[r.strip() for r in text.split(",") if r.strip()]`. -/
def recipientsOf (text : String) : List String :=
  ((split text ',').map strip).filter (fun r => r ≠ "")

def parseWebhookHeaders (host : Host) (raw : String) : Dict String String :=
  if strip raw = "" then
    []
  else
    match host.loads raw with
    | .ok (.obj data) => data.map fun item => (item.1, host.str item.2)
    | .ok _ => []
    | .error _ => []

/-- `alert_email_from or smtp_username or "metricmesh@localhost"`. -/
def emailSender (settings : Settings) : String :=
  if settings.alertEmailFrom ≠ "" then settings.alertEmailFrom
  else if settings.smtpUsername ≠ "" then settings.smtpUsername
  else "metricmesh@localhost"

def addWhen (configured : Bool) (sink : Sink) (sinks : Dict String Sink) :
    Dict String Sink :=
  if configured then sinks.insert sink.name sink else sinks

def availableSinks (host : Host) (settings : Settings) : Dict String Sink :=
  let sinks : Dict String Sink := [("log", .log)]
  let sinks := addWhen (settings.slackWebhookUrl ≠ "")
    (.slack settings.slackWebhookUrl) sinks
  let sinks := addWhen (settings.pagerdutyRoutingKey ≠ "")
    (.pagerduty settings.pagerdutyRoutingKey) sinks
  let sinks := addWhen (settings.teamsWebhookUrl ≠ "")
    (.teams settings.teamsWebhookUrl) sinks
  let sinks := addWhen (settings.genericWebhookUrl ≠ "")
    (.webhook settings.genericWebhookUrl
      (parseWebhookHeaders host settings.genericWebhookHeaders)) sinks
  let sinks := addWhen (settings.smtpHost ≠ "" ∧ settings.alertEmailTo ≠ "")
    (.email settings.smtpHost settings.smtpPort (emailSender settings)
      (recipientsOf settings.alertEmailTo) settings.smtpUsername settings.smtpPassword
      settings.smtpUseTls) sinks
  addWhen
    (settings.twilioAccountSid ≠ "" ∧ settings.twilioAuthToken ≠ "" ∧
      settings.smsFrom ≠ "" ∧ settings.smsTo ≠ "")
    (.sms settings.twilioAccountSid settings.twilioAuthToken settings.smsFrom
      (recipientsOf settings.smsTo)) sinks

/-!
# The registry

Every sink is registered once, under its name, and the log sink is among them.
-/

structure IsRegistry (sinks : Dict String Sink) : Prop where
  nodup : (Dict.keys sinks).Nodup
  named : forall k sink, (k, sink) ∈ sinks -> sink.name = k
  log : sinks.get? "log" = some .log

theorem IsRegistry.addWhen {sinks : Dict String Sink} (h : IsRegistry sinks)
    (configured : Bool) {sink : Sink} (hname : sink.name ≠ "log") :
    IsRegistry (Alerting.addWhen configured sink sinks) := by
  unfold Alerting.addWhen
  cases configured with
  | false =>
      exact h
  | true =>
      have hnodup := Dict.nodup_keys_insert h.nodup sink.name sink
      refine ⟨hnodup, ?_, ?_⟩
      · intro k other hmem
        have hget := (Dict.mem_iff_get? hnodup).mp hmem
        rw [Dict.get?_insert] at hget
        by_cases hk : sink.name = k
        · rw [if_pos hk] at hget
          rw [← Option.some.inj hget]
          exact hk
        · rw [if_neg hk] at hget
          exact h.named k other ((Dict.mem_iff_get? h.nodup).mpr hget)
      · show (Dict.insert sinks sink.name sink).get? "log" = some .log
        rw [Dict.get?_insert, if_neg hname]
        exact h.log

theorem availableSinks_isRegistry (host : Host) (settings : Settings) :
    IsRegistry (availableSinks host settings) := by
  have hlog : IsRegistry [("log", Sink.log)] := by
    refine ⟨List.nodup_singleton _, ?_, rfl⟩
    intro k sink hmem
    cases List.mem_singleton.mp hmem
    rfl
  unfold availableSinks
  refine IsRegistry.addWhen ?_ _ (by simp [Sink.name])
  refine IsRegistry.addWhen ?_ _ (by simp [Sink.name])
  refine IsRegistry.addWhen ?_ _ (by simp [Sink.name])
  refine IsRegistry.addWhen ?_ _ (by simp [Sink.name])
  refine IsRegistry.addWhen ?_ _ (by simp [Sink.name])
  exact IsRegistry.addWhen hlog _ (by simp [Sink.name])

theorem IsRegistry.names_eq_keys {sinks : Dict String Sink} (h : IsRegistry sinks) :
    (sinks.map Prod.snd).map Sink.name = Dict.keys sinks := by
  unfold Dict.keys
  rw [List.map_map]
  refine List.map_congr_left ?_
  intro item hitem
  exact h.named item.1 item.2 hitem

theorem IsRegistry.name_of_get? {sinks : Dict String Sink} (h : IsRegistry sinks)
    {k : String} {sink : Sink} (hget : sinks.get? k = some sink) :
    (k, sink) ∈ sinks ∧ sink.name = k := by
  have hmem := (Dict.mem_iff_get? h.nodup).mpr hget
  exact ⟨hmem, h.named k sink hmem⟩

end Alerting
end MetricMesh
