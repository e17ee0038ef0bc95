import MetricMesh.Detection.Base
import MetricMesh.Alerting.Sinks
import MetricMesh.Foundation.Rounding

/-!
# Text messages

The text message sink posts one message for every recipient.  What a post leads
to is outside the program: the provider accepts the message, it answers with an
error status, or the post itself raises.
-/

namespace MetricMesh
namespace Alerting

open Foundation
open Python

/-!
# The message
-/

/-- `round(x * 100)`, which raises when the product is not a finite double. -/
def percent : PyFloat -> Except PyError Int
  | .finite q =>
      match Double.ofExact (q * 100) with
      | .finite product => .ok (roundEven product)
      | _ => .error .overflowError
  | .nan => .error .valueError
  | .inf => .error .overflowError
  | .negInf => .error .overflowError

def smsBody (host : Host) (anomaly : Anomaly) : Except PyError String :=
  match host.float (anomaly.score.getD (.int 0)) with
  | .error e => .error e
  | .ok score =>
      match percent score with
      | .error e => .error e
      | .ok scorePct =>
          match host.float (anomaly.value.getD (.int 0)) with
          | .error e => .error e
          | .ok value =>
              .ok ("MetricMesh anomaly: " ++ anomaly.metricName.getD "?" ++ " = " ++
                fixedText 4 value ++ " (score " ++ toString scorePct ++ "%) at " ++
                host.str (anomaly.timestamp.getD (.str "?")))

/-!
# The posts
-/

structure Post where
  url : String
  recipient : String
  sender : String
  body : String
  accountSid : String
  authToken : String
deriving DecidableEq

inductive PostOutcome where
  | accepted
  /-- `raise_for_status()` raises an `HTTPStatusError` with the text. -/
  | status (text : String)
  | transport (e : PyError)
deriving DecidableEq

/-- The loop over the recipients from a position on: the posts, and the errors. -/
def postFrom (post : String -> Post) (outcome : Nat -> PostOutcome) :
    Nat -> List String -> List Post × Except PyError (List (String × String))
  | _, [] => ([], .ok [])
  | position, recipient :: rest =>
      match outcome position with
      | .transport e => ([post recipient], .error e)
      | .accepted =>
          let later := postFrom post outcome (position + 1) rest
          (post recipient :: later.1, later.2)
      | .status text =>
          let later := postFrom post outcome (position + 1) rest
          (post recipient :: later.1, later.2.map fun errors => (recipient, text) :: errors)

def smsPost (accountSid authToken sender body recipient : String) : Post where
  url := "https://api.twilio.com/2010-04-01/Accounts/" ++ accountSid ++ "/Messages.json"
  recipient := recipient
  sender := sender
  body := body
  accountSid := accountSid
  authToken := authToken

/-- `SmsSink.send(anomaly)`: the posts that it attempts, and how it ends. -/
def smsSend (host : Host) (accountSid authToken sender : String)
    (recipients : List String) (outcome : Nat -> PostOutcome) (anomaly : Anomaly) :
    List Post × Except PyError Unit :=
  match smsBody host anomaly with
  | .error e => ([], .error e)
  | .ok body =>
      let run := postFrom (smsPost accountSid authToken sender body) outcome 0 recipients
      match run.2 with
      | .error e => (run.1, .error e)
      | .ok errors =>
          (run.1,
            if errors ≠ [] ∧ errors.length = recipients.length then
              .error (.runtimeError
                ("All SMS recipients failed: " ++ host.reprPairs errors))
            else
              .ok ())

/-!
# Best effort
-/

/-- Every recipient is tried once, in order, and one acceptance is a success. -/
structure BestEffort (recipients : List String) (outcome : Nat -> PostOutcome)
    (run : List Post × Except PyError Unit) : Prop where
  attempts : run.1.map Post.recipient = recipients
  returns : run.2 = .ok () <->
    exists i, i < recipients.length ∧ outcome i = .accepted

/-- The value is a number, and the score one whose hundredfold is a finite double. -/
def Printable (host : Host) (anomaly : Anomaly) : Prop :=
  (exists q product, host.float (anomaly.score.getD (.int 0)) = .ok (.finite q) ∧
    Double.ofExact (q * 100) = .finite product) ∧
    exists x, host.float (anomaly.value.getD (.int 0)) = .ok x

def PostOutcome.raises : PostOutcome -> Bool
  | .transport _ => true
  | _ => false

/-- Only the last post raises, and it raises only if no message was accepted before. -/
def RaisesLast (n : Nat) (outcome : Nat -> PostOutcome) : Prop :=
  forall i, i < n -> (outcome i).raises = true ->
    i + 1 = n ∧ forall j, j < i -> outcome j ≠ .accepted

def Deliverable (host : Host) (anomaly : Anomaly) (recipients : List String)
    (outcome : Nat -> PostOutcome) : Prop :=
  (Printable host anomaly ∧ recipients ≠ [] ∧ RaisesLast recipients.length outcome) ∨
    (¬ Printable host anomaly ∧ recipients = [])

theorem smsBody_ok_iff {host : Host} {anomaly : Anomaly} :
    (exists body, smsBody host anomaly = .ok body) <-> Printable host anomaly := by
  unfold smsBody Printable
  cases host.float (anomaly.score.getD (.int 0)) with
  | error e =>
      simp
  | ok score =>
      cases score with
      | finite q =>
          simp only [percent]
          cases hproduct : Double.ofExact (q * 100) with
          | finite product =>
              cases host.float (anomaly.value.getD (.int 0)) with
              | error e =>
                  simp
              | ok x =>
                  simp [hproduct]
          | nan =>
              simp [hproduct]
          | inf =>
              simp [hproduct]
          | negInf =>
              simp [hproduct]
      | nan =>
          simp [percent]
      | inf =>
          simp [percent]
      | negInf =>
          simp [percent]

/-!
# The loop
-/

theorem forall_from_succ (P : Nat -> Prop) {position n : Nat} :
    (forall i, i < n + 1 -> P (position + i)) <->
      P position ∧ forall i, i < n -> P (position + 1 + i) := by
  have hshift : forall i, position + 1 + i = position + (i + 1) := by
    intro i
    omega
  simp only [hshift]
  exact Nat.forall_lt_succ_left

section Loop

variable (post : String -> Post) {outcome : Nat -> PostOutcome}

theorem postFrom_of_quiet (recipients : List String) :
    forall position,
      (forall i, i < recipients.length -> (outcome (position + i)).raises = false) ->
      exists errors,
        postFrom post outcome position recipients = (recipients.map post, .ok errors) ∧
          errors.length ≤ recipients.length ∧
          (errors.length = recipients.length <->
            forall i, i < recipients.length -> outcome (position + i) ≠ .accepted) := by
  induction recipients with
  | nil =>
      intro position _
      exact ⟨[], rfl, le_rfl, by simp⟩
  | cons recipient rest ih =>
      intro position hquiet
      rcases (forall_from_succ fun k => (outcome k).raises = false).mp hquiet with
        ⟨hfirst, hrest⟩
      rcases ih (position + 1) hrest with ⟨errors, hrun, hle, hall⟩
      have hsplit : (forall i, i < (recipient :: rest).length ->
            outcome (position + i) ≠ .accepted) <->
          outcome position ≠ .accepted ∧ errors.length = rest.length := by
        rw [hall]
        exact forall_from_succ fun k => outcome k ≠ .accepted
      rw [hsplit, postFrom]
      cases hhead : outcome position with
      | accepted =>
          refine ⟨errors, by rw [hrun]; rfl, Nat.le_succ_of_le hle, ?_⟩
          refine iff_of_false ?_ (fun h => h.1 rfl)
          rw [List.length_cons]
          omega
      | status text =>
          refine ⟨(recipient, text) :: errors, by rw [hrun]; rfl, Nat.succ_le_succ hle, ?_⟩
          simp
      | transport e =>
          rw [hhead] at hfirst
          cases hfirst

theorem postFrom_of_raise (recipients : List String) :
    forall position i e, i < recipients.length -> outcome (position + i) = .transport e ->
      (forall j, j < i -> (outcome (position + j)).raises = false) ->
      postFrom post outcome position recipients =
        ((recipients.take (i + 1)).map post, .error e) := by
  induction recipients with
  | nil =>
      intro position i e hi
      cases hi
  | cons recipient rest ih =>
      intro position i e hi hraise hbefore
      rw [postFrom]
      cases i with
      | zero =>
          rw [Nat.add_zero] at hraise
          rw [hraise]
          rfl
      | succ i =>
          rcases (forall_from_succ fun k => (outcome k).raises = false).mp hbefore with
            ⟨hfirst, hrest⟩
          have hlater : outcome (position + 1 + i) = .transport e := by
            rw [Nat.add_right_comm]
            exact hraise
          have hrun := ih (position + 1) i e (Nat.lt_of_succ_lt_succ hi) hlater hrest
          cases hhead : outcome position with
          | accepted =>
              simp only [hrun]
              rfl
          | status text =>
              simp only [hrun]
              rfl
          | transport e' =>
              rw [hhead] at hfirst
              cases hfirst

end Loop

/-!
# When delivery is best effort
-/

theorem exists_accepted_iff {n : Nat} {outcome : Nat -> PostOutcome} :
    (exists i, i < n ∧ outcome i = .accepted) <->
      ¬ forall i, i < n -> outcome i ≠ .accepted := by
  constructor
  · intro h hnone
    rcases h with ⟨i, hi, haccepted⟩
    exact hnone i hi haccepted
  · intro h
    by_contra hnone
    exact h fun i hi haccepted => hnone ⟨i, hi, haccepted⟩

section Delivery

variable {host : Host} {accountSid authToken sender : String} {recipients : List String}
variable {outcome : Nat -> PostOutcome} {anomaly : Anomaly}

theorem bestEffort_of_unprintable (hbody : ¬ Printable host anomaly) :
    BestEffort recipients outcome
        (smsSend host accountSid authToken sender recipients outcome anomaly) <->
      recipients = [] := by
  have hrun : exists e,
      smsSend host accountSid authToken sender recipients outcome anomaly =
        ([], .error e) := by
    unfold smsSend
    cases hcase : smsBody host anomaly with
    | error e =>
        exact ⟨e, rfl⟩
    | ok body =>
        exact absurd (smsBody_ok_iff.mp ⟨body, hcase⟩) hbody
  rcases hrun with ⟨e, hrun⟩
  rw [hrun]
  constructor
  · intro h
    exact h.attempts.symm
  · intro h
    subst h
    refine ⟨rfl, iff_of_false (fun heq => by cases heq) ?_⟩
    intro hsome
    rcases hsome with ⟨i, hi, _⟩
    cases hi

theorem map_recipient_smsPost (body : String) (recipients : List String) :
    (recipients.map (smsPost accountSid authToken sender body)).map Post.recipient =
      recipients := by
  rw [List.map_map]
  exact List.map_id recipients

theorem bestEffort_of_quiet (hbody : Printable host anomaly)
    (hquiet : forall i, i < recipients.length -> (outcome i).raises = false) :
    BestEffort recipients outcome
        (smsSend host accountSid authToken sender recipients outcome anomaly) <->
      recipients ≠ [] := by
  rcases smsBody_ok_iff.mpr hbody with ⟨body, hok⟩
  have hquiet0 : forall i, i < recipients.length -> (outcome (0 + i)).raises = false := by
    intro i hi
    rw [Nat.zero_add]
    exact hquiet i hi
  rcases postFrom_of_quiet (smsPost accountSid authToken sender body) recipients 0
      hquiet0 with ⟨errors, hloop, hle, hall⟩
  simp only [Nat.zero_add] at hall
  have hrun : smsSend host accountSid authToken sender recipients outcome anomaly =
      (recipients.map (smsPost accountSid authToken sender body),
        if errors ≠ [] ∧ errors.length = recipients.length then
          .error (.runtimeError ("All SMS recipients failed: " ++ host.reprPairs errors))
        else .ok ()) := by
    unfold smsSend
    simp only [hok]
    rw [hloop]
  have hreturns : (smsSend host accountSid authToken sender recipients outcome anomaly).2 =
      .ok () <-> ¬ (errors ≠ [] ∧ errors.length = recipients.length) := by
    rw [hrun]
    by_cases hfailed : errors ≠ [] ∧ errors.length = recipients.length
    · simp [hfailed]
    · simp [hfailed]
  constructor
  · intro h hnil
    rcases h with ⟨_, hreturnsIff⟩
    rw [hreturns, exists_accepted_iff, ← hall] at hreturnsIff
    subst hnil
    have hzero : errors.length = ([] : List String).length := Nat.le_zero.mp hle
    have hempty : errors = [] := List.length_eq_zero_iff.mp hzero
    exact hreturnsIff.mp (fun hboth => hboth.1 hempty) hzero
  · intro hne
    refine ⟨by rw [hrun]; exact map_recipient_smsPost body recipients, ?_⟩
    rw [hreturns, exists_accepted_iff, ← hall]
    refine not_congr (and_iff_right_of_imp ?_)
    intro hlength hempty
    rw [hempty] at hlength
    exact hne (List.length_eq_zero_iff.mp hlength.symm)

theorem bestEffort_of_raise (hbody : Printable host anomaly) {i : Nat} {e : PyError}
    (hi : i < recipients.length) (hraise : outcome i = .transport e)
    (hfirst : forall j, j < i -> (outcome j).raises = false) :
    BestEffort recipients outcome
        (smsSend host accountSid authToken sender recipients outcome anomaly) <->
      i + 1 = recipients.length ∧ forall j, j < i -> outcome j ≠ .accepted := by
  rcases smsBody_ok_iff.mpr hbody with ⟨body, hok⟩
  have hraise0 : outcome (0 + i) = .transport e := by
    rw [Nat.zero_add]
    exact hraise
  have hfirst0 : forall j, j < i -> (outcome (0 + j)).raises = false := by
    intro j hj
    rw [Nat.zero_add]
    exact hfirst j hj
  have hloop := postFrom_of_raise (smsPost accountSid authToken sender body)
    recipients 0 i e hi hraise0 hfirst0
  have hrun : smsSend host accountSid authToken sender recipients outcome anomaly =
      ((recipients.take (i + 1)).map (smsPost accountSid authToken sender body),
        .error e) := by
    unfold smsSend
    simp only [hok]
    rw [hloop]
  have hattempts :
      ((recipients.take (i + 1)).map (smsPost accountSid authToken sender body)).map
        Post.recipient = recipients.take (i + 1) :=
    map_recipient_smsPost body _
  rw [hrun]
  constructor
  · intro h
    have htake := congrArg List.length (hattempts.symm.trans h.attempts)
    rw [List.length_take] at htake
    refine ⟨by omega, ?_⟩
    intro j hj haccepted
    cases h.returns.mpr ⟨j, lt_trans hj hi, haccepted⟩
  · intro h
    refine ⟨?_, iff_of_false (fun heq => by cases heq) ?_⟩
    · show ((recipients.take (i + 1)).map (smsPost accountSid authToken sender body)).map
        Post.recipient = recipients
      rw [hattempts, h.1, List.take_length]
    · intro hsome
      rcases hsome with ⟨j, hj, haccepted⟩
      rcases Nat.lt_succ_iff_lt_or_eq.mp (h.1.symm ▸ hj) with hlt | heq
      · exact h.2 j hlt haccepted
      · rw [heq, hraise] at haccepted
        cases haccepted

theorem PostOutcome.raises_eq_true {o : PostOutcome} :
    o.raises = true <-> exists e, o = .transport e := by
  cases o with
  | transport e =>
      exact iff_of_true rfl ⟨e, rfl⟩
  | accepted =>
      exact iff_of_false Bool.false_ne_true (fun ⟨_, he⟩ => by cases he)
  | status text =>
      exact iff_of_false Bool.false_ne_true (fun ⟨_, he⟩ => by cases he)

theorem quiet_or_first_raise (n : Nat) (outcome : Nat -> PostOutcome) :
    (forall i, i < n -> (outcome i).raises = false) ∨
      exists i e, i < n ∧ outcome i = .transport e ∧
        forall j, j < i -> (outcome j).raises = false := by
  by_cases hsome : exists i, i < n ∧ (outcome i).raises = true
  · rcases Nat.find_spec hsome with ⟨hlt, hraises⟩
    rcases PostOutcome.raises_eq_true.mp hraises with ⟨e, he⟩
    refine Or.inr ⟨Nat.find hsome, e, hlt, he, ?_⟩
    intro j hj
    apply Bool.eq_false_iff.mpr
    intro hjraises
    exact Nat.find_min hsome hj ⟨lt_trans hj hlt, hjraises⟩
  · refine Or.inl ?_
    intro i hi
    apply Bool.eq_false_iff.mpr
    intro hraises
    exact hsome ⟨i, hi, hraises⟩

theorem raisesLast_iff_of_first {n i : Nat} {e : PyError} (hi : i < n)
    (hraise : outcome i = .transport e)
    (hfirst : forall j, j < i -> (outcome j).raises = false) :
    RaisesLast n outcome <-> i + 1 = n ∧ forall j, j < i -> outcome j ≠ .accepted := by
  constructor
  · intro h
    exact h i hi (by rw [hraise]; rfl)
  · intro h k hk hkraise
    have hki : k = i := by
      by_contra hne
      rcases Nat.lt_or_gt_of_ne hne with hlt | hgt
      · rw [hfirst k hlt] at hkraise
        cases hkraise
      · omega
    rw [hki]
    exact h

theorem bestEffort_iff :
    BestEffort recipients outcome
        (smsSend host accountSid authToken sender recipients outcome anomaly) <->
      Deliverable host anomaly recipients outcome := by
  unfold Deliverable
  by_cases hbody : Printable host anomaly
  · rw [and_iff_right hbody, or_iff_left (fun h => h.1 hbody)]
    rcases quiet_or_first_raise recipients.length outcome with
      hquiet | ⟨i, e, hi, hraise, hfirst⟩
    · rw [bestEffort_of_quiet hbody hquiet]
      refine (and_iff_left ?_).symm
      intro i hi hraises
      rw [hquiet i hi] at hraises
      cases hraises
    · rw [bestEffort_of_raise hbody hi hraise hfirst,
        raisesLast_iff_of_first hi hraise hfirst]
      refine (and_iff_right ?_).symm
      intro hnil
      rw [hnil] at hi
      cases hi
  · rw [bestEffort_of_unprintable hbody, or_iff_right (fun h => hbody h.1),
      and_iff_right hbody]

end Delivery

/-!
# The configured sink
-/

theorem get?_addWhen (configured : Bool) (sink : Sink) (sinks : Dict String Sink)
    (k : String) :
    (addWhen configured sink sinks).get? k =
      if configured = true ∧ sink.name = k then some sink else sinks.get? k := by
  unfold addWhen
  cases configured with
  | false =>
      simp
  | true =>
      simp [Dict.get?_insert]

theorem availableSinks_sms {host : Host} {settings : Settings} {sink : Sink}
    (h : (availableSinks host settings).get? "sms" = some sink) :
    sink = .sms settings.twilioAccountSid settings.twilioAuthToken settings.smsFrom
      (recipientsOf settings.smsTo) := by
  unfold availableSinks at h
  simp only [get?_addWhen, Sink.name] at h
  split at h
  · exact (Option.some.inj h).symm
  · simp [Dict.get?] at h

/-- A configured text message sink delivers its best effort exactly when it can. -/
theorem sms_bestEffort_iff {host : Host} {settings : Settings}
    {accountSid authToken sender : String} {recipients : List String}
    (h : (availableSinks host settings).get? "sms" =
      some (.sms accountSid authToken sender recipients))
    (outcome : Nat -> PostOutcome) (anomaly : Anomaly) :
    BestEffort (recipientsOf settings.smsTo) outcome
        (smsSend host accountSid authToken sender recipients outcome anomaly) <->
      Deliverable host anomaly (recipientsOf settings.smsTo) outcome := by
  cases availableSinks_sms h
  exact bestEffort_iff

def smsSettings (smsTo : String) : Settings :=
  { Settings.defaults with
    twilioAccountSid := "AC1", twilioAuthToken := "token", smsFrom := "+100",
    smsTo := smsTo }

theorem smsSettings_sms (host : Host) (smsTo : String) (hto : smsTo ≠ "") :
    (availableSinks host (smsSettings smsTo)).get? "sms" =
      some (.sms "AC1" "token" "+100" (recipientsOf smsTo)) := by
  unfold availableSinks
  simp only [get?_addWhen, Sink.name]
  rw [if_pos]
  · rfl
  · simp [smsSettings, hto]

def secondRefuses (position : Nat) : PostOutcome :=
  if position = 0 then .accepted else .status "400 Bad Request"

theorem secondRefuses_quiet (position : Nat) :
    (secondRefuses position).raises = false := by
  unfold secondRefuses
  split
  · rfl
  · rfl

theorem sms_bestEffort_secondRefuses :
    BestEffort (recipientsOf "+1,+2") secondRefuses
      (smsSend (Host.withDigests []) "AC1" "token" "+100" (recipientsOf "+1,+2")
        secondRefuses {}) := by
  have hprintable : Printable (Host.withDigests []) {} :=
    ⟨⟨0, 0, by decide +kernel, by decide +kernel⟩, ⟨.finite 0, by decide +kernel⟩⟩
  refine (sms_bestEffort_iff (smsSettings_sms _ "+1,+2" (by decide)) secondRefuses {}).mpr
    (Or.inl ⟨hprintable, by decide +kernel, ?_⟩)
  intro i _ hraises
  rw [secondRefuses_quiet i] at hraises
  cases hraises

def firstTimesOut (position : Nat) : PostOutcome :=
  if position = 0 then .transport .connectionError else .accepted

theorem timeout_abandonsRest :
    ¬ forall (host : Host) (settings : Settings) (accountSid authToken sender : String)
        (recipients : List String),
      (availableSinks host settings).get? "sms" =
        some (.sms accountSid authToken sender recipients) ->
      forall (outcome : Nat -> PostOutcome) (anomaly : Anomaly),
        BestEffort (recipientsOf settings.smsTo) outcome
          (smsSend host accountSid authToken sender recipients outcome anomaly) := by
  intro h
  have hattempts := (h (Host.withDigests []) (smsSettings "+1,+2") "AC1" "token" "+100" _
    (smsSettings_sms _ _ (by decide)) firstTimesOut {}).attempts
  revert hattempts
  decide +kernel

end Alerting
end MetricMesh
