import MetricMesh.Api.Auth
import MetricMesh.Storage.OperationalLog

/-!
# The operational read endpoints

The listings of dead letters and of the audit trail are protected by the API key
like every other endpoint, but they do not use the identity that the key gives.
They list the whole of their tables, whoever asks.
-/

namespace MetricMesh
namespace Api

open Foundation
open Python
open Storage

structure ListQuery where
  filter : Option String := none
  limit : Nat := 50
  limit_mem : 1 ≤ limit ∧ limit ≤ 500 := by decide
  offset : Nat := 0

structure ListPage (α : Type) where
  items : List α
  count : Nat
  total : Nat
  limit : Nat
  offset : Nat
deriving DecidableEq

def listPage {α : Type} (query : ListQuery) (found : List α × Nat) : ListPage α where
  items := found.1
  count := found.1.length
  total := found.2
  limit := query.limit
  offset := query.offset

section Endpoints

variable (host : Host) (settings : Settings)

/-- The response of a protected endpoint that ignores who is asking. -/
def whenAuthenticated {α : Type} (request : Request) (response : α) :
    Except HttpException α :=
  match requireApiKey host settings request with
  | .error refusal => .error refusal.1
  | .ok _ => .ok response

def listDeadLetters (request : Request) (history : History) (query : ListQuery) :
    Except HttpException (ListPage DeadLetterItem) :=
  whenAuthenticated host settings request
    (listPage query
      (fetchDeadLetters host history.deadLetters query.filter query.limit query.offset))

def listAudit (request : Request) (history : History) (query : ListQuery) :
    Except HttpException (ListPage AuditItem) :=
  whenAuthenticated host settings request
    (listPage query
      (fetchAuditLog host (history.auditLog settings) query.filter query.limit
        query.offset))

/-- A caller gets the same response from both listings, whatever is asked for. -/
def SameResponses (request : Request) (h₁ h₂ : History) : Prop :=
  forall query,
    listDeadLetters host settings request h₁ query =
        listDeadLetters host settings request h₂ query ∧
      listAudit host settings request h₁ query =
        listAudit host settings request h₂ query

end Endpoints

/-!
# What concerns a tenant

A dead letter concerns the tenant whose name its arguments carry.  An audit
record concerns the tenant whose key is its principal or whose name its detail
carries.
-/

mutual

def carries (tenant : String) : Json -> Bool
  | .str s => s = tenant
  | .arr items => carriesItems tenant items
  | .obj fields => carriesFields tenant fields
  | _ => false

def carriesItems (tenant : String) : List Json -> Bool
  | [] => false
  | v :: rest => carries tenant v || carriesItems tenant rest

def carriesFields (tenant : String) : List (String × Json) -> Bool
  | [] => false
  | (_, v) :: rest => carries tenant v || carriesFields tenant rest

end

def deadLetterConcerns (tenant : String) (r : DeadLetterRow) : Bool :=
  carriesItems tenant r.args || carriesFields tenant r.kwargs

/-- Some key of the tenant is the principal. -/
def ownPrincipal (host : Host) (settings : Settings) (tenant : String)
    (principal : Option String) : Bool :=
  (settings.keyTenantMap host).any fun item =>
    item.2 = tenant && principal = some (principalFor host item.1)

def auditConcerns (host : Host) (settings : Settings) (tenant : String)
    (r : AuditRow) : Bool :=
  ownPrincipal host settings tenant r.principal || carriesFields tenant r.detail

section Agreement

variable (host : Host) (settings : Settings) (tenant : String)

def AgreeOn (h₁ h₂ : History) : Prop :=
  h₁.deadLetters.filter (deadLetterConcerns tenant) =
      h₂.deadLetters.filter (deadLetterConcerns tenant) ∧
    (h₁.auditLog settings).filter (auditConcerns host settings tenant) =
      (h₂.auditLog settings).filter (auditConcerns host settings tenant)

def AgreeElsewhere (h₁ h₂ : History) : Prop :=
  h₁.deadLetters.filter (fun r => !deadLetterConcerns tenant r) =
      h₂.deadLetters.filter (fun r => !deadLetterConcerns tenant r) ∧
    (h₁.auditLog settings).filter (fun r => !auditConcerns host settings tenant r) =
      (h₂.auditLog settings).filter (fun r => !auditConcerns host settings tenant r)

end Agreement

/-!
# What the listings reveal
-/

theorem deadLetterItem_injective {host : Host}
    (hiso : Function.Injective host.isoformat) :
    Function.Injective (DeadLetterRow.item host) := by
  intro r s h
  rcases r with ⟨params, id, failedAt⟩
  rcases s with ⟨params', id', failedAt'⟩
  injection h with hparams hid htime
  dsimp only at hparams hid htime
  rw [hparams, hid, hiso htime]

theorem auditItem_injective {host : Host}
    (hiso : Function.Injective host.isoformat) :
    Function.Injective (AuditRow.item host) := by
  intro r s h
  rcases r with ⟨event, id, loggedAt⟩
  rcases s with ⟨event', id', loggedAt'⟩
  injection h with hevent hid htime
  dsimp only at hevent hid htime
  rw [hevent, hid, hiso htime]

theorem eq_of_pages {α β : Type} (before : α -> α -> Prop) [DecidableRel before]
    {render : α -> β} (hrender : Function.Injective render) {key : α -> Int}
    {rows rows' : List α} (hrows : rows.Pairwise fun a b => key a < key b)
    (hrows' : rows'.Pairwise fun a b => key a < key b)
    (h : forall k,
      (page before 1 k rows).map render = (page before 1 k rows').map render) :
    rows = rows' := by
  have hsorted : rows.insertionSort before = rows'.insertionSort before :=
    List.map_injective_iff.mpr hrender (map_insertionSort_of_pages render before h)
  apply eq_of_perm_of_increasing _ hrows hrows'
  have hperm := (List.perm_insertionSort before rows).symm
  rw [hsorted] at hperm
  exact hperm.trans (List.perm_insertionSort before rows')

section Reveal

variable {host : Host} {settings : Settings} {request : Request} {identity : Identity}

theorem whenAuthenticated_of_ok (h : requireApiKey host settings request = .ok identity)
    {α : Type} (response : α) :
    whenAuthenticated host settings request response = .ok response := by
  unfold whenAuthenticated
  rw [h]

def oneRow (offset : Nat) : ListQuery where
  limit := 1
  offset := offset

theorem deadLetters_eq_of_sameResponses (hiso : Function.Injective host.isoformat)
    (hauth : requireApiKey host settings request = .ok identity) {h₁ h₂ : History}
    (h : SameResponses host settings request h₁ h₂) :
    h₁.deadLetters = h₂.deadLetters := by
  apply eq_of_pages (NewestFirst DeadLetterRow.failedAt DeadLetterRow.id)
    (deadLetterItem_injective hiso) h₁.deadLetters_increasing h₂.deadLetters_increasing
  intro k
  have hpage := (h (oneRow k)).1
  unfold listDeadLetters at hpage
  rw [whenAuthenticated_of_ok hauth, whenAuthenticated_of_ok hauth] at hpage
  injection hpage with hpage
  have hitems := congrArg ListPage.items hpage
  simpa [listPage, fetchDeadLetters, oneRow, textFilter] using hitems

theorem auditLog_eq_of_sameResponses (hiso : Function.Injective host.isoformat)
    (hauth : requireApiKey host settings request = .ok identity) {h₁ h₂ : History}
    (h : SameResponses host settings request h₁ h₂) :
    h₁.auditLog settings = h₂.auditLog settings := by
  apply eq_of_pages (NewestFirst AuditRow.loggedAt AuditRow.id) (auditItem_injective hiso)
    (h₁.auditLog_increasing settings) (h₂.auditLog_increasing settings)
  intro k
  have hpage := (h (oneRow k)).2
  unfold listAudit at hpage
  rw [whenAuthenticated_of_ok hauth, whenAuthenticated_of_ok hauth] at hpage
  injection hpage with hpage
  have hitems := congrArg ListPage.items hpage
  simpa [listPage, fetchAuditLog, oneRow, textFilter] using hitems

/--
A caller cannot tell two histories that agree on everything about its tenant
apart exactly when they agree on everything about the other tenants as well.
-/
theorem operationalReads_isolated_iff (hiso : Function.Injective host.isoformat)
    (hauth : requireApiKey host settings request = .ok identity) (h₁ h₂ : History)
    (hagree : AgreeOn host settings identity.tenant h₁ h₂) :
    SameResponses host settings request h₁ h₂ <->
      AgreeElsewhere host settings identity.tenant h₁ h₂ := by
  constructor
  · intro h
    unfold AgreeElsewhere
    rw [deadLetters_eq_of_sameResponses hiso hauth h,
      auditLog_eq_of_sameResponses hiso hauth h]
    exact ⟨rfl, rfl⟩
  · intro h query
    have hletters : h₁.deadLetters = h₂.deadLetters :=
      eq_of_filter_of_increasing h₁.deadLetters_increasing h₂.deadLetters_increasing
        (deadLetterConcerns identity.tenant) hagree.1 h.1
    have haudit : h₁.auditLog settings = h₂.auditLog settings :=
      eq_of_filter_of_increasing (h₁.auditLog_increasing settings)
        (h₂.auditLog_increasing settings) (auditConcerns host settings identity.tenant)
        hagree.2 h.2
    unfold listDeadLetters listAudit
    rw [hletters, haudit]
    exact ⟨rfl, rfl⟩

end Reveal

/-!
One task of another tenant that used up its retries: its anomaly is listed to a
caller of the first tenant, who sees an empty list when the task never failed.
-/

def acmeSettings : Settings :=
  { Settings.defaults with tenantApiKeys := "\x7b\"acme-key\": \"acme\"\x7d" }

/-- A clock that writes the epoch as it is written and counts from there. -/
def tally (t : Int) : String :=
  if t = 0 then "1970-01-01T00:00:00+00:00"
  else String.ofList ((if t < 0 then '-' else '+') :: List.replicate t.natAbs 'u')

def acmeHost : Host :=
  { Host.withDigests [] with
    sha256 := fun _ => "afacab3575137afa4e00d9cbcafcb14c9ae25f779d964eb0ea5b2c4eb5dfd163"
    isoformat := tally }

def acmeRequest : Request where
  method := "GET"
  path := "/api/v1/dead-letters"
  clientHost := none
  xApiKey := some "acme-key"

def acmeIdentity : Identity where
  principal := "key:afacab35"
  tenant := "acme"

def globexFailure : History where
  failures :=
    [{ id := 1, failedAt := 0,
       failure :=
         { senderName := some "workers.tasks.route_alert", taskId := some "t1",
           retries := some 3, routingKey := some "alerts",
           exception := some ("RuntimeError", "all sinks failed"),
           args := some
             [.obj [("metric_name", .str "revenue"), ("tenant", .str "globex")]],
           kwargs := some [], einfo := none, traceback := none } }]
  failures_increasing := List.pairwise_singleton _ _
  logged := []
  logged_increasing := List.Pairwise.nil

def quietHistory : History where
  failures := []
  failures_increasing := List.Pairwise.nil
  logged := []
  logged_increasing := List.Pairwise.nil

theorem toList_tally {t : Int} (h : t ≠ 0) :
    (tally t).toList =
      (if t < 0 then '-' else '+') :: List.replicate t.natAbs 'u' := by
  unfold tally
  rw [if_neg h, String.toList_ofList]

theorem tally_ne_epoch {t : Int} (h : t ≠ 0) : tally 0 ≠ tally t := by
  intro heq
  have hhead : (tally 0).toList.head? = (tally t).toList.head? := by
    rw [heq]
  rw [toList_tally h, show (tally 0).toList.head? = some '1' from rfl,
    List.head?_cons] at hhead
  injection hhead with hhead
  split at hhead
  · exact absurd hhead (by decide)
  · exact absurd hhead (by decide)

theorem tally_injective : Function.Injective tally := by
  intro s t h
  by_cases hs : s = 0
  · by_cases ht : t = 0
    · rw [hs, ht]
    · rw [hs] at h
      exact absurd h (tally_ne_epoch ht)
  · by_cases ht : t = 0
    · rw [ht] at h
      exact absurd h.symm (tally_ne_epoch hs)
    · have hlist := congrArg String.toList h
      rw [toList_tally hs, toList_tally ht] at hlist
      injection hlist with hsign hmarks
      have hmagnitude : s.natAbs = t.natAbs := by
        simpa using congrArg List.length hmarks
      split at hsign
      · split at hsign
        · omega
        · exact absurd hsign (by decide)
      · split at hsign
        · exact absurd hsign (by decide)
        · omega

theorem acme_authenticated :
    requireApiKey acmeHost acmeSettings acmeRequest = .ok acmeIdentity := by
  decide +kernel

theorem agreeOn_globexFailure :
    AgreeOn acmeHost acmeSettings "acme" globexFailure quietHistory := by
  constructor
  · decide +kernel
  · rfl

theorem operationalReads_isolated_iff_globex :
    SameResponses acmeHost acmeSettings acmeRequest globexFailure quietHistory <->
      AgreeElsewhere acmeHost acmeSettings "acme" globexFailure quietHistory :=
  operationalReads_isolated_iff tally_injective acme_authenticated globexFailure
    quietHistory agreeOn_globexFailure

theorem globexFailure_visible :
    ¬ forall (host : Host) (settings : Settings) (request : Request)
      (identity : Identity) (h₁ h₂ : History),
      Function.Injective host.isoformat ->
        requireApiKey host settings request = .ok identity ->
          AgreeOn host settings identity.tenant h₁ h₂ ->
            SameResponses host settings request h₁ h₂ := by
  intro h
  have hsame := h acmeHost acmeSettings acmeRequest acmeIdentity globexFailure
    quietHistory tally_injective acme_authenticated agreeOn_globexFailure
  have hpage := (hsame {}).1
  revert hpage
  decide +kernel

end Api
end MetricMesh
