import MetricMesh.Config
import MetricMesh.Storage.Tables

/-!
# API-key authentication

The dependency that turns a request header into an identity.  An empty key map
means that authentication is off, so what the configuration strings parse to
decides whether a caller without a key is refused at all.
-/

namespace MetricMesh
namespace Api

open Python
open Storage

structure Identity where
  principal : String
  tenant : String
deriving DecidableEq

structure Request where
  method : String
  path : String
  clientHost : Option String
  xApiKey : Option String

structure HttpException where
  statusCode : Nat
  detail : String
  headers : List (String × String) := []
deriving DecidableEq

def principalFor (host : Host) (key : String) : String :=
  "key:" ++ take (host.sha256 key) 8

def unauthorized : HttpException where
  statusCode := 401
  detail := "Invalid or missing API key"
  headers := [("WWW-Authenticate", "API-Key")]

def authDenied (host : Host) (request : Request) : AuditEvent where
  action := "auth.denied"
  principal :=
    match request.xApiKey with
    | some key => if key = "" then some "none" else some (principalFor host key)
    | none => some "none"
  outcome := some "denied"
  resource := some request.path
  sourceIp := request.clientHost
  detail :=
    [("method", .str request.method),
     ("reason", .str (if request.xApiKey = none then "missing" else "invalid"))]

/-- The identity of the caller, or the exception and the event recorded for it. -/
def requireApiKey (host : Host) (settings : Settings) (request : Request) :
    Except (HttpException × AuditEvent) Identity :=
  let mapping := settings.keyTenantMap host
  if mapping = [] then
    .ok { principal := "anonymous", tenant := settings.defaultTenant }
  else
    match request.xApiKey with
    | some key =>
        match mapping.get? key with
        | some tenant => .ok { principal := principalFor host key, tenant := tenant }
        | none => .error (unauthorized, authDenied host request)
    | none => .error (unauthorized, authDenied host request)

/-!
# When authentication is closed

A configuration declares keys when it has a plain entry or any tenant text other
than an empty object.  It is closed when every request is either identified by a
key that it configures or refused.
-/

def DeclaresKeys (host : Host) (settings : Settings) : Prop :=
  (exists entry, entry ∈ split settings.apiKeys ',' ∧ strip entry ≠ "") ∨
    (strip settings.tenantApiKeys ≠ "" ∧
      host.loads (strip settings.tenantApiKeys) ≠ .ok (.obj []))

/-- The request is answered by the configured tenant of its key, or by a 401. -/
def Guarded (host : Host) (settings : Settings) (request : Request) : Prop :=
  ((exists key tenant, request.xApiKey = some key ∧
      settings.configuredTenant host key = some tenant ∧
      requireApiKey host settings request =
        .ok { principal := principalFor host key, tenant := tenant }) ∨
    (exists event, requireApiKey host settings request =
      .error (unauthorized, event))) ∧
  requireApiKey host settings request ≠
    .ok { principal := "anonymous", tenant := settings.defaultTenant }

theorem principalFor_ne_anonymous (host : Host) (key : String) :
    principalFor host key ≠ "anonymous" := by
  intro h
  have hchars := congrArg (fun s => s.toList.head?) h
  simp [principalFor] at hchars

theorem requireApiKey_open {host : Host} {settings : Settings}
    (h : ¬ settings.HasUsableKey host) (request : Request) :
    requireApiKey host settings request =
      .ok { principal := "anonymous", tenant := settings.defaultTenant } := by
  simp [requireApiKey, (Settings.keyTenantMap_eq_nil host settings).mpr h]

theorem requireApiKey_closed {host : Host} {settings : Settings}
    (h : settings.HasUsableKey host) (request : Request) :
    requireApiKey host settings request =
      match request.xApiKey.bind (settings.configuredTenant host) with
      | some tenant =>
          .ok { principal := principalFor host (request.xApiKey.getD ""),
                tenant := tenant }
      | none => .error (unauthorized, authDenied host request) := by
  have hne : settings.keyTenantMap host ≠ [] := by
    intro hnil
    exact (Settings.keyTenantMap_eq_nil host settings).mp hnil h
  unfold requireApiKey
  simp only [if_neg hne]
  cases hkey : request.xApiKey with
  | none =>
      rfl
  | some key =>
      simp only [Settings.keyTenantMap_get?, Option.bind_some, Option.getD_some]

theorem guarded_of_hasUsableKey {host : Host} {settings : Settings}
    (h : settings.HasUsableKey host) (request : Request) :
    Guarded host settings request := by
  have hclosed : requireApiKey host settings request = _ :=
    requireApiKey_closed h request
  unfold Guarded
  rw [hclosed]
  cases hkey : request.xApiKey with
  | none =>
      constructor
      · exact Or.inr ⟨_, rfl⟩
      · simp
  | some key =>
      simp only [Option.bind_some, Option.getD_some]
      cases htenant : settings.configuredTenant host key with
      | none =>
          constructor
          · exact Or.inr ⟨_, rfl⟩
          · simp
      | some tenant =>
          constructor
          · exact Or.inl ⟨key, tenant, rfl, htenant, rfl⟩
          · simp [principalFor_ne_anonymous]

theorem hasUsableKey_of_guarded {host : Host} {settings : Settings}
    {request : Request} (h : Guarded host settings request) :
    settings.HasUsableKey host := by
  by_contra hnone
  exact h.2 (requireApiKey_open hnone request)

/--
A request is guarded exactly when the two strings hold a usable key.  Text that
declares keys without one, such as a malformed tenant map on its own, switches
authentication off for every request.
-/
theorem requireApiKey_guarded_iff (host : Host) (settings : Settings)
    (request : Request) :
    Guarded host settings request <-> settings.HasUsableKey host := by
  constructor
  · exact hasUsableKey_of_guarded
  · intro h
    exact guarded_of_hasUsableKey h request

def anonymousRequest : Request where
  method := "GET"
  path := "/api/v1/anomalies"
  clientHost := none
  xApiKey := none

def malformedTenantKeys : Settings :=
  { Settings.defaults with tenantApiKeys := "\x7bnot valid json" }

theorem loads_malformedTenantKeys :
    (Host.withDigests []).loads (strip malformedTenantKeys.tenantApiKeys) =
      .error .expectingPropertyName := by
  decide +kernel

theorem malformedTenantKeys_opens :
    ¬ forall (host : Host) (settings : Settings), DeclaresKeys host settings ->
      forall request, Guarded host settings request := by
  intro h
  have hdeclares : DeclaresKeys (Host.withDigests []) malformedTenantKeys := by
    refine Or.inr ⟨by decide +kernel, ?_⟩
    simp [loads_malformedTenantKeys]
  have hnone : ¬ malformedTenantKeys.HasUsableKey (Host.withDigests []) := by
    intro husable
    rcases husable with ⟨entry, hmem, hne⟩ | ⟨fields, hload, _⟩
    · revert hne
      have hentries : split malformedTenantKeys.apiKeys ',' = [""] := by decide
      rw [hentries] at hmem
      have hentry : entry = "" := by simpa using hmem
      subst hentry
      decide
    · rw [loads_malformedTenantKeys] at hload
      cases hload
  exact hnone (hasUsableKey_of_guarded
    (h (Host.withDigests []) malformedTenantKeys hdeclares anonymousRequest))

end Api
end MetricMesh
