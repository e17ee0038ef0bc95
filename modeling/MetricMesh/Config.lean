import Mathlib.Tactic.NormNum
import MetricMesh.Python.Host
import MetricMesh.Python.Text

/-!
# Settings

The settings that the modelled code reads, with their defaults.  A constraint
that the settings class validates is a field of the structure, so a value that
the validators reject cannot be built.
-/

namespace MetricMesh

open Python

inductive ScoringMode where
  | relative
  | absolute
deriving DecidableEq

structure Settings where
  slackWebhookUrl : String := ""
  pagerdutyRoutingKey : String := ""
  teamsWebhookUrl : String := ""
  genericWebhookUrl : String := ""
  genericWebhookHeaders : String := ""
  smtpHost : String := ""
  smtpPort : Int := 587
  smtpPort_mem : 1 ≤ smtpPort ∧ smtpPort ≤ 65535 := by decide
  smtpUsername : String := ""
  smtpPassword : String := ""
  smtpUseTls : Bool := true
  alertEmailFrom : String := ""
  alertEmailTo : String := ""
  twilioAccountSid : String := ""
  twilioAuthToken : String := ""
  smsFrom : String := ""
  smsTo : String := ""
  alertCooldownSeconds : Int := 300
  dedupBucketSeconds : Int := 300
  dedupBucketSeconds_ge : 1 ≤ dedupBucketSeconds := by decide
  alertRoutingRules : String := ""
  consensusMinDetectors : Int := 1
  consensusMinDetectors_ge : 1 ≤ consensusMinDetectors := by decide
  zscoreThreshold : Rat := 4 / 5
  iqrThreshold : Rat := 4 / 5
  prophetThreshold : Rat := 1 / 2
  isolationForestThreshold : Rat := 3 / 4
  thresholds_mem : (0 ≤ zscoreThreshold ∧ zscoreThreshold ≤ 1) ∧
      (0 ≤ iqrThreshold ∧ iqrThreshold ≤ 1) ∧
      (0 ≤ prophetThreshold ∧ prophetThreshold ≤ 1) ∧
      (0 ≤ isolationForestThreshold ∧ isolationForestThreshold ≤ 1) := by
    norm_num
  isolationForestContamination : Rat := 1 / 20
  isolationForestContamination_mem : 1 / 1000 ≤ isolationForestContamination ∧
      isolationForestContamination ≤ 1 / 2 := by
    norm_num
  detectionLookbackHours : Int := 24
  metricThresholds : String := ""
  modelReuseMaxAgeSeconds : Int := 0
  modelReuseMaxAgeSeconds_ge : 0 ≤ modelReuseMaxAgeSeconds := by decide
  scoringMode : ScoringMode := .relative
  apiKeys : String := ""
  auditEnabled : Bool := true
  defaultTenant : String := "default"
  tenantApiKeys : String := ""
  rateLimitPerMinute : Int := 0
  rateLimitPerMinute_ge : 0 ≤ rateLimitPerMinute := by decide

namespace Settings

def defaults : Settings := {}

def apiKeysSet (settings : Settings) : List String :=
  ((split settings.apiKeys ',').map strip).filter (fun k => k ≠ "")

/-- One item of the tenant map; a key that is blank once stripped is skipped. -/
def addTenantKey (host : Host) (mapping : Dict String String)
    (item : String × Json) : Dict String String :=
  let key := strip item.1
  if key = "" then mapping else mapping.insert key (host.str item.2)

/--
API key to tenant.  Plain keys map to the default tenant, and the JSON object
overrides and extends them.  Text that does not parse, or parses to something
other than an object, is ignored.
-/
def keyTenantMap (host : Host) (settings : Settings) : Dict String String :=
  let mapping := settings.apiKeysSet.foldl
    (fun mapping k => Dict.insert mapping k settings.defaultTenant) []
  let raw := strip settings.tenantApiKeys
  if raw = "" then
    mapping
  else
    match host.loads raw with
    | .ok (.obj data) => data.foldl (addTenantKey host) mapping
    | .ok _ => mapping
    | .error _ => mapping

/-!
# What the two key strings configure

A key is configured by the last item of the tenant map that names it, and
otherwise by the plain list.  The map that the code builds answers every lookup
this way.
-/

def tenantFields (host : Host) (settings : Settings) : List (String × Json) :=
  match host.loads (strip settings.tenantApiKeys) with
  | .ok (.obj data) => data
  | _ => []

def lastField (key : String) : List (String × Json) -> Option Json
  | [] => none
  | item :: rest =>
      (lastField key rest).or
        (if strip item.1 = key then some item.2 else none)

def configuredTenant (host : Host) (settings : Settings) (key : String) :
    Option String :=
  if key = "" then
    none
  else
    ((lastField key (settings.tenantFields host)).map host.str).or
      (if key ∈ settings.apiKeysSet then some settings.defaultTenant else none)

theorem loads_empty (host : Host) : host.loads "" = .error .expectingValue := rfl

theorem mem_apiKeysSet {settings : Settings} {key : String} :
    key ∈ settings.apiKeysSet <->
      key ≠ "" ∧ exists entry, entry ∈ split settings.apiKeys ',' ∧
        strip entry = key := by
  simp [apiKeysSet, and_comm]

theorem keyTenantMap_eq (host : Host) (settings : Settings) :
    settings.keyTenantMap host =
      (settings.tenantFields host).foldl (addTenantKey host)
        (settings.apiKeysSet.foldl
          (fun mapping k => Dict.insert mapping k settings.defaultTenant) []) := by
  unfold keyTenantMap tenantFields
  by_cases hraw : strip settings.tenantApiKeys = ""
  · simp [hraw, loads_empty]
  · simp only [if_neg hraw]
    cases hload : host.loads (strip settings.tenantApiKeys) with
    | error e =>
        rfl
    | ok v =>
        cases v <;> rfl

theorem get?_foldl_insert (tenant : String) (keys : List String) (key : String) :
    forall mapping : Dict String String,
      (keys.foldl (fun m k => Dict.insert m k tenant) mapping).get? key =
        if key ∈ keys then some tenant else mapping.get? key := by
  induction keys with
  | nil =>
      intro mapping
      simp
  | cons k rest ih =>
      intro mapping
      rw [List.foldl_cons, ih, Dict.get?_insert]
      by_cases hk : k = key
      · simp [hk]
      · simp [hk, Ne.symm hk]

theorem get?_addTenantKey (host : Host) (mapping : Dict String String)
    (item : String × Json) {key : String} (hkey : key ≠ "") :
    (addTenantKey host mapping item).get? key =
      if strip item.1 = key then some (host.str item.2)
      else mapping.get? key := by
  unfold addTenantKey
  by_cases hblank : strip item.1 = ""
  · have hne : ¬ "" = key := fun h => hkey h.symm
    simp [hblank, hne]
  · simp only [if_neg hblank]
    exact Dict.get?_insert mapping (strip item.1) key (host.str item.2)

theorem get?_foldl_addTenantKey (host : Host) {key : String} (hkey : key ≠ "")
    (items : List (String × Json)) :
    forall mapping : Dict String String,
      (items.foldl (addTenantKey host) mapping).get? key =
        ((lastField key items).map host.str).or (mapping.get? key) := by
  induction items with
  | nil =>
      intro mapping
      simp [lastField]
  | cons item rest ih =>
      intro mapping
      rw [List.foldl_cons, ih, get?_addTenantKey host mapping item hkey]
      cases hlast : lastField key rest with
      | some v =>
          simp [lastField, hlast]
      | none =>
          by_cases hname : strip item.1 = key <;> simp [lastField, hlast, hname]

theorem get?_blank_foldl_addTenantKey (host : Host)
    (items : List (String × Json)) :
    forall mapping : Dict String String,
      (items.foldl (addTenantKey host) mapping).get? "" = mapping.get? "" := by
  induction items with
  | nil =>
      intro mapping
      rfl
  | cons item rest ih =>
      intro mapping
      rw [List.foldl_cons, ih]
      by_cases hblank : strip item.1 = ""
      · simp [addTenantKey, hblank]
      · simp [addTenantKey, hblank, Dict.get?_insert]

theorem keyTenantMap_get? (host : Host) (settings : Settings) (key : String) :
    (settings.keyTenantMap host).get? key =
      settings.configuredTenant host key := by
  rw [keyTenantMap_eq]
  by_cases hkey : key = ""
  · have hplain : "" ∉ settings.apiKeysSet := by
      intro h
      exact (mem_apiKeysSet.mp h).1 rfl
    simp [configuredTenant, hkey, get?_blank_foldl_addTenantKey,
      get?_foldl_insert, hplain]
  · simp [configuredTenant, hkey, get?_foldl_addTenantKey host hkey,
      get?_foldl_insert]

theorem addTenantKey_eq_nil (host : Host) (mapping : Dict String String)
    (item : String × Json) :
    addTenantKey host mapping item = [] <->
      mapping = [] ∧ strip item.1 = "" := by
  unfold addTenantKey
  by_cases hblank : strip item.1 = ""
  · simp [hblank]
  · simp [hblank, Dict.insert_ne_nil]

theorem foldl_addTenantKey_eq_nil (host : Host) (items : List (String × Json)) :
    forall mapping : Dict String String,
      items.foldl (addTenantKey host) mapping = [] <->
        mapping = [] ∧ forall item, item ∈ items -> strip item.1 = "" := by
  induction items with
  | nil =>
      intro mapping
      simp
  | cons item rest ih =>
      intro mapping
      rw [List.foldl_cons, ih, addTenantKey_eq_nil]
      simp [and_assoc]

theorem foldl_insert_eq_nil (tenant : String) (keys : List String) :
    forall mapping : Dict String String,
      keys.foldl (fun m k => Dict.insert m k tenant) mapping = [] <->
        mapping = [] ∧ keys = [] := by
  induction keys with
  | nil =>
      intro mapping
      simp
  | cons k rest ih =>
      intro mapping
      rw [List.foldl_cons, ih]
      simp [Dict.insert_ne_nil]

/-- A usable key: a non-blank plain entry, or a tenant item with a name. -/
def HasUsableKey (host : Host) (settings : Settings) : Prop :=
  (exists entry, entry ∈ split settings.apiKeys ',' ∧ strip entry ≠ "") ∨
    exists fields, host.loads (strip settings.tenantApiKeys) = .ok (.obj fields) ∧
      exists item, item ∈ fields ∧ strip item.1 ≠ ""

theorem apiKeysSet_eq_nil (settings : Settings) :
    settings.apiKeysSet = [] <->
      forall entry, entry ∈ split settings.apiKeys ',' -> strip entry = "" := by
  simp [apiKeysSet]

theorem exists_named_tenantField (host : Host) (settings : Settings) :
    (exists item, item ∈ (settings.tenantFields host) ∧ strip item.1 ≠ "") <->
      exists fields,
        host.loads (strip settings.tenantApiKeys) = .ok (.obj fields) ∧
          exists item, item ∈ fields ∧ strip item.1 ≠ "" := by
  unfold tenantFields
  constructor
  · intro h
    split at h
    · rename_i data hload
      exact ⟨data, hload, h⟩
    · rcases h with ⟨item, hmem, _⟩
      cases hmem
  · intro h
    rcases h with ⟨fields, hload, hitem⟩
    rw [hload]
    exact hitem

theorem keyTenantMap_eq_nil (host : Host) (settings : Settings) :
    settings.keyTenantMap host = [] <-> ¬ settings.HasUsableKey host := by
  have hfields := exists_named_tenantField host settings
  rw [keyTenantMap_eq, foldl_addTenantKey_eq_nil, foldl_insert_eq_nil,
    apiKeysSet_eq_nil, HasUsableKey, ← hfields]
  constructor
  · intro h
    rcases h with ⟨⟨_, hplain⟩, hnamed⟩
    intro husable
    rcases husable with ⟨entry, hmem, hne⟩ | ⟨item, hmem, hne⟩
    · exact hne (hplain entry hmem)
    · exact hne (hnamed item hmem)
  · intro h
    refine ⟨⟨rfl, ?_⟩, ?_⟩
    · intro entry hmem
      by_contra hne
      exact h (Or.inl ⟨entry, hmem, hne⟩)
    · intro item hmem
      by_contra hne
      exact h (Or.inr ⟨item, hmem, hne⟩)

end Settings

end MetricMesh
