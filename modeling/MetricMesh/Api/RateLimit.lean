import Mathlib.Data.NNRat.Floor
import Mathlib.Tactic.Linarith
import Mathlib.Tactic.Ring
import MetricMesh.Api.Auth
import MetricMesh.Foundation.Counters
import MetricMesh.Foundation.Programs
import MetricMesh.Foundation.Runs

/-!
# The rate limiter

One counter for every client and every minute, shared by all replicas.  Counting
a request and giving a new counter its expiry are two commands, so requests and
replicas interleave between them.
-/

namespace MetricMesh
namespace Api

open Foundation
open Python

/-!
# The dependency

An exception of Redis lets the request pass.
-/

inductive RedisCommand where
  | incr (key : String)
  | expire (key : String) (seconds : Nat)
deriving DecidableEq

/-- The integer that Redis replies, or the exception of its client. -/
abbrev RedisReply := Except PyError Nat

abbrev RateLimitProgram := Program RedisCommand RedisReply (Except HttpException Unit)

def tooManyRequests : HttpException where
  statusCode := 429
  detail := "Rate limit exceeded. Try again later."
  headers := [("Retry-After", "60")]

def clientIdentifier (request : Request) : String :=
  match request.xApiKey with
  | some key => if key = "" then request.clientHost.getD "unknown" else key
  | none => request.clientHost.getD "unknown"

def windowOf (now : ℚ≥0) : Nat :=
  ⌊now⌋₊ / 60

def rateLimitKey (identifier : String) (window : Nat) : String :=
  "mm:ratelimit:" ++ identifier ++ ":" ++ window.repr

def checkQuota (limit : Int) (count : Nat) : RateLimitProgram :=
  if limit < count then .done (.error tooManyRequests) else .done (.ok ())

def afterIncr (limit : Int) (key : String) (count : Nat) : RateLimitProgram :=
  if count = 1 then
    .ask (.expire key 60) (fun reply =>
      match reply with
      | .error _ => .done (.ok ())
      | .ok _ => checkQuota limit count)
  else
    checkQuota limit count

def rateLimit (settings : Settings) (request : Request) (now : ℚ≥0) :
    RateLimitProgram :=
  let limit := settings.rateLimitPerMinute
  if limit ≤ 0 then
    .done (.ok ())
  else
    let key := rateLimitKey (clientIdentifier request) (windowOf now)
    .ask (.incr key) (fun reply =>
      match reply with
      | .error _ => .done (.ok ())
      | .ok count => afterIncr limit key count)

/-!
# The replicas and their Redis

Redis does not fail here.  A request is started at a replica, and what it held
before the first request is arbitrary except for the counters of the limiter.
-/

abbrev Redis := CounterStore String ℚ≥0

def runRedis : RedisCommand -> ℚ≥0 -> Redis -> RedisReply × Redis
  | .incr key, now, store =>
      (.ok (store.incr key now).1, (store.incr key now).2)
  | .expire key seconds, now, store =>
      (.ok (store.expire key now (now + seconds)).1,
        (store.expire key now (now + seconds)).2)

variable {ρ : Type}

abbrev LimitedRequest (ρ : Type) :=
  Task (ρ × Request) RedisCommand RedisReply (Except HttpException Unit) ℚ≥0

abbrev Service (ρ : Type) :=
  Interleaving (ρ × Request) RedisCommand RedisReply (Except HttpException Unit)
    Redis ℚ≥0

def Service.Start (s : Service ρ) : Prop :=
  s.tasks = [] ∧ forall identifier window, s.store (rateLimitKey identifier window) = none

def Service.Step (settings : Settings) : Service ρ -> Service ρ -> Prop :=
  Interleaving.Step runRedis (fun origin now => rateLimit settings origin.2 now)

def slot (t : LimitedRequest ρ) : String × Nat :=
  (clientIdentifier t.origin.2, windowOf t.time)

def isAdmitted (t : LimitedRequest ρ) : Bool :=
  match t.program with
  | .done (.ok _) => true
  | _ => false

namespace Service

def requestsIn (s : Service ρ) (k : String × Nat) : Nat :=
  countKey slot k s.tasks

def admittedIn (s : Service ρ) (k : String × Nat) : Nat :=
  s.tasks.countP (fun t => decide (slot t = k) && isAdmitted t)

def pendingIn (s : Service ρ) (k : String × Nat) : Nat :=
  s.tasks.countP (fun t => decide (slot t = k) && t.program.isPending)

def admittedWithin (s : Service ρ) (identifier : String) (start stop : ℚ≥0) : Nat :=
  s.tasks.countP (fun t =>
    decide (clientIdentifier t.origin.2 = identifier ∧ start ≤ t.time ∧ t.time ≤ stop) &&
      isAdmitted t)

end Service

/-!
# Windows and keys
-/

def windowEnd (window : Nat) : ℚ≥0 :=
  60 * (window + 1)

theorem windowOf_le (t : ℚ≥0) : 60 * (windowOf t : ℚ≥0) ≤ t := by
  have hdiv : 60 * windowOf t ≤ ⌊t⌋₊ := Nat.mul_div_le ⌊t⌋₊ 60
  calc 60 * (windowOf t : ℚ≥0) = ((60 * windowOf t : Nat) : ℚ≥0) := by push_cast; rfl
    _ ≤ (⌊t⌋₊ : ℚ≥0) := Nat.cast_le.mpr hdiv
    _ ≤ t := Nat.floor_le zero_le

theorem lt_windowEnd (t : ℚ≥0) : t < windowEnd (windowOf t) := by
  have hdiv : ⌊t⌋₊ + 1 ≤ 60 * (windowOf t + 1) := by
    have hlt := Nat.lt_mul_div_succ ⌊t⌋₊ (Nat.succ_pos 59)
    exact hlt
  calc t < (⌊t⌋₊ : ℚ≥0) + 1 := Nat.lt_floor_add_one t
    _ = ((⌊t⌋₊ + 1 : Nat) : ℚ≥0) := by push_cast; rfl
    _ ≤ ((60 * (windowOf t + 1) : Nat) : ℚ≥0) := Nat.cast_le.mpr hdiv
    _ = windowEnd (windowOf t) := by unfold windowEnd; push_cast; rfl

theorem windowEnd_le_add (t : ℚ≥0) : windowEnd (windowOf t) ≤ t + 60 := by
  have hle := windowOf_le t
  calc windowEnd (windowOf t) = 60 * (windowOf t : ℚ≥0) + 60 := by unfold windowEnd; ring
    _ ≤ t + 60 := by gcongr

/-- An interval of a minute meets two windows at most. -/
theorem windowOf_of_within {start t : ℚ≥0} (hstart : start ≤ t) (hstop : t ≤ start + 60) :
    windowOf t = windowOf start ∨ windowOf t = windowOf start + 1 := by
  have hmono : ⌊start⌋₊ ≤ ⌊t⌋₊ := Nat.floor_mono hstart
  have hfloor : ⌊t⌋₊ ≤ ⌊start⌋₊ + 60 := by
    calc ⌊t⌋₊ ≤ ⌊start + 60⌋₊ := Nat.floor_mono hstop
      _ = ⌊start⌋₊ + 60 := by
        exact_mod_cast Nat.floor_add_natCast (a := start) zero_le 60
  unfold windowOf
  omega

theorem rateLimitKey_inj {i j : String} {v w : Nat}
    (h : rateLimitKey i v = rateLimitKey j w) : i = j ∧ v = w := by
  have hchars := congrArg String.toList h
  unfold rateLimitKey at hchars
  simp only [String.toList_append, List.append_assoc, List.append_cancel_left_eq] at hchars
  have hcolon : forall n : Nat, ':' ∉ n.repr.toList := by
    intro n hmem
    have hdigit := isDigit_of_mem_repr hmem
    revert hdigit
    decide
  rcases append_sep_inj_right (hcolon v) (hcolon w) hchars with ⟨hid, hwin⟩
  exact ⟨String.toList_inj.mp hid, repr_nat_inj hwin⟩

def slotKey (k : String × Nat) : String :=
  rateLimitKey k.1 k.2

theorem slotKey_inj {k k' : String × Nat} (h : slotKey k = slotKey k') : k = k' := by
  rcases rateLimitKey_inj h with ⟨hid, hwin⟩
  exact Prod.ext hid hwin

/-!
# What a step does to a request

A request that was counted `n`-th either awaits the expiry of its counter, which
only the first one does, or has compared `n` with the limit.
-/

section Counting

variable {settings : Settings}

def CountedAt (settings : Settings) (t : LimitedRequest ρ) (n : Nat) : Prop :=
  t.program = afterIncr settings.rateLimitPerMinute (slotKey (slot t)) n ∨
    t.program = checkQuota settings.rateLimitPerMinute n

theorem rateLimit_advance (hlimit : 1 ≤ settings.rateLimitPerMinute) (request : Request)
    (now : ℚ≥0) (store : Redis) :
    (rateLimit settings request now).advance runRedis now store =
      (afterIncr settings.rateLimitPerMinute
        (slotKey (clientIdentifier request, windowOf now))
        (store.incr (slotKey (clientIdentifier request, windowOf now)) now).1,
        (store.incr (slotKey (clientIdentifier request, windowOf now)) now).2) := by
  have hpos : ¬ settings.rateLimitPerMinute ≤ 0 := by omega
  unfold rateLimit
  simp only [if_neg hpos]
  rfl

theorem checkQuota_advance (limit : Int) (n : Nat) (now : ℚ≥0) (store : Redis) :
    (checkQuota limit n).advance runRedis now store = (checkQuota limit n, store) := by
  unfold checkQuota
  split
  · rfl
  · rfl

theorem afterIncr_advance (limit : Int) (key : String) (n : Nat) (now : ℚ≥0)
    (store : Redis) :
    (afterIncr limit key n).advance runRedis now store =
      (checkQuota limit n,
        if n = 1 then (store.expire key now (now + 60)).2 else store) := by
  unfold afterIncr
  by_cases hn : n = 1
  · simp only [if_pos hn]
    rfl
  · simp only [if_neg hn]
    exact checkQuota_advance limit n now store

theorem CountedAt.advance {t : LimitedRequest ρ} {n : Nat} (h : CountedAt settings t n)
    (now : ℚ≥0) (store : Redis) :
    CountedAt settings
      { t with program := (t.program.advance runRedis now store).1 } n := by
  refine Or.inr ?_
  rcases h with h | h
  · show (t.program.advance runRedis now store).1 = _
    rw [h, afterIncr_advance]
  · show (t.program.advance runRedis now store).1 = _
    rw [h, checkQuota_advance]

/-- The counters keep what they hold, since an expiry is set a minute ahead. -/
theorem CountedAt.advance_holds {t : LimitedRequest ρ} {n : Nat}
    (h : CountedAt settings t n) {now : ℚ≥0} (hpast : t.time ≤ now) {store : Redis}
    {k : String × Nat} {m : Nat}
    (hholds : store.Holds (slotKey k) (windowEnd k.2) m) :
    (t.program.advance runRedis now store).2.Holds (slotKey k) (windowEnd k.2) m := by
  rcases h with h | h
  · rw [h, afterIncr_advance]
    simp only
    split
    · refine hholds.expire ?_
      intro hkey
      rw [slotKey_inj hkey]
      calc windowEnd (windowOf t.time) ≤ t.time + 60 := windowEnd_le_add t.time
        _ ≤ now + 60 := by gcongr
    · exact hholds
  · rw [h, checkQuota_advance]
    exact hholds

theorem CountedAt.admitted_iff (hlimit : 1 ≤ settings.rateLimitPerMinute)
    {t : LimitedRequest ρ} {n : Nat} (h : CountedAt settings t n) :
    (isAdmitted t || t.program.isPending) = true <->
      n ≤ settings.rateLimitPerMinute.toNat := by
  have hchecked : t.program = checkQuota settings.rateLimitPerMinute n ->
      ((isAdmitted t || t.program.isPending) = true <->
        n ≤ settings.rateLimitPerMinute.toNat) := by
    intro hprogram
    unfold isAdmitted
    rw [hprogram]
    unfold checkQuota
    by_cases hover : settings.rateLimitPerMinute < n
    · simp only [if_pos hover, Program.isPending, Bool.or_self, Bool.false_eq_true,
        false_iff]
      omega
    · simp only [if_neg hover, Program.isPending, Bool.or_false, true_iff]
      omega
  rcases h with h | h
  · by_cases hn : n = 1
    · have hpending : t.program.isPending = true := by
        rw [h]
        simp [afterIncr, hn, Program.isPending]
      simp only [hpending, Bool.or_true, true_iff]
      omega
    · refine hchecked ?_
      rw [h]
      exact if_neg hn
  · exact hchecked h

theorem isPending_of_isAdmitted {t : LimitedRequest ρ} (h : isAdmitted t = true) :
    t.program.isPending = false := by
  unfold isAdmitted at h
  cases hprogram : t.program with
  | done r =>
      rfl
  | ask c next =>
      rw [hprogram] at h
      cases h

end Counting

/-!
# The invariant

The requests of a slot are numbered in the order in which they came, and until
the end of the window its counter is read back as their number.
-/

structure Service.Inv (settings : Settings) (s : Service ρ) : Prop where
  past : forall t, t ∈ s.tasks -> t.time ≤ s.now
  numbered : Numbered slot (CountedAt settings) s.tasks
  stored : forall k, s.store.Holds (slotKey k) (windowEnd k.2) (s.requestsIn k)

theorem Service.inv_start {settings : Settings} {s : Service ρ} (h : s.Start) :
    s.Inv settings := by
  rcases h with ⟨hnone, habsent⟩
  refine ⟨?_, ?_, ?_⟩
  · intro t ht
    rw [hnone] at ht
    cases ht
  · rw [hnone]
    exact True.intro
  · intro k
    refine Or.inl ⟨?_, habsent k.1 k.2⟩
    unfold requestsIn
    rw [hnone]
    rfl

theorem Service.inv_begin {settings : Settings}
    (hlimit : 1 ≤ settings.rateLimitPerMinute) {s : Service ρ} (hinv : s.Inv settings)
    (origin : ρ × Request) :
    Service.Inv settings
      { s with
        store := ((rateLimit settings origin.2 s.now).advance runRedis s.now s.store).2
        tasks :=
          { origin := origin, time := s.now,
            program := ((rateLimit settings origin.2 s.now).advance runRedis s.now
              s.store).1 } :: s.tasks } := by
  rw [rateLimit_advance hlimit]
  have hown := (hinv.stored (clientIdentifier origin.2, windowOf s.now)).incr
    (lt_windowEnd s.now)
  refine ⟨?_, ⟨?_, hinv.numbered⟩, ?_⟩
  · intro t ht
    rcases List.mem_cons.mp ht with heq | ht
    · rw [heq]
    · exact hinv.past t ht
  · refine Or.inl ?_
    show afterIncr _ _ _ = afterIncr _ _ _
    rw [hown.1]
    rfl
  · intro k
    by_cases hk : (clientIdentifier origin.2, windowOf s.now) = k
    · subst hk
      have hsame : forall program,
          slot (⟨origin, s.now, program⟩ : LimitedRequest ρ) =
            (clientIdentifier origin.2, windowOf s.now) := fun _ => rfl
      unfold requestsIn
      rw [countKey_cons_of_eq (hsame _)]
      exact hown.2
    · have hother : forall program,
          slot (⟨origin, s.now, program⟩ : LimitedRequest ρ) ≠ k := fun _ => hk
      unfold requestsIn
      rw [countKey_cons_of_ne (hother _)]
      exact (hinv.stored k).congr
        (CounterStore.incr_of_ne s.store (fun heq => hk (slotKey_inj heq).symm) s.now)

theorem Service.inv_proceed {settings : Settings} {s : Service ρ}
    (hinv : s.Inv settings) {newer older : List (LimitedRequest ρ)}
    {t : LimitedRequest ρ} (htasks : s.tasks = newer ++ t :: older) :
    Service.Inv settings
      { s with
        store := (t.program.advance runRedis s.now s.store).2
        tasks := newer ++
          { t with program := (t.program.advance runRedis s.now s.store).1 } :: older } := by
  have ht : t ∈ s.tasks := by
    rw [htasks]
    simp
  rcases hinv.numbered.place_of_mem ht with ⟨n, hn⟩
  have hnumbered := hinv.numbered
  rw [htasks] at hnumbered
  have hslot : slot { t with program := (t.program.advance runRedis s.now s.store).1 } =
      slot t := rfl
  refine ⟨?_, ?_, ?_⟩
  · intro u hu
    rcases List.mem_append.mp hu with hu | hu
    · exact hinv.past u (htasks ▸ List.mem_append_left _ hu)
    · rcases List.mem_cons.mp hu with heq | hu
      · rw [heq]
        exact hinv.past t ht
      · exact hinv.past u
          (htasks ▸ List.mem_append_right _ (List.mem_cons_of_mem t hu))
  · exact hnumbered.replace hslot (fun m hm => CountedAt.advance hm s.now s.store) newer
  · intro k
    have hholds := hn.advance_holds (hinv.past t ht) (hinv.stored k)
    unfold requestsIn at hholds ⊢
    rw [htasks] at hholds
    rw [countKey_replace hslot]
    exact hholds

theorem Service.inv_step {settings : Settings}
    (hlimit : 1 ≤ settings.rateLimitPerMinute) (s s' : Service ρ)
    (hinv : s.Inv settings) (hstep : Service.Step settings s s') : s'.Inv settings := by
  cases hstep with
  | tick later hle =>
      exact ⟨fun t ht => le_trans (hinv.past t ht) hle, hinv.numbered, hinv.stored⟩
  | begin origin =>
      exact inv_begin hlimit hinv origin
  | proceed newer older t htasks =>
      exact inv_proceed hinv htasks

theorem Service.inv_of_reachable {settings : Settings}
    (hlimit : 1 ≤ settings.rateLimitPerMinute) {s : Service ρ}
    (h : Reachable Service.Start (Service.Step settings) s) : s.Inv settings :=
  h.invariant (fun _ hs => inv_start hs) (inv_step hlimit)

/-!
# The quota
-/

structure EnforcesQuota (limit : Nat) (s : Service ρ) : Prop where
  /-- The requests of a window that are admitted, or will be with their next reply. -/
  quota : forall k, s.admittedIn k + s.pendingIn k = min (s.requestsIn k) limit
  settled : forall k, s.pendingIn k = 0 -> s.admittedIn k = min (s.requestsIn k) limit
  pending : forall t, t ∈ s.tasks -> t.program.isPending = true ->
    forall now store, (t.program.advance runRedis now store).1 = .done (.ok ())
  /-- Within its window a counter neither expires nor restarts. -/
  counter : forall k, 0 < s.requestsIn k -> s.now < windowEnd k.2 ->
    exists expiry, s.store.lookup (slotKey k) s.now = some (s.requestsIn k, expiry) ∧
      forall e, expiry = some e -> windowEnd k.2 ≤ e
  separate : forall k k', slotKey k = slotKey k' -> k = k'
  /-- Any minute, with both its ends, admits at most twice the limit. -/
  interval : forall identifier start,
    s.admittedWithin identifier start (start + 60) ≤ 2 * limit

theorem Service.Inv.quota {settings : Settings}
    (hlimit : 1 ≤ settings.rateLimitPerMinute) {s : Service ρ} (h : s.Inv settings)
    (k : String × Nat) :
    s.admittedIn k + s.pendingIn k =
      min (s.requestsIn k) settings.rateLimitPerMinute.toNat := by
  have hgood := h.numbered.count_good (fun t n ht => ht.admitted_iff hlimit) k
  have hdisjoint : forall t : LimitedRequest ρ,
      (decide (slot t = k) && isAdmitted t) = true ->
        (decide (slot t = k) && t.program.isPending) = false := by
    intro t ht
    rw [isPending_of_isAdmitted (Bool.and_eq_true_iff.mp ht).2, Bool.and_false]
  rw [requestsIn, ← hgood, admittedIn, pendingIn, ← countP_or_of_disjoint hdisjoint]
  simp only [Bool.and_or_distrib_left]

theorem Service.Inv.pending_advance {settings : Settings}
    (hlimit : 1 ≤ settings.rateLimitPerMinute) {s : Service ρ} (h : s.Inv settings)
    {t : LimitedRequest ρ} (ht : t ∈ s.tasks) (hpending : t.program.isPending = true)
    (now : ℚ≥0) (store : Redis) :
    (t.program.advance runRedis now store).1 = .done (.ok ()) := by
  rcases h.numbered.place_of_mem ht with ⟨n, hn⟩
  have hle : n ≤ settings.rateLimitPerMinute.toNat := by
    rw [← hn.admitted_iff hlimit, hpending, Bool.or_true]
  have hadvance := hn.advance now store
  have hchecked : checkQuota settings.rateLimitPerMinute n = .done (.ok ()) :=
    if_neg (by omega)
  rcases hn with hn | hn
  · rw [hn, afterIncr_advance]
    exact hchecked
  · rw [hn, checkQuota_advance]
    exact hchecked

theorem Service.Inv.interval {settings : Settings}
    (hlimit : 1 ≤ settings.rateLimitPerMinute) {s : Service ρ} (h : s.Inv settings)
    (identifier : String) (start : ℚ≥0) :
    s.admittedWithin identifier start (start + 60) ≤
      2 * settings.rateLimitPerMinute.toNat := by
  have hfirst := h.quota hlimit (identifier, windowOf start)
  have hsecond := h.quota hlimit (identifier, windowOf start + 1)
  have hcover : s.admittedWithin identifier start (start + 60) ≤
      s.admittedIn (identifier, windowOf start) +
        s.admittedIn (identifier, windowOf start + 1) := by
    refine countP_le_add ?_
    intro t _ ht
    rcases Bool.and_eq_true_iff.mp ht with ⟨hwithin, hadmitted⟩
    rcases of_decide_eq_true hwithin with ⟨hid, hstart, hstop⟩
    rw [hadmitted, Bool.and_true, Bool.and_true, decide_eq_true_iff, decide_eq_true_iff]
    rcases windowOf_of_within hstart hstop with hwindow | hwindow
    · exact Or.inl (Prod.ext hid hwindow)
    · exact Or.inr (Prod.ext hid hwindow)
  omega

theorem rateLimit_enforcesQuota {settings : Settings}
    (hlimit : 1 ≤ settings.rateLimitPerMinute) {s : Service ρ}
    (h : Reachable Service.Start (Service.Step settings) s) :
    EnforcesQuota settings.rateLimitPerMinute.toNat s := by
  have hinv := Service.inv_of_reachable hlimit h
  refine ⟨hinv.quota hlimit, ?_, ?_, ?_, ?_, hinv.interval hlimit⟩
  · intro k hnone
    have hquota := hinv.quota hlimit k
    rw [hnone] at hquota
    exact hquota
  · intro t ht hpending now store
    exact hinv.pending_advance hlimit ht hpending now store
  · intro k hsome hopen
    exact (hinv.stored k).lookup hsome hopen
  · intro k k' hkey
    exact slotKey_inj hkey

/-- Two requests of one client at two replicas with a limit of one. -/
theorem rateLimit_enforcesQuota_twoReplicas :
    exists s : Service Bool,
      s.requestsIn ("10.0.0.1", 0) = 2 ∧ s.admittedIn ("10.0.0.1", 0) = 1 ∧
        EnforcesQuota 1 s := by
  let settings : Settings := { Settings.defaults with
    rateLimitPerMinute := 1, rateLimitPerMinute_ge := by decide }
  let request : Request :=
    { method := "POST", path := "/api/v1/ingest", clientHost := some "10.0.0.1",
      xApiKey := none }
  let start : Service Bool := { now := 0, store := fun _ => none, tasks := [] }
  have hstart : Reachable Service.Start (Service.Step settings) start :=
    Reachable.start ⟨rfl, fun _ _ => rfl⟩
  have hfirst := hstart.step (Interleaving.Step.begin (true, request))
  have hsecond := hfirst.step (Interleaving.Step.begin (false, request))
  have hthird := hsecond.step (Interleaving.Step.proceed [_] [] _ rfl)
  exact ⟨_, by decide +kernel, by decide +kernel,
    rateLimit_enforcesQuota (by decide) hthird⟩

end Api
end MetricMesh
