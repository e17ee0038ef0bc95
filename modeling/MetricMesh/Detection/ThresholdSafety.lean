import MetricMesh.Detection.Thresholds

/-!
# Failing safe

An entry of the overrides is well formed when it is an object and `float` reads
all of its values.  An entry that is not should not matter: neither for the
result of a lookup nor for whether there is one.
-/

namespace MetricMesh
namespace Detection

open Python

def entriesOf : Except LoadsError Json -> List (String × Json)
  | .ok (.obj data) => data
  | _ => []

/--
The entries of the setting, none when it is not a JSON object.  The text is read
without the interpreter's limit on digits: an entry is there however long its
integers are.
-/
def thresholdEntries (host : Host) (settings : Settings) : List (String × Json) :=
  if strip settings.metricThresholds = "" then
    []
  else
    entriesOf (Json.loads (Decoder.unlimited { surrogate := host.surrogate })
      settings.metricThresholds)

/-- `json.loads` refuses the text for an integer with too many digits. -/
def Refused (host : Host) (settings : Settings) : Prop :=
  strip settings.metricThresholds ≠ "" ∧
    host.loads settings.metricThresholds = .error .tooManyDigits

def entryOverrides (host : Host) (entry : String × Json) : Option Overrides :=
  match entry.2 with
  | .obj fields =>
      match floatValues host fields with
      | .ok overrides => some overrides
      | .error _ => none
  | _ => none

def isWellFormed (host : Host) (entry : String × Json) : Bool :=
  (entryOverrides host entry).isSome

/-- The value of the first well-formed entry that matches and has the detector. -/
def chosenOverride (host : Host) (metricName detectorKey : String)
    (entries : List (String × Json)) : Option PyFloat :=
  entries.findSome? fun entry =>
    (entryOverrides host entry).bind fun overrides =>
      if fnmatchcase metricName entry.1 then overrides.get? detectorKey else none

/-- The two settings differ in malformed entries only. -/
def SameWellFormed (host : Host) (settings settings' : Settings) : Prop :=
  (thresholdEntries host settings).filter (isWellFormed host) =
    (thresholdEntries host settings').filter (isWellFormed host)

/--
A lookup returns a number, that of the chosen entry or the default, and other
malformed entries would not change it.
-/
def FailsSafe (host : Host) (settings settings' : Settings)
    (metricName detectorKey : String) (default : Rat) : Prop :=
  exists q,
    resolveThreshold host settings metricName detectorKey (.finite default) =
      .ok (.finite q) ∧
    .finite q =
      (chosenOverride host metricName detectorKey (thresholdEntries host settings)).getD
        (.finite default) ∧
    (SameWellFormed host settings settings' ->
      resolveThreshold host settings' metricName detectorKey (.finite default) =
        .ok (.finite q))

/-!
# Integers without a double

The only exception that leaves the parser is `OverflowError`.  An object raises
it when an integer out of range is the first value that `float` does not read.
-/

def OutOfRange : Json -> Prop
  | .int n => floatLimit ≤ (n : Rat) ∨ (n : Rat) ≤ -floatLimit
  | _ => False

def Overflows (host : Host) : List (String × Json) -> Prop
  | [] => False
  | (_, v) :: rest =>
      OutOfRange v ∨ ((exists x, host.float v = .ok x) ∧ Overflows host rest)

def EntryOverflows (host : Host) (entry : String × Json) : Prop :=
  exists fields, entry.2 = .obj fields ∧ Overflows host fields

theorem float_eq_overflow_iff (host : Host) (v : Json) :
    host.float v = .error .overflowError <-> OutOfRange v := by
  cases v with
  | int n =>
      show Host.floatOfInt n = _ <-> _
      unfold Host.floatOfInt OutOfRange
      split_ifs with h
      · exact iff_of_true rfl h
      · exact iff_of_false (fun heq => by cases heq) h
  | str s =>
      unfold Host.float OutOfRange
      cases hread : host.parseFloat s with
      | none => simp [hread]
      | some x => simp [hread]
  | _ => simp [Host.float, OutOfRange]

theorem float_error {host : Host} {v : Json} {e : PyError} (h : host.float v = .error e) :
    e = .overflowError ∨ e = .typeError ∨ e = .valueError := by
  unfold Host.float Host.floatOfInt at h
  cases v with
  | int n =>
      dsimp only at h
      split_ifs at h
      exact Or.inl (Except.error.inj h).symm
  | str s =>
      cases hread : host.parseFloat s with
      | none =>
          simp only [hread, Except.error.injEq] at h
          exact Or.inr (Or.inr h.symm)
      | some x =>
          simp [hread] at h
  | bool b => cases h
  | float x => cases h
  | null => exact Or.inr (Or.inl (Except.error.inj h).symm)
  | arr items => exact Or.inr (Or.inl (Except.error.inj h).symm)
  | obj fields => exact Or.inr (Or.inl (Except.error.inj h).symm)

theorem floatValues_eq_overflow_iff (host : Host) (fields : List (String × Json)) :
    floatValues host fields = .error .overflowError <-> Overflows host fields := by
  induction fields with
  | nil =>
      simp [floatValues, Overflows]
  | cons field rest ih =>
      unfold floatValues Overflows
      rw [← ih, ← float_eq_overflow_iff host field.2]
      cases hv : host.float field.2 with
      | error e =>
          simp
      | ok x =>
          cases floatValues host rest <;> simp

theorem floatValues_error {host : Host} {fields : List (String × Json)} {e : PyError}
    (h : floatValues host fields = .error e) :
    e = .overflowError ∨ e = .typeError ∨ e = .valueError := by
  induction fields with
  | nil =>
      cases h
  | cons field rest ih =>
      unfold floatValues at h
      cases hv : host.float field.2 with
      | error e' =>
          simp only [hv, Except.error.injEq] at h
          subst h
          exact float_error hv
      | ok x =>
          simp only [hv] at h
          cases hrest : floatValues host rest with
          | error e' =>
              simp only [hrest, Except.error.injEq] at h
              subst h
              exact ih hrest
          | ok overrides =>
              simp only [hrest] at h
              cases h

/-!
# What the parser returns
-/

theorem parseItems_of_overflow {host : Host} {items : List (String × Json)}
    (h : exists entry, entry ∈ items ∧ EntryOverflows host entry) :
    parseItems host items = .error .overflowError := by
  induction items with
  | nil =>
      rcases h with ⟨entry, hmem, _⟩
      cases hmem
  | cons item rest ih =>
      rcases item with ⟨glob, v⟩
      by_cases hrest : exists entry, entry ∈ rest ∧ EntryOverflows host entry
      · have herror := ih hrest
        cases v with
        | obj fields =>
            unfold parseItems
            cases hvalues : floatValues host fields with
            | ok overrides =>
                simp only [herror]
            | error e =>
                rcases floatValues_error hvalues with he | he | he
                · rw [he]
                · rw [he]
                  exact herror
                · rw [he]
                  exact herror
        | _ => exact herror
      · rcases h with ⟨entry, hmem, hoverflow⟩
        rcases List.mem_cons.mp hmem with hhead | htail
        · rw [hhead] at hoverflow
          rcases hoverflow with ⟨fields, hv, hfields⟩
          dsimp only at hv
          subst hv
          unfold parseItems
          rw [(floatValues_eq_overflow_iff host fields).mpr hfields]
        · exact absurd ⟨entry, htail, hoverflow⟩ hrest

theorem parseItems_of_no_overflow {host : Host} {items : List (String × Json)}
    (h : forall entry, entry ∈ items -> ¬ EntryOverflows host entry) :
    parseItems host items =
      .ok (items.filterMap fun entry =>
        (entryOverrides host entry).map fun overrides => (entry.1, overrides)) := by
  induction items with
  | nil =>
      rfl
  | cons item rest ih =>
      rcases item with ⟨glob, v⟩
      have hrest := ih (fun entry hmem => h entry (List.mem_cons_of_mem _ hmem))
      cases v with
      | obj fields =>
          have hfields : ¬ Overflows host fields :=
            fun hoverflow => h _ List.mem_cons_self ⟨fields, rfl, hoverflow⟩
          unfold parseItems
          cases hvalues : floatValues host fields with
          | ok overrides =>
              simp only [hrest]
              simp [entryOverrides, hvalues]
          | error e =>
              rcases floatValues_error hvalues with he | he | he
              · rw [he] at hvalues
                exact absurd ((floatValues_eq_overflow_iff host fields).mp hvalues) hfields
              · subst he
                simp only [hrest]
                simp [entryOverrides, hvalues]
              · subst he
                simp only [hrest]
                simp [entryOverrides, hvalues]
      | _ => exact hrest

theorem parse_eq {host : Host} {settings : Settings} (h : ¬ Refused host settings) :
    parse host settings.metricThresholds = parseItems host (thresholdEntries host settings) := by
  unfold parse thresholdEntries
  by_cases hblank : strip settings.metricThresholds = ""
  · rw [if_pos hblank, if_pos hblank]
    rfl
  · have hloads : host.loads settings.metricThresholds =
        Json.loads (Decoder.unlimited { surrogate := host.surrogate })
          settings.metricThresholds :=
      Json.loads_unlimited _ fun hrefused => h ⟨hblank, hrefused⟩
    rw [if_neg hblank, if_neg hblank, ← hloads]
    cases host.loads settings.metricThresholds with
    | error e =>
        rfl
    | ok v =>
        cases v <;> rfl

theorem parse_of_refused {host : Host} {settings : Settings} (h : Refused host settings) :
    parse host settings.metricThresholds = .ok [] := by
  unfold parse
  rw [if_neg h.1, h.2]

theorem firstOverride_filterMap (host : Host) (metricName detectorKey : String)
    (entries : List (String × Json)) :
    firstOverride metricName detectorKey
        (entries.filterMap fun entry =>
          (entryOverrides host entry).map fun overrides => (entry.1, overrides)) =
      chosenOverride host metricName detectorKey entries := by
  unfold chosenOverride
  induction entries with
  | nil =>
      rfl
  | cons entry rest ih =>
      rw [List.filterMap_cons, List.findSome?_cons]
      cases hentry : entryOverrides host entry with
      | none =>
          exact ih
      | some overrides =>
          simp only [Option.map_some, Option.bind_some]
          unfold firstOverride
          cases hkey : overrides.get? detectorKey with
          | none =>
              simp only [ih, ite_self]
          | some x =>
              by_cases hmatch : fnmatchcase metricName entry.1
              · simp [hmatch]
              · simp only [hmatch]
                exact ih

theorem chosenOverride_filter (host : Host) (metricName detectorKey : String)
    (entries : List (String × Json)) :
    chosenOverride host metricName detectorKey (entries.filter (isWellFormed host)) =
      chosenOverride host metricName detectorKey entries := by
  unfold chosenOverride
  induction entries with
  | nil =>
      rfl
  | cons entry rest ih =>
      cases hentry : entryOverrides host entry with
      | none =>
          have hskip : ¬ isWellFormed host entry = true := by simp [isWellFormed, hentry]
          rw [List.filter_cons_of_neg hskip, List.findSome?_cons, hentry]
          exact ih
      | some overrides =>
          have hkeep : isWellFormed host entry = true := by simp [isWellFormed, hentry]
          rw [List.filter_cons_of_pos hkeep, List.findSome?_cons, List.findSome?_cons, ih]

/-!
# Lookups
-/

section Lookups

variable {host : Host} {settings settings' : Settings} {metricName detectorKey : String}

theorem resolveThreshold_of_refused (h : Refused host settings)
    (metricName detectorKey : String) (default : PyFloat) :
    resolveThreshold host settings metricName detectorKey default = .ok default := by
  unfold resolveThreshold
  rw [parse_of_refused h]
  rfl

theorem resolveThreshold_of_overflow (hread : ¬ Refused host settings)
    (h : exists entry, entry ∈ thresholdEntries host settings ∧ EntryOverflows host entry)
    (metricName detectorKey : String) (default : PyFloat) :
    resolveThreshold host settings metricName detectorKey default =
      .error .overflowError := by
  unfold resolveThreshold
  rw [parse_eq hread, parseItems_of_overflow h]

theorem resolveThreshold_of_no_overflow (hread : ¬ Refused host settings)
    (h : forall entry, entry ∈ thresholdEntries host settings -> ¬ EntryOverflows host entry)
    (metricName detectorKey : String) (default : PyFloat) :
    resolveThreshold host settings metricName detectorKey default =
      .ok ((chosenOverride host metricName detectorKey
        (thresholdEntries host settings)).getD default) := by
  unfold resolveThreshold
  rw [parse_eq hread, parseItems_of_no_overflow h]
  simp only [firstOverride_filterMap]

/--
The lookup gives what the entries say.  A text that `json.loads` refuses gives the
default, so its entries must say no more than that; in another text no entry may
overflow.
-/
structure Followed (host : Host) (settings : Settings) (metricName detectorKey : String)
    (default : Rat) : Prop where
  refused : Refused host settings ->
    (chosenOverride host metricName detectorKey (thresholdEntries host settings)).getD
      (.finite default) = .finite default
  read : ¬ Refused host settings ->
    forall entry, entry ∈ thresholdEntries host settings -> ¬ EntryOverflows host entry

theorem followed_iff (default : Rat) :
    Followed host settings metricName detectorKey default <->
      resolveThreshold host settings metricName detectorKey (.finite default) =
        .ok ((chosenOverride host metricName detectorKey
          (thresholdEntries host settings)).getD (.finite default)) := by
  by_cases hrefused : Refused host settings
  · rw [resolveThreshold_of_refused hrefused, Except.ok.injEq]
    constructor
    · intro h
      exact (h.refused hrefused).symm
    · intro h
      exact ⟨fun _ => h.symm, fun hread => absurd hrefused hread⟩
  · constructor
    · intro h
      exact resolveThreshold_of_no_overflow hrefused (h.read hrefused) _ _ _
    · intro h
      refine ⟨fun href => absurd href hrefused, fun _ entry hmem hoverflow => ?_⟩
      rw [resolveThreshold_of_overflow hrefused ⟨entry, hmem, hoverflow⟩] at h
      cases h

theorem chosenOverride_of_same (hsame : SameWellFormed host settings settings')
    (metricName detectorKey : String) :
    chosenOverride host metricName detectorKey (thresholdEntries host settings') =
      chosenOverride host metricName detectorKey (thresholdEntries host settings) := by
  rw [← chosenOverride_filter host _ _ (thresholdEntries host settings'), ← hsame,
    chosenOverride_filter]

end Lookups

/--
A lookup fails safe exactly when the entries of both settings are followed and the
chosen value is a number.
-/
theorem failsSafe_iff (host : Host) (settings settings' : Settings)
    (metricName detectorKey : String) (default : Rat) :
    FailsSafe host settings settings' metricName detectorKey default <->
      Followed host settings metricName detectorKey default ∧
      (forall x,
        chosenOverride host metricName detectorKey (thresholdEntries host settings) = some x ->
          exists q, x = .finite q) ∧
      (SameWellFormed host settings settings' ->
        Followed host settings' metricName detectorKey default) := by
  constructor
  · intro h
    rcases h with ⟨q, hok, hq, hother⟩
    refine ⟨(followed_iff default).mpr (by rw [← hq]; exact hok), ?_, ?_⟩
    · intro x hx
      rw [hx] at hq
      exact ⟨q, hq.symm⟩
    · intro hsame
      apply (followed_iff default).mpr
      rw [chosenOverride_of_same hsame, ← hq]
      exact hother hsame
  · intro h
    rcases h with ⟨hfollowed, hfinite, hother⟩
    have hnumber : exists q,
        (chosenOverride host metricName detectorKey (thresholdEntries host settings)).getD
          (.finite default) = .finite q := by
      cases hchosen : chosenOverride host metricName detectorKey
          (thresholdEntries host settings) with
      | none =>
          exact ⟨default, rfl⟩
      | some x =>
          exact hfinite x hchosen
    rcases hnumber with ⟨q, hq⟩
    refine ⟨q, ?_, hq.symm, ?_⟩
    · rw [(followed_iff default).mp hfollowed, hq]
    · intro hsame
      rw [(followed_iff default).mp (hother hsame), chosenOverride_of_same hsame, hq]

def hugeThreshold : Settings :=
  { Settings.defaults with
    metricThresholds := "\x7b\"db.*\": \x7b\"zscore\": 1" ++
      String.ofList (List.replicate 309 '0') ++ "\x7d\x7d" }

def hugeChars : List Char :=
  "\x7b\"db.*\": \x7b\"zscore\": 1".toList ++ List.replicate 309 '0' ++ "\x7d\x7d".toList

theorem toList_hugeThreshold : hugeThreshold.metricThresholds.toList = hugeChars := by
  have hzeros : (String.ofList (List.replicate 309 '0')).toList = List.replicate 309 '0' :=
    String.toList_ofList
  unfold hugeThreshold hugeChars
  rw [String.toList_append, String.toList_append, hzeros]

theorem loads_hugeThreshold :
    (Host.withDigests []).loads hugeThreshold.metricThresholds =
      .ok (.obj [("db.*", .obj [("zscore", .int (10 ^ 309))])]) := by
  unfold Host.loads Json.loads
  rw [toList_hugeThreshold]
  decide +kernel

theorem strip_hugeThreshold : strip hugeThreshold.metricThresholds ≠ "" := by
  have hchars : stripChars hugeChars ≠ [] := by
    decide +kernel
  unfold strip
  rw [toList_hugeThreshold, ← String.ofList_nil, ne_eq, String.ofList_inj]
  exact hchars

theorem not_refused_hugeThreshold : ¬ Refused (Host.withDigests []) hugeThreshold := by
  intro h
  have hloads := h.2
  rw [loads_hugeThreshold] at hloads
  cases hloads

theorem thresholdEntries_hugeThreshold :
    thresholdEntries (Host.withDigests []) hugeThreshold =
      [("db.*", .obj [("zscore", .int (10 ^ 309))])] := by
  have hloads := loads_hugeThreshold
  unfold Host.loads at hloads
  rw [Json.loads_unlimited _ (by rw [hloads]; exact fun h => by cases h)] at hloads
  unfold thresholdEntries
  rw [if_neg strip_hugeThreshold, hloads]
  rfl

theorem hugeThreshold_overflows :
    exists entry, entry ∈ thresholdEntries (Host.withDigests []) hugeThreshold ∧
      EntryOverflows (Host.withDigests []) entry := by
  have hrange : OutOfRange (.int (10 ^ 309)) :=
    Or.inl (by decide +kernel)
  rw [thresholdEntries_hugeThreshold]
  exact ⟨_, List.mem_singleton_self _, _, rfl, Or.inl hrange⟩

/-- The entry of another metric takes a lookup down. -/
theorem hugeThreshold_raises :
    ¬ forall (host : Host) (settings settings' : Settings)
        (metricName detectorKey : String) (default : Rat),
      FailsSafe host settings settings' metricName detectorKey default := by
  intro h
  rcases h (Host.withDigests []) hugeThreshold hugeThreshold "cpu_usage" "zscore" (4 / 5) with
    ⟨q, hok, _⟩
  rw [resolveThreshold_of_overflow not_refused_hugeThreshold hugeThreshold_overflows] at hok
  cases hok

end Detection
end MetricMesh
