import MetricMesh.Alerting.Sinks
import MetricMesh.Python.Fnmatch

/-!
# Routing rules

The setting `alert_routing_rules` names the sinks of an alert by the first rule
whose glob matches its metric.  Text that is not JSON counts as no rules, but
what parses is used as it is: a rule that is not an object, a glob that is not
text, or a sink name that cannot be looked up raises.
-/

namespace MetricMesh
namespace Alerting

open Python

def fnmatch (name : String) : Json -> Except PyError Bool
  | .str pattern => .ok (fnmatchcase name pattern)
  | _ => .error .typeError

def ruleMatch (rule : Dict String Json) : Json :=
  (rule.get? "match").getD (.str "*")

def ruleSinks (rule : Dict String Json) : Json :=
  (rule.get? "sinks").getD (.arr [])

def selectSinkNames (metricName : String) :
    List Json -> Except PyError (Option (List Json))
  | [] => .ok none
  | .obj rule :: rest =>
      match fnmatch metricName (ruleMatch rule) with
      | .error e => .error e
      | .ok true =>
          match (ruleSinks rule).iter with
          | .error e => .error e
          | .ok names => .ok (some names)
      | .ok false => selectSinkNames metricName rest
  | _ :: _ => .error .attributeError

def namedSink (registry : Dict String Sink) : Json -> Option Sink
  | .str k => registry.get? k
  | _ => none

/-- `[registry[n] for n in names if n in registry]`. -/
def chosenSinks (registry : Dict String Sink) : List Json -> Except PyError (List Sink)
  | [] => .ok []
  | n :: rest =>
      if n.isHashable then
        match chosenSinks registry rest with
        | .error e => .error e
        | .ok chosen => .ok ((namedSink registry n).toList ++ chosen)
      else
        .error .typeError

def routingRules (host : Host) (settings : Settings) : Json :=
  if strip settings.alertRoutingRules = "" then
    .arr []
  else
    match host.loads settings.alertRoutingRules with
    | .ok rules => rules
    | .error _ => .arr []

/-- The sinks that the router registers, in order. -/
def buildDefaultRouter (host : Host) (settings : Settings) (metricName : Option String) :
    Except PyError (List Sink) :=
  let registry := availableSinks host settings
  let rules := routingRules host settings
  match metricName with
  | none => .ok (registry.map Prod.snd)
  | some name =>
      if rules.truthy then
        match rules.iter with
        | .error e => .error e
        | .ok items =>
            match selectSinkNames name items with
            | .error e => .error e
            | .ok names =>
                match chosenSinks registry (names.getD []) with
                | .error e => .error e
                -- The registry always has the log sink.
                | .ok [] => .ok [(registry.get? "log").getD .log]
                | .ok chosen => .ok chosen
      else
        .ok (registry.map Prod.snd)

/-!
# What a rule selects

A rule selects the names that it lists when its glob matches and the globs of
the rules before it do not.
-/

def Matches (metricName : String) (rule : Json) : Prop :=
  exists fields pattern, rule = .obj fields ∧ ruleMatch fields = .str pattern ∧
    fnmatchcase metricName pattern = true

def SelectedFrom (metricName : String) (items : List Json) (sinkName : String) : Prop :=
  exists before rule after names,
    items = before ++ .obj rule :: after ∧ (forall r, r ∈ before -> ¬ Matches metricName r) ∧
      Matches metricName (.obj rule) ∧ (ruleSinks rule).iter = .ok names ∧
        .str sinkName ∈ names

def SelectsSink (host : Host) (settings : Settings) (metricName : String) : Prop :=
  exists items sinkName, routingRules host settings = .arr items ∧
    sinkName ∈ Dict.keys (availableSinks host settings) ∧
      SelectedFrom metricName items sinkName

/-- An alert on the metric reaches some configured sink, and none of them twice. -/
structure KeepsAlert (host : Host) (settings : Settings) (metricName : String)
    (router : List Sink) : Prop where
  nonempty : router ≠ []
  configured : forall sink, sink ∈ router ->
    sink ∈ (availableSinks host settings).map Prod.snd
  once : (router.map Sink.name).Nodup
  unselected : ¬ SelectsSink host settings metricName ->
    router = if (routingRules host settings).truthy then [.log]
      else (availableSinks host settings).map Prod.snd

def NeverDrops (host : Host) (settings : Settings) (metricName : String) : Prop :=
  exists router, buildDefaultRouter host settings (some metricName) = .ok router ∧
    KeepsAlert host settings metricName router

/-!
# Rules that are well formed
-/

/-- The names can be looked up, and none of them names a configured sink twice. -/
structure NamesFit (registry : Dict String Sink) (names : List Json) : Prop where
  hashable : forall n, n ∈ names -> n.isHashable = true
  once : forall k, k ∈ Dict.keys registry -> names.count (.str k) ≤ 1

/-- Every rule up to the first that matches is an object whose glob is text. -/
def RulesFit (registry : Dict String Sink) (metricName : String) : List Json -> Prop
  | [] => True
  | rule :: rest =>
      exists fields pattern, rule = .obj fields ∧ ruleMatch fields = .str pattern ∧
        if fnmatchcase metricName pattern then
          exists names, (ruleSinks fields).iter = .ok names ∧ NamesFit registry names
        else RulesFit registry metricName rest

def RoutingFits (host : Host) (settings : Settings) (metricName : String) : Prop :=
  (routingRules host settings).truthy = true ->
    exists items, routingRules host settings = .arr items ∧
      RulesFit (availableSinks host settings) metricName items

/-!
# The sinks of a list of names
-/

theorem chosenSinks_of_hashable {registry : Dict String Sink} {names : List Json}
    (h : forall n, n ∈ names -> n.isHashable = true) :
    chosenSinks registry names = .ok (names.filterMap (namedSink registry)) := by
  induction names with
  | nil =>
      rfl
  | cons n rest ih =>
      have hn := h n List.mem_cons_self
      have hrest := ih (fun m hm => h m (List.mem_cons_of_mem n hm))
      rw [chosenSinks, if_pos hn, hrest, List.filterMap_cons]
      cases namedSink registry n with
      | none =>
          rfl
      | some sink =>
          rfl

theorem hashable_of_chosenSinks {registry : Dict String Sink} {names : List Json}
    {chosen : List Sink} (h : chosenSinks registry names = .ok chosen) :
    forall n, n ∈ names -> n.isHashable = true := by
  induction names generalizing chosen with
  | nil =>
      intro n hn
      cases hn
  | cons n rest ih =>
      rw [chosenSinks] at h
      by_cases hn : n.isHashable = true
      · rw [if_pos hn] at h
        cases hrest : chosenSinks registry rest with
        | error e =>
            rw [hrest] at h
            cases h
        | ok later =>
            intro m hm
            rcases List.mem_cons.mp hm with heq | hm
            · rw [heq]
              exact hn
            · exact ih hrest m hm
      · rw [if_neg hn] at h
        cases h

theorem namedSink_eq_some {registry : Dict String Sink} {n : Json} {sink : Sink} :
    namedSink registry n = some sink <->
      exists k, n = .str k ∧ registry.get? k = some sink := by
  constructor
  · intro h
    cases n with
    | str k => exact ⟨k, rfl, h⟩
    | null => cases h
    | bool b => cases h
    | int i => cases h
    | float x => cases h
    | arr items => cases h
    | obj fields => cases h
  · intro h
    rcases h with ⟨k, hn, hget⟩
    rw [hn]
    exact hget

theorem count_chosen {registry : Dict String Sink} (hreg : IsRegistry registry)
    {k : String} (hk : k ∈ Dict.keys registry) (names : List Json) :
    ((names.filterMap (namedSink registry)).map Sink.name).count k =
      names.count (.str k) := by
  induction names with
  | nil =>
      rfl
  | cons n rest ih =>
      rw [List.filterMap_cons, List.count_cons, ← ih]
      cases hfound : namedSink registry n with
      | none =>
          have hne : ¬ n = .str k := by
            intro heq
            rw [heq] at hfound
            rcases List.mem_map.mp hk with ⟨item, hitem, hitemKey⟩
            have hget := (Dict.mem_iff_get? hreg.nodup).mp
              (show (item.1, item.2) ∈ registry from hitem)
            rw [hitemKey] at hget
            rw [namedSink, hget] at hfound
            cases hfound
          simp [hne]
      | some sink =>
          rcases namedSink_eq_some.mp hfound with ⟨k', hn, hget⟩
          have hname := (hreg.name_of_get? hget).2
          rw [hn]
          by_cases hkk : k' = k
          · simp [hname, hkk]
          · simp [hname, hkk]

theorem mem_chosen {registry : Dict String Sink} {sink : Sink} {names : List Json}
    (h : sink ∈ names.filterMap (namedSink registry)) :
    exists k, .str k ∈ names ∧ registry.get? k = some sink := by
  rcases List.mem_filterMap.mp h with ⟨n, hn, hfound⟩
  rcases namedSink_eq_some.mp hfound with ⟨k, hk, hget⟩
  exact ⟨k, hk ▸ hn, hget⟩

theorem nodup_chosen_iff {registry : Dict String Sink} (hreg : IsRegistry registry)
    (names : List Json) :
    ((names.filterMap (namedSink registry)).map Sink.name).Nodup <->
      forall k, k ∈ Dict.keys registry -> names.count (.str k) ≤ 1 := by
  rw [List.nodup_iff_count_le_one]
  constructor
  · intro h k hk
    rw [← count_chosen hreg hk]
    exact h k
  · intro h k
    by_cases hk : k ∈ Dict.keys registry
    · rw [count_chosen hreg hk]
      exact h k hk
    · have hnot : k ∉ (names.filterMap (namedSink registry)).map Sink.name := by
        intro hmem
        rcases List.mem_map.mp hmem with ⟨sink, hsink, hname⟩
        rcases mem_chosen hsink with ⟨k', _, hget⟩
        have hreg' := hreg.name_of_get? hget
        refine hk (List.mem_map.mpr ⟨(k', sink), hreg'.1, ?_⟩)
        exact hreg'.2.symm.trans hname
      rw [List.count_eq_zero_of_not_mem hnot]
      exact Nat.zero_le 1

/-!
# The rule that is applied
-/

theorem selectSinkNames_cons {metricName : String} {rule : Json} {rest : List Json}
    {names : Option (List Json)}
    (h : selectSinkNames metricName (rule :: rest) = .ok names) :
    exists fields pattern, rule = .obj fields ∧ ruleMatch fields = .str pattern ∧
      ((fnmatchcase metricName pattern = true ∧
          exists listed, (ruleSinks fields).iter = .ok listed ∧ names = some listed) ∨
        (fnmatchcase metricName pattern = false ∧
          selectSinkNames metricName rest = .ok names)) := by
  cases rule with
  | obj fields =>
      rw [selectSinkNames] at h
      cases hpattern : ruleMatch fields with
      | str pattern =>
          rw [hpattern, fnmatch] at h
          refine ⟨fields, pattern, rfl, hpattern, ?_⟩
          cases hmatch : fnmatchcase metricName pattern with
          | true =>
              rw [hmatch] at h
              cases hiter : (ruleSinks fields).iter with
              | error e =>
                  rw [hiter] at h
                  cases h
              | ok listed =>
                  rw [hiter] at h
                  exact Or.inl ⟨rfl, listed, rfl, (Except.ok.inj h).symm⟩
          | false =>
              rw [hmatch] at h
              exact Or.inr ⟨rfl, h⟩
      | null => rw [hpattern] at h; cases h
      | bool b => rw [hpattern] at h; cases h
      | int i => rw [hpattern] at h; cases h
      | float x => rw [hpattern] at h; cases h
      | arr items => rw [hpattern] at h; cases h
      | obj items => rw [hpattern] at h; cases h
  | null => cases h
  | bool b => cases h
  | int i => cases h
  | float x => cases h
  | str s => cases h
  | arr items => cases h

theorem namesFit_nil (registry : Dict String Sink) : NamesFit registry [] := by
  constructor
  · intro n hn
    cases hn
  · intro k _
    exact Nat.zero_le 1

theorem rulesFit_iff {registry : Dict String Sink} {metricName : String}
    (items : List Json) :
    RulesFit registry metricName items <->
      exists names, selectSinkNames metricName items = .ok names ∧
        NamesFit registry (names.getD []) := by
  induction items with
  | nil =>
      exact iff_of_true True.intro ⟨none, rfl, namesFit_nil registry⟩
  | cons rule rest ih =>
      rw [RulesFit]
      constructor
      · intro h
        rcases h with ⟨fields, pattern, hrule, hpattern, h⟩
        rw [hrule, selectSinkNames, hpattern, fnmatch]
        by_cases hmatch : fnmatchcase metricName pattern = true
        · rw [if_pos hmatch] at h
          rcases h with ⟨names, hnames, hfit⟩
          rw [hmatch, hnames]
          exact ⟨some names, rfl, hfit⟩
        · rw [if_neg hmatch] at h
          rw [Bool.not_eq_true] at hmatch
          rw [hmatch]
          exact ih.mp h
      · intro h
        rcases h with ⟨names, hselect, hfit⟩
        rcases selectSinkNames_cons hselect with ⟨fields, pattern, hrule, hpattern, hcases⟩
        refine ⟨fields, pattern, hrule, hpattern, ?_⟩
        rcases hcases with ⟨hmatch, listed, hlisted, hnames⟩ | ⟨hmatch, hrest⟩
        · rw [if_pos hmatch]
          rw [hnames] at hfit
          exact ⟨listed, hlisted, hfit⟩
        · rw [hmatch, if_neg Bool.false_ne_true]
          exact ih.mpr ⟨names, hrest, hfit⟩

theorem selectedFrom_cons_of_matches {metricName sinkName : String}
    {rule : Dict String Json} {rest names : List Json}
    (hmatch : Matches metricName (.obj rule)) (hnames : (ruleSinks rule).iter = .ok names) :
    SelectedFrom metricName (.obj rule :: rest) sinkName <-> .str sinkName ∈ names := by
  constructor
  · intro h
    rcases h with ⟨before, found, after, listed, hitems, hbefore, _, hlisted, hmem⟩
    cases before with
    | nil =>
        cases hitems
        rw [hnames] at hlisted
        cases hlisted
        exact hmem
    | cons first before =>
        cases hitems
        exact absurd hmatch (hbefore _ List.mem_cons_self)
  · intro h
    refine ⟨[], rule, rest, names, rfl, ?_, hmatch, hnames, h⟩
    intro r hr
    cases hr

theorem selectedFrom_cons_of_not_matches {metricName sinkName : String} {rule : Json}
    {rest : List Json} (hmatch : ¬ Matches metricName rule) :
    SelectedFrom metricName (rule :: rest) sinkName <->
      SelectedFrom metricName rest sinkName := by
  constructor
  · intro h
    rcases h with ⟨before, found, after, listed, hitems, hbefore, hfound, hlisted, hmem⟩
    cases before with
    | nil =>
        cases hitems
        exact absurd hfound hmatch
    | cons first before =>
        cases hitems
        exact ⟨before, found, after, listed, rfl,
          fun r hr => hbefore r (List.mem_cons_of_mem _ hr), hfound, hlisted, hmem⟩
  · intro h
    rcases h with ⟨before, found, after, listed, hitems, hbefore, hfound, hlisted, hmem⟩
    refine ⟨rule :: before, found, after, listed, by rw [hitems]; rfl, ?_, hfound, hlisted,
      hmem⟩
    intro r hr
    rcases List.mem_cons.mp hr with heq | hr
    · rw [heq]
      exact hmatch
    · exact hbefore r hr

theorem matches_obj_iff {metricName : String} {rule : Dict String Json} {pattern : String}
    (hpattern : ruleMatch rule = .str pattern) :
    Matches metricName (.obj rule) <-> fnmatchcase metricName pattern = true := by
  constructor
  · intro h
    rcases h with ⟨fields, pattern', hrule, hpattern', hmatch⟩
    cases hrule
    rw [hpattern] at hpattern'
    cases hpattern'
    exact hmatch
  · intro h
    exact ⟨rule, pattern, rfl, hpattern, h⟩

theorem selectedFrom_iff {metricName : String} (items : List Json) :
    forall {names : Option (List Json)}, selectSinkNames metricName items = .ok names ->
      forall sinkName, SelectedFrom metricName items sinkName <->
        .str sinkName ∈ names.getD [] := by
  induction items with
  | nil =>
      intro names hselect sinkName
      cases hselect
      refine iff_of_false ?_ (by simp)
      intro h
      rcases h with ⟨before, rule, after, listed, hitems, _⟩
      cases before with
      | nil => cases hitems
      | cons first before => cases hitems
  | cons rule rest ih =>
      intro names hselect sinkName
      rcases selectSinkNames_cons hselect with ⟨fields, pattern, hrule, hpattern, hcases⟩
      have hiff : Matches metricName (.obj fields) <->
          fnmatchcase metricName pattern = true := matches_obj_iff hpattern
      rw [hrule]
      rcases hcases with ⟨hmatch, listed, hlisted, hnames⟩ | ⟨hmatch, hrest⟩
      · rw [selectedFrom_cons_of_matches (hiff.mpr hmatch) hlisted, hnames]
        rfl
      · have hnot : ¬ Matches metricName (.obj fields) := by
          rw [hiff, hmatch]
          exact Bool.false_ne_true
        rw [selectedFrom_cons_of_not_matches hnot]
        exact ih hrest sinkName

/-!
# Never dropping an alert
-/

theorem buildDefaultRouter_of_chosen {host : Host} {settings : Settings}
    {metricName : String} {items : List Json} {names : Option (List Json)}
    {chosen : List Sink} (htruthy : (routingRules host settings).truthy = true)
    (hitems : (routingRules host settings).iter = .ok items)
    (hselect : selectSinkNames metricName items = .ok names)
    (hchosen : chosenSinks (availableSinks host settings) (names.getD []) = .ok chosen) :
    buildDefaultRouter host settings (some metricName) =
      .ok (if chosen = [] then [.log] else chosen) := by
  have hlog := (availableSinks_isRegistry host settings).log
  unfold buildDefaultRouter
  simp only [htruthy, if_true, hitems, hselect, hchosen, hlog]
  cases chosen with
  | nil =>
      rfl
  | cons sink rest =>
      rfl

theorem chosen_of_buildDefaultRouter {host : Host} {settings : Settings}
    {metricName : String} {router : List Sink}
    (htruthy : (routingRules host settings).truthy = true)
    (h : buildDefaultRouter host settings (some metricName) = .ok router) :
    exists items names chosen, (routingRules host settings).iter = .ok items ∧
      selectSinkNames metricName items = .ok names ∧
        chosenSinks (availableSinks host settings) (names.getD []) = .ok chosen := by
  unfold buildDefaultRouter at h
  simp only [htruthy, if_true] at h
  cases hitems : (routingRules host settings).iter with
  | error e =>
      rw [hitems] at h
      cases h
  | ok items =>
      simp only [hitems] at h
      cases hselect : selectSinkNames metricName items with
      | error e =>
          rw [hselect] at h
          cases h
      | ok names =>
          simp only [hselect] at h
          cases hchosen : chosenSinks (availableSinks host settings) (names.getD []) with
          | error e =>
              rw [hchosen] at h
              cases h
          | ok chosen =>
              exact ⟨items, names, chosen, rfl, hselect, hchosen⟩

theorem arr_of_selected {metricName : String} {rules : Json} {items : List Json}
    {names : Option (List Json)} (htruthy : rules.truthy = true)
    (hitems : rules.iter = .ok items)
    (hselect : selectSinkNames metricName items = .ok names) : rules = .arr items := by
  have hfirst : forall (text : String) (later : List Json), items ≠ .str text :: later := by
    intro text later heq
    rw [heq] at hselect
    cases hselect
  cases rules with
  | arr given =>
      cases hitems
      rfl
  | str s =>
      cases hitems
      cases hchars : s.toList with
      | nil =>
          have hempty : s = "" := String.toList_inj.mp hchars
          rw [hempty] at htruthy
          cases htruthy
      | cons c rest =>
          exact absurd (by rw [hchars]; rfl) (hfirst (String.singleton c) _)
  | obj fields =>
      cases hitems
      cases fields with
      | nil =>
          cases htruthy
      | cons field rest =>
          exact absurd rfl (hfirst field.1 _)
  | null => cases hitems
  | bool b => cases hitems
  | int i => cases hitems
  | float x => cases hitems

theorem mem_registry_of_chosen {host : Host} {settings : Settings} {names : List Json}
    {sink : Sink}
    (h : sink ∈ names.filterMap (namedSink (availableSinks host settings))) :
    sink ∈ (availableSinks host settings).map Prod.snd := by
  rcases mem_chosen h with ⟨k, _, hget⟩
  have hreg := (availableSinks_isRegistry host settings).name_of_get? hget
  exact List.mem_map.mpr ⟨(k, sink), hreg.1, rfl⟩

theorem log_mem_registry (host : Host) (settings : Settings) :
    Sink.log ∈ (availableSinks host settings).map Prod.snd := by
  have hreg := availableSinks_isRegistry host settings
  exact List.mem_map.mpr ⟨("log", .log), (hreg.name_of_get? hreg.log).1, rfl⟩

theorem keepsAlert_all {host : Host} {settings : Settings} (metricName : String)
    (hfalsy : (routingRules host settings).truthy = false) :
    KeepsAlert host settings metricName ((availableSinks host settings).map Prod.snd) := by
  have hreg := availableSinks_isRegistry host settings
  refine ⟨List.ne_nil_of_mem (log_mem_registry host settings), fun _ h => h, ?_, ?_⟩
  · rw [hreg.names_eq_keys]
    exact hreg.nodup
  · intro _
    rw [hfalsy, if_neg Bool.false_ne_true]

theorem keepsAlert_chosen {host : Host} {settings : Settings} {metricName : String}
    {items : List Json} {names : Option (List Json)}
    (htruthy : (routingRules host settings).truthy = true)
    (hitems : routingRules host settings = .arr items)
    (hselect : selectSinkNames metricName items = .ok names)
    (hfit : NamesFit (availableSinks host settings) (names.getD [])) :
    KeepsAlert host settings metricName
      (if (names.getD []).filterMap (namedSink (availableSinks host settings)) = [] then
        [.log]
      else (names.getD []).filterMap (namedSink (availableSinks host settings))) := by
  have hreg := availableSinks_isRegistry host settings
  by_cases hnone :
      (names.getD []).filterMap (namedSink (availableSinks host settings)) = []
  · rw [if_pos hnone]
    refine ⟨List.cons_ne_nil _ _, ?_, List.nodup_singleton _, ?_⟩
    · intro sink hsink
      rw [List.mem_singleton.mp hsink]
      exact log_mem_registry host settings
    · intro _
      rw [if_pos htruthy]
  · rw [if_neg hnone]
    refine ⟨hnone, fun sink hsink => mem_registry_of_chosen hsink,
      (nodup_chosen_iff hreg _).mpr hfit.once, ?_⟩
    -- A chosen sink has been selected by name.
    intro hunselected
    rcases List.exists_mem_of_ne_nil _ hnone with ⟨sink, hsink⟩
    rcases mem_chosen hsink with ⟨k, hk, hget⟩
    refine absurd ⟨items, k, hitems, ?_, (selectedFrom_iff items hselect k).mpr hk⟩ hunselected
    exact List.mem_map.mpr ⟨(k, sink), (hreg.name_of_get? hget).1, rfl⟩

/-- The router keeps every alert exactly when the rules are well formed. -/
theorem neverDrops_iff (host : Host) (settings : Settings) (metricName : String) :
    NeverDrops host settings metricName <-> RoutingFits host settings metricName := by
  have hreg := availableSinks_isRegistry host settings
  constructor
  · intro h htruthy
    rcases h with ⟨router, hbuild, hkeeps⟩
    rcases chosen_of_buildDefaultRouter htruthy hbuild with
      ⟨items, names, chosen, hitems, hselect, hchosen⟩
    refine ⟨items, arr_of_selected htruthy hitems hselect, (rulesFit_iff items).mpr ?_⟩
    have hhashable := hashable_of_chosenSinks hchosen
    refine ⟨names, hselect, hhashable, ?_⟩
    rw [chosenSinks_of_hashable hhashable] at hchosen
    cases hchosen
    rw [buildDefaultRouter_of_chosen htruthy hitems hselect
      (chosenSinks_of_hashable hhashable)] at hbuild
    cases hbuild
    rw [← nodup_chosen_iff hreg]
    by_cases hnone :
        (names.getD []).filterMap (namedSink (availableSinks host settings)) = []
    · rw [hnone]
      exact List.nodup_nil
    · have honce := hkeeps.once
      rw [if_neg hnone] at honce
      exact honce
  · intro h
    cases htruthy : (routingRules host settings).truthy with
    | false =>
        refine ⟨_, ?_, keepsAlert_all metricName htruthy⟩
        unfold buildDefaultRouter
        simp only [htruthy]
        rfl
    | true =>
        rcases h htruthy with ⟨items, hitems, hfits⟩
        rcases (rulesFit_iff items).mp hfits with ⟨names, hselect, hfit⟩
        have hiter : (routingRules host settings).iter = .ok items := by
          rw [hitems]
          rfl
        exact ⟨_, buildDefaultRouter_of_chosen htruthy hiter hselect
          (chosenSinks_of_hashable hfit.hashable),
          keepsAlert_chosen htruthy hitems hselect hfit⟩

def unwrappedRule : Settings :=
  { Settings.defaults with
    alertRoutingRules := "\x7b\"match\": \"*\", \"sinks\": [\"log\"]\x7d" }

theorem unwrappedRule_raises :
    ¬ forall (host : Host) (settings : Settings) (metricName : String),
      NeverDrops host settings metricName := by
  intro h
  rcases h (Host.withDigests []) unwrappedRule "cpu_usage" with ⟨router, hbuild, _⟩
  revert hbuild
  have hraises : buildDefaultRouter (Host.withDigests []) unwrappedRule (some "cpu_usage") =
      .error .attributeError := by decide +kernel
  rw [hraises]
  intro hbuild
  cases hbuild

end Alerting
end MetricMesh
