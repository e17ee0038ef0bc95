import MetricMesh.Ingestion.ScraperLoop

/-!
# What the scraper hands to storage

The points of the scraper do not pass through `MetricPoint`.  They satisfy its
constraints exactly when every line of the exporter's text does: when the value
is finite, the lower-cased name keeps to the pattern, and the label block keeps
to the limits.
-/

namespace MetricMesh
namespace Ingestion

open Python

/-!
# Lines that fit
-/

/-- In front of the value stands a name, and after its first brace a label block. -/
def HeadOf (nameLabels name : List Char) (block : Option (List Char)) : Prop :=
  '{' ∉ name ∧
    match block with
    | none => nameLabels = name
    | some labelStr => nameLabels = name ++ '{' :: labelStr

/-- Of several assignments to one label the last one counts. -/
structure BlockFits (labelStr : List Char) : Prop where
  count : ((assignments labelStr).map Prod.fst).dedup.length ≤ 20
  key : forall k, k ∈ (assignments labelStr).map Prod.fst -> k.length ≤ 64
  value : forall k v, Dict.last? (assignments labelStr) k = some v -> v.length ≤ 256

structure NameFits (c : Char) (rest : List Char) : Prop where
  start : c.isLower = true
  chars : forall d, d ∈ rest -> isNameChar d = true ∨ d = '-'
  length : rest.length < 128

/--
However the line is cut into a name, a block and a number, the number is finite
and name and block fit, unless the name does not start with a letter.
-/
def LineFits (host : Host) (line : List Char) : Prop :=
  isSkipped line = false ->
    forall nameLabels valueStr name block value,
      line = nameLabels ++ ' ' :: valueStr -> ' ' ∉ valueStr ->
        host.parseFloat (String.ofList valueStr) = some value ->
          HeadOf nameLabels name block ->
            forall c rest, (host.lower (String.ofList name)).toList = c :: rest ->
              host.isAlpha c = true ->
                isFinite value = true ∧ NameFits c rest ∧
                  forall labelStr, block = some labelStr -> BlockFits labelStr

/-!
# Names
-/

def underscored (c : Char) : Char :=
  if c = '-' then '_' else c

theorem toList_replaceDash (s : String) :
    (replaceChar s '-' "_").toList = s.toList.map underscored := by
  unfold replaceChar
  rw [String.toList_ofList]
  induction s.toList with
  | nil =>
      rfl
  | cons c rest ih =>
      rw [List.flatMap_cons, List.map_cons, ih]
      by_cases hc : c = '-'
      · simp [underscored, hc]
      · simp [underscored, hc]

theorem isAlpha_underscored {host : Host} {c : Char} :
    host.isAlpha (underscored c) = host.isAlpha c := by
  unfold underscored
  by_cases hc : c = '-'
  · rw [if_pos hc, hc]
    rfl
  · rw [if_neg hc]

theorem isNameChar_underscored {c : Char} :
    isNameChar (underscored c) = true <-> isNameChar c = true ∨ c = '-' := by
  unfold underscored
  by_cases hc : c = '-'
  · rw [if_pos hc]
    exact iff_of_true rfl (Or.inr hc)
  · rw [if_neg hc, or_iff_left hc]

theorem safeName_eq_some {host : Host} {name safe : String} :
    safeName host name = some safe <->
      exists c rest, (host.lower name).toList = c :: rest ∧ host.isAlpha c = true ∧
        safe = String.ofList ((c :: rest).map underscored) := by
  have hsafe : replaceChar (host.lower name) '-' "_" =
      String.ofList ((host.lower name).toList.map underscored) := by
    rw [← toList_replaceDash, String.ofList_toList]
  unfold safeName
  rw [hsafe]
  cases (host.lower name).toList with
  | nil =>
      simp
  | cons c rest =>
      simp only [String.toList_ofList, List.map_cons, isAlpha_underscored]
      constructor
      · intro h
        by_cases halpha : host.isAlpha c = true
        · rw [if_pos halpha] at h
          injection h with h
          exact ⟨c, rest, rfl, halpha, h.symm⟩
        · rw [if_neg halpha] at h
          cases h
      · intro h
        rcases h with ⟨c', rest', hlower, halpha, heq⟩
        injection hlower with hc hrest
        rw [hc, if_pos halpha, heq, hrest]

theorem metricNameValid_iff {host : Host} {c : Char} {rest : List Char}
    (hc : host.isAlpha c = true) :
    metricNameValid (String.ofList ((c :: rest).map underscored)) = true <->
      NameFits c rest := by
  have hdash : c ≠ '-' := by
    intro h
    rw [h] at hc
    cases hc
  have hunder : c ≠ '_' := by
    intro h
    rw [h] at hc
    cases hc
  unfold metricNameValid
  rw [String.toList_ofList, List.map_cons]
  simp only [underscored, if_neg hdash, isNameStart, hunder, decide_false, Bool.or_false,
    Bool.and_eq_true, List.all_eq_true, List.mem_map, List.length_map, decide_eq_true_eq]
  constructor
  · intro h
    refine ⟨h.1.1, ?_, h.2⟩
    intro d hd
    exact isNameChar_underscored.mp (h.1.2 (underscored d) ⟨d, hd, rfl⟩)
  · intro h
    refine ⟨⟨h.start, ?_⟩, h.length⟩
    intro e he
    rcases he with ⟨d, hd, heq⟩
    rw [← heq]
    exact isNameChar_underscored.mpr (h.chars d hd)

/-!
# Lines
-/

theorem labelsValid_ofPairs (labelStr : List Char) :
    LabelsValid (Dict.ofPairs (assignments labelStr)) <-> BlockFits labelStr := by
  constructor
  · intro h
    constructor
    · rw [← Dict.length_ofPairs]
      exact h.count
    · intro k hk
      rcases Dict.last?_isSome.mpr hk with ⟨v, hv⟩
      exact h.key (k, v) (Dict.mem_ofPairs.mpr hv)
    · intro k v hv
      exact h.value (k, v) (Dict.mem_ofPairs.mpr hv)
  · intro h
    constructor
    · rw [Dict.length_ofPairs]
      exact h.count
    · intro item hitem
      exact h.key item.1 (Dict.last?_isSome.mp ⟨item.2, Dict.mem_ofPairs.mp hitem⟩)
    · intro item hitem
      exact h.value item.1 item.2 (Dict.mem_ofPairs.mp hitem)

def labelsOf : Option (List Char) -> Dict String String
  | none => []
  | some labelStr => Dict.ofPairs (assignments labelStr)

theorem labelsValid_labelsOf (block : Option (List Char)) :
    LabelsValid (labelsOf block) <->
      forall labelStr, block = some labelStr -> BlockFits labelStr := by
  cases block with
  | none =>
      constructor
      · intro _ labelStr h
        cases h
      · intro _
        exact ⟨Nat.zero_le _, fun _ h => absurd h List.not_mem_nil,
          fun _ h => absurd h List.not_mem_nil⟩
  | some labelStr =>
      rw [labelsOf, labelsValid_ofPairs]
      constructor
      · intro h labelStr' heq
        injection heq with heq
        rw [← heq]
        exact h
      · intro h
        exact h labelStr rfl

theorem nameAndLabels_of_head {nameLabels name : List Char} {block : Option (List Char)}
    (h : HeadOf nameLabels name block) :
    nameAndLabels nameLabels = (name, labelsOf block) := by
  rcases h with ⟨hname, hblock⟩
  cases block with
  | none =>
      have hplain : nameLabels = name := hblock
      rw [nameAndLabels, hplain, cutFirst_eq_none.mpr hname]
      rfl
  | some labelStr =>
      have hcut : nameLabels = name ++ '{' :: labelStr := hblock
      rw [nameAndLabels, hcut, cutFirst_append hname]
      rfl

theorem exists_head (nameLabels : List Char) :
    exists name block, HeadOf nameLabels name block := by
  cases hcut : cutFirst '{' nameLabels with
  | none =>
      exact ⟨nameLabels, none, cutFirst_eq_none.mp hcut, rfl⟩
  | some cut =>
      rcases cutFirst_eq_some.mp hcut with ⟨heq, hname⟩
      exact ⟨cut.1, some cut.2, hname, heq⟩

theorem scrapeLine_eq_some {host : Host} {now : Rat} {line : List Char} {p : PointDict} :
    scrapeLine host now line = some p <->
      isSkipped line = false ∧
        exists nameLabels valueStr name block value c rest,
          line = nameLabels ++ ' ' :: valueStr ∧ ' ' ∉ valueStr ∧
            host.parseFloat (String.ofList valueStr) = some value ∧
            HeadOf nameLabels name block ∧
            (host.lower (String.ofList name)).toList = c :: rest ∧
            host.isAlpha c = true ∧
            p = { metricName := String.ofList ((c :: rest).map underscored)
                  value := value
                  timestamp := .finite now
                  labels := labelsOf block
                  source := "prometheus_scrape" } := by
  unfold scrapeLine
  constructor
  · intro h
    split at h
    · cases h
    · rename_i hskip
      refine ⟨by simpa using hskip, ?_⟩
      split at h
      · cases h
      · rename_i nameLabels valueStr hcut
        rcases cutLast_eq_some.mp hcut with ⟨hline, hvalue⟩
        split at h
        · cases h
        · rename_i value hparse
          rcases exists_head nameLabels with ⟨name, block, hhead⟩
          rw [nameAndLabels_of_head hhead] at h
          rcases Option.map_eq_some_iff.mp h with ⟨safe, hsafe, hp⟩
          rcases safeName_eq_some.mp hsafe with ⟨c, rest, hlower, halpha, heq⟩
          rw [heq] at hp
          exact ⟨nameLabels, valueStr, name, block, value, c, rest, hline, hvalue,
            hparse, hhead, hlower, halpha, hp.symm⟩
  · intro h
    rcases h with ⟨hskip, nameLabels, valueStr, name, block, value, c, rest, hline,
      hvalue, hparse, hhead, hlower, halpha, hp⟩
    rw [if_neg (by simp [hskip]), cutLast_eq_some.mpr ⟨hline, hvalue⟩]
    simp only [hparse, nameAndLabels_of_head hhead]
    rw [safeName_eq_some.mpr ⟨c, rest, hlower, halpha, rfl⟩, hp]
    rfl

theorem checkPoint_of_scrapeLine_iff {host : Host} (now : Rat) {line : List Char} :
    (forall p, scrapeLine host now line = some p -> checkPoint host p = .ok ()) <->
      LineFits host line := by
  have hcheck : forall c rest value block, host.isAlpha c = true ->
      (checkPoint host
          { metricName := String.ofList ((c :: rest).map underscored)
            value := value
            timestamp := .finite now
            labels := labelsOf block
            source := "prometheus_scrape" } = .ok () <->
        isFinite value = true ∧ NameFits c rest ∧
          forall labelStr, block = some labelStr -> BlockFits labelStr) := by
    intro c rest value block halpha
    rw [← metricNameValid_iff halpha, ← labelsValid_labelsOf, checkPoint_eq_ok]
    constructor
    · intro h
      rcases h with ⟨m, hm⟩
      have hname := m.metricName_valid
      have hfinite := m.value_finite
      have hlabels := m.labels_valid
      rw [hm] at hname hfinite hlabels
      exact ⟨hfinite, hname, hlabels⟩
    · intro h
      exact ⟨{ metricName := _, value := _, timestamp := _, labels := _, source := _
               metricName_valid := h.2.1
               source_le := by decide
               value_finite := h.1
               labels_valid := h.2.2 }, rfl⟩
  constructor
  · intro h hskip nameLabels valueStr name block value hline hvalue hparse hhead c rest
      hlower halpha
    exact (hcheck c rest value block halpha).mp (h _ (scrapeLine_eq_some.mpr
      ⟨hskip, nameLabels, valueStr, name, block, value, c, rest, hline, hvalue, hparse,
        hhead, hlower, halpha, rfl⟩))
  · intro h p hp
    rcases scrapeLine_eq_some.mp hp with ⟨hskip, nameLabels, valueStr, name, block, value,
      c, rest, hline, hvalue, hparse, hhead, hlower, halpha, heq⟩
    rw [heq]
    exact (hcheck c rest value block halpha).mpr (h hskip nameLabels valueStr name block
      value hline hvalue hparse hhead c rest hlower halpha)

/-!
# The loop

The loop holds and inserts points that the scraper yielded, and no others.
-/

structure OnlyValid (host : Host) (responses : List ((Nat -> Rat) × List Char)) : Prop where
  yielded : forall p, p ∈ scrapePrometheus host responses -> checkPoint host p = .ok ()
  /-- The buffer of a loop that has stopped is the one that it gave to `bulk_insert`. -/
  inserted : forall batchSize db yields,
    yields.map Yield.point = scrapePrometheus host responses ->
      forall p, p ∈ (scraperLoop batchSize db yields).committed ++
          (scraperLoop batchSize db yields).buffer ->
        checkPoint host p = .ok ()

/-- Only valid points reach storage exactly when every line of every response fits. -/
theorem onlyValid_iff (host : Host) (responses : List ((Nat -> Rat) × List Char)) :
    OnlyValid host responses <->
      forall r, r ∈ responses -> forall line, line ∈ splitlines r.2 ->
        LineFits host line := by
  constructor
  · intro h r hr line hline
    rcases List.mem_iff_getElem?.mp hline with ⟨i, hi⟩
    rw [← checkPoint_of_scrapeLine_iff (r.1 i)]
    intro p hp
    exact h.yielded p (List.mem_flatMap.mpr ⟨r, hr, mem_scrape.mpr ⟨i, line, hi, hp⟩⟩)
  · intro h
    have hyielded : forall p, p ∈ scrapePrometheus host responses ->
        checkPoint host p = .ok () := by
      intro p hp
      rcases List.mem_flatMap.mp hp with ⟨r, hr, hp⟩
      rcases mem_scrape.mp hp with ⟨i, line, hline, hp⟩
      have hfits := h r hr line (List.mem_of_getElem? hline)
      exact (checkPoint_of_scrapeLine_iff (r.1 i)).mpr hfits p hp
    refine ⟨hyielded, ?_⟩
    intro batchSize db yields hyields p hp
    apply hyielded
    rw [← hyields]
    exact scraperLoop_subset hp

def nanHost : Host :=
  { Host.withDigests [] with parseFloat := fun s => if s = "NaN" then some .nan else none }

theorem nanSample_invalid :
    ¬ forall (host : Host) (responses : List ((Nat -> Rat) × List Char)),
      OnlyValid host responses := by
  intro h
  have hcheck := (h nanHost [(fun _ => 1700000000, "queue_wait NaN\n".toList)]).yielded
    { metricName := "queue_wait", value := .nan, timestamp := .finite 1700000000,
      source := "prometheus_scrape" } (by decide +kernel)
  revert hcheck
  decide +kernel

end Ingestion
end MetricMesh
