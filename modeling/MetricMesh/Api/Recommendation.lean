import MetricMesh.Api.DetectorReport

/-!
# The recommended detector

The detectors of a metric are ranked by a stable sort with one key, and the
recommended one is chosen with another key among those of positive precision.
Both agree on the detector that comes first.
-/

namespace MetricMesh
namespace Api

open Foundation
open Python
open Storage

/-!
# The two keys

The sort looks at whether there is a precision and then at the key of the choice.
-/

theorem isRecommendable_iff {d : DetectorEntry} :
    isRecommendable d = true <-> d.precision.isSome = true ∧ 0 < d.precision.getD 0 := by
  unfold isRecommendable
  cases d.precision with
  | none =>
      simp
  | some p =>
      simp

theorem sortKey_le_iff {a b : DetectorEntry} :
    sortKey b ≤ sortKey a <->
      b.precision.isSome < a.precision.isSome ∨
        (b.precision.isSome = a.precision.isSome ∧ choiceKey b ≤ choiceKey a) :=
  Prod.Lex.toLex_le_toLex

theorem isRecommendable_of_sortKey_le {a b : DetectorEntry} (h : sortKey b ≤ sortKey a)
    (hb : isRecommendable b = true) : isRecommendable a = true := by
  rcases isRecommendable_iff.mp hb with ⟨hsome, hpos⟩
  rcases sortKey_le_iff.mp h with hlt | ⟨heq, hle⟩
  · rw [hsome] at hlt
    exact absurd hlt (not_lt.mpr (Bool.le_true _))
  · apply isRecommendable_iff.mpr
    refine ⟨heq ▸ hsome, ?_⟩
    rcases Prod.Lex.toLex_le_toLex.mp hle with hlt | ⟨hsame, _⟩
    · exact lt_trans hpos hlt
    · exact lt_of_lt_of_eq hpos hsame

theorem choiceKey_le_of_sortKey_le {a b : DetectorEntry} (h : sortKey b ≤ sortKey a)
    (hb : isRecommendable b = true) : choiceKey b ≤ choiceKey a := by
  rcases sortKey_le_iff.mp h with hlt | ⟨_, hle⟩
  · rw [(isRecommendable_iff.mp hb).1] at hlt
    exact absurd hlt (not_lt.mpr (Bool.le_true _))
  · exact hle

/-- The choice among ranked detectors is the first of them, if it is recommendable. -/
theorem recommended_of_ranked {detectors : List DetectorEntry}
    (h : detectors.Pairwise (fun a b => sortKey b ≤ sortKey a)) :
    recommended detectors =
      (detectors.head?.filter isRecommendable).map DetectorEntry.detector := by
  unfold recommended
  cases h with
  | nil =>
      rfl
  | @cons a rest hfirst _ =>
      rw [List.head?_cons]
      cases hrec : isRecommendable a with
      | true =>
          have hmax : forall b, b ∈ rest.filter isRecommendable ->
              choiceKey b ≤ choiceKey a := by
            intro b hb
            rcases List.mem_filter.mp hb with ⟨hrest, hb⟩
            exact choiceKey_le_of_sortKey_le (hfirst b hrest) hb
          rw [List.filter_cons_of_pos hrec, argmax_cons_of_le hmax]
          simp [hrec]
      | false =>
          have hnone : rest.filter isRecommendable = [] := by
            apply List.filter_eq_nil_iff.mpr
            intro b hb hrecb
            rw [isRecommendable_of_sortKey_le (hfirst b hb) hrecb] at hrec
            cases hrec
          rw [List.filter_cons_of_neg (by simp [hrec]), hnone]
          simp [hrec]

/-!
# Ranking and recommendation
-/

/--
The detectors of a metric are its rows in the order of the sort, rows with equal
keys in the order in which they came, and the first one is recommended if its
precision is positive.
-/
structure RanksAndRecommends (counts : List CountRow) (recallRows : List RecallRow)
    (m : MetricReport) : Prop where
  perm : m.detectors.Perm ((metricRows counts m.metricName).map (detectorEntry recallRows))
  ordered : m.detectors.Pairwise (fun a b => sortKey b ≤ sortKey a)
  stable : forall key, m.detectors.filter (fun d => sortKey d = key) =
    ((metricRows counts m.metricName).map (detectorEntry recallRows)).filter
      (fun d => sortKey d = key)
  first : m.recommendedDetector =
    (m.detectors.head?.filter isRecommendable).map DetectorEntry.detector

theorem detectors_of_mem {counts : List CountRow} {recallRows : List RecallRow}
    {bucketMinutes : Nat} {m : MetricReport}
    (hm : m ∈ (assembleDetectorReport counts recallRows bucketMinutes).metrics) :
    m.detectors = rank sortKey ((metricRows counts m.metricName).map (detectorEntry recallRows)) ∧
      m.recommendedDetector =
        (m.detectors.head?.filter isRecommendable).map DetectorEntry.detector := by
  have hreport := (mem_metrics.mp hm).2
  have hdetectors : m.detectors =
      rank sortKey ((metricRows counts m.metricName).map (detectorEntry recallRows)) := by
    rw [hreport]
    rfl
  have hrecommended : m.recommendedDetector = recommended m.detectors := by
    rw [hreport]
    rfl
  refine ⟨hdetectors, ?_⟩
  rw [hrecommended]
  apply recommended_of_ranked
  rw [hdetectors]
  exact rank_pairwise _ _

theorem report_ranksAndRecommends (counts : List CountRow) (recallRows : List RecallRow)
    (bucketMinutes : Nat) (m : MetricReport)
    (hm : m ∈ (assembleDetectorReport counts recallRows bucketMinutes).metrics) :
    RanksAndRecommends counts recallRows m := by
  rcases detectors_of_mem hm with ⟨hdetectors, hfirst⟩
  refine ⟨?_, ?_, ?_, hfirst⟩
  · rw [hdetectors]
    exact rank_perm _ _
  · rw [hdetectors]
    exact rank_pairwise _ _
  · intro key
    rw [hdetectors]
    exact filter_rank _ _ _

def labeledCounts : List CountRow :=
  [{ metricName := "cpu.usage", detector := "isolation_forest",
     tp := 8, fp := 2, unlabeled := 0, total := 10 },
   { metricName := "cpu.usage", detector := "statistical",
     tp := 3, fp := 7, unlabeled := 0, total := 10 },
   { metricName := "mem.usage", detector := "prophet",
     tp := 0, fp := 0, unlabeled := 5, total := 5 }]

def labeledRecall : List RecallRow :=
  [{ metricName := "cpu.usage", detector := "isolation_forest",
     coveredBuckets := 9, totalBuckets := 10 },
   { metricName := "cpu.usage", detector := "statistical",
     coveredBuckets := 3, totalBuckets := 10 }]

def cpuUsageReport : MetricReport :=
  metricReport labeledRecall
    ("cpu.usage", (metricRows labeledCounts "cpu.usage").map (detectorEntry labeledRecall))

theorem report_ranksAndRecommends_cpuUsage :
    RanksAndRecommends labeledCounts labeledRecall cpuUsageReport :=
  report_ranksAndRecommends labeledCounts labeledRecall 5 cpuUsageReport
    (by decide +kernel)

/-!
# Precision before and after rounding

The most precise row is the greatest labeled one by its exact precision, then by
its comparative recall and then by its number of alerts.
-/

section MostPrecise

def isLabeled (c : CountRow) : Prop :=
  c.tp + c.fp ≠ 0

def exactPrecision (c : CountRow) : Rat :=
  (c.tp : Rat) / (c.tp + c.fp : Nat)

def shownPrecision (c : CountRow) : Rat :=
  (ratio c.tp (c.tp + c.fp)).getD 0

def tieKey (recallRows : List RecallRow) (c : CountRow) : Rat ×ₗ Nat :=
  toLex ((detectorEntry recallRows c).comparativeRecall.getD 0, c.total)

def exactKey (recallRows : List RecallRow) (c : CountRow) : Rat ×ₗ Rat ×ₗ Nat :=
  toLex (exactPrecision c, tieKey recallRows c)

variable (recallRows : List RecallRow) (rows : List CountRow)

structure MostPrecise (c : CountRow) : Prop where
  mem : c ∈ rows
  labeled : isLabeled c
  greatest : forall v, v ∈ rows -> isLabeled v -> exactKey recallRows v ≤ exactKey recallRows c

/-- The recommendation is the most precise detector, if there is a true positive. -/
structure RecommendsMostPrecise (name : Option String) : Prop where
  none_iff : name = none <-> forall c, c ∈ rows -> c.tp = 0
  mostPrecise : forall detector, name = some detector ->
    exists c, MostPrecise recallRows rows c ∧ c.detector = detector

/-- A less precise row is as precise when shown, but does not come out before. -/
def YieldsTo (v c : CountRow) : Prop :=
  tieKey recallRows v < tieKey recallRows c ∨
    (tieKey recallRows v = tieKey recallRows c ∧
      exists b, MostPrecise recallRows rows b ∧ rows.idxOf b < rows.idxOf v)

/-- Rounding neither takes the greatest precision to zero nor decides against it. -/
def RoundingKeepsMostPrecise : Prop :=
  forall c, MostPrecise recallRows rows c -> 0 < c.tp ->
    0 < shownPrecision c ∧
      forall v, v ∈ rows -> isLabeled v -> exactPrecision v < exactPrecision c ->
        shownPrecision v = shownPrecision c -> YieldsTo recallRows rows v c

end MostPrecise

section Rounded

variable {recallRows : List RecallRow} {rows : List CountRow} {c v : CountRow}

theorem shownPrecision_of_labeled (h : isLabeled c) :
    shownPrecision c = roundedQuotient c.tp (c.tp + c.fp) := by
  unfold shownPrecision
  rw [ratio_of_ne_zero h]
  rfl

theorem shownPrecision_mono (hv : isLabeled v) (hc : isLabeled c)
    (h : exactPrecision v ≤ exactPrecision c) : shownPrecision v ≤ shownPrecision c := by
  rw [shownPrecision_of_labeled hv, shownPrecision_of_labeled hc]
  exact roundedQuotient_mono h

theorem shownPrecision_of_tp_eq_zero (h : c.tp = 0) : shownPrecision c = 0 := by
  unfold shownPrecision
  rw [h]
  unfold ratio
  by_cases hfp : 0 + c.fp = 0
  · rw [if_pos hfp]
    rfl
  · rw [if_neg hfp, roundedQuotient_zero]
    rfl

theorem tp_pos_of_shownPrecision_pos (h : 0 < shownPrecision c) : 0 < c.tp := by
  apply Nat.pos_of_ne_zero
  intro hzero
  rw [shownPrecision_of_tp_eq_zero hzero] at h
  exact lt_irrefl _ h

theorem isLabeled_of_tp_pos (h : 0 < c.tp) : isLabeled c := by
  unfold isLabeled
  omega

theorem exactPrecision_pos_iff : 0 < exactPrecision c <-> 0 < c.tp := by
  unfold exactPrecision
  constructor
  · intro h
    apply Nat.pos_of_ne_zero
    intro hzero
    rw [hzero, Nat.cast_zero, zero_div] at h
    exact lt_irrefl _ h
  · intro h
    apply div_pos
    · exact_mod_cast h
    · exact_mod_cast Nat.add_pos_left h c.fp

def rowKey (recallRows : List RecallRow) (c : CountRow) : Bool ×ₗ Rat ×ₗ Rat ×ₗ Nat :=
  sortKey (detectorEntry recallRows c)

theorem isSome_precision_iff (recallRows : List RecallRow) :
    (detectorEntry recallRows c).precision.isSome = true <-> isLabeled c := by
  show (ratio c.tp (c.tp + c.fp)).isSome = true <-> isLabeled c
  rw [Option.isSome_iff_ne_none, ne_eq, ratio_eq_none_iff]
  rfl

theorem isRecommendable_detectorEntry :
    isRecommendable (detectorEntry recallRows c) = decide (0 < shownPrecision c) := by
  rw [Bool.eq_iff_iff, isRecommendable_iff, decide_eq_true_iff, isSome_precision_iff]
  constructor
  · intro h
    exact h.2
  · intro h
    exact ⟨isLabeled_of_tp_pos (tp_pos_of_shownPrecision_pos h), h⟩

theorem isLabeled_of_rowKey_le (h : rowKey recallRows v ≤ rowKey recallRows c)
    (hv : isLabeled v) : isLabeled c := by
  rw [← isSome_precision_iff recallRows] at hv
  rw [← isSome_precision_iff recallRows]
  rcases sortKey_le_iff.mp h with hlt | ⟨heq, _⟩
  · rw [hv] at hlt
    exact absurd hlt (not_lt.mpr (Bool.le_true _))
  · rw [← heq]
    exact hv

theorem rowKey_le_iff (hv : isLabeled v) (hc : isLabeled c) :
    rowKey recallRows v ≤ rowKey recallRows c <->
      shownPrecision v < shownPrecision c ∨
        (shownPrecision v = shownPrecision c ∧ tieKey recallRows v ≤ tieKey recallRows c) := by
  rw [← isSome_precision_iff recallRows] at hv hc
  unfold rowKey
  rw [sortKey_le_iff, hv, hc]
  constructor
  · intro h
    rcases h with hlt | ⟨_, hle⟩
    · exact absurd hlt (lt_irrefl _)
    · exact Prod.Lex.toLex_le_toLex.mp hle
  · intro h
    exact Or.inr ⟨rfl, Prod.Lex.toLex_le_toLex.mpr h⟩

theorem rowKey_le_iff_of_shown_eq (hv : isLabeled v) (hc : isLabeled c)
    (hshown : shownPrecision v = shownPrecision c) :
    rowKey recallRows v ≤ rowKey recallRows c <->
      tieKey recallRows v ≤ tieKey recallRows c := by
  rw [rowKey_le_iff hv hc, hshown]
  constructor
  · intro h
    rcases h with hlt | ⟨_, hle⟩
    · exact absurd hlt (lt_irrefl _)
    · exact hle
  · intro h
    exact Or.inr ⟨rfl, h⟩

end Rounded

/-!
# The most precise rows
-/

section Greatest

variable {recallRows : List RecallRow} {rows : List CountRow} {b c v : CountRow}

theorem exactKey_le_iff :
    exactKey recallRows v ≤ exactKey recallRows c <->
      exactPrecision v < exactPrecision c ∨
        (exactPrecision v = exactPrecision c ∧ tieKey recallRows v ≤ tieKey recallRows c) :=
  Prod.Lex.toLex_le_toLex

instance : DecidablePred isLabeled :=
  fun c => inferInstanceAs (Decidable (c.tp + c.fp ≠ 0))

theorem exists_mostPrecise (recallRows : List RecallRow) (hc : c ∈ rows)
    (hlabeled : isLabeled c) : exists b, MostPrecise recallRows rows b := by
  have hmem : c ∈ rows.filter isLabeled :=
    List.mem_filter.mpr ⟨hc, decide_eq_true hlabeled⟩
  cases hmax : (rows.filter isLabeled).argmax (exactKey recallRows) with
  | none =>
      rw [List.argmax_eq_none.mp hmax] at hmem
      cases hmem
  | some b =>
      rcases List.mem_filter.mp (List.argmax_mem hmax) with ⟨hb, hbl⟩
      refine ⟨b, hb, of_decide_eq_true hbl, ?_⟩
      intro v hv hvl
      exact List.le_of_mem_argmax (List.mem_filter.mpr ⟨hv, decide_eq_true hvl⟩) hmax

namespace MostPrecise

theorem exactPrecision_le (hb : MostPrecise recallRows rows b) (hv : v ∈ rows)
    (hlabeled : isLabeled v) : exactPrecision v ≤ exactPrecision b := by
  rcases exactKey_le_iff.mp (hb.greatest v hv hlabeled) with hlt | ⟨heq, _⟩
  · exact hlt.le
  · exact heq.le

theorem tp_pos (hb : MostPrecise recallRows rows b) (hv : v ∈ rows) (hpos : 0 < v.tp) :
    0 < b.tp := by
  apply exactPrecision_pos_iff.mp
  exact lt_of_lt_of_le (exactPrecision_pos_iff.mpr hpos)
    (hb.exactPrecision_le hv (isLabeled_of_tp_pos hpos))

theorem exactKey_eq (hb : MostPrecise recallRows rows b) (hc : MostPrecise recallRows rows c) :
    exactPrecision b = exactPrecision c ∧ tieKey recallRows b = tieKey recallRows c := by
  have hkey : exactKey recallRows b = exactKey recallRows c :=
    le_antisymm (hc.greatest b hb.mem hb.labeled) (hb.greatest c hc.mem hc.labeled)
  exact ⟨congrArg (fun k => (ofLex k).1) hkey, congrArg (fun k => (ofLex k).2) hkey⟩

theorem shownPrecision_eq (hb : MostPrecise recallRows rows b)
    (hc : MostPrecise recallRows rows c) : shownPrecision b = shownPrecision c := by
  have hprecision := (hb.exactKey_eq hc).1
  apply le_antisymm
  · exact shownPrecision_mono hb.labeled hc.labeled hprecision.le
  · exact shownPrecision_mono hc.labeled hb.labeled hprecision.ge

theorem of_exactKey_eq (hb : MostPrecise recallRows rows b) (hv : v ∈ rows)
    (hlabeled : isLabeled v) (hkey : exactKey recallRows v = exactKey recallRows b) :
    MostPrecise recallRows rows v := by
  refine ⟨hv, hlabeled, ?_⟩
  intro w hw hwl
  rw [hkey]
  exact hb.greatest w hw hwl

end MostPrecise

end Greatest

/-!
# When the most precise detector is recommended
-/

section Recommendation

variable {recallRows : List RecallRow} {rows : List CountRow} {c w : CountRow}

def recommendedRow (recallRows : List RecallRow) (rows : List CountRow) : Option CountRow :=
  (rows.argmax (rowKey recallRows)).filter fun c => 0 < shownPrecision c

theorem recommendedDetector_of_mem {counts : List CountRow} {bucketMinutes : Nat}
    {m : MetricReport}
    (hm : m ∈ (assembleDetectorReport counts recallRows bucketMinutes).metrics) :
    m.recommendedDetector =
      (recommendedRow recallRows (metricRows counts m.metricName)).map CountRow.detector := by
  rcases detectors_of_mem hm with ⟨hdetectors, hfirst⟩
  have hkey : sortKey ∘ detectorEntry recallRows = rowKey recallRows := rfl
  rw [hfirst, hdetectors, rank_map, List.head?_map, head?_rank, hkey]
  unfold recommendedRow
  cases (metricRows counts m.metricName).argmax (rowKey recallRows) with
  | none =>
      rfl
  | some c =>
      rw [Option.map_some, Option.filter_some, Option.filter_some,
        isRecommendable_detectorEntry]
      split
      · rfl
      · rfl

/-- The recommended row is sorted before all others and shows a positive precision. -/
theorem recommendedRow_eq_some_iff :
    recommendedRow recallRows rows = some w <->
      (w ∈ rows ∧ (forall v, v ∈ rows -> rowKey recallRows v ≤ rowKey recallRows w) ∧
        forall v, v ∈ rows -> rowKey recallRows w ≤ rowKey recallRows v ->
          rows.idxOf w ≤ rows.idxOf v) ∧ 0 < shownPrecision w := by
  unfold recommendedRow
  rw [Option.filter_eq_some_iff, List.argmax_eq_some_iff, decide_eq_true_iff]

theorem recommendedRow_isSome_of_shown (recallRows : List RecallRow) (hc : c ∈ rows)
    (hpos : 0 < shownPrecision c) :
    exists w, recommendedRow recallRows rows = some w := by
  have hlabeled := isLabeled_of_tp_pos (tp_pos_of_shownPrecision_pos hpos)
  cases hmax : rows.argmax (rowKey recallRows) with
  | none =>
      rw [List.argmax_eq_none.mp hmax] at hc
      cases hc
  | some w =>
      have hle := List.le_of_mem_argmax hc hmax
      have hshown : shownPrecision c ≤ shownPrecision w := by
        rcases (rowKey_le_iff hlabeled (isLabeled_of_rowKey_le hle hlabeled)).mp hle with
          hlt | ⟨heq, _⟩
        · exact hlt.le
        · exact heq.le
      refine ⟨w, ?_⟩
      unfold recommendedRow
      rw [hmax]
      exact Option.filter_eq_some_iff.mpr ⟨rfl, decide_eq_true (lt_of_lt_of_le hpos hshown)⟩

theorem mostPrecise_of_recommendedRow (hkeeps : RoundingKeepsMostPrecise recallRows rows)
    (hw : recommendedRow recallRows rows = some w) : MostPrecise recallRows rows w := by
  rcases recommendedRow_eq_some_iff.mp hw with ⟨⟨hmem, hmax, hfirst⟩, hpos⟩
  have htp := tp_pos_of_shownPrecision_pos hpos
  have hlabeled := isLabeled_of_tp_pos htp
  rcases exists_mostPrecise recallRows hmem hlabeled with ⟨b, hb⟩
  have hshown : shownPrecision w = shownPrecision b ∧
      tieKey recallRows b ≤ tieKey recallRows w := by
    have hle := shownPrecision_mono hlabeled hb.labeled (hb.exactPrecision_le hmem hlabeled)
    rcases (rowKey_le_iff hb.labeled hlabeled).mp (hmax b hb.mem) with hlt | ⟨heq, htie⟩
    · exact absurd hlt (not_lt.mpr hle)
    · exact ⟨heq.symm, htie⟩
  rcases exactKey_le_iff.mp (hb.greatest w hmem hlabeled) with hlt | ⟨heq, htie⟩
  · -- A less precise row would have to yield to a most precise one.
    rcases (hkeeps b hb (hb.tp_pos hmem htp)).2 w hmem hlabeled hlt hshown.1 with
      hless | ⟨htied, b', hb', hbefore⟩
    · exact absurd hshown.2 (not_le.mpr hless)
    · have hle := (rowKey_le_iff_of_shown_eq hlabeled hb'.labeled
        (hshown.1.trans (hb.shownPrecision_eq hb'))).mpr (htied.trans (hb.exactKey_eq hb').2).le
      exact absurd (hfirst b' hb'.mem hle) (not_le.mpr hbefore)
  · apply hb.of_exactKey_eq hmem hlabeled
    unfold exactKey
    rw [heq, le_antisymm htie hshown.2]

theorem recommendsMostPrecise_of_keeps (hkeeps : RoundingKeepsMostPrecise recallRows rows) :
    RecommendsMostPrecise recallRows rows
      ((recommendedRow recallRows rows).map CountRow.detector) := by
  constructor
  · rw [Option.map_eq_none_iff]
    constructor
    · intro hnone c hc
      by_contra hne
      have hpos := Nat.pos_of_ne_zero hne
      rcases exists_mostPrecise recallRows hc (isLabeled_of_tp_pos hpos) with ⟨b, hb⟩
      have hshown := (hkeeps b hb (hb.tp_pos hc hpos)).1
      rcases recommendedRow_isSome_of_shown recallRows hb.mem hshown with ⟨w, hw⟩
      rw [hw] at hnone
      cases hnone
    · intro hzero
      cases hw : recommendedRow recallRows rows with
      | none =>
          rfl
      | some w =>
          rcases recommendedRow_eq_some_iff.mp hw with ⟨⟨hmem, _⟩, hpos⟩
          rw [shownPrecision_of_tp_eq_zero (hzero w hmem)] at hpos
          exact absurd hpos (lt_irrefl _)
  · intro detector hdetector
    rcases Option.map_eq_some_iff.mp hdetector with ⟨w, hw, hname⟩
    exact ⟨w, mostPrecise_of_recommendedRow hkeeps hw, hname⟩

theorem yieldsTo_of_recommendedRow (hw : recommendedRow recallRows rows = some w)
    (hbest : MostPrecise recallRows rows w) {v : CountRow} (hv : v ∈ rows)
    (hlabeled : isLabeled v) (hless : exactPrecision v < exactPrecision w)
    (hsame : shownPrecision v = shownPrecision w) : YieldsTo recallRows rows v w := by
  rcases recommendedRow_eq_some_iff.mp hw with ⟨⟨hmem, hmax, hfirst⟩, _⟩
  have htie := (rowKey_le_iff_of_shown_eq hlabeled hbest.labeled hsame).mp (hmax v hv)
  rcases lt_or_eq_of_le htie with hlt | heq
  · exact Or.inl hlt
  · right
    refine ⟨heq, w, hbest, ?_⟩
    have hle := (rowKey_le_iff_of_shown_eq hbest.labeled hlabeled hsame.symm).mpr heq.ge
    apply lt_of_le_of_ne (hfirst v hv hle)
    intro hidx
    rw [(List.idxOf_inj hmem).mp hidx] at hless
    exact lt_irrefl _ hless

/-- Without the condition, some most precise row is not the one that is sorted first. -/
theorem keeps_of_recommendsMostPrecise (hnodup : (rows.map CountRow.detector).Nodup)
    (h : RecommendsMostPrecise recallRows rows
      ((recommendedRow recallRows rows).map CountRow.detector)) :
    RoundingKeepsMostPrecise recallRows rows := by
  intro c hc htp
  cases hw : recommendedRow recallRows rows with
  | none =>
      have hzero := h.none_iff.mp (by rw [hw]; rfl) c hc.mem
      omega
  | some w =>
      rcases recommendedRow_eq_some_iff.mp hw with ⟨⟨hmem, _⟩, hpos⟩
      rcases h.mostPrecise w.detector (by rw [hw]; rfl) with ⟨b, hb, hname⟩
      -- Detectors name their rows, so the recommended row itself is most precise.
      have hbest : MostPrecise recallRows rows w :=
        List.inj_on_of_nodup_map hnodup hb.mem hmem hname ▸ hb
      have hshown := hc.shownPrecision_eq hbest
      refine ⟨hshown ▸ hpos, ?_⟩
      intro v hv hlabeled hless hsame
      rw [(hc.exactKey_eq hbest).1] at hless
      have hyields := yieldsTo_of_recommendedRow hw hbest hv hlabeled hless
        (hsame.trans hshown)
      unfold YieldsTo
      rw [(hc.exactKey_eq hbest).2]
      exact hyields

theorem nodup_metricRows {counts : List CountRow}
    (h : (counts.map fun c => (c.metricName, c.detector)).Nodup) (metric : String) :
    ((metricRows counts metric).map CountRow.detector).Nodup := by
  have hkeys : ((metricRows counts metric).map fun c => (c.metricName, c.detector)).Nodup :=
    h.sublist (List.filter_sublist.map _)
  apply (List.nodup_map_iff_inj_on (List.Nodup.of_map _ hkeys)).mpr
  intro c hc v hv hname
  have hcm := of_decide_eq_true (List.mem_filter.mp hc).2
  have hvm := of_decide_eq_true (List.mem_filter.mp hv).2
  apply List.inj_on_of_nodup_map hkeys hc hv
  rw [hcm, hvm, hname]

/--
For counts with one row for each metric and detector, the most precise detector of
a metric is recommended exactly when rounding to four decimals leaves it in front.
-/
theorem report_recommendsMostPrecise_iff (counts : List CountRow) (recallRows : List RecallRow)
    (bucketMinutes : Nat)
    (hcounts : (counts.map fun c => (c.metricName, c.detector)).Nodup) (m : MetricReport)
    (hm : m ∈ (assembleDetectorReport counts recallRows bucketMinutes).metrics) :
    RecommendsMostPrecise recallRows (metricRows counts m.metricName) m.recommendedDetector <->
      RoundingKeepsMostPrecise recallRows (metricRows counts m.metricName) := by
  rw [recommendedDetector_of_mem hm]
  constructor
  · exact keeps_of_recommendsMostPrecise (nodup_metricRows hcounts m.metricName)
  · exact recommendsMostPrecise_of_keeps

end Recommendation

theorem report_recommendsMostPrecise_iff_cpuUsage :
    RecommendsMostPrecise labeledRecall (metricRows labeledCounts "cpu.usage")
        cpuUsageReport.recommendedDetector <->
      RoundingKeepsMostPrecise labeledRecall (metricRows labeledCounts "cpu.usage") :=
  report_recommendsMostPrecise_iff labeledCounts labeledRecall 5 (by decide) cpuUsageReport
    (by decide +kernel)

/-!
Precisions of 100/199 and 101/201 are both shown as 0.5025, and the larger number of
alerts decides for the less precise detector.
-/

def closeRow : CountRow where
  metricName := "cpu.usage"
  detector := "prophet"
  tp := 100
  fp := 99
  unlabeled := 0
  total := 199

def closerRow : CountRow where
  metricName := "cpu.usage"
  detector := "statistical"
  tp := 101
  fp := 100
  unlabeled := 0
  total := 201

def closeReport : MetricReport :=
  metricReport [] ("cpu.usage", [detectorEntry [] closeRow, detectorEntry [] closerRow])

theorem closePrecisions_misranked :
    ¬ forall (counts : List CountRow) (recallRows : List RecallRow) (bucketMinutes : Nat),
      (counts.map fun c => (c.metricName, c.detector)).Nodup ->
        forall m, m ∈ (assembleDetectorReport counts recallRows bucketMinutes).metrics ->
          RecommendsMostPrecise recallRows (metricRows counts m.metricName)
            m.recommendedDetector := by
  intro h
  have hreport := h [closeRow, closerRow] [] 5 (by decide) closeReport (by decide +kernel)
  rcases hreport.mostPrecise "statistical" (by decide +kernel) with ⟨c, hc, hname⟩
  have hrow : c = closerRow := by
    rcases List.mem_pair.mp (List.mem_filter.mp hc.mem).1 with heq | heq
    · rw [heq] at hname
      exact absurd hname (by decide)
    · exact heq
  have hle := hc.greatest closeRow (by decide) (by decide)
  rw [hrow] at hle
  exact absurd hle (by decide +kernel)

/-- A precision that is shown as zero leaves a metric without a recommendation. -/
example :
    (metricReport [] ("cpu.usage", [detectorEntry []
      { closeRow with tp := 1, fp := 99999, total := 100000 }])).recommendedDetector =
        none := by
  decide +kernel

end Api
end MetricMesh
