import MetricMesh.Ingestion.SampleRoundTrip
import MetricMesh.Ingestion.ScraperLoop

/-!
# Pages of the exposition format

An exporter answers with a page of comments, blank lines and sample lines.  When
every sample of a page is one that the line parser recovers, the scraper yields
the samples of the page in their order, and the loop stores them batch by batch.
-/

namespace MetricMesh
namespace Ingestion

open Foundation
open Python
open Storage

inductive PageLine (host : Host) where
  | sample (s : Sample host)
  /-- A `HELP` or `TYPE` line or any other comment, after its hash sign. -/
  | comment (text : List Char)
  | blank (spaces : List Char)

namespace PageLine

variable {host : Host}

def render : PageLine host -> List Char
  | .sample s => s.render
  | .comment text => '#' :: text
  | .blank spaces => spaces

/-- The line is one line, and its sample is one that the parser recovers. -/
def Plain : PageLine host -> Prop
  | .sample s => PlainValues s ∧ EndsWithValue s
  | .comment text => forall c, c ∈ text -> isLineBreak c = false
  | .blank spaces => forall c, c ∈ spaces -> isSpace c = true ∧ isLineBreak c = false

def sample? : PageLine host -> Option (Sample host)
  | .sample s => some s
  | _ => none

end PageLine

section Pages

variable {host : Host}

def pageText (lines : List (PageLine host)) : List Char :=
  (lines.map PageLine.render).flatMap fun line => line ++ ['\n']

def pointOf (now : Rat) (s : Sample host) : PointDict where
  metricName := String.ofList (s.name.toList.map Char.toLower)
  value := .finite s.value
  timestamp := .finite now
  labels := s.labels
  source := "prometheus_scrape"

/-!
# One line
-/

theorem readBack_labels {s : Sample host} (h : PlainValues s) :
    s.labels.map (fun l => (l.1, readBack l.2)) = s.labels := by
  conv_rhs => rw [← List.map_id s.labels]
  apply List.map_congr_left
  intro l hl
  rw [readBack_eq_iff.mpr fun c hc => (h l hl c hc).1]
  rfl

theorem scrapeLine_sample (now : Rat) {s : Sample host} (hplain : PlainValues s)
    (hends : EndsWithValue s) : scrapeLine host now s.render = some (pointOf now s) := by
  rcases hends with htimestamp | ⟨t, htimestamp, hnil, hbraces, hparse⟩
  · rw [scrapeLine_render_of_none s htimestamp (comma_of_plain s hplain),
      readBack_labels hplain]
    rfl
  · rw [scrapeLine_render_of_empty s htimestamp hnil hbraces, hparse]
    unfold pointOf
    rw [hnil]
    rfl

theorem scrapeLine_plain (now : Rat) {line : PageLine host} (h : line.Plain) :
    scrapeLine host now line.render = line.sample?.map (pointOf now) := by
  cases line with
  | sample s =>
      exact scrapeLine_sample now h.1 h.2
  | comment text =>
      have hskip : isSkipped ('#' :: text) = true := by simp [isSkipped]
      exact if_pos hskip
  | blank spaces =>
      have hspaces : spaces.dropWhile isSpace = [] :=
        List.dropWhile_eq_nil_iff.mpr fun c hc => (h c hc).1
      have hskip : isSkipped spaces = true := by simp [isSkipped, stripChars, hspaces]
      exact if_pos hskip

theorem unbroken_of_plain {line : PageLine host} (h : line.Plain) :
    forall c, c ∈ line.render -> isLineBreak c = false := by
  cases line with
  | sample s =>
      exact render_unbroken s fun l hl c hc => (h.1 l hl c hc).2.2
  | comment text =>
      intro c hc
      rcases List.mem_cons.mp hc with heq | hc
      · rw [heq]
        decide
      · exact h c hc
  | blank spaces =>
      exact fun c hc => (h c hc).2

/-!
# Pages and responses
-/

/-- The samples of a page, each with the time at which its line is read. -/
def timedSamples (clock : Nat -> Rat) (lines : List (PageLine host)) :
    List (Rat × Sample host) :=
  lines.zipIdx.filterMap fun l => l.1.sample?.map (Prod.mk (clock l.2))

theorem scrape_page (clock : Nat -> Rat) {lines : List (PageLine host)}
    (h : forall line, line ∈ lines -> line.Plain) :
    scrape host clock (pageText lines) =
      (timedSamples clock lines).map fun e => pointOf e.1 e.2 := by
  have hunbroken : forall line, line ∈ lines.map PageLine.render ->
      forall c, c ∈ line -> isLineBreak c = false := by
    rw [List.forall_mem_map]
    exact fun line hline => unbroken_of_plain (h line hline)
  unfold scrape pageText timedSamples
  rw [splitlines_lines hunbroken, List.zipIdx_map, List.filterMap_map, List.map_filterMap]
  apply List.filterMap_congr
  intro l hl
  have hline := scrapeLine_plain (clock l.2) (h l.1 (List.fst_mem_of_mem_zipIdx hl))
  rw [Option.map_map]
  exact hline

def exposed (pages : List ((Nat -> Rat) × List (PageLine host))) :
    List (Rat × Sample host) :=
  pages.flatMap fun r => timedSamples r.1 r.2

def responses (pages : List ((Nat -> Rat) × List (PageLine host))) :
    List ((Nat -> Rat) × List Char) :=
  pages.map fun r => (r.1, pageText r.2)

theorem scrapePrometheus_responses {pages : List ((Nat -> Rat) × List (PageLine host))}
    (h : forall r, r ∈ pages -> forall line, line ∈ r.2 -> line.Plain) :
    scrapePrometheus host (responses pages) =
      (exposed pages).map fun e => pointOf e.1 e.2 := by
  unfold scrapePrometheus responses exposed
  rw [List.flatMap_map, List.map_flatMap]
  apply List.flatMap_congr
  intro r hr
  exact scrape_page r.1 (h r hr)

/-!
# From a page to the table
-/

def sampleRow (e : Rat × Sample host) : MetricRow where
  time := (toTimestamp (.finite e.1)).getD 0
  metricName := String.ofList (e.2.name.toList.map Char.toLower)
  value := .finite e.2.value
  tenant := "default"

theorem metricRows_pointOf (es : List (Rat × Sample host))
    (h : forall e, e ∈ es -> (toTimestamp (.finite e.1)).isSome = true) :
    metricRows "default" ((es.map fun e => pointOf e.1 e.2).map PointDict.stored) =
      some (es.map sampleRow) := by
  induction es with
  | nil =>
      rfl
  | cons e rest ih =>
      have hrest := ih fun e' he' => h e' (List.mem_cons_of_mem e he')
      rcases Option.isSome_iff_exists.mp (h e List.mem_cons_self) with ⟨time, htime⟩
      have hstored : toTimestamp (pointOf e.1 e.2).stored.timestamp = some time := htime
      simp only [List.map_cons, metricRows, hstored, hrest]
      unfold sampleRow
      rw [htime]
      rfl

theorem scraperLoop_store_of_committed {batchSize n : Nat} {db : Database}
    {yields : List Yield} {es : List (Rat × Sample host)}
    (htimes : forall e, e ∈ es -> (toTimestamp (.finite e.1)).isSome = true)
    (hcommitted : (scraperLoop batchSize db yields).committed =
      (es.map fun e => pointOf e.1 e.2).take n) :
    (scraperLoop batchSize db yields).store =
      { db with metrics := db.metrics ++ (es.take n).map sampleRow } := by
  rcases scraperLoop_store batchSize db yields with ⟨rows, hrows, hstore⟩
  rw [hcommitted, ← List.map_take,
    metricRows_pointOf _ fun e he => htimes e (List.mem_of_mem_take he)] at hrows
  injection hrows with hrows
  rw [hstore, hrows]

/--
What an exporter exposes is what the loop stores: the samples of its pages in
their order, in the whole batches that come before the first one whose session
raises.
-/
theorem exposed_samples_stored {batchSize : Nat} (hbatch : 1 ≤ batchSize) (db : Database)
    (pages : List ((Nat -> Rat) × List (PageLine host)))
    (hplain : forall r, r ∈ pages -> forall line, line ∈ r.2 -> line.Plain)
    (htimes : forall e, e ∈ exposed pages -> (toTimestamp (.finite e.1)).isSome = true)
    (yields : List Yield)
    (hyields : yields.map Yield.point = scrapePrometheus host (responses pages)) :
    exists batches,
      BatchLoop.UntilRaise batchSize (fun y => y.sessionRaises = true) yields batches ∧
        (scraperLoop batchSize db yields).store =
          { db with
            metrics := db.metrics ++
              ((exposed pages).take (batches * batchSize)).map sampleRow } := by
  have hpoints : yields.map Yield.point = (exposed pages).map fun e => pointOf e.1 e.2 :=
    hyields.trans (scrapePrometheus_responses hplain)
  have hitems : forall y, y ∈ yields ->
      (toTimestamp y.point.timestamp).isSome = true := by
    intro y hy
    have hmem : y.point ∈ yields.map Yield.point := List.mem_map_of_mem hy
    rw [hpoints] at hmem
    rcases List.mem_map.mp hmem with ⟨e, he, heq⟩
    rw [← heq]
    exact htimes e he
  rcases @BatchLoop.committed_untilRaise _ _ _ batchSize Yield.point insertBuffer
    (fun p => (toTimestamp p.timestamp).isSome = true) (fun y => y.sessionRaises = true)
    hbatch (fun y _ batch hbuffer => by
      rw [insertBuffer_isSome_iff, and_iff_left hbuffer, Bool.not_eq_true])
    _ yields { store := db } rfl hitems rfl rfl with ⟨batches, huntil, hcommitted⟩
  rw [hpoints] at hcommitted
  exact ⟨batches, huntil, scraperLoop_store_of_committed htimes hcommitted⟩

end Pages

/-! A page of two samples, whose lines are read a second apart. -/

def oneRoute : Sample oneHost :=
  { listedRoutes with
    labels := [("path", "/a")]
    labels_isName := by
      intro l hl
      rw [List.mem_singleton.mp hl]
      exact listedRoutes.labels_isName ("path", "/a,/b") List.mem_cons_self
    labels_distinct := List.nodup_singleton _ }

def routesPage : List (PageLine oneHost) :=
  [.comment " TYPE routes gauge".toList, .sample oneRoute, .sample oneRoute, .blank []]

def secondHand (line : Nat) : Rat :=
  60 + line

def routesReads : List Yield :=
  [{ point := pointOf 61 oneRoute },
    { point := pointOf 62 oneRoute, sessionRaises := true }]

theorem oneRoute_plain : (PageLine.sample oneRoute).Plain := by
  refine ⟨?_, Or.inl rfl⟩
  intro l hl
  rw [List.mem_singleton.mp hl]
  have hbare : "/a".toList.all (fun c => isBare c && c ≠ ',' && !isLineBreak c) = true := by
    decide
  intro c hc
  simpa [and_assoc] using List.all_eq_true.mp hbare c hc

theorem routesPage_plain : forall line, line ∈ routesPage -> line.Plain := by
  have hcomment : (@PageLine.comment oneHost " TYPE routes gauge".toList).Plain := by
    have hunbroken : " TYPE routes gauge".toList.all (fun c => !isLineBreak c) = true := by
      decide
    intro c hc
    simpa using List.all_eq_true.mp hunbroken c hc
  have hblank : (@PageLine.blank oneHost []).Plain :=
    fun c hc => absurd hc List.not_mem_nil
  simpa [routesPage] using ⟨hcomment, oneRoute_plain, hblank⟩

theorem exposed_samples_stored_routesPage :
    (scraperLoop 1 {} routesReads).store.metrics =
        [{ time := 61000000, metricName := "routes", value := .finite 1, tenant := "default" }] ∧
      exists batches,
        BatchLoop.UntilRaise 1 (fun y => y.sessionRaises = true) routesReads batches ∧
          (scraperLoop 1 {} routesReads).store =
            { ({} : Database) with
              metrics := ({} : Database).metrics ++
                ((exposed [(secondHand, routesPage)]).take (batches * 1)).map sampleRow } :=
  ⟨by decide +kernel,
    exposed_samples_stored (Nat.le_refl 1) {} [(secondHand, routesPage)]
      (by
        intro r hr
        rw [List.mem_singleton.mp hr]
        exact routesPage_plain)
      (by decide +kernel) routesReads (by decide +kernel)⟩

end Ingestion
end MetricMesh
