import MetricMesh.Ingestion.Validators
import MetricMesh.Python.Parts

/-!
# The Prometheus scraper

The scraper cuts every line of an exporter's text at its last space, takes what
follows for the value, and reads the labels between the first brace and the
closing ones by splitting at commas.  A line that it cannot cut, whose value is
not a number or whose name does not start with a letter is passed over.
-/

namespace MetricMesh
namespace Ingestion

open Python

/-- One assignment of the label block: a part that contains an equals sign. -/
def labelOf (part : List Char) : Option (String × String) :=
  (cutFirst '=' part).map fun cut =>
    (String.ofList (stripChars cut.1),
      String.ofList (stripChar '"' (stripChars cut.2)))

def assignments (labelStr : List Char) : List (String × String) :=
  ((rstripChar '}' labelStr).splitOn ',').filterMap labelOf

def nameAndLabels (nameLabels : List Char) : List Char × Dict String String :=
  match cutFirst '{' nameLabels with
  | some (name, labelStr) => (name, Dict.ofPairs (assignments labelStr))
  | none => (nameLabels, [])

def isSkipped (line : List Char) : Bool :=
  line.head? = some '#' || stripChars line = []

section Scrape

variable (host : Host)

def scrapeLine (now : Rat) (line : List Char) : Option PointDict :=
  if isSkipped line then none
  else
    match cutLast ' ' line with
    | none => none
    | some (nameLabels, valueStr) =>
        match host.parseFloat (String.ofList valueStr) with
        | none => none
        | some value =>
            let parsed := nameAndLabels nameLabels
            (safeName host (String.ofList parsed.1)).map fun safe =>
              { metricName := safe
                value := value
                timestamp := .finite now
                labels := parsed.2
                source := "prometheus_scrape" }

/-- The points of one response; the clock is read anew for the line at each index. -/
def scrape (clock : Nat -> Rat) (text : List Char) : List PointDict :=
  (splitlines text).zipIdx.filterMap fun l => scrapeLine host (clock l.2) l.1

def scrapePrometheus (responses : List ((Nat -> Rat) × List Char)) : List PointDict :=
  responses.flatMap fun r => scrape host r.1 r.2

end Scrape

theorem mem_scrape {host : Host} {clock : Nat -> Rat} {text : List Char} {p : PointDict} :
    p ∈ scrape host clock text <->
      exists i line, (splitlines text)[i]? = some line ∧
        scrapeLine host (clock i) line = some p := by
  unfold scrape
  rw [List.mem_filterMap]
  constructor
  · intro h
    rcases h with ⟨l, hl, hp⟩
    exact ⟨l.2, l.1, List.mem_zipIdx_iff_getElem?.mp hl, hp⟩
  · intro h
    rcases h with ⟨i, line, hline, hp⟩
    exact ⟨(line, i), List.mem_zipIdx_iff_getElem?.mpr hline, hp⟩

end Ingestion
end MetricMesh
