/-
This file counts what a server does and writes the counts for a monitor to collect.
What is counted are events; each adds to one counter, and those that take time also
to a histogram of how long they took. A counter or histogram stands for all events
with the same labels and is written only once there has been one.
-/

import HandleFederation.Decimal.Shortest

namespace HandleFederation

/-! ### What is counted -/

/-- The kinds of counters. -/
inductive CounterKind where
  | requestsServed
  | resolutions
  | requestsMade
  | cacheHits
  | cacheMisses
  | jobs
deriving DecidableEq, Repr

/-- The kinds of histograms. -/
inductive HistogramKind where
  | requestsServed
  | requestsMade
  | jobs
deriving DecidableEq, Repr

/-- Something that is counted. -/
inductive Event where
  /-- A request was answered. -/
  | requestServed (method path : String) (status : Nat) (seconds : Float)
  /-- A handle was resolved, or could not be. -/
  | resolution (path outcome : String)
  /-- Another instance was asked. -/
  | requestMade (kind result : String) (seconds : Float)
  /-- A cached profile was looked for. -/
  | cacheAccess (kind : String) (hit : Bool)
  /-- A job in the background came to its end. -/
  | job (kind status : String) (seconds : Float)

/-- The name, the description and the names of the labels of counters. -/
structure Family where
  name : String
  help : String
  labels : List String

/-- The family of a kind of counters. Labels stand in the order of their names. -/
def CounterKind.family : CounterKind → Family
  | .requestsServed =>
    ⟨"http_requests_total", "Total number of HTTP requests", ["method", "path", "status"]⟩
  | .resolutions =>
    ⟨"handle_resolutions_total", "Total number of handle resolutions", ["outcome", "path"]⟩
  | .requestsMade =>
    ⟨"federation_requests_total", "Total number of outbound federation requests", ["kind", "result"]⟩
  | .cacheHits => ⟨"cache_hits_total", "Total number of cache hits", ["cache_type"]⟩
  | .cacheMisses => ⟨"cache_misses_total", "Total number of cache misses", ["cache_type"]⟩
  | .jobs =>
    ⟨"background_jobs_total", "Total number of background job executions", ["job_type", "status"]⟩

/-- The family of a kind of histograms. -/
def HistogramKind.family : HistogramKind → Family
  | .requestsServed =>
    ⟨"http_request_duration_seconds", "HTTP request latencies in seconds", ["method", "path"]⟩
  | .requestsMade =>
    ⟨"federation_request_duration_seconds", "Outbound federation request latencies in seconds",
      ["kind"]⟩
  | .jobs =>
    ⟨"background_job_duration_seconds", "Background job execution time in seconds", ["job_type"]⟩

/-- The upper bounds of the classes of a kind of histograms; one more class has no bound. -/
def HistogramKind.bounds : HistogramKind → List Float
  | .requestsServed => [0.001, 0.005, 0.01, 0.025, 0.05, 0.1, 0.25, 0.5, 1.0, 2.5, 5.0, 10.0]
  | .requestsMade => [0.01, 0.05, 0.1, 0.25, 0.5, 1.0, 2.5, 5.0, 10.0]
  | .jobs => [0.001, 0.01, 0.1, 0.5, 1.0, 5.0, 10.0, 30.0]

/-! ### Counts -/

/-- How many values of each class there were, how many in all, and their sum. Each class counts the
classes below it as well. -/
structure Histogram where
  classes : List (Float × Nat)
  sum : Float
  count : Nat

/-- A histogram of no values. -/
def Histogram.empty (kind : HistogramKind) : Histogram :=
  ⟨kind.bounds.map fun bound => (bound, 0), 0, 0⟩

/-- Adds a value to a histogram. -/
def Histogram.observe (value : Float) (histogram : Histogram) : Histogram :=
  { classes := histogram.classes.map fun (bound, count) =>
      (bound, if value ≤ bound then count + 1 else count)
    sum := histogram.sum + value
    count := histogram.count + 1 }

/-- All counts. Each entry stands for the events of one kind with the same values of the labels. -/
structure Metrics where
  counters : List ((CounterKind × List String) × Nat)
  histograms : List ((HistogramKind × List String) × Histogram)

namespace Metrics

/-- The counts before any event. -/
def empty : Metrics := ⟨[], []⟩

/-- Changes the entry of a key, or adds one made from a given start. -/
def adjust {Key Value : Type} [DecidableEq Key] (key : Key) (start : Value) (change : Value → Value) :
    List (Key × Value) → List (Key × Value)
  | [] => [(key, change start)]
  | (other, value) :: rest =>
    if other = key then (other, change value) :: rest
    else (other, value) :: adjust key start change rest

/-- Adds one to a counter. -/
def increment (kind : CounterKind) (labels : List String) (metrics : Metrics) : Metrics :=
  { metrics with counters := adjust (kind, labels) 0 (· + 1) metrics.counters }

/-- Adds a value to a histogram. -/
def observe (kind : HistogramKind) (labels : List String) (seconds : Float) (metrics : Metrics) :
    Metrics :=
  { metrics with
    histograms :=
      adjust (kind, labels) (Histogram.empty kind) (Histogram.observe seconds) metrics.histograms }

/-- Counts an event. -/
def record (event : Event) (metrics : Metrics) : Metrics :=
  match event with
  | .requestServed method path status seconds =>
    (metrics.increment .requestsServed [method, path, toString status]).observe .requestsServed
      [method, path] seconds
  | .resolution path outcome => metrics.increment .resolutions [outcome, path]
  | .requestMade kind result seconds =>
    (metrics.increment .requestsMade [kind, result]).observe .requestsMade [kind] seconds
  | .cacheAccess kind hit => metrics.increment (if hit then .cacheHits else .cacheMisses) [kind]
  | .job kind status seconds => (metrics.increment .jobs [kind, status]).observe .jobs [kind] seconds

/-- The value of a counter. -/
def counter (metrics : Metrics) (kind : CounterKind) (labels : List String) : Nat :=
  (metrics.counters.lookup (kind, labels)).getD 0

/-- The sum of the counters of a kind. -/
def total (metrics : Metrics) (kind : CounterKind) : Nat :=
  ((metrics.counters.filter fun entry => entry.1.1 = kind).map Prod.snd).foldr (· + ·) 0

/-! ### Writing -/

/-- The value of a label as it stands between quotation marks. -/
def escapeLabel (value : String) : String :=
  String.ofList (value.toList.flatMap fun letter =>
    if letter == '\\' then ['\\', '\\']
    else if letter == '\n' then ['\\', 'n']
    else if letter == '"' then ['\\', '"']
    else [letter])

/-- A label with its value. -/
def writeLabel (label : String × String) : String :=
  label.1 ++ "=\"" ++ escapeLabel label.2 ++ "\""

/-- A line with a name, labels and a value. -/
def sample (name : String) (labels : List (String × String)) (value : String) : String :=
  name ++ "\x7b" ++ String.intercalate "," (labels.map writeLabel) ++ "\x7d " ++ value

/-- Whether one list of texts comes before or equals another of the same length. -/
def labelsPrecede : List String → List String → Bool
  | first :: rest, other :: others => if first = other then labelsPrecede rest others else first < other
  | _, _ => true

/-- The two lines that describe a family. -/
def header (family : Family) (type : String) : List String :=
  [s!"# HELP {family.name} {family.help}", s!"# TYPE {family.name} {type}"]

/-- The entries of a kind, by their labels. -/
def entriesOf {Kind Value : Type} [DecidableEq Kind] (kind : Kind)
    (entries : List ((Kind × List String) × Value)) : List (List String × Value) :=
  let own := entries.filterMap fun entry =>
    if entry.1.1 = kind then some (entry.1.2, entry.2) else none
  own.mergeSort fun left right => labelsPrecede left.1 right.1

/-- The lines of one kind of counters. -/
def counterLines (metrics : Metrics) (kind : CounterKind) : List String :=
  let family := kind.family
  match entriesOf kind metrics.counters with
  | [] => []
  | entries =>
    header family "counter"
      ++ entries.map fun (labels, value) => sample family.name (family.labels.zip labels) (toString value)

/-- The lines of one histogram. -/
def histogramSamples (family : Family) (values : List String) (histogram : Histogram) : List String :=
  let labels := family.labels.zip values
  let bucket := fun (bound : String) (count : Nat) =>
    sample (family.name ++ "_bucket") (labels ++ [("le", bound)]) (toString count)
  histogram.classes.map (fun (bound, count) => bucket (Decimal.text bound) count)
    ++ [bucket "+Inf" histogram.count,
      sample (family.name ++ "_sum") labels (Decimal.text histogram.sum),
      sample (family.name ++ "_count") labels (toString histogram.count)]

/-- The lines of one kind of histograms. -/
def histogramLines (metrics : Metrics) (kind : HistogramKind) : List String :=
  let family := kind.family
  match entriesOf kind metrics.histograms with
  | [] => []
  | entries =>
    header family "histogram"
      ++ entries.flatMap fun (values, histogram) => histogramSamples family values histogram

/-- All counts, line by line; families stand in the order of their names. -/
def lines (metrics : Metrics) : List String :=
  metrics.histogramLines .jobs ++ metrics.counterLines .jobs ++ metrics.counterLines .cacheHits
    ++ metrics.counterLines .cacheMisses ++ metrics.histogramLines .requestsMade
    ++ metrics.counterLines .requestsMade ++ metrics.counterLines .resolutions
    ++ metrics.histogramLines .requestsServed ++ metrics.counterLines .requestsServed

/-- The text of some lines, each with its end. -/
def textOfLines (lines : List String) : String :=
  String.join (lines.map (· ++ "\n"))

end Metrics

end HandleFederation
