import DoubleEntry.Time.Span
import DoubleEntry.Word

/-!
What a load test measured: figures per endpoint, in endpoint order, and the printed report. All
arithmetic is on whole numbers, and figures that no word holds are refused. A percentile is an
element of the latencies, by nearest rank; a ratio and a rate have two fractional digits and are
cut off, never rounded up.
-/

set_option autoImplicit false

namespace DoubleEntry.LoadTest

open Time (Span)

structure Outcome where
  endpoint : String
  latency : Span
  status : Option Nat
  success : Bool
  error : Option String
deriving DecidableEq, Repr

structure Figures where
  endpoint : String
  count : Nat
  successes : Nat
  statuses : List (String × Nat)
  min : Span
  avg : Span
  p50 : Span
  p95 : Span
  p99 : Span
  max : Span
deriving DecidableEq, Repr

def rankAt (count p : Nat) : Nat := Nat.min (count * p / 100) (count - 1)

def percentileOf (latencies : List Span) (p : Nat) : Span :=
  latencies.getD (rankAt latencies.length p) Span.zero

def percentile (latencies : List Span) (p : Nat) : Except ArithmeticError Span :=
  if latencies.isEmpty then .ok Span.zero
  else (Word.mul latencies.length p).map fun _ => percentileOf latencies p

def hundredths (n : Nat) : String := toString (n / 100) ++ "." ++ Text.paddedNat 2 (n % 100)

def ratioText (part whole : Nat) : String :=
  if whole = 0 then "n/a" else hundredths (part * 10000 / whole) ++ "%"

def ratio (part whole : Nat) : Except ArithmeticError String :=
  if whole = 0 then .ok (ratioText part whole)
  else (Word.mul part 10000).map fun _ => ratioText part whole

-- Requests per second. A time of less than a millisecond counts as one.
def rateText (requests : Nat) (elapsed : Span) : String :=
  hundredths (Nat.min (requests * 100000) (twoTo 128 - 1) / Nat.max elapsed.millis 1)

def statusKey (outcome : Outcome) : String :=
  match outcome.status with
  | some status => toString status
  | none => "error"

def distinctAscending (keys : List String) : List String :=
  (keys.mergeSort fun a b => decide (a ≤ b)).eraseReps

def histogram (keys : List String) : List (String × Nat) :=
  (distinctAscending keys).map fun key => (key, keys.count key)

def totalNanos (latencies : List Span) : Nat := latencies.foldr (fun s total => s.nanos + total) 0

def sum (latencies : List Span) : Except ArithmeticError Span :=
  if totalNanos latencies < Span.bound then .ok ⟨totalNanos latencies⟩ else .error .timeSum

-- What a sum of times is divided by, which has to fit half a word.
def divisor (count : Nat) : Nat := Nat.min (Nat.max count 1) (twoTo 32 - 1)

def ascending (latencies : List Span) : List Span := latencies.mergeSort fun a b => decide (a.nanos ≤ b.nanos)

def figures (endpoint : String) (outcomes : List Outcome) : Figures :=
  let latencies := ascending (outcomes.map Outcome.latency)
  { endpoint
    count := outcomes.length
    successes := outcomes.countP Outcome.success
    statuses := histogram (outcomes.map statusKey)
    min := latencies.headD Span.zero
    avg := ⟨totalNanos latencies / divisor outcomes.length⟩
    p50 := percentileOf latencies 50
    p95 := percentileOf latencies 95
    p99 := percentileOf latencies 99
    max := latencies.getLastD Span.zero }

def ofEndpoint (outcomes : List Outcome) (endpoint : String) : List Outcome :=
  outcomes.filter fun outcome => outcome.endpoint == endpoint

def endpoints (outcomes : List Outcome) : List String := distinctAscending (outcomes.map Outcome.endpoint)

def summarize (outcomes : List Outcome) : List Figures :=
  (endpoints outcomes).map fun endpoint => figures endpoint (ofEndpoint outcomes endpoint)

def tally (endpoint : String) (outcomes : List Outcome) : Except ArithmeticError Figures := do
  let latencies := ascending (outcomes.map Outcome.latency)
  let _ ← sum latencies
  let _ ← [50, 95, 99].mapM (percentile latencies)
  return figures endpoint outcomes

def summary (outcomes : List Outcome) : Except ArithmeticError (List Figures) :=
  (endpoints outcomes).mapM fun endpoint => tally endpoint (ofEndpoint outcomes endpoint)

def shownFailures : Nat := 10

def overallLines (outcomes : List Outcome) (elapsed : Span) : List String :=
  let total := outcomes.length
  let successes := outcomes.countP Outcome.success
  ["", "--- Overall Performance ---",
   s!"Total Time Taken: {elapsed}",
   s!"Total Requests: {total}",
   s!"Successful Requests: {successes}",
   "Failed Requests: " ++ toString (total - successes),
   "Success Rate: " ++ ratioText successes total,
   "Requests Per Second (RPS): " ++ rateText total elapsed]

def endpointLines (f : Figures) : List String :=
  ["", "--- Endpoint: " ++ f.endpoint ++ " ---",
   "Total Requests: " ++ toString f.count,
   "Success Rate: " ++ ratioText f.successes f.count] ++
  (f.statuses.map fun (status, count) => s!"  Status {status}: {count}") ++
  ["Average Latency: " ++ f.avg.toText,
   "Min Latency: " ++ f.min.toText,
   "Max Latency: " ++ f.max.toText,
   "P50 Latency: " ++ f.p50.toText,
   "P95 Latency: " ++ f.p95.toText,
   "P99 Latency: " ++ f.p99.toText]

def failureLine (outcome : Outcome) : String :=
  let status := match outcome.status with
    | some status => toString status
    | none => "-"
  let error := outcome.error.getD "-"
  outcome.endpoint ++ " status=" ++ status ++ " error=" ++ error

def failureLines (outcomes : List Outcome) : List String :=
  let failures := outcomes.filter fun outcome => !outcome.success
  if failures.isEmpty then []
  else
    ["", s!"--- Error Details (first {shownFailures}) ---"] ++
      (failures.take shownFailures).map failureLine

def reportLines (outcomes : List Outcome) (elapsed : Span) : List String :=
  overallLines outcomes elapsed ++ ((summarize outcomes).map endpointLines).flatten ++
    failureLines outcomes

def report (outcomes : List Outcome) (elapsed : Span) : String :=
  String.join ((reportLines outcomes elapsed).map (· ++ "\n"))

end DoubleEntry.LoadTest
