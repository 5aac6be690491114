import CodingLlm.Library.JsonReader
import CodingLlm.Pretrain.JsonAccess

/-!
# Observation of a timed phase

`PhaseObservation`: what the supervisor of a qualification phase reads from the
lines of a trainer's log, how the observation of the first phase passes through
its journal, how the second phase goes on from it, and how both are merged.
-/

namespace CodingLlm

open JsonTree

/-! ## Decimals -/

/-- A `Decimal` that is finite and not negative. -/
structure Decimal where
  coefficient : Nat
  exponent : Int
  deriving DecidableEq, Repr

namespace Decimal

/-- The number that a decimal spells. -/
def value (decimal : Decimal) : NNRat :=
  decimal.coefficient * 10 ^ decimal.exponent

/-- `max(left, right)`: of two equal numbers the left one. -/
def greater (left right : Decimal) : Decimal :=
  if left.value < right.value then right else left

theorem value_greater (left right : Decimal) :
    (left.greater right).value = max left.value right.value := by
  unfold greater
  split
  · next below => exact (max_eq_right below.le).symm
  · next above => exact (max_eq_left (not_lt.mp above)).symm

/-- The significant digits of the default context. -/
def precision : Nat := 28

/-- `number` without its last digits, rounded to the nearest integer and half
way to an even one. -/
def roundHalfEven (number dropped : Nat) : Nat :=
  let quotient := number / 10 ^ dropped
  let twice := 2 * (number % 10 ^ dropped)
  if 10 ^ dropped < twice ∨ twice = 10 ^ dropped ∧ quotient % 2 = 1 then
    quotient + 1
  else quotient

/-- `value.normalize()`, without its removal of trailing zeros. -/
def normalize (decimal : Decimal) : Decimal :=
  let digits := (Nat.toDigits 10 decimal.coefficient).length
  let dropped := digits - precision
  ⟨roundHalfEven decimal.coefficient dropped, decimal.exponent + dropped⟩

end Decimal

/-! ## Observations -/

/-- `GeometryQualificationError`. -/
def geometryQualificationError (text : String) : PyError := .runtimeError text

/-- How floats are spelled in JSON and as decimals, and `str.lower`. -/
structure LogFunctions where
  floats : FloatText
  decimalOfFloat : Rat -> Decimal
  lower : String -> String

/-- A line of a log, with what the supervisor has at hand when it reads it: the
way to publish a stop request, unless the trainer has exited, and what the
clock shows if timing starts or a stop is requested there. -/
structure LogLine where
  text : String
  publishStop : Option (Checked Unit)
  startNs : Nat
  stopNs : Nat

/-- `start_monotonic_ns`, `start_step` and `start_consumed_input_tokens`, which
are set together. -/
structure TimingStart where
  monotonicNs : Nat
  step : JsonTree
  consumedInputTokens : Int

/-- `stop_request_monotonic_ns` and `stop_requested_after_step`. -/
structure StopRequest where
  monotonicNs : Nat
  afterStep : JsonTree

/-- `PhaseObservation`.  Steps and sizes begin at zero and are only raised. -/
structure PhaseObservation where
  start : Option TimingStart
  lastStep : Nat
  lastConsumedInputTokens : Nat
  validationEventsAfterStart : Nat
  wandbLogEventsAfterStart : Nat
  dataWaitSamples : Nat
  maximumDataWaitFraction : Decimal
  peakMemoryAllocatedBytes : Nat
  peakMemoryReservedBytes : Nat
  stop : Option StopRequest
  jsonMetricRecords : Nat
  gracefulStopEvents : Nat
  wandbFailure : Option String

/-- `_WANDB_FAILURE_MARKERS`. -/
def wandbFailureMarkers : List String := [
  "wandb initialization failed",
  "warning: disabling failed metric logger:",
  "disabling failed metric logger WandbLogger",
  "metric logger WandbLogger failed",
  "runtime cleanup failures:"]

namespace JsonTree

/-- An integer field, which is no Boolean. -/
def integer? (payload : JsonTree) (key : String) : Option Int :=
  (payload.field? key).bind int?

/-- The value of what is an instance of `int`. -/
def instanceOfInt? : JsonTree -> Option Int
  | .scalar (.int number) => some number
  | .scalar (.bool flag) => some (if flag then 1 else 0)
  | _ => none

/-- `"perf/input_tokens_per_second" in payload`. -/
def isTrainMetric (payload : JsonTree) : Bool :=
  (payload.field? "perf/input_tokens_per_second").isSome

/-- `"validation/loss" in payload`. -/
def isValidationMetric (payload : JsonTree) : Bool :=
  (payload.field? "validation/loss").isSome

end JsonTree

namespace LogLine

/-- The object that a line holds as JSON. -/
def payload? (functions : LogFunctions) (line : LogLine) : Option JsonTree :=
  (loads functions.floats line.text.toList).filter fun tree =>
    tree.fields?.isSome

/-- What a line sets when it is the one after which timing starts. -/
def startOf
    (startAfterStep : Option Int) (line : LogLine) (payload : JsonTree) :
    Option TimingStart := do
  let expected ← startAfterStep
  let step ← payload.field? "train/step"
  let consumed ← payload.integer? "train/input_tokens"
  if step.equals (.int expected) then
    return ⟨line.startNs, step, consumed⟩
  else none

/-- What a line sets when a stop is requested at it. -/
def stopOf
    (requestStopAfterStep : Option Int) (line : LogLine) (payload : JsonTree) :
    Option StopRequest := do
  let request ← requestStopAfterStep
  let _ ← line.publishStop
  let step ← payload.field? "train/step"
  let number ← step.instanceOfInt?
  if request ≤ number then return ⟨line.stopNs, step⟩ else none

/-- `_decimal(str(wait))` of `perf/data_wait_fraction`. -/
def waitFraction (functions : LogFunctions) (payload : JsonTree) :
    Checked Decimal :=
  let negative := geometryQualificationError
    "logged perf/data_wait_fraction must be finite and non-negative"
  match payload.field? "perf/data_wait_fraction" with
  | some (.scalar (.int wait)) =>
      if 0 ≤ wait then .ok ⟨wait.toNat, 0⟩ else .error negative
  | some (.scalar (.float wait)) =>
      if 0 ≤ wait then .ok (functions.decimalOfFloat wait)
      else .error negative
  | _ => .error (geometryQualificationError
      "Timed trainer metric lacks numeric perf/data_wait_fraction")

end LogLine

namespace PhaseObservation

/-- `PhaseObservation()`. -/
def empty : PhaseObservation :=
  ⟨none, 0, 0, 0, 0, 0, ⟨0, 0⟩, 0, 0, none, 0, 0, none⟩

/-- A maximum with an integer, if there is one. -/
def raised (previous : Nat) (number : Option Int) : Nat :=
  max previous (number.elim 0 Int.toNat)

section Feed

variable (functions : LogFunctions)
variable (startAfterStep requestStopAfterStep : Option Int)

/-- The search for the markers of a failure. -/
def markFailure (line : LogLine) (observation : PhaseObservation) :
    PhaseObservation :=
  { observation with
    wandbFailure := wandbFailureMarkers.foldl (fun failure marker =>
      if (functions.lower line.text).contains (functions.lower marker) then
        some marker
      else failure) observation.wandbFailure }

/-- What every record counts for. -/
def countRecord (payload : JsonTree) (observation : PhaseObservation) :
    PhaseObservation :=
  { observation with
    lastStep := raised observation.lastStep (payload.integer? "train/step")
    lastConsumedInputTokens := raised observation.lastConsumedInputTokens
      (payload.integer? "train/input_tokens")
    gracefulStopEvents := observation.gracefulStopEvents +
      if (payload.field? "system/graceful_stop_signal").isSome then 1 else 0
    jsonMetricRecords := observation.jsonMetricRecords +
      if payload.isTrainMetric || payload.isValidationMetric then 1 else 0 }

/-- The start of timing, which is set once. -/
def startTiming
    (line : LogLine) (payload : JsonTree) (observation : PhaseObservation) :
    PhaseObservation :=
  { observation with
    start := observation.start <|> line.startOf startAfterStep payload }

/-- What a record counts for while timing is on. -/
def countTimed (payload : JsonTree) (observation : PhaseObservation) :
    Checked PhaseObservation := do
  let observation : PhaseObservation := { observation with
    validationEventsAfterStart := observation.validationEventsAfterStart +
      if payload.isValidationMetric then 1 else 0
    wandbLogEventsAfterStart := observation.wandbLogEventsAfterStart +
      if payload.isTrainMetric || payload.isValidationMetric then 1 else 0 }
  if payload.isTrainMetric then
    let wait ← LogLine.waitFraction functions payload
    return { observation with
      dataWaitSamples := observation.dataWaitSamples + 1
      maximumDataWaitFraction :=
        observation.maximumDataWaitFraction.greater wait
      peakMemoryAllocatedBytes := raised observation.peakMemoryAllocatedBytes
        (payload.integer? "system/cuda_peak_memory_allocated_bytes")
      peakMemoryReservedBytes := raised observation.peakMemoryReservedBytes
        (payload.integer? "system/cuda_peak_memory_reserved_bytes") }
  else return observation

/-- What a record counts for, if timing is on. -/
def countStarted (payload : JsonTree) (observation : PhaseObservation) :
    Checked PhaseObservation :=
  if observation.start.isSome then observation.countTimed functions payload
  else .ok observation

/-- The stop request, at most one. -/
def requestStop
    (line : LogLine) (payload : JsonTree) (observation : PhaseObservation) :
    Checked PhaseObservation :=
  match observation.stop, line.publishStop,
    line.stopOf requestStopAfterStep payload with
  | none, some publish, some stop => do
      publish
      return { observation with stop := some stop }
  | _, _, _ => .ok observation

/-- `feed`. -/
def feed (observation : PhaseObservation) (line : LogLine) :
    Checked PhaseObservation :=
  let observation := observation.markFailure functions line
  match line.payload? functions with
  | none => .ok observation
  | some payload => do
      let observation := (observation.countRecord payload).startTiming
        startAfterStep line payload
      let observation ← observation.countStarted functions payload
      observation.requestStop requestStopAfterStep line payload

/-- A log that is fed line by line. -/
def feedAll (observation : PhaseObservation) (lines : List LogLine) :
    Checked PhaseObservation :=
  lines.foldlM (feed functions startAfterStep requestStopAfterStep) observation

end Feed

/-! ## Journal, copy and merge -/

/-- The integers of `_observation_payload`. -/
def integerFields (observation : PhaseObservation) :
    List (String × Option JsonTree) := [
  ("start_monotonic_ns", observation.start.map fun start =>
    .int start.monotonicNs),
  ("start_step", observation.start.map TimingStart.step),
  ("start_consumed_input_tokens", observation.start.map fun start =>
    .int start.consumedInputTokens),
  ("last_step", some (.int observation.lastStep)),
  ("last_consumed_input_tokens",
    some (.int observation.lastConsumedInputTokens)),
  ("validation_events_after_start",
    some (.int observation.validationEventsAfterStart)),
  ("wandb_log_events_after_start",
    some (.int observation.wandbLogEventsAfterStart)),
  ("data_wait_samples", some (.int observation.dataWaitSamples)),
  ("peak_memory_allocated_bytes",
    some (.int observation.peakMemoryAllocatedBytes)),
  ("peak_memory_reserved_bytes",
    some (.int observation.peakMemoryReservedBytes)),
  ("stop_request_monotonic_ns", observation.stop.map fun stop =>
    .int stop.monotonicNs),
  ("stop_requested_after_step", observation.stop.map StopRequest.afterStep),
  ("json_metric_records", some (.int observation.jsonMetricRecords)),
  ("graceful_stop_events", some (.int observation.gracefulStopEvents))]

/-- An integer that is no Boolean and not negative. -/
def IsCount (value : JsonTree) : Prop :=
  ∃ number ∈ value.int?, 0 ≤ number

instance (value : JsonTree) : Decidable (IsCount value) :=
  inferInstanceAs (Decidable (∃ number, number ∈ value.int? ∧ 0 ≤ number))

/-- An observation whose maximum has passed through `_decimal_string`. -/
def journaled (observation : PhaseObservation) : PhaseObservation :=
  { observation with
    maximumDataWaitFraction := observation.maximumDataWaitFraction.normalize }

/-- `_observation_from_payload(_observation_payload(observation))`: integers
are checked and come back. -/
def readBack (observation : PhaseObservation) : Checked PhaseObservation := do
  observation.integerFields.forM fun field => do
    let _ ← require (∀ value ∈ field.2, IsCount value)
      (geometryQualificationError
        ("Phase observation journal " ++ field.1 ++ " is invalid"))
    return ()
  return observation.journaled

/-- The copy that `supervise_phase` makes of a prior observation. -/
def resumed (observation : PhaseObservation) : PhaseObservation :=
  { empty with
    start := observation.start
    lastStep := observation.lastStep
    lastConsumedInputTokens := observation.lastConsumedInputTokens }

/-- `merge`. -/
def merge (observation later : PhaseObservation) : PhaseObservation where
  start := observation.start
  lastStep := max observation.lastStep later.lastStep
  lastConsumedInputTokens := max observation.lastConsumedInputTokens
    later.lastConsumedInputTokens
  validationEventsAfterStart := observation.validationEventsAfterStart +
    later.validationEventsAfterStart
  wandbLogEventsAfterStart := observation.wandbLogEventsAfterStart +
    later.wandbLogEventsAfterStart
  dataWaitSamples := observation.dataWaitSamples + later.dataWaitSamples
  maximumDataWaitFraction := observation.maximumDataWaitFraction.greater
    later.maximumDataWaitFraction
  peakMemoryAllocatedBytes := max observation.peakMemoryAllocatedBytes
    later.peakMemoryAllocatedBytes
  peakMemoryReservedBytes := max observation.peakMemoryReservedBytes
    later.peakMemoryReservedBytes
  stop := later.stop
  jsonMetricRecords := observation.jsonMetricRecords + later.jsonMetricRecords
  gracefulStopEvents :=
    observation.gracefulStopEvents + later.gracefulStopEvents
  wandbFailure := observation.wandbFailure <|> later.wandbFailure

end PhaseObservation

end CodingLlm
