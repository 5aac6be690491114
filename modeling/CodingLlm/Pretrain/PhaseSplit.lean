import CodingLlm.Pretrain.PhaseObservation

/-!
# Splitting a timed observation

What an observation counts is a sum over the lines of its log, so observing two
logs one after the other and merging counts what one observation of both
counts; only the journal between them may refuse a value or round the greatest
wait.
-/

namespace CodingLlm

open JsonTree

/-! ## Totals -/

/-- The counts and the greatest values of an observation. -/
@[ext] structure PhaseTotals where
  lastStep : Nat
  lastConsumedInputTokens : Nat
  validationEvents : Nat
  wandbLogEvents : Nat
  dataWaitSamples : Nat
  maximumWait : NNRat
  allocatedBytes : Nat
  reservedBytes : Nat
  metricRecords : Nat
  stopEvents : Nat

namespace PhaseTotals

instance : Zero PhaseTotals := ⟨⟨0, 0, 0, 0, 0, 0, 0, 0, 0, 0⟩⟩

/-- Counts add up and greatest values are compared. -/
instance : Add PhaseTotals where
  add first second := {
    lastStep := max first.lastStep second.lastStep
    lastConsumedInputTokens := max first.lastConsumedInputTokens
      second.lastConsumedInputTokens
    validationEvents := first.validationEvents + second.validationEvents
    wandbLogEvents := first.wandbLogEvents + second.wandbLogEvents
    dataWaitSamples := first.dataWaitSamples + second.dataWaitSamples
    maximumWait := max first.maximumWait second.maximumWait
    allocatedBytes := max first.allocatedBytes second.allocatedBytes
    reservedBytes := max first.reservedBytes second.reservedBytes
    metricRecords := first.metricRecords + second.metricRecords
    stopEvents := first.stopEvents + second.stopEvents }

theorem zero_add_totals (totals : PhaseTotals) : 0 + totals = totals :=
  PhaseTotals.ext (Nat.zero_max _) (Nat.zero_max _) (Nat.zero_add _)
    (Nat.zero_add _) (Nat.zero_add _) (max_eq_right zero_le)
    (Nat.zero_max _) (Nat.zero_max _) (Nat.zero_add _) (Nat.zero_add _)

theorem add_comm_totals (first second : PhaseTotals) :
    first + second = second + first :=
  PhaseTotals.ext (max_comm _ _) (max_comm _ _) (Nat.add_comm _ _)
    (Nat.add_comm _ _) (Nat.add_comm _ _) (max_comm _ _) (max_comm _ _)
    (max_comm _ _) (Nat.add_comm _ _) (Nat.add_comm _ _)

instance : AddCommMonoid PhaseTotals where
  add_assoc _ _ _ :=
    PhaseTotals.ext (max_assoc _ _ _) (max_assoc _ _ _) (Nat.add_assoc _ _ _)
      (Nat.add_assoc _ _ _) (Nat.add_assoc _ _ _) (max_assoc _ _ _)
      (max_assoc _ _ _) (max_assoc _ _ _) (Nat.add_assoc _ _ _)
      (Nat.add_assoc _ _ _)
  zero_add := zero_add_totals
  add_zero totals := (add_comm_totals totals 0).trans (zero_add_totals totals)
  add_comm := add_comm_totals
  nsmul := nsmulRec

end PhaseTotals

/-- The totals of an observation. -/
def PhaseObservation.totals (observation : PhaseObservation) :
    PhaseTotals where
  lastStep := observation.lastStep
  lastConsumedInputTokens := observation.lastConsumedInputTokens
  validationEvents := observation.validationEventsAfterStart
  wandbLogEvents := observation.wandbLogEventsAfterStart
  dataWaitSamples := observation.dataWaitSamples
  maximumWait := observation.maximumDataWaitFraction.value
  allocatedBytes := observation.peakMemoryAllocatedBytes
  reservedBytes := observation.peakMemoryReservedBytes
  metricRecords := observation.jsonMetricRecords
  stopEvents := observation.gracefulStopEvents

/-! ## What the lines of a log count for -/

namespace LogLine

variable (functions : LogFunctions)

/-- What a record counts for at any time. -/
def recordTotals (payload : JsonTree) : PhaseTotals :=
  { (0 : PhaseTotals) with
    lastStep := (payload.integer? "train/step").elim 0 Int.toNat
    lastConsumedInputTokens :=
      (payload.integer? "train/input_tokens").elim 0 Int.toNat
    metricRecords :=
      if payload.isTrainMetric || payload.isValidationMetric then 1 else 0
    stopEvents :=
      if (payload.field? "system/graceful_stop_signal").isSome then 1 else 0 }

/-- The wait of a train metric. -/
def wait? (payload : JsonTree) : Option Decimal :=
  if payload.isTrainMetric then (waitFraction functions payload).toOption
  else none

/-- What a record counts for while timing is on. -/
def timedTotals (payload : JsonTree) : PhaseTotals :=
  { (0 : PhaseTotals) with
    validationEvents := if payload.isValidationMetric then 1 else 0
    wandbLogEvents :=
      if payload.isTrainMetric || payload.isValidationMetric then 1 else 0
    dataWaitSamples := if payload.isTrainMetric then 1 else 0
    maximumWait := (wait? functions payload).elim 0 Decimal.value
    allocatedBytes := if payload.isTrainMetric then
      (payload.integer? "system/cuda_peak_memory_allocated_bytes").elim 0
        Int.toNat else 0
    reservedBytes := if payload.isTrainMetric then
      (payload.integer? "system/cuda_peak_memory_reserved_bytes").elim 0
        Int.toNat else 0 }

/-- What a line counts for. -/
def totals (timed : Bool) (line : LogLine) : PhaseTotals :=
  (line.payload? functions).elim 0 fun payload =>
    recordTotals payload + if timed then timedTotals functions payload else 0

/-- The wait that a line tells while timing is on. -/
def timedWait? (timed : Bool) (line : LogLine) : Option Decimal :=
  (line.payload? functions).bind fun payload =>
    if timed then wait? functions payload else none

/-- The start of timing that a line is. -/
def startAt (startAfterStep : Option Int) (line : LogLine) :
    Option TimingStart :=
  (line.payload? functions).bind (line.startOf startAfterStep)

/-- The stop request that a line asks for. -/
def stopAt (requestStopAfterStep : Option Int) (line : LogLine) :
    Option StopRequest :=
  (line.payload? functions).bind (line.stopOf requestStopAfterStep)

/-- The lines of a log, with whether timing is on at them.  It is on at the
line that starts it. -/
def timedLines (startAfterStep : Option Int) :
    Bool -> List LogLine -> List (Bool × LogLine)
  | _, [] => []
  | timed, line :: lines =>
      let timed := timed || (line.startAt functions startAfterStep).isSome
      (timed, line) :: timedLines startAfterStep timed lines

/-- What a log counts for. -/
def logTotals
    (startAfterStep : Option Int) (timed : Bool) (lines : List LogLine) :
    PhaseTotals :=
  ((timedLines functions startAfterStep timed lines).map fun entry =>
    entry.2.totals functions entry.1).sum

/-- The greatest wait that a log tells while timing is on. -/
def greatestWait
    (startAfterStep : Option Int) (timed : Bool) (lines : List LogLine) :
    Decimal :=
  ((timedLines functions startAfterStep timed lines).filterMap fun entry =>
    entry.2.timedWait? functions entry.1).foldl Decimal.greater ⟨0, 0⟩

/-- Once it is on, timing stays on. -/
theorem timedLines_true
    (startAfterStep : Option Int) (lines : List LogLine) :
    timedLines functions startAfterStep true lines =
      lines.map (Prod.mk true) := by
  induction lines with
  | nil => rfl
  | cons line lines inductionHypothesis =>
      rw [timedLines, Bool.true_or, inductionHypothesis, List.map_cons]

end LogLine

/-! ## Feeding -/

namespace PhaseObservation

open LogLine

variable {functions : LogFunctions} {startAfterStep stopAfterStep : Option Int}
variable {observation next : PhaseObservation} {line : LogLine}
variable {payload : JsonTree}

theorem totals_countRecord :
    (observation.countRecord payload).totals =
      observation.totals + recordTotals payload :=
  PhaseTotals.ext rfl rfl rfl rfl rfl (max_eq_left zero_le).symm
    (Nat.max_zero _).symm (Nat.max_zero _).symm rfl rfl

/-- What a record changes while timing is on. -/
theorem countTimed_eq_ok
    (counted : observation.countTimed functions payload = .ok next) :
    next.start = observation.start ∧ next.stop = observation.stop ∧
      next.totals = observation.totals + timedTotals functions payload ∧
      next.maximumDataWaitFraction = (wait? functions payload).elim
        observation.maximumDataWaitFraction
        observation.maximumDataWaitFraction.greater := by
  unfold countTimed at counted
  by_cases isTrain : payload.isTrainMetric = true
  · rw [if_pos isTrain] at counted
    obtain ⟨wait, told, equal⟩ := checked_bind_eq_ok.mp counted
    have known : wait? functions payload = some wait := by
      rw [wait?, if_pos isTrain, told]
      rfl
    rw [← checked_pure_eq_ok.mp equal, known]
    refine ⟨rfl, rfl, PhaseTotals.ext (Nat.max_zero _).symm
      (Nat.max_zero _).symm rfl rfl ?_ ?_ ?_ ?_ rfl rfl, rfl⟩
    · change _ = _ + if payload.isTrainMetric then 1 else 0
      rw [if_pos isTrain]
      rfl
    · change _ = max _ ((wait? functions payload).elim 0 Decimal.value)
      rw [known]
      exact Decimal.value_greater _ _
    · change _ = max _ (if payload.isTrainMetric then _ else _)
      rw [if_pos isTrain]
      rfl
    · change _ = max _ (if payload.isTrainMetric then _ else _)
      rw [if_pos isTrain]
      rfl
  · have none : wait? functions payload = none := if_neg isTrain
    rw [if_neg isTrain] at counted
    rw [← checked_pure_eq_ok.mp counted, none]
    refine ⟨rfl, rfl, PhaseTotals.ext (Nat.max_zero _).symm
      (Nat.max_zero _).symm rfl rfl ?_ ?_ ?_ ?_ rfl rfl, rfl⟩
    · change _ = _ + if payload.isTrainMetric then 1 else 0
      rw [if_neg isTrain]
      rfl
    · change _ = max _ ((wait? functions payload).elim 0 Decimal.value)
      rw [none]
      exact (max_eq_left zero_le).symm
    · change _ = max _ (if payload.isTrainMetric then _ else _)
      rw [if_neg isTrain]
      exact (Nat.max_zero _).symm
    · change _ = max _ (if payload.isTrainMetric then _ else _)
      rw [if_neg isTrain]
      exact (Nat.max_zero _).symm

/-- What a record changes if timing is on. -/
theorem countStarted_eq_ok
    (counted : observation.countStarted functions payload = .ok next) :
    next.start = observation.start ∧ next.stop = observation.stop ∧
      next.totals = observation.totals +
        (if observation.start.isSome then timedTotals functions payload
          else 0) ∧
      next.maximumDataWaitFraction =
        (if observation.start.isSome then wait? functions payload
          else none).elim observation.maximumDataWaitFraction
            observation.maximumDataWaitFraction.greater := by
  unfold countStarted at counted
  split at counted
  · next started =>
      rw [if_pos started, if_pos started]
      exact countTimed_eq_ok counted
  · next waiting =>
      rw [if_neg waiting, if_neg waiting]
      cases counted
      exact ⟨rfl, rfl, (add_zero _).symm, rfl⟩

/-- A stop request is set once, and nothing else with it. -/
theorem requestStop_eq_ok
    (requested : observation.requestStop stopAfterStep line payload =
      .ok next) :
    next = { observation with
      stop := observation.stop <|> line.stopOf stopAfterStep payload } := by
  unfold requestStop at requested
  split at requested
  · next publish stop before _ known =>
      obtain ⟨_, _, equal⟩ := checked_bind_eq_ok.mp requested
      rw [← checked_pure_eq_ok.mp equal, known, before]
      rfl
  · next other =>
      cases requested
      have kept : (observation.stop <|>
          line.stopOf stopAfterStep payload) = observation.stop := by
        cases before : observation.stop with
        | some stop => rfl
        | none =>
            cases known : line.stopOf stopAfterStep payload with
            | none => rfl
            | some stop =>
                cases publish : line.publishStop with
                | some publish => exact (other _ _ before publish known).elim
                | none =>
                    unfold stopOf at known
                    rw [publish] at known
                    cases stopAfterStep <;> cases known
      rw [kept]

/-- What one line changes. -/
theorem feed_eq_ok
    (fed : observation.feed functions startAfterStep stopAfterStep line =
      .ok next) :
    next.start =
        (observation.start <|> line.startAt functions startAfterStep) ∧
      next.stop = (observation.stop <|> line.stopAt functions stopAfterStep) ∧
      next.totals = observation.totals +
        line.totals functions next.start.isSome ∧
      next.maximumDataWaitFraction =
        (line.timedWait? functions next.start.isSome).elim
          observation.maximumDataWaitFraction
          observation.maximumDataWaitFraction.greater := by
  unfold feed at fed
  unfold startAt stopAt LogLine.totals timedWait?
  cases read : line.payload? functions with
  | none =>
      rw [read] at fed
      cases fed
      refine ⟨?_, ?_, (add_zero observation.totals).symm, rfl⟩
      · change observation.start = _
        cases observation.start <;> rfl
      · change observation.stop = _
        cases observation.stop <;> rfl
  | some payload =>
      rw [read] at fed
      obtain ⟨counted, timed, requested⟩ := checked_bind_eq_ok.mp fed
      obtain ⟨start, stop, totals, wait⟩ := countStarted_eq_ok timed
      rw [requestStop_eq_ok requested]
      simp only [Option.bind_some, Option.elim_some]
      refine ⟨start, ?_, ?_, ?_⟩
      · rw [stop]
        rfl
      · rw [start, ← add_assoc, ← totals_countRecord]
        exact totals
      · rw [start]
        exact wait

/-- What a log changes. -/
theorem feedAll_eq_ok
    {lines : List LogLine}
    (fed : observation.feedAll functions startAfterStep stopAfterStep lines =
      .ok next) :
    next.start = (observation.start <|>
        lines.findSome? fun line => line.startAt functions startAfterStep) ∧
      next.stop = (observation.stop <|>
        lines.findSome? fun line => line.stopAt functions stopAfterStep) ∧
      next.totals = observation.totals +
        logTotals functions startAfterStep observation.start.isSome lines ∧
      next.maximumDataWaitFraction =
        ((timedLines functions startAfterStep observation.start.isSome
          lines).filterMap fun entry =>
            entry.2.timedWait? functions entry.1).foldl Decimal.greater
              observation.maximumDataWaitFraction := by
  induction lines generalizing observation with
  | nil =>
      cases fed
      refine ⟨?_, ?_, (add_zero _).symm, rfl⟩
      · cases next.start <;> rfl
      · cases next.stop <;> rfl
  | cons line lines inductionHypothesis =>
      unfold feedAll at fed
      rw [List.foldlM_cons] at fed
      obtain ⟨middle, first, rest⟩ := checked_bind_eq_ok.mp fed
      obtain ⟨start, stop, totals, wait⟩ := feed_eq_ok first
      obtain ⟨laterStart, laterStop, laterTotals, laterWait⟩ :=
        inductionHypothesis rest
      have timed : middle.start.isSome = (observation.start.isSome ||
          (line.startAt functions startAfterStep).isSome) := by
        rw [start]
        cases observation.start <;> rfl
      refine ⟨?_, ?_, ?_, ?_⟩
      · rw [laterStart, start, List.findSome?_cons]
        cases observation.start <;>
          cases line.startAt functions startAfterStep <;> rfl
      · rw [laterStop, stop, List.findSome?_cons]
        cases observation.stop <;>
          cases line.stopAt functions stopAfterStep <;> rfl
      · rw [laterTotals, totals, add_assoc, timed]
        rfl
      · rw [laterWait, wait, timed, timedLines, List.filterMap_cons]
        dsimp only
        cases line.timedWait? functions (observation.start.isSome ||
          (line.startAt functions startAfterStep).isSome) <;> rfl

/-- A record that one observation takes another takes. -/
theorem exists_countTimed
    (other : PhaseObservation)
    (counted : observation.countTimed functions payload = .ok next) :
    ∃ result, other.countTimed functions payload = .ok result := by
  unfold countTimed at counted ⊢
  by_cases isTrain : payload.isTrainMetric = true
  · rw [if_pos isTrain] at counted ⊢
    obtain ⟨wait, told, -⟩ := checked_bind_eq_ok.mp counted
    rw [told]
    exact ⟨_, rfl⟩
  · rw [if_neg isTrain]
    exact ⟨_, rfl⟩

theorem countStarted_of_isSome
    (started : observation.start.isSome = true) :
    observation.countStarted functions payload =
      observation.countTimed functions payload :=
  if_pos started

/-- A second stop is not requested. -/
theorem requestStop_stopped
    (stopped : observation.stop.isSome = true) :
    observation.requestStop stopAfterStep line payload = .ok observation := by
  unfold requestStop
  split
  · next before _ _ =>
      rw [before] at stopped
      cases stopped
  · rfl

/-- An observation that has started and asked for the stop takes every log that
one which has started takes. -/
theorem exists_feedAll
    {other : PhaseObservation} {lines : List LogLine}
    {otherStart otherStop : Option Int}
    (started : observation.start.isSome = true)
    (otherStarted : other.start.isSome = true)
    (otherStopped : other.stop.isSome = true)
    (fed : observation.feedAll functions startAfterStep stopAfterStep lines =
      .ok next) :
    ∃ result, other.feedAll functions otherStart otherStop lines =
      .ok result := by
  have stays {Value : Type} {first second : Option Value}
      (known : first.isSome = true) : (first <|> second).isSome = true := by
    cases first
    · cases known
    · rfl
  induction lines generalizing observation other with
  | nil => exact ⟨other, rfl⟩
  | cons line lines inductionHypothesis =>
      unfold feedAll at fed
      rw [List.foldlM_cons] at fed
      obtain ⟨middle, first, rest⟩ := checked_bind_eq_ok.mp fed
      have progress : ∃ result,
          other.feed functions otherStart otherStop line = .ok result := by
        unfold feed at first ⊢
        cases read : line.payload? functions with
        | none => exact ⟨_, rfl⟩
        | some payload =>
            rw [read] at first
            obtain ⟨counted, timed, -⟩ := checked_bind_eq_ok.mp first
            obtain ⟨result, taken⟩ := exists_countTimed
              ((other.markFailure functions line).countRecord payload
                |>.startTiming otherStart line payload)
              ((countStarted_of_isSome (stays started)).symm.trans timed)
            have counts : countStarted functions payload
                ((other.markFailure functions line).countRecord payload
                  |>.startTiming otherStart line payload) = .ok result :=
              (countStarted_of_isSome (stays otherStarted)).trans taken
            refine ⟨result, checked_bind_eq_ok.mpr ⟨result, counts, ?_⟩⟩
            apply requestStop_stopped
            rw [(countTimed_eq_ok taken).2.1]
            exact otherStopped
      obtain ⟨result, taken⟩ := progress
      obtain ⟨start, -⟩ := feed_eq_ok first
      obtain ⟨resultStart, resultStop, -⟩ := feed_eq_ok taken
      obtain ⟨last, later⟩ := @inductionHypothesis middle result
        (start ▸ stays started) (resultStart ▸ stays otherStarted)
        (resultStop ▸ stays otherStopped) rest
      refine ⟨last, ?_⟩
      unfold feedAll
      rw [List.foldlM_cons, taken]
      exact later

/-! ## The journal -/

/-- What the journal can hold of a start of timing. -/
def StartReads (start : TimingStart) : Prop :=
  IsCount start.step ∧ 0 ≤ start.consumedInputTokens

theorem isCount_int {number : Int} : IsCount (.int number) ↔ 0 ≤ number := by
  simp [IsCount, JsonTree.int, int?]

theorem forall_integerFields :
    (∀ field ∈ observation.integerFields, ∀ value ∈ field.2, IsCount value) ↔
      (∀ start ∈ observation.start, StartReads start) ∧
        ∀ stop ∈ observation.stop, IsCount stop.afterStep := by
  unfold integerFields
  simp only [List.forall_mem_cons, Option.mem_def, Option.some.injEq,
    forall_eq', isCount_int, Int.natCast_nonneg, true_and]
  cases observation.start <;> cases observation.stop <;>
    simp [StartReads, isCount_int, and_assoc]

/-- An observation is read back when its start and its stop can be, with its
maximum rounded. -/
theorem readBack_eq_ok :
    observation.readBack = .ok next ↔
      ((∀ start ∈ observation.start, StartReads start) ∧
        ∀ stop ∈ observation.stop, IsCount stop.afterStep) ∧
        next = observation.journaled := by
  unfold readBack
  rw [checked_bind_eq_ok, ← forall_integerFields]
  constructor
  · rintro ⟨_, checked, equal⟩
    refine ⟨fun field member => ?_, (checked_pure_eq_ok.mp equal).symm⟩
    exact (require_then_eq_ok.mp
      (checked_forM_eq_ok.mp checked field member)).1
  · rintro ⟨counts, equal⟩
    refine ⟨(), checked_forM_eq_ok.mpr fun field member => ?_,
      checked_pure_eq_ok.mpr equal.symm⟩
    exact require_then_eq_ok.mpr ⟨counts field member, rfl⟩

/-! ## Splitting -/

variable {first second : List LogLine} {phaseOne phaseTwo : PhaseObservation}
variable {startStep stopStep : Int} {laterStop : Option Int}

/-- Observing two logs one after the other, with the journal and the copy
between them, and merging gives what one observation of both gives, and that
counts from the line after which timing starts. -/
def SplitsExactly
    (functions : LogFunctions) (startStep stopStep : Int)
    (laterStop : Option Int) (first second : List LogLine)
    (phaseOne : PhaseObservation) : Prop :=
  ∃ journal phaseTwo whole,
    phaseOne.readBack = .ok journal ∧
    journal.resumed.feedAll functions none laterStop second = .ok phaseTwo ∧
    empty.feedAll functions (some startStep) (some stopStep)
      (first ++ second) = .ok whole ∧
    (journal.merge phaseTwo).start = whole.start ∧
    (journal.merge phaseTwo).totals = whole.totals ∧
    whole.totals =
      logTotals functions (some startStep) false (first ++ second)

/-- The lines that start the timing and ask for the stop tell their steps and
tokens as integers that are not negative, and no digits of the greatest wait of
the first log count that its journal drops. -/
def SplitHolds
    (functions : LogFunctions) (startStep stopStep : Int)
    (first second : List LogLine) : Prop :=
  (∀ start ∈ first.findSome? fun line =>
      line.startAt functions (some startStep), StartReads start) ∧
  (∀ stop ∈ first.findSome? fun line =>
      line.stopAt functions (some stopStep), IsCount stop.afterStep) ∧
  max (greatestWait functions (some startStep) false first).normalize.value
      (greatestWait functions none true second).value =
    max (greatestWait functions (some startStep) false first).value
      (greatestWait functions none true second).value

theorem totals_empty : empty.totals = 0 :=
  PhaseTotals.ext rfl rfl rfl rfl rfl
    (show Decimal.value ⟨0, 0⟩ = 0 by simp [Decimal.value]) rfl rfl rfl rfl

theorem totals_merge (observation later : PhaseObservation) :
    (observation.merge later).totals = observation.totals + later.totals :=
  PhaseTotals.ext rfl rfl rfl rfl rfl (Decimal.value_greater _ _) rfl rfl rfl
    rfl

/-- What the copy keeps counts once. -/
theorem totals_add_resumed (observation : PhaseObservation) :
    observation.totals + observation.resumed.totals = observation.totals :=
  PhaseTotals.ext (max_self _) (max_self _) rfl rfl rfl
    ((congrArg (max _) (congrArg PhaseTotals.maximumWait totals_empty)).trans
      (max_eq_left zero_le)) (Nat.max_zero _) (Nat.max_zero _) rfl rfl

/-- Rounding the greatest wait changes no other total. -/
theorem totals_journaled_iff {totals : PhaseTotals} :
    observation.journaled.totals + totals = observation.totals + totals ↔
      max observation.maximumDataWaitFraction.normalize.value
          totals.maximumWait =
        max observation.maximumDataWaitFraction.value totals.maximumWait := by
  constructor
  · intro equal
    exact congrArg PhaseTotals.maximumWait equal
  · intro equal
    exact PhaseTotals.ext rfl rfl rfl rfl rfl equal rfl rfl rfl rfl

/-- Once it is on, timing does not depend on its start. -/
theorem logTotals_true (lines : List LogLine) :
    logTotals functions startAfterStep true lines =
      logTotals functions none true lines := by
  rw [logTotals, logTotals, timedLines_true, timedLines_true]

/-- JSON as it is, with whole floats. -/
def wholeFunctions : LogFunctions :=
  ⟨wholeFloats, fun value => ⟨⌊value⌋.toNat, 0⟩, String.toLower⟩

/-- A metric that starts the timing and asks for the stop. -/
def longWaitLine : LogLine where
  text := "\x7b\x22train/step\x22:5,\x22train/input_tokens\x22:7," ++
    "\x22perf/input_tokens_per_second\x22:1,\x22perf/data_wait_fraction" ++
    "\x22:100000000000000000000000000001\x7d"
  publishStop := some (.ok ())
  startNs := 1
  stopNs := 2

theorem exists_longWaitPhase :
    ∃ phaseOne, empty.feedAll wholeFunctions (some 5) (some 5)
        [longWaitLine] = .ok phaseOne ∧
      phaseOne.start.isSome = true ∧ phaseOne.stop.isSome = true ∧
      phaseOne.maximumDataWaitFraction = ⟨10 ^ 29 + 1, 0⟩ := by
  have seen : (empty.feedAll wholeFunctions (some 5) (some 5)
      [longWaitLine]).toOption.map (fun phaseOne =>
        (phaseOne.start.isSome, phaseOne.stop.isSome,
          phaseOne.maximumDataWaitFraction)) =
      some (true, true, ⟨10 ^ 29 + 1, 0⟩) := by
    decide +kernel
  cases fed : empty.feedAll wholeFunctions (some 5) (some 5)
      [longWaitLine] with
  | error error =>
      rw [fed] at seen
      cases seen
  | ok phaseOne =>
      rw [fed] at seen
      obtain ⟨started, stopped, wait⟩ :
          phaseOne.start.isSome = true ∧ phaseOne.stop.isSome = true ∧
            phaseOne.maximumDataWaitFraction = ⟨10 ^ 29 + 1, 0⟩ := by
        simpa [Except.toOption] using seen
      exact ⟨phaseOne, rfl, started, stopped, wait⟩

end PhaseObservation

end CodingLlm
