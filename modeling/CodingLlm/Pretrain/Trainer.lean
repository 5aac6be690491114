import CodingLlm.Library.Focus
import CodingLlm.Pretrain.CheckpointDisk
import CodingLlm.Pretrain.TrainingWindow

/-!
# The trainer

`Trainer` with its checkpoints: what a checkpoint holds, what loading one
checks, validation passes, and the method `train` as a program over the
checkpoint directory and the memory of all ranks, which take their steps
together.
-/

namespace CodingLlm

open CrashLogic

variable {Weights Optimizer Host Device Digest Identity : Type}
variable {worldSize : Nat}

/-! ## Checkpoints -/

/-- What a checkpoint is compared by. -/
structure RunIdentity (Digest Identity : Type) where
  environment : String -> Identity
  dataIdentity : Digest × Digest
  trainingGeometry : TrainingGeometry
  validationConfiguration : Option (Identity × Nat × Bool)
  trajectory : TrajectoryConfig

/-- The metadata that trainers write. -/
structure CheckpointMetadata where
  validationAtStart : Bool
  wandbRunId : Option String

/-- The payload of a checkpoint. -/
structure CheckpointPayload
    (Weights Optimizer Host Device : Type) (worldSize : Nat)
    (Digest Identity : Type)
    extends TrainingProgress Weights Optimizer Host Device worldSize where
  identity : RunIdentity Digest Identity
  lastValidatedStep : Nat
  metadata : CheckpointMetadata

/-- What the trainer objects of all ranks hold. -/
structure TrainerMemory
    (Weights Optimizer Host Device : Type) (worldSize : Nat)
    (Digest Identity : Type)
    extends TrainingProgress Weights Optimizer Host Device worldSize where
  lastValidatedStep : Nat
  metadata : CheckpointMetadata
  stopSignal : Nat
  process : CheckpointProcess (CheckpointPayload Weights Optimizer Host
    Device worldSize Digest Identity)

/-- The checkpoint directory and the memory of a process. -/
structure TrainingSession
    (Weights Optimizer Host Device : Type) (worldSize : Nat)
    (Digest Identity : Type) where
  disk : CheckpointDisk (CheckpointPayload Weights Optimizer Host Device
    worldSize Digest Identity)
  trainer : TrainerMemory Weights Optimizer Host Device worldSize Digest
    Identity

namespace TrainingSetup

variable (setup : TrainingSetup Weights Optimizer Host Device worldSize
  Digest Identity)

/-- Checkpoints of a setup. -/
abbrev Payload
    (_ : TrainingSetup Weights Optimizer Host Device worldSize Digest
      Identity) : Type :=
  CheckpointPayload Weights Optimizer Host Device worldSize Digest Identity

/-- Trainers of a setup. -/
abbrev Trainer
    (_ : TrainingSetup Weights Optimizer Host Device worldSize Digest
      Identity) : Type :=
  TrainerMemory Weights Optimizer Host Device worldSize Digest Identity

/-- Sessions of a setup. -/
abbrev Session
    (_ : TrainingSetup Weights Optimizer Host Device worldSize Digest
      Identity) : Type :=
  TrainingSession Weights Optimizer Host Device worldSize Digest Identity

/-- Programs of a trainer. -/
abbrev TrainerProgram
    (setup : TrainingSetup Weights Optimizer Host Device worldSize Digest
      Identity) (α : Type) : Type :=
  Program setup.Session PyError α

/-- `validation_configuration`. -/
def validationConfiguration : Option (Identity × Nat × Bool) :=
  setup.validationRunner.map fun runner =>
    (runner, setup.evalEvery, setup.evalAtStart)

/-- The identity of a setup. -/
def identity : RunIdentity Digest Identity where
  environment := setup.environment
  dataIdentity := setup.dataIdentity
  trainingGeometry := setup.geometry
  validationConfiguration := setup.validationConfiguration
  trajectory := setup.config

/-- The payload of `save_checkpoint`. -/
def payload (trainer : setup.Trainer) : setup.Payload :=
  { trainer with identity := setup.identity }

/-- The `completed_steps` of a checkpoint. -/
def steps (payload : setup.Payload) : Nat := payload.counters.completedSteps

end TrainingSetup

/-! ## Generators -/

/-- What the experiment tracker does when a run starts.  The upload of the
evidence artifact is the identity where there is none: with a disabled tracker,
or one that failed to start. -/
structure TrackerStart (Host : Type) where
  initializationDraws : Host -> Host
  evidenceDraws : Host -> Host
  metricDraws : Host -> Host
  runId : Option String

/-- `with preserve_host_rng_state()`. -/
def preserveHostRngState (body : Host -> Host) (rng : RngState Host Device) :
    RngState Host Device :=
  let saved := rng.host
  let drawn : RngState Host Device := { rng with host := body rng.host }
  { drawn with host := saved }

/-- Something that only rank zero does. -/
def onRankZero
    (change : RngState Host Device -> RngState Host Device)
    (rngs : Fin worldSize -> RngState Host Device) :
    Fin worldSize -> RngState Host Device :=
  fun rank => if rank.val = 0 then change (rngs rank) else rngs rank

/-- `with preserve_all_rng_state()`. -/
def preserveAllRngState
    (body : (Fin worldSize -> RngState Host Device) ->
      Fin worldSize -> RngState Host Device)
    (trainer : TrainerMemory Weights Optimizer Host Device worldSize Digest
      Identity) :
    TrainerMemory Weights Optimizer Host Device worldSize Digest Identity :=
  let saved := trainer.rngs
  let drawn := { trainer with rngs := body saved }
  { drawn with rngs := saved }

/-! ## Loading -/

section Loading

variable [DecidableEq Digest] [DecidableEq Identity]

/-- Compare entries of the environment. -/
def checkEnvironment (found expected : String -> Identity) :
    List String -> Checked Unit
  | [] => .ok ()
  | name :: rest => do
      let _ ← require (found name = expected name)
        (.valueError ("Checkpoint " ++ name ++ " mismatch"))
      checkEnvironment found expected rest

/-- `checks` of `load_checkpoint`. -/
def checkIdentity (found expected : RunIdentity Digest Identity) :
    Checked Unit := do
  checkEnvironment found.environment expected.environment
    ["torch_version", "world_size", "runtime_signature",
      "implementation_signature"]
  let _ ← require (found.dataIdentity = expected.dataIdentity)
    (.valueError "Checkpoint data_identity mismatch")
  checkEnvironment found.environment expected.environment
    ["tokenizer_manifest_sha256", "tokenizer_vocabulary_sha256"]
  let _ ← require (found.trainingGeometry = expected.trainingGeometry)
    (.valueError "Checkpoint training_geometry mismatch")
  let _ ← require
    (found.validationConfiguration = expected.validationConfiguration)
    (.valueError "Checkpoint validation_configuration mismatch")
  checkEnvironment found.environment expected.environment
    ["model_config", "parameter_dtypes", "optimizer_class"]
  let _ ← require (found.trajectory = expected.trajectory)
    (.valueError "Checkpoint train_trajectory_config mismatch")
  return ()

end Loading

namespace TrainingSetup

variable (setup : TrainingSetup Weights Optimizer Host Device worldSize
  Digest Identity)

/-- `_validate_validation_at_start_metadata`. -/
def checkMetadata (metadata : CheckpointMetadata) : Checked Unit := do
  let _ ← require
    (metadata.validationAtStart = true ->
      setup.validationRunner.isSome = true ∧ setup.evalAtStart = true)
    (.valueError ("Checkpoint records validation-at-start without matching " ++
      "runtime authority"))
  return ()

/-- The check of `last_validated_step`. -/
def checkValidatedStep (lastValidatedStep : Nat) : Checked Unit :=
  if setup.validationRunner.isSome = true then do
    let _ ← require
      (lastValidatedStep = 0 ∨ lastValidatedStep = setup.config.maxSteps ∨
        setup.evalEvery ≠ 0 ∧ lastValidatedStep % setup.evalEvery = 0)
      (.valueError
        "Checkpoint last_validated_step is not on the configured schedule")
    return ()
  else do
    let _ ← require (lastValidatedStep = 0)
      (.valueError ("Checkpoint declares validation progress without " ++
        "validation authority"))
    return ()

/-- The checks of counters at an accumulation boundary. -/
def checkCounters (counters : TrainCounters) : Checked Unit := do
  let _ ← require
    (counters.completedMicrobatches =
      counters.completedSteps * setup.config.gradientAccumulationSteps)
    (.valueError "Checkpoint was not saved at an accumulation boundary")
  let _ ← require
    (counters.consumedRows =
      counters.completedMicrobatches * setup.config.globalMicrobatchRows)
    (.valueError
      "Checkpoint consumed_rows does not match completed microbatches")
  let _ ← require
    (counters.consumedSupervisedTokens ≤ counters.consumedInputTokens)
    (.valueError "Checkpoint supervised tokens exceed input tokens")
  let _ ← require
    (counters.completedSteps = 0 ->
      counters.consumedInputTokens = 0 ∧
        counters.consumedSupervisedTokens = 0)
    (.valueError "Zero-step checkpoint has nonzero token counters")
  return ()

/-- The checks of counters against the frozen geometry. -/
def checkFrozenCounters (counters : TrainCounters) : Checked Unit := do
  let geometry := setup.geometry
  let _ ← require
    (counters.consumedInputTokens =
      counters.completedMicrobatches * setup.config.globalMicrobatchRows *
        geometry.sequenceLength)
    (.valueError
      "Checkpoint consumed_input_tokens does not match frozen geometry")
  let _ ← require
    (totalOf counters.consumedRowsPerDomain = counters.consumedRows ∧
      totalOf counters.consumedInputTokensPerDomain =
        counters.consumedInputTokens ∧
      totalOf counters.consumedSupervisedTokensPerDomain =
        counters.consumedSupervisedTokens)
    (.valueError
      "Checkpoint per-domain counters do not sum to global progress")
  let _ ← require
    (∀ domain ∈ Domain.order,
      counters.consumedInputTokensPerDomain domain =
          counters.consumedRowsPerDomain domain * geometry.sequenceLength ∧
        counters.consumedSupervisedTokensPerDomain domain ≤
          counters.consumedInputTokensPerDomain domain)
    (.valueError "Checkpoint per-domain counters are inconsistent")
  let _ ← require
    (counters.consumedSupervisedTokens ≤ geometry.consumedSupervisedTokens)
    (.valueError
      "Checkpoint consumed supervised tokens exceed frozen authority")
  let _ ← require
    (counters.completedSteps = setup.config.maxSteps ->
      counters.consumedSupervisedTokens = geometry.consumedSupervisedTokens)
    (.valueError
      "Final checkpoint supervised tokens differ from frozen authority")
  let _ ← require
    (counters.completedSteps = setup.config.maxSteps ->
      counters.consumedInputTokensPerDomain =
        geometry.consumedInputTokensPerDomain)
    (.valueError ("Final checkpoint consumed_input_tokens_per_domain " ++
      "differs from frozen authority"))
  let _ ← require
    (counters.completedSteps = setup.config.maxSteps ->
      counters.consumedSupervisedTokensPerDomain =
        geometry.consumedSupervisedTokensPerDomain)
    (.valueError ("Final checkpoint consumed_supervised_tokens_per_domain " ++
      "differs from frozen authority"))
  return ()

/-- What `load_checkpoint` checks of a payload. -/
def checkPayload [DecidableEq Digest] [DecidableEq Identity]
    (payload : setup.Payload) : Checked Unit := do
  checkIdentity payload.identity setup.identity
  let counters := payload.counters
  let _ ← require (payload.lastValidatedStep ≤ counters.completedSteps)
    (.valueError "Train-state validation step exceeds training progress")
  setup.checkMetadata payload.metadata
  let _ ← require (counters.completedSteps ≤ setup.config.maxSteps)
    (.valueError "Checkpoint is beyond max_steps")
  setup.checkValidatedStep payload.lastValidatedStep
  setup.checkCounters counters
  setup.checkFrozenCounters counters

/-! ## Starting -/

/-- The trainer that the constructor makes. -/
def fresh (process : CheckpointProcess setup.Payload) : setup.Trainer where
  toTrainingProgress := setup.initial
  lastValidatedStep := 0
  metadata := ⟨false, none⟩
  stopSignal := 0
  process := process

/-- The checks of `Trainer.__init__` on the geometry. -/
def checkConstruction : Checked Unit := do
  let _ ← require (setup.config.globalMicrobatchRows % worldSize = 0)
    (.valueError "global_microbatch_rows must be divisible by world_size")
  let geometry ← canonicalTrainingGeometry setup.geometry
  let _ ← require
    (geometry.globalMicrobatchRows = setup.config.globalMicrobatchRows ∧
      geometry.gradientAccumulationSteps =
        setup.config.gradientAccumulationSteps ∧
      geometry.optimizerUpdates = setup.config.maxSteps)
    (.valueError "TrainConfig differs from frozen order geometry")
  return ()

/-- `Trainer.load_checkpoint`, of the payload that was read. -/
def loadCheckpoint [DecidableEq Digest] [DecidableEq Identity]
    (process : CheckpointProcess setup.Payload) : Checked setup.Trainer := do
  let payload ← requireObject process.lineage.getLast?
    (.valueError "Checkpoint root must be a dictionary")
  setup.checkPayload payload
  return {
    toTrainingProgress := payload.toTrainingProgress
    lastValidatedStep := payload.lastValidatedStep
    metadata := payload.metadata
    stopSignal := 0
    process := process
  }

/-- `_bind_wandb_run_id`. -/
def bindWandbRunId (runId : Option String) (trainer : setup.Trainer) :
    Checked setup.Trainer :=
  match runId with
  | none => .ok trainer
  | some id => do
      let _ ← require (id ≠ "")
        (.valueError "W&B run ID must be a non-empty string")
      if trainer.metadata.wandbRunId = some id then return trainer
      else return { trainer with
        metadata := { trainer.metadata with wandbRunId := some id }
        process := { trainer.process with lastCheckpoint := none } }

/-- The start of the experiment tracker in `_run_initialized_training`. -/
def startTracker (tracker : TrackerStart Host) (trainer : setup.Trainer) :
    Checked setup.Trainer := do
  let initialized : setup.Trainer := { trainer with
    rngs := onRankZero (preserveHostRngState tracker.initializationDraws)
      trainer.rngs }
  -- the upload stands after the `with` block of the initialization
  let uploaded : setup.Trainer := { initialized with
    rngs := onRankZero
      (fun rng => { rng with host := tracker.evidenceDraws rng.host })
      initialized.rngs }
  let bound ← setup.bindWandbRunId tracker.runId uploaded
  return { bound with
    rngs := onRankZero (preserveHostRngState tracker.metricDraws) bound.rngs }

/-- `_run_initialized_training`, up to the training loader. -/
def startTraining [DecidableEq Digest] [DecidableEq Identity]
    (start : CheckpointStart) (tracker : TrackerStart Host) :
    CheckpointProgram setup.Payload setup.Trainer := do
  let process ← startRun setup.steps start
  Program.lift setup.checkConstruction
  let trainer ← Program.lift (match start with
    | .new => .ok (setup.fresh process)
    | .resumeLast => setup.loadCheckpoint process
    | .recoverPrevious => setup.loadCheckpoint process)
  Program.lift (setup.startTracker tracker trainer)

end TrainingSetup

/-- Where `train` meets the outside. -/
inductive TrainSite
  | entry
  | startValidation
  | dueValidation
  | update
  | checkpoint
  | final
  deriving DecidableEq, Repr

/-- What the outside does while a process trains, at every step: stop signals
that the ranks agree on, draws of the tracker from the host generators, what a
validation pass draws and whether it raises, draws of the construction of the
iterator, and batches that the workers of a rank have drawn ahead. -/
structure TrainSchedule (Host Device : Type) (worldSize : Nat) where
  stopSignal : TrainSite -> Nat -> Checked Nat
  metricDraws : TrainSite -> Nat -> Host -> Host
  validates : Nat -> Checked Unit
  validationDraws : Nat -> (Fin worldSize -> RngState Host Device) ->
    Fin worldSize -> RngState Host Device
  iteratorDraws : (Fin worldSize -> RngState Host Device) ->
    Fin worldSize -> RngState Host Device
  prefetched : Fin worldSize -> Nat -> Nat

/-- The arguments of one call of `train`, with the settings that may differ
between the processes of one trajectory. -/
structure TrainCall (Digest : Type) (worldSize : Nat) where
  logEvery : Nat
  checkpointEvery : Nat
  untilStep : Option Nat
  samplers : Fin worldSize -> DistributedBatchSampler Digest

namespace TrainingSetup

variable (setup : TrainingSetup Weights Optimizer Host Device worldSize
  Digest Identity)
variable (schedule : TrainSchedule Host Device worldSize)

/-- Change the trainers. -/
def modify (change : setup.Trainer -> setup.Trainer) :
    setup.TrainerProgram Unit :=
  Program.commit fun session =>
    { session with trainer := change session.trainer }

/-- Read from the trainers. -/
def read (view : setup.Trainer -> α) : setup.TrainerProgram α :=
  Program.query fun session => view session.trainer

/-- Replace the directory of a session. -/
def putDisk (disk : CheckpointDisk setup.Payload) (session : setup.Session) :
    setup.Session :=
  { session with disk := disk }

/-- Run a program on the checkpoint directory. -/
def onDisk (program : CheckpointProgram setup.Payload α) :
    setup.TrainerProgram α :=
  Program.within TrainingSession.disk setup.putDisk program

/-- `_log_metrics`. -/
def logMetrics (site : TrainSite) : setup.TrainerProgram Unit :=
  setup.modify fun trainer => { trainer with
    rngs := onRankZero (preserveHostRngState
      (schedule.metricDraws site trainer.counters.completedSteps))
        trainer.rngs }

/-- `save_checkpoint`. -/
def saveCheckpoint (site : TrainSite) : setup.TrainerProgram Unit := do
  let trainer ← setup.read id
  if trainer.process.Skips setup.steps (setup.payload trainer) then return ()
  else do
    let process ← setup.onDisk (CodingLlm.saveCheckpoint setup.steps
      trainer.process (setup.payload trainer))
    setup.modify fun trainer => { trainer with process := process }
    setup.logMetrics schedule site

/-- `_distributed_stop_signal`. -/
def distributedStopSignal (site : TrainSite) : setup.TrainerProgram Nat := do
  let step ← setup.read fun trainer => trainer.counters.completedSteps
  Program.lift (schedule.stopSignal site step)

/-- `_honor_stop_request`. -/
def honorStopRequest
    (site : TrainSite) (requestedSignal : Nat)
    (checkpointAlreadyCommitted : Bool) : setup.TrainerProgram Bool :=
  if requestedSignal = 0 then return false
  else do
    let alreadyReported ← setup.read fun trainer =>
      decide (trainer.stopSignal ≠ 0)
    setup.modify fun trainer => { trainer with stopSignal := requestedSignal }
    if checkpointAlreadyCommitted = false then
      setup.saveCheckpoint schedule site
    if alreadyReported = false then
      setup.logMetrics schedule site
    return true

/-- Poll for a stop and honor it. -/
def stopRequested (site : TrainSite) : setup.TrainerProgram Bool := do
  let requested ← setup.distributedStopSignal schedule site
  setup.honorStopRequest schedule site requested false

/-- The progress that `evaluate_validation` records. -/
def recordValidation (trainer : setup.Trainer) : setup.Trainer :=
  if trainer.counters.completedSteps = 0 ∧ setup.evalAtStart = true then
    if trainer.metadata.validationAtStart = true then trainer
    else { trainer with
      metadata := { trainer.metadata with validationAtStart := true }
      process := { trainer.process with lastCheckpoint := none } }
  else if trainer.lastValidatedStep < trainer.counters.completedSteps then
    { trainer with
      lastValidatedStep := trainer.counters.completedSteps
      process := { trainer.process with lastCheckpoint := none } }
  else trainer

/-- `evaluate_validation`. -/
def evaluateValidation (site : TrainSite) : setup.TrainerProgram Unit := do
  let _ ← Program.lift (require (setup.validationRunner.isSome = true)
    (.runtimeError "No validation runner is configured"))
  let step ← setup.read fun trainer => trainer.counters.completedSteps
  -- the generators are restored also when the pass raises
  setup.modify (preserveAllRngState (schedule.validationDraws step))
  Program.lift (schedule.validates step)
  setup.logMetrics schedule site
  setup.modify setup.recordValidation

/-- `_validation_at_start_due`. -/
def validationAtStartDue (trainer : setup.Trainer) : Bool :=
  setup.validationRunner.isSome && setup.evalAtStart &&
    decide (trainer.counters.completedSteps = 0) &&
      !trainer.metadata.validationAtStart

/-- `_validation_due`. -/
def validationDue (trainer : setup.Trainer) : Bool :=
  let step := trainer.counters.completedSteps
  setup.validationRunner.isSome &&
    decide (trainer.lastValidatedStep < step) && decide (step ≠ 0) &&
      (decide (step = setup.config.maxSteps) ||
        decide (0 < setup.evalEvery ∧ step % setup.evalEvery = 0))

/-- The validation of a new run; tells whether to stop. -/
def startValidation : setup.TrainerProgram Bool := do
  let due ← setup.read setup.validationAtStartDue
  if due = true then do
    setup.evaluateValidation schedule .startValidation
    setup.stopRequested schedule .startValidation
  else return false

/-- The validation that a preemption has put off; tells whether to stop. -/
def dueValidation : setup.TrainerProgram Bool := do
  let due ← setup.read setup.validationDue
  if due = true then do
    setup.evaluateValidation schedule .dueValidation
    setup.saveCheckpoint schedule .dueValidation
    setup.stopRequested schedule .dueValidation
  else return false

variable (call : TrainCall Digest worldSize)

/-- `_validate_batch_source`, of one rank. -/
def checkSampler [DecidableEq Digest]
    (sampler : DistributedBatchSampler Digest)
    (completedMicrobatches : Nat) : Checked Unit := do
  let _ ← require
    ((sampler.orderManifestSha256, sampler.manifest.orderSha256) =
      setup.dataIdentity)
    (.valueError "Training loader data_identity mismatch")
  let _ ← require
    (frozenTrainingGeometry sampler.manifest = .ok setup.geometry)
    (.valueError "Training loader training_geometry mismatch")
  let _ ← require
    (sampler.globalMicrobatchRows = setup.config.globalMicrobatchRows)
    (.valueError "Training loader global_microbatch_rows mismatch")
  let _ ← require
    (sampler.gradientAccumulationSteps =
      setup.config.gradientAccumulationSteps)
    (.valueError "Training loader gradient_accumulation_steps mismatch")
  let _ ← require
    (sampler.optimizerUpdateRows = setup.geometry.optimizerUpdateRows)
    (.valueError "Training loader optimizer_update_rows mismatch")
  let _ ← require (sampler.totalOptimizerUpdates = setup.config.maxSteps)
    (.valueError "Training loader optimizer_updates mismatch")
  let _ ← require (sampler.startGlobalMicrobatch = completedMicrobatches)
    (.valueError "Training loader resume_global_microbatch mismatch")
  return ()

/-- `next(iterator)` of one rank. -/
def nextBatch (rank : Fin worldSize) (place accumulationIndex : Nat) :
    Checked Batch := do
  let drawn := place + 1 + schedule.prefetched rank place
  let references ← requireObject
    (((call.samplers rank).batches.take drawn)[place]?)
    (.runtimeError (if accumulationIndex = 0 then
      "Data iterator ended before max_steps at an accumulation boundary"
    else "Data iterator ended in the middle of a gradient-accumulation " ++
      "window"))
  setup.fetch references

/-- The windows of all ranks in one turn of the loop. -/
def drawWindows (turn : Nat) : Checked (List (List Batch)) :=
  (List.finRange worldSize).mapM fun rank =>
    (List.range setup.config.gradientAccumulationSteps).mapM fun index =>
      setup.nextBatch schedule call rank
        (turn * setup.config.gradientAccumulationSteps + index) index

/-- The optimizer update of one turn. -/
def updateTurn (turn : Nat) : setup.TrainerProgram Unit := do
  let progress ← setup.read fun trainer => trainer.toTrainingProgress
  let updated ← Program.lift (do
    let windows ← setup.drawWindows schedule call turn
    setup.optimizerUpdate windows progress)
  setup.modify fun trainer => { trainer with toTrainingProgress := updated }

/-- What follows an update: metrics, stop, validation, checkpoint, stop. -/
def afterUpdate : setup.TrainerProgram Bool := do
  let step ← setup.read fun trainer => trainer.counters.completedSteps
  if step % call.logEvery = 0 then
    setup.logMetrics schedule .update
  let stopped ← setup.stopRequested schedule .update
  if stopped = true then return true
  else do
    let due ← setup.read setup.validationDue
    if due = true then
      setup.evaluateValidation schedule .checkpoint
    if call.checkpointEvery ≠ 0 ∧ step % call.checkpointEvery = 0 then
      setup.saveCheckpoint schedule .checkpoint
    setup.stopRequested schedule .checkpoint

/-- The loop of `train`: turns that remain, and turns that are done. -/
def trainLoop : Nat -> Nat -> setup.TrainerProgram Unit
  | 0, _ => return ()
  | remaining + 1, turn => do
      setup.updateTurn schedule call turn
      let stopped ← setup.afterUpdate schedule call
      if stopped = true then return ()
      else trainLoop remaining (turn + 1)

/-- The checks at the end of `train`. -/
def checkFinal (counters : TrainCounters) : Checked Unit := do
  let geometry := setup.geometry
  let complete := counters.completedSteps = setup.config.maxSteps
  let _ ← require (complete -> counters.consumedRows = geometry.consumedRows)
    (.runtimeError
      "Final trainer consumed_rows differs from frozen order authority")
  let _ ← require
    (complete ->
      counters.consumedInputTokens = geometry.consumedInputTokens)
    (.runtimeError
      "Final trainer consumed_input_tokens differs from frozen order authority")
  let _ ← require
    (complete ->
      counters.consumedSupervisedTokens = geometry.consumedSupervisedTokens)
    (.runtimeError ("Final trainer consumed_supervised_tokens differs from " ++
      "frozen order authority"))
  let _ ← require
    (complete ->
      counters.consumedInputTokensPerDomain =
        geometry.consumedInputTokensPerDomain)
    (.runtimeError ("Final trainer consumed_input_tokens_per_domain differs " ++
      "from frozen order authority"))
  let _ ← require
    (complete ->
      counters.consumedSupervisedTokensPerDomain =
        geometry.consumedSupervisedTokensPerDomain)
    (.runtimeError ("Final trainer consumed_supervised_tokens_per_domain " ++
      "differs from frozen order authority"))
  return ()

/-- `train`, from the batch source to its end. -/
def trainUpdates [DecidableEq Digest] (target : Nat) :
    setup.TrainerProgram Unit := do
  let counters ← setup.read fun trainer => trainer.counters
  if target = counters.completedSteps then return ()
  else do
    Program.lift (do
      let _ ← (List.finRange worldSize).mapM fun rank =>
        setup.checkSampler (call.samplers rank) counters.completedMicrobatches
      return ())
    setup.modify (preserveAllRngState schedule.iteratorDraws)
    setup.trainLoop schedule call (target - counters.completedSteps) 0
    let counters ← setup.read fun trainer => trainer.counters
    Program.lift (setup.checkFinal counters)

/-- `Trainer.train`. -/
def train [DecidableEq Digest] : setup.TrainerProgram Unit := do
  let step ← setup.read fun trainer => trainer.counters.completedSteps
  let target := call.untilStep.getD setup.config.maxSteps
  let _ ← Program.lift (require
    (step ≤ target ∧ target ≤ setup.config.maxSteps)
    (.valueError
      "until_step must be between current progress and max_steps"))
  let stopped ← setup.stopRequested schedule .entry
  if stopped = true then return ()
  else do
    let stopped ← setup.startValidation schedule
    if stopped = true then return ()
    else do
      let stopped ← setup.dueValidation schedule
      if stopped = true then return ()
      else setup.trainUpdates schedule call target

/-- `_finalize_training_run`; returns the exit code. -/
def finalizeTrainingRun : setup.TrainerProgram Nat := do
  setup.saveCheckpoint schedule .final
  let requested ← setup.distributedStopSignal schedule .final
  let stopped ← setup.honorStopRequest schedule .final requested true
  return if stopped = true then 128 + requested else 0

end TrainingSetup

end CodingLlm
