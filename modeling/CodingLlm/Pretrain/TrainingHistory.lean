import CodingLlm.Pretrain.Trainer
import CodingLlm.Pretrain.ExactlyOnce

/-!
# Training over restarts

The uninterrupted run that an order and a setup determine, update by update,
and the histories of processes that train it: started anew or from a
checkpoint, stopped, killed at any effect, or left with a damaged `last`.
-/

namespace CodingLlm

open CrashLogic Words Slices

variable {Weights Optimizer Host Device Digest Identity Cursor : Type}
variable {worldSize : Nat}

namespace TrainingSetup

variable (setup : TrainingSetup Weights Optimizer Host Device worldSize
  Digest Identity)

/-! ## The uninterrupted run -/

/-- The batches of an update in rank order, from its rows. -/
def updateWindows (rows : List Nat) : Checked (List (List Batch)) :=
  let perMicrobatch := setup.config.globalMicrobatchRows
  let perRank := setup.localBatchSize
  (List.finRange worldSize).mapM fun rank =>
    (List.range setup.config.gradientAccumulationSteps).mapM fun index =>
      setup.fetch (slice (slice rows (index * perMicrobatch) perMicrobatch)
        (rank.val * perRank) perRank)

/-- Update `step` of an order: the rows are the next
`global_microbatch_rows * gradient_accumulation_steps` of it. -/
def updateOfOrder
    (order : List Nat) (step : Nat)
    (progress : TrainingProgress Weights Optimizer Host Device worldSize) :
    Checked
      (TrainingProgress Weights Optimizer Host Device worldSize) := do
  let updateRows := setup.config.updateRows
  let windows ←
    setup.updateWindows (slice order (step * updateRows) updateRows)
  setup.optimizerUpdate windows progress

/-- The uninterrupted run after a number of updates. -/
def uninterrupted (order : List Nat) :
    Nat -> Checked (TrainingProgress Weights Optimizer Host Device worldSize)
  | 0 => .ok setup.initial
  | step + 1 => do
      let progress ← uninterrupted order step
      setup.updateOfOrder order step progress

/-- The state of the uninterrupted run after as many updates. -/
def OnTrajectory
    (order : List Nat)
    (progress : TrainingProgress Weights Optimizer Host Device worldSize) :
    Prop :=
  setup.uninterrupted order progress.counters.completedSteps = .ok progress

end TrainingSetup

/-! ## Histories -/

/-- What a process does with a checkpoint directory. -/
inductive TrainingPhase (Trainer : Type)
  | idle
  | ready (trainer : Trainer)
  | running (trainer : Trainer)

/-- What a process does once its trainer is constructed. -/
inductive TrainingActivity (Host Device Digest : Type) (worldSize : Nat)
  | train (schedule : TrainSchedule Host Device worldSize)
      (call : TrainCall Digest worldSize)
  | finalize (schedule : TrainSchedule Host Device worldSize)

/-- The samplers of the ranks are built on an order, with any other
arguments. -/
def TrainCall.BuiltOn [DecidableEq Digest]
    (hash : FileHash Digest Cursor) (directory : OrderDirectory Digest)
    (call : TrainCall Digest worldSize) : Prop :=
  ∀ rank : Fin worldSize, ∃ arguments resumeState,
    arguments.rank = .int rank.val ∧ arguments.worldSize = .int worldSize ∧
      DistributedBatchSampler.new hash directory arguments resumeState =
        .ok (call.samplers rank)

/-- The loaders of an activity read an order. -/
def TrainingActivity.BuiltOn [DecidableEq Digest]
    (hash : FileHash Digest Cursor) (directory : OrderDirectory Digest) :
    TrainingActivity Host Device Digest worldSize -> Prop
  | .train _ call => call.BuiltOn hash directory
  | .finalize _ => True

namespace TrainingSetup

variable (setup : TrainingSetup Weights Optimizer Host Device worldSize
  Digest Identity)

/-- The program of an activity. -/
def program [DecidableEq Digest] :
    TrainingActivity Host Device Digest worldSize ->
      setup.TrainerProgram Unit
  | .train schedule call => setup.train schedule call
  | .finalize schedule => do
      let _ ← setup.finalizeTrainingRun schedule
      return ()

end TrainingSetup

variable [DecidableEq Digest] [DecidableEq Identity]

/-- What has happened to one trajectory: the checkpoint directory, and the
process that is on it.  Trackers are those of a family. -/
inductive TrainingHistory
    (setup : TrainingSetup Weights Optimizer Host Device worldSize Digest
      Identity)
    (hash : FileHash Digest Cursor) (directory : OrderDirectory Digest)
    (trackers : TrackerStart Host -> Prop) :
    CheckpointDisk setup.Payload -> TrainingPhase setup.Trainer -> Prop
  | empty : TrainingHistory setup hash directory trackers .empty .idle
  | started
      {disk : CheckpointDisk setup.Payload} {start : CheckpointStart}
      {tracker : TrackerStart Host} {trainer : setup.Trainer} :
      TrainingHistory setup hash directory trackers disk .idle ->
      trackers tracker ->
      ((setup.startTraining start tracker).run disk).result = .ok trainer ->
      TrainingHistory setup hash directory trackers
        ((setup.startTraining start tracker).run disk).final (.ready trainer)
  | startKilled
      {disk visited left : CheckpointDisk setup.Payload}
      {start : CheckpointStart}
      {tracker : TrackerStart Host} :
      TrainingHistory setup hash directory trackers disk .idle ->
      (setup.startTraining start tracker).Killed disk visited ->
      visited.Lost left ->
      TrainingHistory setup hash directory trackers left .idle
  | running
      {disk : CheckpointDisk setup.Payload} {trainer : setup.Trainer}
      {activity : TrainingActivity Host Device Digest worldSize}
      {session : setup.Session} :
      TrainingHistory setup hash directory trackers disk (.ready trainer) ->
      activity.BuiltOn hash directory ->
      (setup.program activity).Killed ⟨disk, trainer⟩ session ->
      TrainingHistory setup hash directory trackers session.disk
        (.running session.trainer)
  | returned
      {disk : CheckpointDisk setup.Payload} {trainer : setup.Trainer}
      {activity : TrainingActivity Host Device Digest worldSize} :
      TrainingHistory setup hash directory trackers disk (.ready trainer) ->
      activity.BuiltOn hash directory ->
      ((setup.program activity).run ⟨disk, trainer⟩).result = .ok () ->
      TrainingHistory setup hash directory trackers
        ((setup.program activity).run ⟨disk, trainer⟩).final.disk
        (.ready ((setup.program activity).run ⟨disk, trainer⟩).final.trainer)
  | ended
      {disk left : CheckpointDisk setup.Payload}
      {phase : TrainingPhase setup.Trainer} :
      TrainingHistory setup hash directory trackers disk phase ->
      disk.Lost left ->
      TrainingHistory setup hash directory trackers left .idle
  | damaged
      {disk : CheckpointDisk setup.Payload} :
      TrainingHistory setup hash directory trackers disk .idle ->
      TrainingHistory setup hash directory trackers disk.corruptLast .idle

end CodingLlm
