import CodingLlm.Pretrain.TrainerInvariants

/-!
# What trainers keep over restarts

A contract that starts respect, besides saves and updates, holds of every
checkpoint directory and every trainer of a training history.
-/

namespace CodingLlm

open CrashLogic CheckpointDisk Words

variable {Weights Optimizer Host Device Digest Identity Cursor : Type}
variable {worldSize : Nat}
variable {setup : TrainingSetup Weights Optimizer Host Device worldSize Digest
  Identity}

/-! ## Starting -/

namespace TrainingSetup

/-- A tracker may forget the last checkpoint of a trainer. -/
theorem startTracker_process
    {tracker : TrackerStart Host} {trainer started : setup.Trainer}
    (succeeded : setup.startTracker tracker trainer = .ok started) :
    started.process = trainer.process ∨
      started.process = { trainer.process with lastCheckpoint := none } := by
  unfold startTracker at succeeded
  obtain ⟨bound, binds, succeeded⟩ := checked_bind_eq_ok.mp succeeded
  rw [← checked_pure_eq_ok.mp succeeded]
  unfold bindWandbRunId at binds
  split at binds
  · cases binds
    exact .inl rfl
  · obtain ⟨_, binds⟩ := require_then_eq_ok.mp binds
    split at binds
    · cases binds
      exact .inl rfl
    · cases binds
      exact .inr rfl

variable [DecidableEq Digest] [DecidableEq Identity]

/-- What `load_checkpoint` restores. -/
theorem loadCheckpoint_eq_ok
    {process : CheckpointProcess setup.Payload} {trainer : setup.Trainer}
    (loaded : setup.loadCheckpoint process = .ok trainer) :
    ∃ payload, payload ∈ process.lineage ∧
      trainer.toTrainingProgress = payload.toTrainingProgress ∧
      trainer.lastValidatedStep = payload.lastValidatedStep ∧
      trainer.metadata = payload.metadata ∧
      trainer.process = process := by
  unfold loadCheckpoint at loaded
  obtain ⟨payload, last, loaded⟩ := checked_bind_eq_ok.mp loaded
  obtain ⟨_, _, loaded⟩ := checked_bind_eq_ok.mp loaded
  rw [requireObject_eq_ok] at last
  rw [← checked_pure_eq_ok.mp loaded]
  exact ⟨payload, List.mem_of_getLast? last, rfl, rfl, rfl, rfl⟩

end TrainingSetup

namespace TrainerContract

open TrainingSetup

variable [DecidableEq Digest] [DecidableEq Identity]

/-- Starts with trackers of a family, and losses between processes, respect a
contract. -/
structure Restartable
    (contract : TrainerContract setup) (trackers : TrackerStart Host -> Prop) :
    Prop where
  empty : contract.diskCrash .empty
  lost : ∀ before after, contract.diskCrash before -> before.Lost after ->
    contract.diskCrash after
  corrupted : ∀ directory, contract.diskCrash directory ->
    contract.diskCrash directory.corruptLast
  start : ∀ directory start, contract.diskCrash directory ->
    (startRun setup.steps start).wp
      (fun process final => contract.disk final process)
      (fun _ => contract.diskCrash) contract.diskCrash directory
  fresh : ∀ process, contract.trainer (setup.fresh process)
  loaded : ∀ directory process trainer, contract.disk directory process ->
    setup.loadCheckpoint process = .ok trainer -> contract.trainer trainer
  tracked : ∀ tracker trainer started, trackers tracker ->
    contract.trainer trainer ->
    setup.startTracker tracker trainer = .ok started ->
    contract.trainer started

variable {contract : TrainerContract setup} {order : List Nat}
variable {trackers : TrackerStart Host -> Prop}

/-- A run that starts. -/
theorem startTraining_wp
    {start : CheckpointStart} {tracker : TrackerStart Host}
    {disk : CheckpointDisk setup.Payload}
    (lawful : contract.Lawful order)
    (restartable : contract.Restartable trackers)
    (member : trackers tracker)
    (kept : contract.diskCrash disk) :
    (setup.startTraining start tracker).wp
      (fun trainer final => contract.sessions.holds ⟨final, trainer⟩)
      (fun _ => contract.diskCrash) contract.diskCrash disk := by
  unfold startTraining
  rw [Program.wp_bind]
  apply (restartable.start disk start kept).weaken
  intro process started kept
  have crash := contract.crash_of_disk started process kept
  rw [Program.wp_bind, Program.wp_lift]
  cases setup.checkConstruction with
  | error _ => exact crash
  | ok _ =>
      dsimp only
      have initial (trainer : setup.Trainer)
          (same : trainer.process = process)
          (holds : contract.trainer trainer) :
          (Program.lift (setup.startTracker tracker trainer)).wp
            (fun trainer final => contract.sessions.holds ⟨final, trainer⟩)
            (fun _ => contract.diskCrash) contract.diskCrash started := by
        rw [Program.wp_lift]
        cases succeeded : setup.startTracker tracker trainer with
        | error _ => exact crash
        | ok ready =>
            refine ⟨?_, restartable.tracked _ _ _ member holds succeeded⟩
            rcases startTracker_process succeeded with unchanged | forgotten
            · change contract.disk started ready.process
              rw [unchanged, same]
              exact kept
            · change contract.disk started ready.process
              rw [forgotten, same]
              exact lawful.invalidated started process kept
      have resumed : (Program.lift (setup.loadCheckpoint process) >>=
          fun trainer => Program.lift
            (setup.startTracker tracker trainer)).wp
          (fun trainer final => contract.sessions.holds ⟨final, trainer⟩)
          (fun _ => contract.diskCrash) contract.diskCrash started := by
        rw [Program.wp_bind, Program.wp_lift]
        cases loaded : setup.loadCheckpoint process with
        | error _ => exact crash
        | ok trainer =>
            obtain ⟨_, _, _, _, _, same⟩ := loadCheckpoint_eq_ok loaded
            exact initial trainer same
              (restartable.loaded started process trainer kept loaded)
      cases start with
      | new =>
          rw [Program.wp_bind, Program.wp_lift_ok]
          exact initial (setup.fresh process) rfl (restartable.fresh process)
      | resumeLast => exact resumed
      | recoverPrevious => exact resumed

/-- A start that is killed has written no checkpoint, whatever its tracker
does. -/
theorem startTraining_killed
    {start : CheckpointStart} {tracker : TrackerStart Host}
    {disk visited : CheckpointDisk setup.Payload}
    (restartable : contract.Restartable trackers)
    (kept : contract.diskCrash disk)
    (killed : (setup.startTraining start tracker).Killed disk visited) :
    contract.diskCrash visited := by
  have met : (Contract.always contract.diskCrash).Met
      (setup.startTraining start tracker) := by
    apply Contract.Met.bind
    · intro before every
      exact (restartable.start before start every).mono
        (fun process final => contract.crash_of_disk final process)
        (fun _ _ every => ⟨trivial, every⟩) (fun _ => id)
    intro process
    apply Contract.Met.bind (Contract.Met.lift fun _ _ => trivial)
    intro _
    apply Contract.Met.bind (Contract.Met.lift fun _ _ => trivial)
    intro _
    exact Contract.Met.lift fun _ _ => trivial
  exact met.killed kept killed

end TrainerContract

/-! ## Histories -/

/-- The trainers of a phase. -/
def TrainingPhase.trainer? : TrainingPhase Trainer -> Option Trainer
  | .idle => none
  | .ready trainer => some trainer
  | .running trainer => some trainer

open TrainingSetup TrainerContract

section Histories

variable [DecidableEq Digest]
variable {hash : FileHash Digest Cursor} {directory : OrderDirectory Digest}
variable {manifest : OrderManifest Digest} {bytes : List Byte}
variable {verifyChecksum : Bool}
variable {contract : TrainerContract setup}

/-- An activity keeps a contract that allows every error. -/
theorem TrainerContract.program_wp
    {activity : TrainingActivity Host Device Digest worldSize}
    {session : setup.Session}
    (loaded : loadOrderManifest hash.bytes verifyChecksum directory =
      .ok (manifest, bytes))
    (lawful : contract.Lawful (decodeWords referenceItemSize bytes))
    (raises : ∀ error, contract.raises error)
    (built : activity.BuiltOn hash directory)
    (holds : contract.sessions.holds session) :
    (setup.program activity).wp (fun _ => contract.sessions.holds)
      (fun _ => contract.sessions.crash) contract.sessions.crash session := by
  have admits (schedule : TrainSchedule Host Device worldSize) :
      contract.Admits schedule :=
    ⟨fun _ _ _ _ => raises _, fun _ _ _ => raises _⟩
  cases activity with
  | train schedule call =>
      have reads : ReadBy (decodeWords referenceItemSize bytes) call := by
        intro rank
        obtain ⟨arguments, resumeState, atRank, ofWorld, built⟩ := built rank
        exact DistributedBatchSampler.reads_of_new loaded built atRank ofWorld
      exact (train_wp lawful (admits schedule) reads
        (fun _ _ _ => raises _) (fun _ => raises _) holds).mono
        (fun _ _ => id) (fun _ _ => And.right) (fun _ => id)
  | finalize schedule =>
      unfold TrainingSetup.program
      rw [Program.wp_bind]
      apply (finalizeTrainingRun_wp lawful (admits schedule) holds).mono _
        (fun _ _ => And.right) (fun _ => id)
      intro _ final ended
      exact (Program.wp_pure _).mpr ended

variable [DecidableEq Identity]
variable {trackers : TrackerStart Host -> Prop}

/-- Every history keeps a contract. -/
theorem TrainingHistory.keeps
    {disk : CheckpointDisk setup.Payload}
    {phase : TrainingPhase setup.Trainer}
    (loaded : loadOrderManifest hash.bytes verifyChecksum directory =
      .ok (manifest, bytes))
    (lawful : contract.Lawful (decodeWords referenceItemSize bytes))
    (restartable : contract.Restartable trackers)
    (raises : ∀ error, contract.raises error)
    (history : TrainingHistory setup hash directory trackers disk phase) :
    contract.diskCrash disk ∧
      (∀ trainer, phase.trainer? = some trainer ->
        contract.trainer trainer) ∧
      ∀ trainer, phase = .ready trainer ->
        contract.disk disk trainer.process := by
  induction history with
  | empty => exact ⟨restartable.empty, nofun, nofun⟩
  | started _ member succeeded kept =>
      have ended := (startTraining_wp lawful restartable member kept.1).ok
        succeeded
      refine ⟨contract.crash_of_disk _ _ ended.1, ?_, ?_⟩
      · rintro _ ⟨⟩
        exact ended.2
      · rintro _ ⟨⟩
        exact ended.1
  | startKilled _ killed lost kept =>
      refine ⟨?_, nofun, nofun⟩
      exact restartable.lost _ _
        (startTraining_killed restartable kept.1 killed) lost
  | @running disk trainer activity session _ built killed kept =>
      have holds : contract.sessions.holds ⟨disk, trainer⟩ :=
        ⟨kept.2.2 _ rfl, kept.2.1 _ rfl⟩
      have crashed := (program_wp loaded lawful raises built holds).killed
        (contract.sessions.crash_of_holds _ holds) killed
      refine ⟨crashed.1, ?_, nofun⟩
      rintro _ ⟨⟩
      exact crashed.2
  | @returned disk trainer activity _ built succeeded kept =>
      have holds : contract.sessions.holds ⟨disk, trainer⟩ :=
        ⟨kept.2.2 _ rfl, kept.2.1 _ rfl⟩
      have ended := (program_wp loaded lawful raises built holds).ok succeeded
      refine ⟨contract.crash_of_disk _ _ ended.1, ?_, ?_⟩
      · rintro _ ⟨⟩
        exact ended.2
      · rintro _ ⟨⟩
        exact ended.1
  | ended _ lost kept =>
      exact ⟨restartable.lost _ _ kept.1 lost, nofun, nofun⟩
  | damaged _ kept =>
      exact ⟨restartable.corrupted _ kept.1, nofun, nofun⟩

end Histories

end CodingLlm
