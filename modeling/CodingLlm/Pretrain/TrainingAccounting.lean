import CodingLlm.Pretrain.UpdateAccounting
import CodingLlm.Pretrain.TrainerHistories
import CodingLlm.Pretrain.CheckpointHistories

/-!
# Training is accounted for

In every history of starts, trainings, stops, kills and recoveries on an
accepted order of finished packed directories, the counters of trainers and
checkpoints are those of a prefix of the order, no accounting check ever
raises, and every checkpoint can be loaded.
-/

namespace CodingLlm

open CrashLogic CheckpointDisk Words Slices

variable {Weights Optimizer Host Device Digest Identity Cursor : Type}
variable {worldSize : Nat}
variable {setup : TrainingSetup Weights Optimizer Host Device worldSize Digest
  Identity}

namespace TrainingSetup

/-! ## What is kept -/

/-- Counters of a prefix of whole updates, with validation progress that the
configuration allows. -/
structure Accounted
    (setup : TrainingSetup Weights Optimizer Host Device worldSize Digest
      Identity)
    (authority : Nat -> TrainCounters) (counters : TrainCounters)
    (lastValidatedStep : Nat) (metadata : CheckpointMetadata) : Prop where
  inside : counters.completedSteps ≤ setup.config.maxSteps
  counters_eq : counters = authority counters.completedSteps
  validated_le : lastValidatedStep ≤ counters.completedSteps
  validated : setup.checkValidatedStep lastValidatedStep = .ok ()
  metadata : setup.checkMetadata metadata = .ok ()

/-- A checkpoint of the setup that is accounted for. -/
structure PayloadAccounted
    (setup : TrainingSetup Weights Optimizer Host Device worldSize Digest
      Identity)
    (authority : Nat -> TrainCounters) (payload : setup.Payload) :
    Prop where
  identity_eq : payload.identity = setup.identity
  accounted : setup.Accounted authority payload.counters
    payload.lastValidatedStep payload.metadata

/-- A generation that saves have written, by the trainer that runs. -/
def Kept (setup : TrainingSetup Weights Optimizer Host Device worldSize Digest
      Identity)
    (directory : CheckpointDisk setup.Payload)
    (process : CheckpointProcess setup.Payload) : Prop :=
  ∃ returned, directory.Sound returned ∧ directory.Trains returned process

/-- All checkpoints and trainers are accounted for; only what the outside
raises is raised. -/
def accountingContract
    (setup : TrainingSetup Weights Optimizer Host Device worldSize Digest
      Identity)
    (authority : Nat -> TrainCounters) (outside : PyError -> Prop) :
    TrainerContract setup where
  disk directory process := setup.Kept directory process ∧
    ContentsHold (setup.PayloadAccounted authority) directory ∧
      LineageHolds (setup.PayloadAccounted authority) process.lineage
  diskCrash directory := (∃ returned, directory.Sound returned) ∧
    ContentsHold (setup.PayloadAccounted authority) directory
  trainer trainer := setup.Accounted authority trainer.counters
    trainer.lastValidatedStep trainer.metadata
  raises := outside
  crash_of_disk := by
    rintro _ _ ⟨⟨returned, sound, _⟩, every, _⟩
    exact ⟨⟨returned, sound⟩, every⟩

/-! ## Validation progress -/

/-- A validation pass that is due leaves progress on the schedule. -/
theorem Accounted.recordValidation
    {authority : Nat -> TrainCounters} {trainer : setup.Trainer}
    (accounted : setup.Accounted authority trainer.counters
      trainer.lastValidatedStep trainer.metadata)
    (due : setup.validationAtStartDue trainer = true ∨
      setup.validationDue trainer = true) :
    setup.Accounted authority (setup.recordValidation trainer).counters
      (setup.recordValidation trainer).lastValidatedStep
      (setup.recordValidation trainer).metadata := by
  unfold TrainingSetup.recordValidation
  split
  · rename_i start
    split
    · exact accounted
    · refine ⟨accounted.inside, accounted.counters_eq, accounted.validated_le,
        accounted.validated, ?_⟩
      unfold checkMetadata
      apply require_bind
      intro _
      exact ⟨setup.runner_iff.mpr (.inr start.2), start.2⟩
  · rename_i later
    split
    · refine ⟨accounted.inside, accounted.counters_eq, le_rfl, ?_,
        accounted.metadata⟩
      rcases due with atStart | due
      · unfold validationAtStartDue at atStart
        simp only [Bool.and_eq_true, decide_eq_true_eq] at atStart
        exact absurd ⟨atStart.1.2, atStart.1.1.2⟩ later
      · unfold validationDue at due
        simp only [Bool.and_eq_true, Bool.or_eq_true, decide_eq_true_eq]
          at due
        obtain ⟨⟨⟨runner, _⟩, _⟩, scheduled⟩ := due
        unfold checkValidatedStep
        rw [if_pos runner]
        apply require_bind
        rcases scheduled with final | periodic
        · exact .inr (.inl final)
        · exact .inr (.inr ⟨periodic.1.ne', periodic.2⟩)
    · exact accounted

/-- A tracker changes neither counters nor validation progress. -/
theorem startTracker_accounted
    {authority : Nat -> TrainCounters} {tracker : TrackerStart Host}
    {trainer started : setup.Trainer}
    (accounted : setup.Accounted authority trainer.counters
      trainer.lastValidatedStep trainer.metadata)
    (succeeded : setup.startTracker tracker trainer = .ok started) :
    setup.Accounted authority started.counters started.lastValidatedStep
      started.metadata := by
  unfold startTracker at succeeded
  obtain ⟨bound, binds, succeeded⟩ := checked_bind_eq_ok.mp succeeded
  rw [← checked_pure_eq_ok.mp succeeded]
  unfold bindWandbRunId at binds
  split at binds
  · cases binds
    exact accounted
  · obtain ⟨_, binds⟩ := require_then_eq_ok.mp binds
    split at binds
    · cases binds
      exact accounted
    · cases binds
      exact ⟨accounted.inside, accounted.counters_eq, accounted.validated_le,
        accounted.validated, accounted.metadata⟩

/-! ## Saves -/

/-- A save of a process that trains on a sound directory returns and keeps
all. -/
theorem Kept.save
    {directory : CheckpointDisk setup.Payload}
    {process : CheckpointProcess setup.Payload} {payload : setup.Payload}
    (kept : setup.Kept directory process) :
    (CodingLlm.saveCheckpoint setup.steps process payload).wp
      (fun next final => setup.Kept final next) (fun _ _ => False)
      (fun visited => ∃ returned, visited.Sound returned) directory := by
  obtain ⟨returned, sound, trains⟩ := kept
  apply (saveCheckpoint_wp setup.steps sound trains payload).mono
  · intro next final ended
    split at ended
    · rw [ended.1, ended.2]
      exact ⟨returned, sound, trains⟩
    · exact ⟨_, ended.2.2.sound, ended.2.2.trains ended.1 ended.2.1⟩
  · exact fun _ _ => id
  · exact fun _ spared => ⟨returned, spared.1⟩

/-- A process that forgets its last checkpoint. -/
theorem Kept.invalidated
    {directory : CheckpointDisk setup.Payload}
    {process : CheckpointProcess setup.Payload}
    (kept : setup.Kept directory process) :
    setup.Kept directory { process with lastCheckpoint := none } := by
  obtain ⟨returned, sound, trains⟩ := kept
  exact ⟨returned, sound, trains.recovered, trains.resumed, trains.fresh,
    trains.keeps, nofun⟩

end TrainingSetup

open TrainingSetup

/-! ## The contract -/

section Contract

variable [DecidableEq Digest]
variable {hash : FileHash Digest Cursor} {store : PackedStore Digest Cursor}
variable {verifyPayloadChecksums : Bool} {directory : OrderDirectory Digest}
variable {manifest : OrderManifest Digest} {bytes : List Byte}
variable {directories : Domain -> Directory Digest Cursor}
variable {manifests : Domain -> PackedManifest Digest Cursor}
variable {outside : PyError -> Prop}

namespace TrainsOrder

/-- The counters of a prefix of the order. -/
def authority
    (_ : TrainsOrder setup hash store verifyPayloadChecksums directory
      manifest bytes directories manifests) : Nat -> TrainCounters :=
  setup.config.countersAfter manifests directories manifest.sequenceLength
    (decodeWords referenceItemSize bytes)

variable (trains : TrainsOrder setup hash store verifyPayloadChecksums
  directory manifest bytes directories manifests)

/-- An update of accounted counters. -/
theorem update_accounted
    {progress next : TrainingProgress Weights Optimizer Host Device worldSize}
    {lastValidatedStep : Nat} {metadata : CheckpointMetadata}
    (accounted : setup.Accounted trains.authority progress.counters
      lastValidatedStep metadata)
    (updated : setup.updateOfOrder (decodeWords referenceItemSize bytes)
      progress.counters.completedSteps progress = .ok next) :
    setup.Accounted trains.authority next.counters lastValidatedStep
      metadata := by
  have inside : progress.counters.completedSteps < setup.config.maxSteps := by
    unfold TrainingSetup.updateOfOrder TrainingSetup.optimizerUpdate
      at updated
    obtain ⟨_, _, updated⟩ := checked_bind_eq_ok.mp updated
    obtain ⟨_, scheduled, _⟩ := checked_bind_eq_ok.mp updated
    exact (require_then_eq_ok.mp scheduled).1
  obtain ⟨other, again, counted⟩ :=
    trains.updateOfOrder_eq inside accounted.counters_eq
  rw [updated] at again
  cases again
  have steps : next.counters.completedSteps =
      progress.counters.completedSteps + 1 := by
    rw [counted]
    rfl
  refine ⟨?_, ?_, ?_, accounted.validated, accounted.metadata⟩
  · rw [steps]
    exact inside
  · rw [steps]
    exact counted
  · rw [steps]
    exact Nat.le_succ_of_le accounted.validated_le

/-- Saves, validation records and updates of the order respect the contract,
and raise nothing. -/
theorem accountingContract_lawful :
    (setup.accountingContract trains.authority outside).Lawful
      (decodeWords referenceItemSize bytes) where
  invalidated _ _ kept := ⟨kept.1.invalidated, kept.2⟩
  save disk trainer kept accounted := by
    have good : setup.PayloadAccounted trains.authority
        (setup.payload trainer) := ⟨rfl, accounted⟩
    have contents := saveCheckpoint_contents setup.steps kept.2.1 kept.2.2 good
    exact (kept.1.save.and contents).mono
      (fun _ _ => id) (fun _ _ failed => failed.1.elim) (fun _ => id)
  process _ _ accounted := accounted
  stopSignal _ _ accounted := accounted
  validated _ accounted due := accounted.recordValidation due
  aligned trainer accounted := by
    have counted := congrArg TrainCounters.completedMicrobatches
      accounted.counters_eq
    exact counted
  update _ _ accounted updated := trains.update_accounted accounted updated
  update_raises trainer _ accounted inside raised := by
    obtain ⟨_, updated, _⟩ :=
      trains.updateOfOrder_eq inside accounted.counters_eq
    rw [updated] at raised
    cases raised
  final_raises trainer _ accounted raised := by
    rw [accounted.counters_eq] at raised
    have passes := trains.checkFinal_eq trainer.counters.completedSteps
    rw [show setup.config.countersAfter manifests directories
      manifest.sequenceLength (decodeWords referenceItemSize bytes) =
        trains.authority from rfl] at passes
    rw [passes] at raised
    cases raised

/-! ## Loading -/

section Loading

variable [DecidableEq Identity]

omit [DecidableEq Digest] in
/-- A run is identical with itself. -/
theorem checkEnvironment_self
    (environment : String -> Identity) (names : List String) :
    checkEnvironment environment environment names = .ok () := by
  induction names with
  | nil => rfl
  | cons name rest inductionHypothesis =>
      unfold checkEnvironment
      rw [require_eq_ok rfl, checked_ok_bind]
      exact inductionHypothesis

theorem checkIdentity_self (identity : RunIdentity Digest Identity) :
    checkIdentity identity identity = .ok () := by
  unfold checkIdentity
  simp only [checkEnvironment_self, checked_ok_bind,
    require_eq_ok (Eq.refl _)]
  rfl

/-- Every accounted checkpoint passes the checks of `load_checkpoint`. -/
theorem checkPayload_eq
    {payload : setup.Payload}
    (accounted : setup.PayloadAccounted trains.authority payload) :
    setup.checkPayload payload = .ok () := by
  obtain ⟨identity, inside, counted, validatedLe, validated, metadata⟩ :=
    accounted
  have counters := trains.checkCounters_eq inside
  have frozen := trains.checkFrozenCounters_eq inside
  unfold TrainsOrder.authority at counted
  rw [← counted] at counters frozen
  unfold TrainingSetup.checkPayload
  dsimp only
  rw [identity, checkIdentity_self, checked_ok_bind,
    require_eq_ok validatedLe, checked_ok_bind, metadata, checked_ok_bind,
    require_eq_ok inside, checked_ok_bind, validated, checked_ok_bind,
    counters, checked_ok_bind]
  exact frozen

/-- `load_checkpoint` accepts every lineage of accounted checkpoints. -/
theorem loadCheckpoint_accepts
    {process : CheckpointProcess setup.Payload}
    (nonempty : process.lineage ≠ [])
    (every : LineageHolds (setup.PayloadAccounted trains.authority)
      process.lineage) :
    ∃ trainer, setup.loadCheckpoint process = .ok trainer ∧
      trainer.counters = trains.authority trainer.counters.completedSteps := by
  have last := List.getLast?_eq_some_getLast nonempty
  have good := every _ (List.getLast_mem nonempty)
  unfold TrainingSetup.loadCheckpoint
  rw [last, requireObject_some, checked_ok_bind,
    trains.checkPayload_eq good, checked_ok_bind]
  exact ⟨_, rfl, good.accounted.counters_eq⟩

/-- Restarts respect the contract, with any tracker. -/
theorem accountingContract_restartable :
    (setup.accountingContract trains.authority outside).Restartable
      fun _ => True where
  empty := ⟨⟨none, .empty⟩, .empty⟩
  lost before after kept lost := by
    obtain ⟨⟨returned, sound⟩, every⟩ := kept
    exact ⟨⟨returned, sound.lost lost⟩, every.lost lost⟩
  corrupted disk kept := by
    obtain ⟨⟨returned, sound⟩, every⟩ := kept
    exact ⟨⟨returned, sound.corruptLast⟩, every.corruptLast⟩
  start disk start kept := by
    obtain ⟨⟨returned, sound⟩, every⟩ := kept
    have contents := startRun_contents setup.steps start every
    exact ((startRun_wp setup.steps sound start).and contents).mono
      (fun _ _ ended => ⟨⟨_, ended.1⟩, ended.2⟩)
      (fun _ _ ended => ⟨⟨returned, ended.1⟩, ended.2⟩)
      (fun _ ended => ⟨⟨returned, ended.1⟩, ended.2⟩)
  fresh process := by
    refine ⟨Nat.zero_le _, ?_, le_rfl, ?_, ?_⟩
    · exact (setup.config.countersAfter_zero manifests directories
        manifest.sequenceLength (decodeWords referenceItemSize bytes)).symm
    · unfold checkValidatedStep
      split
      · exact require_bind (.inl rfl) _
      · exact require_bind rfl _
    · exact require_bind nofun _
  loaded _ process trainer kept loaded := by
    obtain ⟨payload, member, progress, validated, metadata, _⟩ :=
      loadCheckpoint_eq_ok loaded
    have good := (kept.2.2 payload member).accounted
    have counters : trainer.counters = payload.counters := by
      rw [progress]
    change setup.Accounted trains.authority trainer.counters
      trainer.lastValidatedStep trainer.metadata
    rw [counters, validated, metadata]
    exact good
  tracked _ _ _ _ accounted succeeded :=
    startTracker_accounted accounted succeeded

end Loading

end TrainsOrder

end Contract

end CodingLlm
