import CodingLlm.Pretrain.TrainerHistories

/-!
# Preemption is transparent

Whatever stops, kills, recoveries, logging, validation passes and prefetching a
training goes through, its parameters, optimizer, generators and counters after
an update are those of the uninterrupted run, as long as the evidence upload of
the experiment tracker draws nothing from the host generators.
-/

namespace CodingLlm

open CrashLogic CheckpointDisk Words Slices

variable {Weights Optimizer Host Device Digest Identity Cursor : Type}
variable {worldSize : Nat}
variable {setup : TrainingSetup Weights Optimizer Host Device worldSize Digest
  Identity}

namespace TrainingSetup

variable {order : List Nat}

/-! ## The trajectory -/

/-- After `step` updates the uninterrupted run has completed `step` steps. -/
theorem uninterrupted_counters
    {step : Nat}
    {progress : TrainingProgress Weights Optimizer Host Device worldSize}
    (reached : setup.uninterrupted order step = .ok progress) :
    progress.counters.completedSteps = step ∧
      progress.counters.completedMicrobatches =
        step * setup.config.gradientAccumulationSteps := by
  induction step generalizing progress with
  | zero =>
      cases reached
      exact ⟨rfl, (Nat.zero_mul _).symm⟩
  | succ step inductionHypothesis =>
      obtain ⟨before, earlier, updated⟩ := checked_bind_eq_ok.mp reached
      obtain ⟨steps, microbatches⟩ := inductionHypothesis earlier
      obtain ⟨next, more⟩ := updateOfOrder_counters updated
      rw [next, more, steps, microbatches, Nat.add_one_mul]
      exact ⟨rfl, rfl⟩

theorem initial_onTrajectory : setup.OnTrajectory order setup.initial := rfl

/-- An update stays on the trajectory. -/
theorem OnTrajectory.update
    {progress next : TrainingProgress Weights Optimizer Host Device worldSize}
    (reached : setup.OnTrajectory order progress)
    (updated : setup.updateOfOrder order progress.counters.completedSteps
      progress = .ok next) :
    setup.OnTrajectory order next := by
  unfold OnTrajectory
  rw [(updateOfOrder_counters updated).1]
  exact checked_bind_eq_ok.mpr ⟨progress, reached, updated⟩

/-- What update `step` of the uninterrupted run uses: the learning rate of the
step, and the rows of the order that are its own. -/
structure UpdateUses
    (setup : TrainingSetup Weights Optimizer Host Device worldSize Digest
      Identity)
    (order : List Nat) (step : Nat)
    (progress next :
      TrainingProgress Weights Optimizer Host Device worldSize) : Prop where
  uses : ∃ learningRate windows,
    learningRateForStep setup.cosine setup.config step = .ok learningRate ∧
      setup.updateWindows (slice order (step * setup.config.updateRows)
        setup.config.updateRows) = .ok windows ∧
      setup.update progress.weights progress.optimizer progress.rngs
        learningRate windows = .ok (next.weights, next.optimizer, next.rngs)

theorem updateUses_of_uninterrupted
    {step : Nat}
    {next : TrainingProgress Weights Optimizer Host Device worldSize}
    (reached : setup.uninterrupted order (step + 1) = .ok next) :
    ∃ progress, setup.uninterrupted order step = .ok progress ∧
      setup.UpdateUses order step progress next := by
  obtain ⟨progress, earlier, updated⟩ := checked_bind_eq_ok.mp reached
  refine ⟨progress, earlier, ?_⟩
  obtain ⟨windows, drawn, updated⟩ := checked_bind_eq_ok.mp updated
  unfold optimizerUpdate at updated
  obtain ⟨learningRate, scheduled, updated⟩ := checked_bind_eq_ok.mp updated
  obtain ⟨_, _, updated⟩ := checked_bind_eq_ok.mp updated
  obtain ⟨_, _, updated⟩ := checked_bind_eq_ok.mp updated
  obtain ⟨⟨weights, optimizer, rngs⟩, changed, updated⟩ :=
    checked_bind_eq_ok.mp updated
  rw [(uninterrupted_counters earlier).1] at scheduled
  refine ⟨learningRate, windows, scheduled, drawn, ?_⟩
  rw [← checked_pure_eq_ok.mp updated]
  exact changed

/-! ## What is kept -/

/-- A checkpoint of a state of the uninterrupted run. -/
def PayloadOnTrajectory
    (setup : TrainingSetup Weights Optimizer Host Device worldSize Digest
      Identity)
    (order : List Nat) (payload : setup.Payload) : Prop :=
  setup.OnTrajectory order payload.toTrainingProgress

/-- All checkpoints and the trainers are on the trajectory. -/
def trajectoryContract
    (setup : TrainingSetup Weights Optimizer Host Device worldSize Digest
      Identity)
    (order : List Nat) : TrainerContract setup where
  disk directory process :=
    ContentsHold (setup.PayloadOnTrajectory order) directory ∧
      LineageHolds (setup.PayloadOnTrajectory order) process.lineage
  diskCrash := ContentsHold (setup.PayloadOnTrajectory order)
  trainer trainer := setup.OnTrajectory order trainer.toTrainingProgress
  raises _ := True
  crash_of_disk := fun _ _ => And.left

theorem trajectoryContract_lawful :
    (setup.trajectoryContract order).Lawful order where
  invalidated _ _ kept := kept
  save _ trainer kept reached := by
    have good : setup.PayloadOnTrajectory order (setup.payload trainer) :=
      reached
    exact (saveCheckpoint_contents setup.steps kept.1 kept.2 good).mono
      (fun _ _ => id) (fun _ _ every => ⟨trivial, every⟩) (fun _ => id)
  process _ _ reached := reached
  stopSignal _ _ reached := reached
  validated trainer reached _ := by
    change setup.OnTrajectory order
      (setup.recordValidation trainer).toTrainingProgress
    rw [recordValidation_counters]
    exact reached
  aligned _ reached := (uninterrupted_counters reached).2
  update _ _ reached updated := reached.update updated
  update_raises _ _ _ _ _ := trivial
  final_raises _ _ _ _ := trivial

/-! ## Starting -/

/-- The evidence upload leaves the host generators as it found them. -/
def UploadsQuietly (tracker : TrackerStart Host) : Prop :=
  ∀ host, tracker.evidenceDraws host = host

/-- A quiet tracker starts without a change of progress. -/
theorem startTracker_progress
    {tracker : TrackerStart Host} {trainer started : setup.Trainer}
    (quiet : UploadsQuietly tracker)
    (succeeded : setup.startTracker tracker trainer = .ok started) :
    started.toTrainingProgress = trainer.toTrainingProgress := by
  have upload (rngs : Fin worldSize -> RngState Host Device) :
      onRankZero (fun rng =>
        { rng with host := tracker.evidenceDraws rng.host }) rngs = rngs := by
    funext rank
    unfold onRankZero
    split
    · dsimp only
      rw [quiet]
    · rfl
  unfold startTracker at succeeded
  simp only [onRankZero_preserveHostRngState, upload] at succeeded
  obtain ⟨bound, binds, succeeded⟩ := checked_bind_eq_ok.mp succeeded
  rw [← checked_pure_eq_ok.mp succeeded]
  unfold bindWandbRunId at binds
  split at binds
  · cases binds
    rfl
  · obtain ⟨_, binds⟩ := require_then_eq_ok.mp binds
    split at binds
    · cases binds
      rfl
    · cases binds
      rfl

variable [DecidableEq Digest] [DecidableEq Identity]

/-- Restarts stay on the trajectory. -/
theorem trajectoryContract_restartable :
    (setup.trajectoryContract order).Restartable UploadsQuietly where
  empty := .empty
  lost _ _ every lost := every.lost lost
  corrupted _ every := every.corruptLast
  start _ start every := startRun_contents setup.steps start every
  fresh _ := initial_onTrajectory
  loaded _ process trainer kept loaded := by
    obtain ⟨payload, member, progress, _⟩ := loadCheckpoint_eq_ok loaded
    change setup.OnTrajectory order trainer.toTrainingProgress
    rw [progress]
    exact kept.2 payload member
  tracked _ trainer started quiet reached succeeded := by
    change setup.OnTrajectory order started.toTrainingProgress
    rw [startTracker_progress quiet succeeded]
    exact reached

end TrainingSetup

/-! ## Histories -/

open TrainingSetup TrainerContract

section Histories

variable [DecidableEq Digest]
variable {hash : FileHash Digest Cursor} {directory : OrderDirectory Digest}
variable {manifest : OrderManifest Digest} {bytes : List Byte}
variable {verifyChecksum : Bool}
variable [DecidableEq Identity]

/-- In every history whose evidence uploads are quiet, the trainers that run
and all checkpoints on the disk have, at `completed_steps = k`, the parameters,
optimizer, generators and counters of the uninterrupted run after `k` updates;
update `k` of that run uses the learning rate of step `k` and just the rows of
the order from `k * G * A` to `(k + 1) * G * A`. -/
theorem preemption_transparent
    (loaded : loadOrderManifest hash.bytes verifyChecksum directory =
      .ok (manifest, bytes))
    {disk : CheckpointDisk setup.Payload}
    {phase : TrainingPhase setup.Trainer}
    (history : TrainingHistory setup hash directory UploadsQuietly disk
      phase) :
    let order := decodeWords referenceItemSize bytes
    (∀ trainer, phase.trainer? = some trainer ->
      setup.uninterrupted order trainer.counters.completedSteps =
        .ok trainer.toTrainingProgress) ∧
    (∀ name lineage payload, disk.Holds name lineage ->
      payload ∈ lineage ->
      setup.uninterrupted order payload.counters.completedSteps =
        .ok payload.toTrainingProgress) ∧
    ∀ step next, setup.uninterrupted order (step + 1) = .ok next ->
      ∃ progress, setup.uninterrupted order step = .ok progress ∧
        setup.UpdateUses order step progress next := by
  intro order
  obtain ⟨every, trainers, _⟩ := history.keeps loaded
    trajectoryContract_lawful trajectoryContract_restartable fun _ => trivial
  refine ⟨trainers, ?_, fun _ _ => updateUses_of_uninterrupted⟩
  rintro _ lineage payload ⟨inode, _, whole⟩ member
  exact every inode lineage whole payload member

end Histories

/-! ## A stop before the first update -/

/-- One update of one row of one rank, whose host generator is a counter. -/
def smallSetup : TrainingSetup Unit Unit Nat Unit 1 (List Byte) Unit where
  config := ⟨1, 1, 1, 1, 0, 0, Nat.one_pos, Nat.one_pos, Nat.one_pos,
    Nat.zero_le 1⟩
  evalEvery := 0
  evalAtStart := false
  validationRunner := none
  runner_iff := by decide
  geometry :=
    { globalMicrobatchRows := 1
      gradientAccumulationSteps := 1
      optimizerUpdateRows := 1
      optimizerUpdates := 1
      consumedGlobalMicrobatches := 1
      sequenceLength := 2
      consumedRows := 1
      droppedRows := 0
      consumedInputTokens := 2
      droppedInputTokens := 0
      consumedSupervisedTokens := 1
      droppedSupervisedTokens := 0
      consumedInputTokensPerDomain := fun domain =>
        if domain = .python then 2 else 0
      consumedSupervisedTokensPerDomain := fun domain =>
        if domain = .python then 1 else 0 }
  dataIdentity := ([], [])
  environment := fun _ => ()
  cosine := fun _ => 0
  fetch := fun _ => .error (.ioError "no rows")
  modelLossTokens := Batch.numLossTokens
  update := fun weights optimizer rngs _ _ => .ok (weights, optimizer, rngs)
  initialWeights := ()
  initialOptimizer := ()
  seeded := fun _ => ⟨0, ()⟩

/-- A tracker whose evidence upload draws `draws` numbers. -/
def drawingTracker (draws : Nat) : TrackerStart Nat :=
  ⟨id, fun host => host + draws, id, none⟩

/-- The first run of the small setup. -/
def smallStart (draws : Nat) :
    Outcome (CheckpointDisk smallSetup.Payload) PyError smallSetup.Trainer :=
  (smallSetup.startTraining .new (drawingTracker draws)).run .empty

/-- Its trainer. -/
def smallStarted (draws : Nat) : smallSetup.Trainer :=
  (smallStart draws).result.toOption.get rfl

/-- A stop signal is there from the beginning. -/
def stopAtEntry : TrainSchedule Nat Unit 1 where
  stopSignal _ _ := .ok 15
  metricDraws _ _ := id
  validates _ := .ok ()
  validationDraws _ := id
  iteratorDraws := id
  prefetched _ _ := 0

/-- A call of `train` with samplers. -/
def smallCall (samplers : Fin 1 -> DistributedBatchSampler (List Byte)) :
    TrainCall (List Byte) 1 :=
  ⟨1, 0, none, samplers⟩

/-- The first run stops with a checkpoint. -/
def smallStop
    (draws : Nat) (samplers : Fin 1 -> DistributedBatchSampler (List Byte)) :
    Outcome smallSetup.Session PyError Unit :=
  (smallSetup.program (.train stopAtEntry (smallCall samplers))).run
    ⟨(smallStart draws).final, smallStarted draws⟩

/-- The checkpoint directory that it leaves. -/
def smallSaved (draws : Nat) : CheckpointDisk smallSetup.Payload :=
  ((CodingLlm.saveCheckpoint smallSetup.steps (smallStarted draws).process
    (smallSetup.payload (smallStarted draws))).run
      (smallStart draws).final).final

theorem smallStop_disk
    (draws : Nat) (samplers : Fin 1 -> DistributedBatchSampler (List Byte)) :
    (smallStop draws samplers).final.disk = smallSaved draws :=
  rfl

/-- The second run resumes. -/
def smallResume (draws : Nat) :
    Outcome (CheckpointDisk smallSetup.Payload) PyError smallSetup.Trainer :=
  (smallSetup.startTraining .resumeLast (drawingTracker draws)).run
    (smallSaved draws)

/-- The evidence upload of every start draws a number. -/
theorem small_hosts :
    ((smallStarted 1).rngs 0).host = 1 ∧
      (smallResume 1).result.toOption.map (fun trainer =>
        ((trainer.rngs 0).host, trainer.counters.completedSteps)) =
          some (2, 0) := by
  decide +kernel

/-- There is an order that the small setup can be trained on. -/
theorem exists_smallCall :
    ∃ directory manifest bytes samplers,
      loadOrderManifest id true directory = .ok (manifest, bytes) ∧
        (smallCall samplers).BuiltOn smallEnvironment.hash directory := by
  obtain ⟨⟨directory, manifest, bytes⟩, succeeds⟩ :
      ∃ value, DistributedBatchSampler.smallOrder = .ok value :=
    exists_of_isOk (by decide +kernel)
  simp only [DistributedBatchSampler.smallOrder, checked_bind_eq_ok,
    exists_require, checked_pure_eq_ok] at succeeds
  obtain ⟨_, -, _, loaded, geometry, equal⟩ := succeeds
  cases equal
  have fits : DistributedBatchSampler.Fits manifest.geometry 1 1 1 := by
    refine ⟨le_rfl, le_rfl, rfl, fun frozen member => ?_⟩
    rw [Option.mem_def.mp member, Option.all_some, decide_eq_true_eq]
      at geometry
    exact ⟨geometry.1.symm, geometry.2.symm⟩
  have loads := loadOrderManifest_eq_ok.mp loaded
  obtain ⟨document, found, _⟩ := loads.recorded
  refine ⟨directory, manifest, bytes, fun rank =>
    .fresh smallEnvironment.hash manifest bytes document 1 1 1 rank.val,
    loaded, ?_⟩
  intro rank
  refine ⟨DistributedBatchSampler.arguments 1 1 1 rank.val true, .none,
    rfl, rfl, DistributedBatchSampler.new_eq_ok.mpr
      ⟨manifest, bytes, document, loads, found, fits, rank.isLt, ?_⟩⟩
  exact rfl

section SmallHistory

variable {trackers : TrackerStart Nat -> Prop} {draws : Nat}
variable {directory : OrderDirectory (List Byte)}

theorem smallHistory_started
    (drawing : trackers (drawingTracker draws)) :
    TrainingHistory smallSetup smallEnvironment.hash directory trackers
      (smallStart draws).final (.ready (smallStarted draws)) :=
  .started .empty drawing rfl

/-- A process is stopped at its first poll, and a new one resumes. -/
theorem smallHistory_resumed
    {samplers : Fin 1 -> DistributedBatchSampler (List Byte)}
    {resumed : smallSetup.Trainer}
    (drawing : trackers (drawingTracker draws))
    (built : (smallCall samplers).BuiltOn smallEnvironment.hash directory)
    (succeeded : (smallResume draws).result = .ok resumed) :
    TrainingHistory smallSetup smallEnvironment.hash directory trackers
      (smallResume draws).final (.ready resumed) := by
  have stopped : TrainingHistory smallSetup smallEnvironment.hash directory
      trackers (smallStop draws samplers).final.disk
      (.ready (smallStop draws samplers).final.trainer) :=
    .returned (smallHistory_started drawing) built rfl
  rw [smallStop_disk] at stopped
  exact .started (.ended stopped (.inl rfl)) drawing succeeded

end SmallHistory

/-- With an evidence upload that draws nothing, the resumed process is on the
trajectory. -/
theorem preemption_transparent_small :
    ∃ directory manifest bytes trainer,
      loadOrderManifest id true directory = .ok (manifest, bytes) ∧
        (smallResume 0).result = .ok trainer ∧
        smallSetup.uninterrupted (decodeWords referenceItemSize bytes)
          trainer.counters.completedSteps = .ok trainer.toTrainingProgress := by
  obtain ⟨directory, manifest, bytes, samplers, loaded, built⟩ :=
    exists_smallCall
  obtain ⟨trainer, resumed⟩ : ∃ trainer,
      (smallResume 0).result = .ok trainer :=
    exists_of_isOk (by decide +kernel)
  have quiet : UploadsQuietly (drawingTracker 0) := fun _ => rfl
  have history := smallHistory_resumed quiet built resumed
  have hashed : loadOrderManifest smallEnvironment.hash.bytes true directory =
    .ok (manifest, bytes) := loaded
  have transparent := preemption_transparent hashed history
  exact ⟨directory, manifest, bytes, trainer, loaded, resumed,
    transparent.1 trainer rfl⟩

/-- An evidence upload that draws one number puts two processes before their
first update in different states. -/
theorem evidence_upload_diverges :
    ∃ directory manifest bytes,
      loadOrderManifest id true directory = .ok (manifest, bytes) ∧
      ¬ ∀ disk other (first second : smallSetup.Trainer),
        TrainingHistory smallSetup smallEnvironment.hash directory
          (· = drawingTracker 1) disk (.ready first) ->
        TrainingHistory smallSetup smallEnvironment.hash directory
          (· = drawingTracker 1) other (.ready second) ->
        first.counters.completedSteps = second.counters.completedSteps ->
        first.toTrainingProgress = second.toTrainingProgress := by
  obtain ⟨directory, manifest, bytes, samplers, loaded, built⟩ :=
    exists_smallCall
  refine ⟨directory, manifest, bytes, loaded, ?_⟩
  intro transparent
  obtain ⟨started, again⟩ := small_hosts
  cases resumed : (smallResume 1).result with
  | error _ =>
      rw [resumed] at again
      cases again
  | ok second =>
      rw [resumed] at again
      obtain ⟨host, steps⟩ := Prod.mk.inj (Option.some.inj again)
      have same := transparent _ _ _ second (smallHistory_started rfl)
        (smallHistory_resumed rfl built resumed) steps.symm
      have hosts : ((smallStarted 1).rngs 0).host = (second.rngs 0).host :=
        congrArg (fun progress => (progress.rngs 0).host) same
      rw [started, host] at hosts
      exact absurd hosts (by decide)

end CodingLlm
