import CodingLlm.Pretrain.TrainingAccounting
import CodingLlm.Pretrain.Preemption

/-!
# The order is the authority of training

Counters of trainers and checkpoints are those of a prefix of the order, the
loaders that `main` constructs are accepted wherever a trainer stands, and
nothing but the outside makes `train` raise.
-/

namespace CodingLlm

open CrashLogic CheckpointDisk Words

variable {Weights Optimizer Host Device Digest Identity Cursor : Type}
variable {worldSize : Nat}
variable {setup : TrainingSetup Weights Optimizer Host Device worldSize Digest
  Identity}

/-! ## Loaders -/

/-- The arguments of the sampler that `create_training_dataloader` constructs
for a rank of a trainer. -/
def TrainingSetup.samplerArguments
    (setup : TrainingSetup Weights Optimizer Host Device worldSize Digest
      Identity)
    (verifyChecksum : Bool) (completedMicrobatches : Nat)
    (rank : Fin worldSize) : SamplerArguments where
  globalMicrobatchRows := .int setup.config.globalMicrobatchRows
  gradientAccumulationSteps := .int setup.config.gradientAccumulationSteps
  rank := .int rank.val
  worldSize := .int worldSize
  startGlobalMicrobatch := .int completedMicrobatches
  verifyChecksum := verifyChecksum

/-- What a schedule makes a trainer raise. -/
def TrainSchedule.Raises
    (schedule : TrainSchedule Host Device worldSize) (error : PyError) :
    Prop :=
  (∃ site step, schedule.stopSignal site step = .error error) ∨
    ∃ step, schedule.validates step = .error error

open TrainingSetup TrainerContract

section Authority

variable [DecidableEq Digest]
variable {hash : FileHash Digest Cursor} {store : PackedStore Digest Cursor}
variable {verifyPayloadChecksums : Bool} {directory : OrderDirectory Digest}
variable {manifest : OrderManifest Digest} {bytes : List Byte}
variable {directories : Domain -> Directory Digest Cursor}
variable {manifests : Domain -> PackedManifest Digest Cursor}

namespace TrainsOrder

variable (trains : TrainsOrder setup hash store verifyPayloadChecksums
  directory manifest bytes directories manifests)

include trains

/-- A frozen geometry of the order is that of the trajectory. -/
theorem config_eq
    {frozen : FrozenGeometry}
    (member : frozen ∈ manifest.geometry) :
    setup.config.globalMicrobatchRows = frozen.globalMicrobatchRows ∧
      setup.config.gradientAccumulationSteps =
        frozen.gradientAccumulationSteps := by
  obtain ⟨_, _, _, _, _, same⟩ := trains.exists_frozen
  have geometry := trains.madeFor.geometry
  unfold frozenTrainingGeometry at geometry
  obtain ⟨consumption, found, geometry⟩ := checked_bind_eq_ok.mp geometry
  rw [requireObject_eq_ok] at found
  rw [checked_pure_eq_ok] at geometry
  unfold OrderManifest.geometry at member
  rw [found, Option.map_some, Option.mem_some_iff] at member
  rw [← member]
  constructor
  · have rows := congrArg TrainingGeometry.globalMicrobatchRows same
    rw [← geometry] at rows
    exact rows.symm
  · have steps := congrArg TrainingGeometry.gradientAccumulationSteps same
    rw [← geometry] at steps
    exact steps.symm

/-- The loader of a rank is constructed and accepted wherever a trainer
stands. -/
theorem exists_sampler
    {step : Nat}
    (inside : step ≤ setup.config.maxSteps)
    (verifyChecksum : Bool) (rank : Fin worldSize) :
    ∃ sampler,
      DistributedBatchSampler.new hash directory
          (setup.samplerArguments verifyChecksum
            (step * setup.config.gradientAccumulationSteps) rank) .none =
        .ok sampler ∧
      setup.checkSampler sampler
          (step * setup.config.gradientAccumulationSteps) = .ok () := by
  obtain ⟨frozen, found, updateRows, updates, divides, geometry⟩ :=
    trains.exists_frozen
  obtain ⟨document, written, recorded⟩ := trains.accepted.loads.recorded
  have loaded : loadOrderManifest hash.bytes verifyChecksum directory =
      .ok (manifest, bytes) :=
    loadOrderManifest_eq_ok.mpr ⟨⟨document, written, recorded⟩,
      trains.accepted.loads.payload, trains.accepted.loads.length_eq,
      fun _ => trains.accepted.loads.checksum rfl⟩
  have rowsPositive := setup.config.globalMicrobatchRows_pos
  have stepsPositive := setup.config.gradientAccumulationSteps_pos
  have ranked := rank.isLt
  have placed : DistributedBatchSampler.checkArguments
      (setup.samplerArguments verifyChecksum
        (step * setup.config.gradientAccumulationSteps) rank)
      (.none : ResumeState Digest) =
        .ok ⟨setup.config.globalMicrobatchRows,
          setup.config.gradientAccumulationSteps, rank.val, worldSize,
          step * setup.config.gradientAccumulationSteps⟩ := by
    unfold DistributedBatchSampler.checkArguments
    simp only [TrainingSetup.samplerArguments,
      DistributedBatchSampler.requireInteger, checked_ok_bind,
      require_then_eq_ok, checked_pure_eq_ok, Int.toNat_natCast]
    refine ⟨.inl trivial, by omega, by omega, ⟨by omega, by omega, ?_⟩, ?_,
      by omega, trivial⟩
    · exact_mod_cast ranked
    · exact_mod_cast divides
  have fits : DistributedBatchSampler.requireFrozenGeometry manifest.geometry
      setup.config.globalMicrobatchRows
      setup.config.gradientAccumulationSteps = .ok () :=
    DistributedBatchSampler.requireFrozenGeometry_eq_ok.mpr
      fun _ member => trains.config_eq member
  have consumption : manifest.geometry = some frozen.toFrozenGeometry := by
    unfold OrderManifest.geometry
    rw [Option.mem_def.mp found]
    rfl
  have same := trains.config_eq (Option.mem_def.mpr consumption)
  have total : DistributedBatchSampler.trainedMicrobatches manifest
      setup.config.globalMicrobatchRows
      setup.config.gradientAccumulationSteps =
        setup.config.maxSteps * setup.config.gradientAccumulationSteps := by
    unfold DistributedBatchSampler.trainedMicrobatches
    rw [consumption, same.2]
    exact congrArg (· * frozen.gradientAccumulationSteps) updates
  have begun : (DistributedBatchSampler.ofPlace manifest
      (decodeWords referenceItemSize bytes) (hash.orderManifest document)
      ⟨setup.config.globalMicrobatchRows,
        setup.config.gradientAccumulationSteps, rank.val, worldSize,
        step * setup.config.gradientAccumulationSteps⟩).begin .none =
      .ok (DistributedBatchSampler.ofPlace manifest
        (decodeWords referenceItemSize bytes) (hash.orderManifest document)
        ⟨setup.config.globalMicrobatchRows,
          setup.config.gradientAccumulationSteps, rank.val, worldSize,
          step * setup.config.gradientAccumulationSteps⟩) := by
    unfold DistributedBatchSampler.begin
    rw [require_then_eq_ok, require_then_eq_ok]
    refine ⟨?_, Nat.mul_mod_left _ _, rfl⟩
    simp only [DistributedBatchSampler.ofPlace, total]
    exact Nat.mul_le_mul_right _ inside
  refine ⟨DistributedBatchSampler.ofPlace manifest
    (decodeWords referenceItemSize bytes) (hash.orderManifest document)
    ⟨setup.config.globalMicrobatchRows,
      setup.config.gradientAccumulationSteps, rank.val, worldSize,
      step * setup.config.gradientAccumulationSteps⟩, ?_,
    TrainingSetup.checkSampler_eq_ok.mpr
      ⟨?_, trains.madeFor.geometry, rfl, rfl, ?_, ?_, rfl⟩⟩
  · unfold DistributedBatchSampler.new
    rw [show (setup.samplerArguments verifyChecksum
        (step * setup.config.gradientAccumulationSteps) rank).verifyChecksum =
      verifyChecksum from rfl, loaded, checked_ok_bind, placed,
      checked_ok_bind, fits, checked_ok_bind, written, requireObject_some,
      checked_ok_bind]
    exact begun
  · exact (trains.madeFor.dataIdentity document written).symm
  · rw [geometry]
    rfl
  · change DistributedBatchSampler.trainedUpdates manifest _ _ = _
    unfold DistributedBatchSampler.trainedUpdates
    rw [consumption]
    exact updates

end TrainsOrder

/-! ## Raising -/

/-- A trainer that is accounted for raises only what the schedule raises. -/
theorem TrainsOrder.train_raises
    (trains : TrainsOrder setup hash store verifyPayloadChecksums directory
      manifest bytes directories manifests)
    (outside : PyError -> Prop) {session : setup.Session}
    {schedule : TrainSchedule Host Device worldSize}
    {call : TrainCall Digest worldSize} {error : PyError}
    {verifyChecksum : Bool}
    (holds : (setup.accountingContract trains.authority
      outside).sessions.holds session)
    (raises : ∀ error, schedule.Raises error -> outside error)
    (built : ∀ rank, DistributedBatchSampler.new hash directory
      (setup.samplerArguments verifyChecksum
        session.trainer.counters.completedMicrobatches rank) .none =
          .ok (call.samplers rank))
    (target : session.trainer.counters.completedSteps ≤
        call.untilStep.getD setup.config.maxSteps ∧
      call.untilStep.getD setup.config.maxSteps ≤ setup.config.maxSteps)
    (raised : ((setup.train schedule call).run session).result =
      .error error) :
    outside error := by
  have loaded : loadOrderManifest hash.bytes true directory =
      .ok (manifest, bytes) :=
    loadOrderManifest_eq_ok.mpr trains.accepted.loads
  have aligned : session.trainer.counters.completedMicrobatches =
      session.trainer.counters.completedSteps *
        setup.config.gradientAccumulationSteps :=
    trains.accountingContract_lawful.aligned _ holds.2
  have reads : ReadBy (decodeWords referenceItemSize bytes) call :=
    fun rank => DistributedBatchSampler.reads_of_new loaded (built rank) rfl
      rfl
  have loaders (rank : Fin worldSize) (error : PyError)
      (fails : setup.checkSampler (call.samplers rank)
        session.trainer.counters.completedMicrobatches = .error error) :
      outside error := by
    obtain ⟨sampler, constructed, checked⟩ :=
      trains.exists_sampler holds.2.inside verifyChecksum rank
    rw [← aligned] at constructed checked
    rw [built rank] at constructed
    cases constructed
    rw [checked] at fails
    cases fails
  have admits : (setup.accountingContract trains.authority outside).Admits
      schedule :=
    ⟨fun site step error stops => raises error (.inl ⟨site, step, stops⟩),
      fun step error fails => raises error (.inr ⟨step, fails⟩)⟩
  have ended := train_wp trains.accountingContract_lawful admits reads loaders
    (fun missed => absurd target missed) holds
  exact (ended.error raised).1

/-- So does the end of its run. -/
theorem TrainsOrder.finalize_raises
    (trains : TrainsOrder setup hash store verifyPayloadChecksums directory
      manifest bytes directories manifests)
    (outside : PyError -> Prop) {session : setup.Session}
    {schedule : TrainSchedule Host Device worldSize} {error : PyError}
    (holds : (setup.accountingContract trains.authority
      outside).sessions.holds session)
    (raises : ∀ error, schedule.Raises error -> outside error)
    (raised : ((setup.finalizeTrainingRun schedule).run session).result =
      .error error) :
    outside error := by
  have admits : (setup.accountingContract trains.authority outside).Admits
      schedule :=
    ⟨fun site step error stops => raises error (.inl ⟨site, step, stops⟩),
      fun step error fails => raises error (.inr ⟨step, fails⟩)⟩
  have ended :=
    finalizeTrainingRun_wp trains.accountingContract_lawful admits holds
  exact (ended.error raised).1

/-! ## Histories -/

variable [DecidableEq Identity]

end Authority

/-! ## A small order -/

/-- What the session that packs a small directory does. -/
def smallPackingCalls : Domain -> List (Call Unit)
  | .python => [.addDocument [1, 2] none, .finish none]
  | _ => [.finish none]

/-- The session that packs a small directory. -/
def smallPackingRun (domain : Domain) :
    Outcome (Directory (List Byte) Unit) PyError
      (PackedShardWriter (List Byte) Unit) :=
  (session id { smallArguments with domain := domain.name } .default false
    fun _ => smallPackingCalls domain).run ∅

theorem smallDirectory_finished (domain : Domain) :
    WriterFinished id (smallDirectory domain) := by
  obtain ⟨config, accepts⟩ : ∃ config,
      ({ smallArguments with domain := domain.name } :
        WriterArguments (List Byte)).check = .ok config :=
    exists_of_isOk (by cases domain <;> decide +kernel)
  have whole : (smallPackingRun domain).result.toOption.any (·.finished) =
      true := by
    cases domain <;> decide +kernel
  have packed : smallDirectory domain = (smallPackingRun domain).final := by
    cases domain <;> rfl
  cases ended : (smallPackingRun domain).result with
  | error error =>
      rw [ended] at whole
      cases whole
  | ok writer =>
      rw [ended] at whole
      exact ⟨config, _, _, _, _, ∅, writer, .start, accepts, ended, whole,
        packed⟩

/-- The small setup for an order with a geometry. -/
def smallTraining
    (directory : OrderDirectory (List Byte))
    (manifest : OrderManifest (List Byte)) (geometry : TrainingGeometry) :
    TrainingSetup Unit Unit Nat Unit 1 (List Byte) Unit :=
  { smallSetup with
    geometry := geometry
    dataIdentity := ([], manifest.orderSha256)
    fetch := trainingBatch smallEnvironment.hash smallEnvironment.store true
      directory
    modelLossTokens := fun batch => countedLossTokens batch.labels }

/-- The first start on the small order. -/
def smallTrainingStart
    (setup : TrainingSetup Unit Unit Nat Unit 1 (List Byte) Unit) :
    Outcome (CheckpointDisk setup.Payload) PyError setup.Trainer :=
  (setup.startTraining .new (drawingTracker 0)).run .empty

/-- The small order, if it is accepted and its trainer starts. -/
def smallAcceptedOrder : Checked (OrderDirectory (List Byte) ×
    OrderManifest (List Byte) × TrainingGeometry) := do
  let directory ←
    buildTrainingOrder smallEnvironment smallOrderArguments .empty
  let manifest ← validateTrainingOrder smallEnvironment.hash
    smallEnvironment.store true directory
  let geometry ← frozenTrainingGeometry manifest
  (smallTraining directory manifest geometry).checkConstruction
  let _ ←
    (smallTrainingStart (smallTraining directory manifest geometry)).result
  return (directory, manifest, geometry)

end CodingLlm
