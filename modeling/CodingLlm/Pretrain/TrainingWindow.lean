import CodingLlm.Pretrain.DistributedBatchSampler
import CodingLlm.Pretrain.PackedBatchCollator

/-!
# One optimizer update

The trajectory of a training run: its configuration and learning rates, the
frozen geometry of its order, the counters of `TrainState`, and one turn of the
loop of `Trainer.train` on the packed batches of all ranks.
-/

namespace CodingLlm

variable {Digest : Type}

/-! ## Configuration -/

/-- `TrainConfig.trajectory_dict()`, as far as it is read.  Learning rates are
exact rationals. -/
structure TrajectoryConfig where
  maxSteps : Nat
  globalMicrobatchRows : Nat
  gradientAccumulationSteps : Nat
  learningRate : Rat
  minLearningRate : Rat
  warmupSteps : Nat
  maxSteps_pos : 1 ≤ maxSteps
  globalMicrobatchRows_pos : 1 ≤ globalMicrobatchRows
  gradientAccumulationSteps_pos : 1 ≤ gradientAccumulationSteps
  warmupSteps_le : warmupSteps ≤ maxSteps

instance : DecidableEq TrajectoryConfig := fun first second =>
  decidable_of_iff
    (first.maxSteps = second.maxSteps ∧
      first.globalMicrobatchRows = second.globalMicrobatchRows ∧
      first.gradientAccumulationSteps = second.gradientAccumulationSteps ∧
      first.learningRate = second.learningRate ∧
      first.minLearningRate = second.minLearningRate ∧
      first.warmupSteps = second.warmupSteps)
    (by
      cases first
      cases second
      simp only [TrajectoryConfig.mk.injEq])

/-- `optimizer_update_rows`. -/
def TrajectoryConfig.updateRows (config : TrajectoryConfig) : Nat :=
  config.globalMicrobatchRows * config.gradientAccumulationSteps

/-- `learning_rate_for_step`; `cosine` is `math.cos` of a multiple of pi. -/
def learningRateForStep
    (cosine : Rat -> Rat) (config : TrajectoryConfig) (zeroBasedStep : Nat) :
    Checked Rat := do
  let _ ← require (zeroBasedStep < config.maxSteps)
    (.valueError "step is outside the configured schedule")
  if config.warmupSteps ≠ 0 ∧ zeroBasedStep < config.warmupSteps then
    return config.learningRate * (zeroBasedStep + 1) / config.warmupSteps
  else
    let decaySteps := config.maxSteps - config.warmupSteps
    if decaySteps ≤ 1 then
      return config.minLearningRate
    else
      let progress : Rat :=
        (zeroBasedStep - config.warmupSteps : Rat) / (decaySteps - 1)
      let progress := min (max progress 0) 1
      let cosine := (1 + cosine progress) / 2
      return config.minLearningRate +
        cosine * (config.learningRate - config.minLearningRate)

/-- Every step of a run has a learning rate. -/
theorem learningRateForStep_isOk
    (cosine : Rat -> Rat)
    {config : TrajectoryConfig} {step : Nat}
    (inside : step < config.maxSteps) :
    ∃ rate, learningRateForStep cosine config step = .ok rate := by
  unfold learningRateForStep
  rw [require_eq_ok inside, checked_ok_bind]
  split
  · exact ⟨_, rfl⟩
  · dsimp only
    split <;> exact ⟨_, rfl⟩

/-! ## Generators -/

/-- What `capture_rng_state` captures in one process: the host generators and
the generator of its device. -/
structure RngState (Host Device : Type) where
  host : Host
  device : Device

/-! ## Counters -/

/-- The counters of `TrainState` that updates move. -/
structure TrainCounters where
  completedSteps : Nat
  completedMicrobatches : Nat
  consumedRows : Nat
  consumedInputTokens : Nat
  consumedSupervisedTokens : Nat
  consumedRowsPerDomain : Domain -> Nat
  consumedInputTokensPerDomain : Domain -> Nat
  consumedSupervisedTokensPerDomain : Domain -> Nat

/-- Counters before the first update. -/
def TrainCounters.zero : TrainCounters :=
  ⟨0, 0, 0, 0, 0, fun _ => 0, fun _ => 0, fun _ => 0⟩

/-! ## Frozen geometry -/

/-- What `frozen_training_geometry` returns. -/
structure TrainingGeometry where
  globalMicrobatchRows : Nat
  gradientAccumulationSteps : Nat
  optimizerUpdateRows : Nat
  optimizerUpdates : Nat
  consumedGlobalMicrobatches : Nat
  sequenceLength : Nat
  consumedRows : Nat
  droppedRows : Nat
  consumedInputTokens : Nat
  droppedInputTokens : Nat
  consumedSupervisedTokens : Nat
  droppedSupervisedTokens : Nat
  consumedInputTokensPerDomain : Domain -> Nat
  consumedSupervisedTokensPerDomain : Domain -> Nat

instance : DecidableEq (Domain -> Nat) := fun left right =>
  decidable_of_iff (∀ domain ∈ Domain.order, left domain = right domain)
    ⟨fun same => funext fun domain => same domain (Domain.mem_order domain),
      fun same _ _ => congrFun same _⟩

deriving instance DecidableEq for TrainingGeometry

/-- `_frozen_training_geometry_from_manifest`. -/
def frozenTrainingGeometry (manifest : OrderManifest Digest) :
    Checked TrainingGeometry := do
  let frozen ← requireObject manifest.consumption (.valueError
    "Training order has no frozen optimizer-update geometry")
  let consumedRows := frozen.consumedRows manifest.rows
  let droppedRows := manifest.rows - consumedRows
  return {
    globalMicrobatchRows := frozen.globalMicrobatchRows
    gradientAccumulationSteps := frozen.gradientAccumulationSteps
    optimizerUpdateRows := frozen.updateRows
    optimizerUpdates := frozen.optimizerUpdates manifest.rows
    consumedGlobalMicrobatches :=
      frozen.consumedGlobalMicrobatches manifest.rows
    sequenceLength := manifest.sequenceLength
    consumedRows
    droppedRows
    consumedInputTokens := consumedRows * manifest.sequenceLength
    droppedInputTokens := droppedRows * manifest.sequenceLength
    consumedSupervisedTokens :=
      totalOf frozen.consumedSupervisedTokensPerDomain
    droppedSupervisedTokens := totalOf frozen.droppedSupervisedTokensPerDomain
    consumedInputTokensPerDomain := fun domain =>
      frozen.consumedRowsPerDomain domain * manifest.sequenceLength
    consumedSupervisedTokensPerDomain :=
      frozen.consumedSupervisedTokensPerDomain
  }

/-- `_canonical_training_geometry`. -/
def canonicalTrainingGeometry (geometry : TrainingGeometry) :
    Checked TrainingGeometry := do
  let _ ← require
    (1 ≤ geometry.globalMicrobatchRows ∧
      1 ≤ geometry.gradientAccumulationSteps ∧
      1 ≤ geometry.optimizerUpdateRows ∧ 1 ≤ geometry.optimizerUpdates ∧
      1 ≤ geometry.consumedGlobalMicrobatches ∧
      1 ≤ geometry.sequenceLength ∧ 1 ≤ geometry.consumedRows ∧
      1 ≤ geometry.consumedInputTokens)
    (.valueError
      "Training geometry positive counters must be positive integers")
  let _ ← require
    (geometry.optimizerUpdateRows =
      geometry.globalMicrobatchRows * geometry.gradientAccumulationSteps)
    (.valueError
      "Training geometry optimizer_update_rows is inconsistent")
  let _ ← require
    (geometry.consumedGlobalMicrobatches =
      geometry.optimizerUpdates * geometry.gradientAccumulationSteps)
    (.valueError "Training geometry consumed microbatches are inconsistent")
  let _ ← require
    (geometry.consumedRows =
      geometry.optimizerUpdates * geometry.optimizerUpdateRows)
    (.valueError "Training geometry consumed rows are inconsistent")
  let _ ← require
    (geometry.consumedInputTokens =
      geometry.consumedRows * geometry.sequenceLength)
    (.valueError "Training geometry consumed input tokens are inconsistent")
  let _ ← require
    (geometry.droppedInputTokens =
      geometry.droppedRows * geometry.sequenceLength)
    (.valueError "Training geometry dropped input tokens are inconsistent")
  let _ ← require
    (geometry.consumedSupervisedTokens ≤ geometry.consumedInputTokens)
    (.valueError
      "Training geometry consumes more supervised than input tokens")
  let _ ← require
    (geometry.droppedSupervisedTokens ≤ geometry.droppedInputTokens)
    (.valueError
      "Training geometry drops more supervised than input tokens")
  let _ ← require
    (totalOf geometry.consumedInputTokensPerDomain =
      geometry.consumedInputTokens)
    (.valueError
      ("Training geometry consumed_input_tokens_per_domain is " ++
        "inconsistent"))
  let _ ← require
    (totalOf geometry.consumedSupervisedTokensPerDomain =
      geometry.consumedSupervisedTokens)
    (.valueError
      ("Training geometry consumed_supervised_tokens_per_domain is " ++
        "inconsistent"))
  let _ ← forDomains fun domain => do
    let _ ← require
      (geometry.consumedInputTokensPerDomain domain %
        geometry.sequenceLength = 0)
      (.valueError ("Training geometry per-domain input tokens are not " ++
        "whole packed rows"))
    let _ ← require
      (geometry.consumedSupervisedTokensPerDomain domain ≤
        geometry.consumedInputTokensPerDomain domain)
      (.valueError
        "Training geometry per-domain supervised tokens exceed inputs")
    return ()
  return geometry

/-! ## Windows -/

/-- Counters of one domain in a window. -/
structure DomainStats where
  lossTokens : Nat
  inputTokens : Nat
  rows : Nat

/-- What `_reduce_window_stats` adds up. -/
structure WindowStats where
  lossTokens : Nat
  modelLossTokens : Nat
  inputTokens : Nat
  domains : Domain -> DomainStats

namespace WindowStats

/-- Nothing counted. -/
def zero : WindowStats := ⟨0, 0, 0, fun _ => ⟨0, 0, 0⟩⟩

/-- Counters of two parts of a window together. -/
def add (left right : WindowStats) : WindowStats where
  lossTokens := left.lossTokens + right.lossTokens
  modelLossTokens := left.modelLossTokens + right.modelLossTokens
  inputTokens := left.inputTokens + right.inputTokens
  domains := fun domain => {
    lossTokens :=
      (left.domains domain).lossTokens + (right.domains domain).lossTokens
    inputTokens :=
      (left.domains domain).inputTokens + (right.domains domain).inputTokens
    rows := (left.domains domain).rows + (right.domains domain).rows
  }

/-- Counters of all parts of a window. -/
def total (parts : List WindowStats) : WindowStats := parts.foldr add zero

end WindowStats

/-- `labels.ne(-100).sum()`. -/
def countedLossTokens (labels : List (List Int)) : Nat :=
  labels.flatten.countP fun label => decide (label ≠ ignoreIndex)

/-- `input_ids.shape[1]`. -/
def Batch.width (batch : Batch) : Nat := (batch.inputIds.headD []).length

/-- `_move_batch_to_device`; returns the counted loss tokens. -/
def moveBatch (localBatchSize : Nat) (batch : Batch) : Checked Nat := do
  let counted := countedLossTokens batch.labels
  let _ ← require (batch.numLossTokens = counted)
    (.valueError "Batch num_loss_tokens disagrees with labels")
  let shape := batch.inputIds.map List.length
  let _ ← require
    (batch.positionIds.map List.length = shape ∧
      batch.documentIds.map List.length = shape ∧
      batch.labels.map List.length = shape)
    (.valueError "All four packed tensors must have identical [B, T] shape")
  let _ ← require (batch.inputIds.length = localBatchSize)
    (.valueError
      "Local packed-row batch differs from configured microbatch/world size")
  let _ ← require (batch.domainIds.length = localBatchSize)
    (.valueError "domain_ids must be one int64 CPU value per packed row")
  let _ ← require (∀ id ∈ batch.domainIds, id < Domain.order.length)
    (.valueError "domain_ids contains an unknown domain")
  return counted

/-- `_accumulate_domain_metrics` of one batch, for one domain. -/
def domainStats (batch : Batch) (domain : Domain) : DomainStats :=
  let selected := (batch.domainIds.zip batch.labels).filter fun row =>
    decide (row.1 = domain.id)
  { lossTokens := countedLossTokens (selected.map Prod.snd)
    inputTokens := selected.length * batch.width
    rows := selected.length }

/-- One turn of the loop over the microbatches of a window; `modelLossTokens`
is `num_loss_tokens` of the model's output. -/
def microbatchStats
    (localBatchSize : Nat) (modelLossTokens : Batch -> Nat) (batch : Batch) :
    Checked WindowStats := do
  let tokenCount ← moveBatch localBatchSize batch
  let _ ← require (1 ≤ tokenCount)
    (.valueError "Microbatch contains no supervised tokens")
  return {
    lossTokens := tokenCount
    modelLossTokens := modelLossTokens batch
    inputTokens := batch.inputIds.length * batch.width
    domains := domainStats batch
  }

/-- `_reduce_window_stats`, of the windows of all ranks. -/
def reduceWindowStats
    (localBatchSize : Nat) (modelLossTokens : Batch -> Nat)
    (windows : List (List Batch)) : Checked WindowStats := do
  let parts ← windows.mapM fun window => do
    let batches ←
      window.mapM (microbatchStats localBatchSize modelLossTokens)
    return WindowStats.total batches
  let stats := WindowStats.total parts
  let _ ← require (stats.modelLossTokens = stats.lossTokens)
    (.valueError
      "Model supervised-token counter disagrees with packed batches")
  return stats

/-- The counters of a window against its own totals and the geometry. -/
def checkWindow
    (config : TrajectoryConfig) (geometry : TrainingGeometry)
    (counters : TrainCounters) (stats : WindowStats) : Checked Unit := do
  let _ ← require (1 ≤ stats.lossTokens)
    (.valueError "Accumulation window contains no supervised tokens")
  let _ ← require
    (totalOf (fun domain => (stats.domains domain).rows) = config.updateRows ∧
      totalOf (fun domain => (stats.domains domain).inputTokens) =
        stats.inputTokens ∧
      totalOf (fun domain => (stats.domains domain).lossTokens) =
        stats.lossTokens)
    (.valueError
      "Per-domain optimizer-window counters do not match global totals")
  let _ ← require
    (stats.inputTokens = config.updateRows * geometry.sequenceLength)
    (.valueError
      "Optimizer update input-token count differs from frozen geometry")
  let projectedInputTokens := counters.consumedInputTokens + stats.inputTokens
  let projectedSupervisedTokens :=
    counters.consumedSupervisedTokens + stats.lossTokens
  let _ ← require
    (projectedInputTokens ≤ geometry.consumedInputTokens ∧
      projectedSupervisedTokens ≤ geometry.consumedSupervisedTokens)
    (.runtimeError "Optimizer update would exceed the frozen order authority")
  let _ ← require
    (counters.completedSteps + 1 = config.maxSteps ->
      projectedInputTokens = geometry.consumedInputTokens ∧
        projectedSupervisedTokens = geometry.consumedSupervisedTokens)
    (.runtimeError
      "Final optimizer update counters differ from frozen order authority")
  return ()

/-- The counters after an update. -/
def TrainCounters.advance
    (config : TrajectoryConfig) (counters : TrainCounters)
    (stats : WindowStats) : TrainCounters where
  completedSteps := counters.completedSteps + 1
  completedMicrobatches :=
    counters.completedMicrobatches + config.gradientAccumulationSteps
  consumedRows := counters.consumedRows + config.updateRows
  consumedInputTokens := counters.consumedInputTokens + stats.inputTokens
  consumedSupervisedTokens :=
    counters.consumedSupervisedTokens + stats.lossTokens
  consumedRowsPerDomain := fun domain =>
    counters.consumedRowsPerDomain domain + (stats.domains domain).rows
  consumedInputTokensPerDomain := fun domain =>
    counters.consumedInputTokensPerDomain domain +
      (stats.domains domain).inputTokens
  consumedSupervisedTokensPerDomain := fun domain =>
    counters.consumedSupervisedTokensPerDomain domain +
      (stats.domains domain).lossTokens

/-! ## Updates -/

section Updates

variable (Weights Optimizer Host Device : Type) (worldSize : Nat)

/-- What an update changes: parameters, optimizer, the generators of every
rank, and the counters. -/
structure TrainingProgress where
  weights : Weights
  optimizer : Optimizer
  rngs : Fin worldSize -> RngState Host Device
  counters : TrainCounters

/-- Forward and backward passes of the windows of all ranks, the checks of
their losses, clipping and the optimizer step. -/
abbrev UpdateRule : Type :=
  Weights -> Optimizer -> (Fin worldSize -> RngState Host Device) -> Rat ->
    List (List Batch) ->
      Checked (Weights × Optimizer × (Fin worldSize -> RngState Host Device))

/-- What all processes that train one trajectory share: configuration, order
geometry and identity, the model, and what a new run starts from. -/
structure TrainingSetup (Digest Identity : Type) where
  config : TrajectoryConfig
  evalEvery : Nat
  evalAtStart : Bool
  validationRunner : Option Identity
  runner_iff : validationRunner.isSome = true ↔
    0 < evalEvery ∨ evalAtStart = true
  geometry : TrainingGeometry
  dataIdentity : Digest × Digest
  environment : String -> Identity
  cosine : Rat -> Rat
  fetch : List Nat -> Checked Batch
  modelLossTokens : Batch -> Nat
  update : UpdateRule Weights Optimizer Host Device worldSize
  initialWeights : Weights
  initialOptimizer : Optimizer
  seeded : Fin worldSize -> RngState Host Device

end Updates

variable {Weights Optimizer Host Device Identity : Type} {worldSize : Nat}

namespace TrainingSetup

variable (setup : TrainingSetup Weights Optimizer Host Device worldSize
  Digest Identity)

/-- `local_batch_size`. -/
def localBatchSize : Nat := setup.config.globalMicrobatchRows / worldSize

/-- The body of the loop of `Trainer.train`, once the batches of its window
have been drawn. -/
def optimizerUpdate
    (windows : List (List Batch))
    (progress : TrainingProgress Weights Optimizer Host Device worldSize) :
    Checked (TrainingProgress Weights Optimizer Host Device worldSize) := do
  let learningRate ← learningRateForStep setup.cosine setup.config
    progress.counters.completedSteps
  let stats ← reduceWindowStats setup.localBatchSize setup.modelLossTokens
    windows
  checkWindow setup.config setup.geometry progress.counters stats
  let (weights, optimizer, rngs) ← setup.update progress.weights
    progress.optimizer progress.rngs learningRate windows
  return ⟨weights, optimizer, rngs,
    progress.counters.advance setup.config stats⟩

/-- What a new run starts from. -/
def initial : TrainingProgress Weights Optimizer Host Device worldSize :=
  ⟨setup.initialWeights, setup.initialOptimizer, setup.seeded, .zero⟩

end TrainingSetup

end CodingLlm
