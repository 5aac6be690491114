import CodingLlm.Pretrain.LoadOrderManifest

/-!
# The distributed sampler

`DistributedBatchSampler` cuts an order into global microbatches, gives each
rank its part of every microbatch, and resumes from the number of completed
microbatches.
-/

namespace CodingLlm

open Words Slices

variable {Digest Cursor : Type}

/-- `SAMPLER_STATE_FORMAT`. -/
def samplerStateFormat : String := "distributed-packed-batch-sampler-state"

/-- `SAMPLER_STATE_FORMAT_VERSION`. -/
def samplerStateFormatVersion : Nat := 2

/-- A resume state with exactly the expected keys. -/
structure SamplerState (Digest : Type) where
  format : PyValue
  formatVersion : PyValue
  orderManifestSha256 : DigestField Digest
  orderPayloadSha256 : DigestField Digest
  datasetManifestSha256 : DomainField (DigestField Digest)
  tokenizerManifestSha256 : DigestField Digest
  completedGlobalMicrobatches : PyValue
  completedOptimizerUpdates : PyValue
  nextOrderRow : PyValue
  consumedInputTokens : PyValue
  globalMicrobatchRows : PyValue
  gradientAccumulationSteps : PyValue
  optimizerUpdateRows : PyValue
  worldSize : PyValue
  sequenceLength : PyValue
  totalGlobalMicrobatches : PyValue
  totalOptimizerUpdates : PyValue
  trainableRows : PyValue
  droppedRows : PyValue

/-- The fields that must be plain integers. -/
def SamplerState.integerFields (state : SamplerState Digest) : List PyValue :=
  [state.formatVersion, state.completedGlobalMicrobatches,
    state.completedOptimizerUpdates, state.nextOrderRow,
    state.consumedInputTokens, state.globalMicrobatchRows,
    state.gradientAccumulationSteps, state.optimizerUpdateRows,
    state.worldSize, state.sequenceLength, state.totalGlobalMicrobatches,
    state.totalOptimizerUpdates, state.trainableRows, state.droppedRows]

/-- The argument `resume_state`. -/
inductive ResumeState (Digest : Type)
  | none
  | state (state : SamplerState Digest)
  | malformed

/-- The arguments of the constructor other than the path and the state. -/
structure SamplerArguments where
  globalMicrobatchRows : PyValue
  gradientAccumulationSteps : PyValue
  rank : PyValue
  worldSize : PyValue
  startGlobalMicrobatch : PyValue
  verifyChecksum : Bool

/-- A sampler, with the order it reads. -/
structure DistributedBatchSampler (Digest : Type) where
  manifest : OrderManifest Digest
  order : List Nat
  orderManifestSha256 : Digest
  globalMicrobatchRows : Nat
  gradientAccumulationSteps : Nat
  rank : Nat
  worldSize : Nat
  startGlobalMicrobatch : Nat
  totalOptimizerUpdates : Nat
  totalGlobalMicrobatches : Nat
  trainableRows : Nat
  iterationStarted : Bool

namespace DistributedBatchSampler

/-- `isinstance(value, int) and not isinstance(value, bool)`. -/
def requireInteger (field : String) (value : PyValue) : Checked Int :=
  match value with
  | .int number => .ok number
  | _ => .error (.typeError (field ++ " must be an integer"))

section Fields

variable (sampler : DistributedBatchSampler Digest)

/-- `optimizer_update_rows`. -/
def optimizerUpdateRows : Nat :=
  sampler.globalMicrobatchRows * sampler.gradientAccumulationSteps

/-- `local_batch_size`. -/
def localBatchSize : Nat := sampler.globalMicrobatchRows / sampler.worldSize

/-- `dropped_rows`. -/
def droppedRows : Nat := sampler.manifest.rows - sampler.trainableRows

end Fields

/-! ## Saving and loading the cursor -/

/-- `state_dict`. -/
def stateDict (sampler : DistributedBatchSampler Digest)
    (completedGlobalMicrobatches : PyValue) :
    Checked (SamplerState Digest) := do
  let completed ← requireNatural completedGlobalMicrobatches
    (.valueError "completed_global_microbatches is out of range")
  let _ ← require
    (sampler.startGlobalMicrobatch ≤ completed ∧
      completed ≤ sampler.totalGlobalMicrobatches)
    (.valueError "completed_global_microbatches is out of range")
  let _ ← require (completed % sampler.gradientAccumulationSteps = 0)
    (.valueError
      "completed_global_microbatches must be an optimizer-update boundary")
  let nextOrderRow := completed * sampler.globalMicrobatchRows
  return {
    format := .str samplerStateFormat
    formatVersion := .int samplerStateFormatVersion
    orderManifestSha256 := .sha256 sampler.orderManifestSha256
    orderPayloadSha256 := .sha256 sampler.manifest.orderSha256
    datasetManifestSha256 := .mapping fun domain =>
      .sha256 (sampler.manifest.datasetManifests domain).sha256
    tokenizerManifestSha256 :=
      .sha256 sampler.manifest.tokenizerManifestSha256
    completedGlobalMicrobatches := .int completed
    completedOptimizerUpdates :=
      .int (completed / sampler.gradientAccumulationSteps : Nat)
    nextOrderRow := .int nextOrderRow
    consumedInputTokens :=
      .int (nextOrderRow * sampler.manifest.sequenceLength : Nat)
    globalMicrobatchRows := .int sampler.globalMicrobatchRows
    gradientAccumulationSteps := .int sampler.gradientAccumulationSteps
    optimizerUpdateRows := .int sampler.optimizerUpdateRows
    worldSize := .int sampler.worldSize
    sequenceLength := .int sampler.manifest.sequenceLength
    totalGlobalMicrobatches := .int sampler.totalGlobalMicrobatches
    totalOptimizerUpdates := .int sampler.totalOptimizerUpdates
    trainableRows := .int sampler.trainableRows
    droppedRows := .int sampler.droppedRows
  }

/-- Compare a state's digest with the sampler's. -/
def requireDigest [DecidableEq Digest]
    (field : String) (found : DigestField Digest) (expected : Digest) :
    Checked Unit :=
  match found with
  | .sha256 digest => do
      let _ ← require (digest = expected)
        (.valueError ("Sampler resume " ++ field ++ " mismatch"))
      return ()
  | .malformed => .error
      (.valueError ("Sampler resume " ++ field ++ " mismatch"))
  | .null => .error
      (.valueError ("Sampler resume " ++ field ++ " must be a string"))

/-- Compare plain integers of a state with the sampler's. -/
def requireStatic : List (String × PyValue × Nat) -> Checked Unit
  | [] => .ok ()
  | (field, value, expected) :: rest => do
      let _ ← require (value = .int expected)
        (.valueError ("Sampler resume " ++ field ++ " mismatch"))
      requireStatic rest

/-- `load_state_dict`. -/
def loadStateDict [DecidableEq Digest]
    (sampler : DistributedBatchSampler Digest)
    (state : SamplerState Digest) :
    Checked (DistributedBatchSampler Digest) := do
  let _ ← require (sampler.iterationStarted = false) (.runtimeError
    "Cannot change sampler resume state after iteration started")
  let _ ← require
    (∀ field ∈ state.integerFields, field.plainInt?.isSome = true)
    (.valueError "Sampler resume integer fields must be plain integers")
  let datasets ← requireObject state.datasetManifestSha256.mapping?
    (.valueError "Sampler resume dataset identity must be a plain dictionary")
  let _ ← require (state.format = .str samplerStateFormat)
    (.valueError "Sampler resume format mismatch")
  requireStatic [
    ("format_version", state.formatVersion, samplerStateFormatVersion)]
  requireDigest "order_manifest_sha256" state.orderManifestSha256
    sampler.orderManifestSha256
  requireDigest "order_payload_sha256" state.orderPayloadSha256
    sampler.manifest.orderSha256
  let _ ← forDomains fun domain =>
    requireDigest "dataset_manifest_sha256" (datasets domain)
      (sampler.manifest.datasetManifests domain).sha256
  requireDigest "tokenizer_manifest_sha256" state.tokenizerManifestSha256
    sampler.manifest.tokenizerManifestSha256
  requireStatic [
    ("global_microbatch_rows", state.globalMicrobatchRows,
      sampler.globalMicrobatchRows),
    ("gradient_accumulation_steps", state.gradientAccumulationSteps,
      sampler.gradientAccumulationSteps),
    ("optimizer_update_rows", state.optimizerUpdateRows,
      sampler.optimizerUpdateRows),
    ("world_size", state.worldSize, sampler.worldSize),
    ("sequence_length", state.sequenceLength,
      sampler.manifest.sequenceLength),
    ("total_global_microbatches", state.totalGlobalMicrobatches,
      sampler.totalGlobalMicrobatches),
    ("total_optimizer_updates", state.totalOptimizerUpdates,
      sampler.totalOptimizerUpdates),
    ("trainable_rows", state.trainableRows, sampler.trainableRows),
    ("dropped_rows", state.droppedRows, sampler.droppedRows)]
  let completed ← requireNatural state.completedGlobalMicrobatches (.valueError
    "Sampler resume completed_global_microbatches is out of range")
  let _ ← require (completed ≤ sampler.totalGlobalMicrobatches) (.valueError
    "Sampler resume completed_global_microbatches is out of range")
  let _ ← require (completed % sampler.gradientAccumulationSteps = 0)
    (.valueError "Sampler resume cursor is not an optimizer-update boundary")
  let nextRow := completed * sampler.globalMicrobatchRows
  requireStatic [
    ("completed_optimizer_updates", state.completedOptimizerUpdates,
      completed / sampler.gradientAccumulationSteps),
    ("next_order_row", state.nextOrderRow, nextRow),
    ("consumed_input_tokens", state.consumedInputTokens,
      nextRow * sampler.manifest.sequenceLength)]
  return { sampler with startGlobalMicrobatch := completed }

/-- What the constructor does with its argument `resume_state`. -/
def resume [DecidableEq Digest]
    (sampler : DistributedBatchSampler Digest)
    (resumeState : ResumeState Digest) :
    Checked (DistributedBatchSampler Digest) :=
  match resumeState with
  | .none => .ok sampler
  | .state state => sampler.loadStateDict state
  | .malformed => .error
      (.valueError "Sampler resume state schema mismatch")

/-! ## Construction -/

/-- The geometry must be the frozen one, if there is one. -/
def requireFrozenGeometry
    (geometry : Option FrozenGeometry)
    (globalMicrobatchRows gradientAccumulationSteps : Nat) : Checked Unit :=
  match geometry with
  | none => .ok ()
  | some frozen => do
      let _ ← require (globalMicrobatchRows = frozen.globalMicrobatchRows)
        (.valueError
          "global_microbatch_rows differs from the immutable order")
      let _ ← require
        (gradientAccumulationSteps = frozen.gradientAccumulationSteps)
        (.valueError
          "gradient_accumulation_steps differs from the immutable order")
      return ()

/-- Updates that the order trains: what is frozen, or what fits. -/
def trainedUpdates
    (manifest : OrderManifest Digest)
    (globalMicrobatchRows gradientAccumulationSteps : Nat) : Nat :=
  match manifest.geometry with
  | none => manifest.rows / (globalMicrobatchRows * gradientAccumulationSteps)
  | some frozen => frozen.optimizerUpdates manifest.rows

/-- Microbatches that the order trains. -/
def trainedMicrobatches
    (manifest : OrderManifest Digest)
    (globalMicrobatchRows gradientAccumulationSteps : Nat) : Nat :=
  match manifest.geometry with
  | none => trainedUpdates manifest globalMicrobatchRows
      gradientAccumulationSteps * gradientAccumulationSteps
  | some frozen => frozen.consumedGlobalMicrobatches manifest.rows

/-- Rows that the order trains. -/
def trainedRows
    (manifest : OrderManifest Digest)
    (globalMicrobatchRows gradientAccumulationSteps : Nat) : Nat :=
  match manifest.geometry with
  | none => trainedUpdates manifest globalMicrobatchRows
      gradientAccumulationSteps *
        (globalMicrobatchRows * gradientAccumulationSteps)
  | some frozen => frozen.consumedRows manifest.rows

/-- Geometry, place and start of a sampler. -/
structure SamplerPlace where
  globalMicrobatchRows : Nat
  gradientAccumulationSteps : Nat
  rank : Nat
  worldSize : Nat
  startGlobalMicrobatch : Nat

/-- The checks on the arguments alone. -/
def checkArguments
    (arguments : SamplerArguments) (resumeState : ResumeState Digest) :
    Checked SamplerPlace := do
  let globalMicrobatchRows ← requireInteger "global_microbatch_rows"
    arguments.globalMicrobatchRows
  let gradientAccumulationSteps ← requireInteger "gradient_accumulation_steps"
    arguments.gradientAccumulationSteps
  let rank ← requireInteger "rank" arguments.rank
  let worldSize ← requireInteger "world_size" arguments.worldSize
  let start ← requireInteger "start_global_microbatch"
    arguments.startGlobalMicrobatch
  let _ ← require (resumeState matches .none ∨ start = 0) (.valueError
    ("resume_state and a nonzero start_global_microbatch are " ++
      "mutually exclusive"))
  let _ ← require (1 ≤ globalMicrobatchRows)
    (.valueError "global_microbatch_rows must be positive")
  let _ ← require (1 ≤ gradientAccumulationSteps)
    (.valueError "gradient_accumulation_steps must be positive")
  let _ ← require (1 ≤ worldSize ∧ 0 ≤ rank ∧ rank < worldSize)
    (.valueError "Invalid distributed rank/world_size")
  let _ ← require (globalMicrobatchRows % worldSize = 0)
    (.valueError "global_microbatch_rows must be divisible by world_size")
  let _ ← require (0 ≤ start)
    (.valueError "start_global_microbatch must be non-negative")
  return ⟨globalMicrobatchRows.toNat, gradientAccumulationSteps.toNat,
    rank.toNat, worldSize.toNat, start.toNat⟩

/-- The attributes that the constructor sets before it resumes. -/
def ofPlace
    (manifest : OrderManifest Digest) (order : List Nat)
    (orderManifestSha256 : Digest) (place : SamplerPlace) :
    DistributedBatchSampler Digest :=
  let rows := place.globalMicrobatchRows
  let steps := place.gradientAccumulationSteps
  { manifest, order, orderManifestSha256
    globalMicrobatchRows := rows
    gradientAccumulationSteps := steps
    rank := place.rank
    worldSize := place.worldSize
    startGlobalMicrobatch := place.startGlobalMicrobatch
    totalOptimizerUpdates := trainedUpdates manifest rows steps
    totalGlobalMicrobatches := trainedMicrobatches manifest rows steps
    trainableRows := trainedRows manifest rows steps
    iterationStarted := false }

/-- The checks of the start against the order, and the resumption. -/
def begin [DecidableEq Digest]
    (sampler : DistributedBatchSampler Digest)
    (resumeState : ResumeState Digest) :
    Checked (DistributedBatchSampler Digest) := do
  let _ ← require
    (sampler.startGlobalMicrobatch ≤ sampler.totalGlobalMicrobatches)
    (.valueError "start_global_microbatch is beyond the end of the order")
  let _ ← require
    (sampler.startGlobalMicrobatch % sampler.gradientAccumulationSteps = 0)
    (.valueError
      "start_global_microbatch must be aligned to an optimizer-update boundary")
  sampler.resume resumeState

/-- The constructor. -/
def new [DecidableEq Digest]
    (hash : FileHash Digest Cursor) (directory : OrderDirectory Digest)
    (arguments : SamplerArguments) (resumeState : ResumeState Digest) :
    Checked (DistributedBatchSampler Digest) := do
  let loaded ←
    loadOrderManifest hash.bytes arguments.verifyChecksum directory
  let place ← checkArguments arguments resumeState
  requireFrozenGeometry loaded.1.geometry place.globalMicrobatchRows
    place.gradientAccumulationSteps
  let document ← requireObject directory.manifest
    (.ioError "Order manifest must be a regular non-symlink file")
  (ofPlace loaded.1 (decodeWords referenceItemSize loaded.2)
    (hash.orderManifest document) place).begin resumeState

/-! ## Iteration -/

/-- The batch of this rank in a global microbatch. -/
def batch (sampler : DistributedBatchSampler Digest)
    (globalMicrobatch : Nat) : List Nat :=
  let globalReferences := slice sampler.order
    (globalMicrobatch * sampler.globalMicrobatchRows)
    sampler.globalMicrobatchRows
  slice globalReferences (sampler.rank * sampler.localBatchSize)
    sampler.localBatchSize

/-- `__iter__`: every batch that the iterator yields. -/
def batches (sampler : DistributedBatchSampler Digest) : List (List Nat) :=
  (List.range' sampler.startGlobalMicrobatch
    (sampler.totalGlobalMicrobatches - sampler.startGlobalMicrobatch)).map
      sampler.batch

/-- The sampler after its iterator has yielded `drawn` batches. -/
def advance (sampler : DistributedBatchSampler Digest) (drawn : Nat) :
    DistributedBatchSampler Digest :=
  { sampler with
    iterationStarted := sampler.iterationStarted || decide (0 < drawn) }

end DistributedBatchSampler

end CodingLlm
