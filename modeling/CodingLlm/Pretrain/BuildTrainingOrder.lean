import CodingLlm.Pretrain.LoadOrderManifest

/-!
# Building training orders

`build_training_order` selects rows of three packed directories, shuffles their
references and writes the order with its accounting.  The generators of NumPy
are a parameter of which only that they permute is used.
-/

namespace CodingLlm

open Words

variable {Digest Cursor : Type}

/-! ## Environment and arguments -/

/-- The shuffles of NumPy: by a generator that `_derived_order_rng` seeds, and
by `PCG64(seed)` itself. -/
structure OrderShuffles where
  derived : Int -> String -> List Nat -> List Nat
  plain : Nat -> List Nat -> List Nat
  derived_perm : ∀ seed label items, (derived seed label items).Perm items
  plain_perm : ∀ seed items, (plain seed items).Perm items

/-- What the build reads besides its arguments. -/
structure OrderEnvironment (Digest Cursor : Type) where
  hash : FileHash Digest Cursor
  store : PackedStore Digest Cursor
  shuffles : OrderShuffles
  numpyVersion : String
  numpyVersion_ne_empty : numpyVersion ≠ ""

/-- What `os.path.relpath` returns. -/
structure RelativePath where
  path : String
  path_ne_empty : path ≠ ""
  relative : isAbsolute path = false

/-- The arguments of `build_training_order`; the paths are relative to the
output directory. -/
structure OrderArguments where
  manifests : DomainField RelativePath
  seed : Int
  expectedWeights : DomainField PyValue
  expectedTotalInputTokens : PyValue
  inputTokenTolerance : PyValue
  frozenGlobalMicrobatchRows : PyValue
  frozenGradientAccumulationSteps : PyValue

/-! ## Reading the arguments -/

/-- The checks on the frozen geometry. -/
def requireGeometry (globalMicrobatchRows gradientAccumulationSteps : PyValue) :
    Checked (Option FrozenGeometry) := do
  let _ ← require
    (globalMicrobatchRows = .null ↔ gradientAccumulationSteps = .null)
    (.valueError ("frozen_global_microbatch_rows and " ++
      "frozen_gradient_accumulation_steps must be supplied together"))
  if globalMicrobatchRows = .null then return none
  else do
    let rows ← requirePositive globalMicrobatchRows (.valueError
      "frozen_global_microbatch_rows must be a positive integer")
    let steps ← requirePositive gradientAccumulationSteps (.valueError
      "frozen_gradient_accumulation_steps must be a positive integer")
    return some ⟨rows.val, steps.val, positive_val rows, positive_val steps⟩

/-- One packed directory as the build sees it. -/
structure PackedInput (Digest Cursor : Type) where
  directory : Directory Digest Cursor
  document : PackedManifestJson Digest Cursor
  manifest : PackedManifest Digest Cursor

/-- `_parse_packed_manifest` of a domain's path. -/
def loadPackedInput
    (store : PackedStore Digest Cursor) (path : RelativePath)
    (domain : Domain) : Checked (PackedInput Digest Cursor) := do
  let directory ← requireObject (store path.path)
    (.ioError "Packed manifest must be a regular non-symlink file")
  let document ← readManifest directory
  let manifest ← parsePackedManifest document
  let _ ← require (manifest.domain = domain)
    (.valueError "Packed manifest declares another domain")
  return ⟨directory, document, manifest⟩

/-- Two packed manifests agree on what an order needs them to agree on. -/
structure PackedManifest.Agrees
    (manifest common : PackedManifest Digest Cursor) : Prop where
  split : manifest.split = common.split
  sequenceLength : manifest.sequenceLength = common.sequenceLength
  vocabSize : manifest.vocabSize = common.vocabSize
  eosTokenId : manifest.eosTokenId.toInt = common.eosTokenId.toInt
  tokenizerManifestSha256 :
    manifest.tokenizerManifestSha256 = common.tokenizerManifestSha256

/-- The loop over the keys that all manifests must agree on. -/
def requireAgreement [DecidableEq Digest]
    (manifest common : PackedManifest Digest Cursor) : Checked Unit := do
  let _ ← require (manifest.split = common.split)
    (.valueError "All manifests must agree on split")
  let _ ← require (manifest.sequenceLength = common.sequenceLength)
    (.valueError "All manifests must agree on sequence_length")
  let _ ← require (manifest.vocabSize = common.vocabSize)
    (.valueError "All manifests must agree on vocab_size")
  let _ ← require (manifest.eosTokenId.toInt = common.eosTokenId.toInt)
    (.valueError "All manifests must agree on eos_token_id")
  let _ ← require
    (manifest.tokenizerManifestSha256 = common.tokenizerManifestSha256)
    (.valueError "All manifests must agree on tokenizer_manifest_sha256")
  return ()

/-- The loop over the packed manifests. -/
def loadPackedInputs [DecidableEq Digest]
    (store : PackedStore Digest Cursor) (paths : Domain -> RelativePath) :
    Checked (Domain -> PackedInput Digest Cursor) := do
  let python ← loadPackedInput store (paths .python) .python
  let otherCode ← loadPackedInput store (paths .otherCode) .otherCode
  requireAgreement otherCode.manifest python.manifest
  let english ← loadPackedInput store (paths .english) .english
  requireAgreement english.manifest python.manifest
  return fun
    | .python => python
    | .otherCode => otherCode
    | .english => english

/-! ## Selecting rows -/

/-- The part of the input-token budget that only a target has. -/
structure SelectedTarget where
  expectedTotal : Nat
  tolerance : PyInt
  delta : Int

/-- How many rows of each domain are selected, and for which target. -/
structure SelectedRows where
  rowsPerDomain : Domain -> Nat
  totalRows : Nat
  target : Option SelectedTarget

/-- Rows of the unit by which a selection can grow. -/
def selectableUnit (geometry : Option FrozenGeometry) : Nat :=
  match geometry with
  | none => 1
  | some geometry => geometry.updateRows

/-- `input_token_tolerance`, by default one token less than a unit. -/
def toleranceOrDefault
    (tolerance : PyValue) (sequenceLength : Nat)
    (geometry : Option FrozenGeometry) : PyValue :=
  if tolerance = .null then
    .int (selectableUnit geometry * sequenceLength - 1)
  else tolerance

/-- The selection for an input-token target. -/
def selectCapped
    (available : Domain -> Nat) (sequenceLength : Nat)
    (weights : Option DomainWeights) (geometry : Option FrozenGeometry)
    (expectedTotal tolerance : PyValue) : Checked SelectedRows := do
  let weights ← requireObject weights (.valueError
    "expected_total_input_tokens requires expected_weights")
  let expectedTotal ← requirePositive expectedTotal (.valueError
    "expected_total_input_tokens must be a positive integer")
  let totalRows := selectableRows sequenceLength expectedTotal.val geometry
  let _ ← require (1 ≤ totalRows) (.valueError
    "Input-token target is smaller than one selectable row/update")
  let rowsPerDomain ← strictWeightedRowCounts totalRows weights
  let _ ← require
    (∀ domain ∈ Domain.order, rowsPerDomain domain ≤ available domain)
    (.valueError "Insufficient packed rows for strict weighted cap")
  let tolerance ← requireInt
    (toleranceOrDefault tolerance sequenceLength geometry)
    (.valueError "input_token_tolerance must be a non-negative integer")
  let _ ← require (0 ≤ tolerance.toInt)
    (.valueError "input_token_tolerance must be a non-negative integer")
  let delta : Int :=
    (totalRows * sequenceLength : Nat) - (expectedTotal.val : Int)
  let _ ← require (delta ≤ 0 ∧ -tolerance.toInt ≤ delta)
    (.valueError "Packed input-token budget is wrong")
  return ⟨rowsPerDomain, totalRows,
    some ⟨expectedTotal.val, tolerance, delta⟩⟩

/-- The selection of every packed row. -/
def selectAll
    (available : Domain -> Nat) (weights : Option DomainWeights)
    (tolerance : PyValue) : Checked SelectedRows := do
  let _ ← require (tolerance = .null) (.valueError
    "input_token_tolerance requires expected_total_input_tokens")
  match weights with
  | some weights => validateRowMixture available weights
  | none => pure ()
  return ⟨available, totalOf available, none⟩

/-- `normalized_weights`. -/
def optionalWeights (expectedWeights : DomainField PyValue) :
    Checked (Option DomainWeights) :=
  if expectedWeights.IsNull then .ok none
  else some <$> normalizeDomainWeights expectedWeights

/-- The selection, capped if there is a target. -/
def selectRows
    (available : Domain -> Nat) (sequenceLength : Nat)
    (weights : Option DomainWeights) (geometry : Option FrozenGeometry)
    (expectedTotal tolerance : PyValue) : Checked SelectedRows :=
  if expectedTotal = .null then selectAll available weights tolerance
  else selectCapped available sequenceLength weights geometry expectedTotal
    tolerance

/-! ## References -/

/-- `_encoded_domain_references`. -/
def encodedDomainReferences (domainId : Nat) (rowIds : List Nat) : List Nat :=
  rowIds.map fun row => row ||| (domainId <<< rowBits)

/-- The selected references in order, and the surplus references. -/
structure OrderReferences where
  selected : List Nat
  surplus : List Nat

/-- The references of a capped selection: of each domain the front of a
permutation, permuted together. -/
def cappedReferences
    (shuffles : OrderShuffles) (seed : Int)
    (available selected : Domain -> Nat) : OrderReferences :=
  let rowIds (domain : Domain) : List Nat :=
    shuffles.derived seed ("domain:" ++ domain.name)
      (List.range (available domain))
  { selected := shuffles.derived seed "global:selected"
      (Domain.order.flatMap fun domain =>
        encodedDomainReferences domain.id
          ((rowIds domain).take (selected domain)))
    surplus := Domain.order.flatMap fun domain =>
      encodedDomainReferences domain.id
        ((rowIds domain).drop (selected domain)) }

/-- The references of every packed row, permuted. -/
def allReferences
    (shuffles : OrderShuffles) (seed : Int) (available : Domain -> Nat) :
    Checked OrderReferences := do
  let _ ← require (0 ≤ seed) (.valueError "expected non-negative integer")
  return {
    selected := shuffles.plain seed.toNat
      (Domain.order.flatMap fun domain =>
        encodedDomainReferences domain.id (List.range (available domain)))
    surplus := []
  }

/-- The references, capped if there is a target. -/
def orderReferences
    (shuffles : OrderShuffles) (seed : Int)
    (available selected : Domain -> Nat) (expectedTotal : PyValue) :
    Checked OrderReferences :=
  if expectedTotal = .null then allReferences shuffles seed available
  else .ok (cappedReferences shuffles seed available selected)

/-! ## The document -/

/-- The values from which an order is written. -/
structure OrderDraft (Digest Cursor : Type) where
  packed : Domain -> PackedInput Digest Cursor
  paths : Domain -> RelativePath
  seed : Int
  weights : Option DomainWeights
  geometry : Option FrozenGeometry
  selection : SelectedRows
  references : List Nat
  selectedSupervised : Domain -> Int
  droppedSupervised : Domain -> Int

namespace OrderDraft

variable (draft : OrderDraft Digest Cursor)

/-- `common`. -/
def common : PackedManifest Digest Cursor := (draft.packed .python).manifest

/-- `packed_available_rows_per_domain`. -/
def availableRows (domain : Domain) : Nat :=
  (draft.packed domain).manifest.rows

/-- `packed_available_supervised_tokens_per_domain`. -/
def availableSupervised (domain : Domain) : Nat :=
  (draft.packed domain).manifest.validLossTokens

/-- `packed_surplus_rows_per_domain`. -/
def surplusRows (domain : Domain) : Int :=
  draft.availableRows domain - draft.selection.rowsPerDomain domain

/-- `packed_surplus_supervised_tokens_per_domain`. -/
def surplusSupervised (domain : Domain) : Int :=
  draft.availableSupervised domain - draft.selectedSupervised domain

/-- Rows of a domain in the consumed prefix. -/
def consumedRowsOf (consumedRows : Nat) (domain : Domain) : Nat :=
  (draft.references.take consumedRows).countP fun reference =>
    reference >>> rowBits = domain.id

/-- Input tokens of row counts per domain. -/
def inputTokens (rows : Domain -> Int) (domain : Domain) : Int :=
  rows domain * draft.common.sequenceLength

/-- A mapping to integers, as it is written. -/
def mapping (values : Domain -> Int) : DomainField PyValue :=
  .mapping fun domain => .int (values domain)

/-- `training_consumption`. -/
def trainingConsumption : TrainingConsumptionJson :=
  let sequenceLength := draft.common.sequenceLength
  let rows := draft.selection.totalRows
  let selectedRows (domain : Domain) : Int :=
    draft.selection.rowsPerDomain domain
  match draft.geometry with
  | none => {
      policy := .str "runtime-training-geometry-not-frozen"
      frozenGlobalMicrobatchRows := .null
      frozenGradientAccumulationSteps := .null
      frozenOptimizerUpdateRows := .null
      orderRows := .int rows
      consumedRows := .null
      droppedTailRows := .null
      availableGlobalMicrobatches := .null
      consumedGlobalMicrobatches := .null
      droppedGlobalMicrobatches := .null
      droppedPartialMicrobatchRows := .null
      optimizerUpdates := .null
      availableInputTokens := .int (rows * sequenceLength : Nat)
      availableSupervisedTokens := .int (totalOf draft.selectedSupervised)
      consumedInputTokens := .null
      droppedInputTokens := .null
      consumedSupervisedTokens := .null
      droppedSupervisedTokens := .null
      consumedRowsPerDomain := .null
      consumedInputTokensPerDomain := .null
      consumedSupervisedTokensPerDomain := .null
      realizedConsumedInputTokenWeights := .null
      realizedConsumedSupervisedTokenWeights := .null
      droppedRowsPerDomain := .null
      droppedInputTokensPerDomain := .null
      droppedSupervisedTokensPerDomain := .null }
  | some geometry =>
      let consumedRows := geometry.consumedRows rows
      let consumed (domain : Domain) : Int :=
        draft.consumedRowsOf consumedRows domain
      let dropped (domain : Domain) : Int :=
        selectedRows domain - consumed domain
      let consumedSupervised (domain : Domain) : Int :=
        draft.selectedSupervised domain - draft.droppedSupervised domain
      { policy := .str "complete-frozen-optimizer-updates-no-padding"
        frozenGlobalMicrobatchRows := .int geometry.globalMicrobatchRows
        frozenGradientAccumulationSteps :=
          .int geometry.gradientAccumulationSteps
        frozenOptimizerUpdateRows := .int geometry.updateRows
        orderRows := .int rows
        consumedRows := .int consumedRows
        droppedTailRows := .int (rows - consumedRows : Int)
        availableGlobalMicrobatches :=
          .int (geometry.availableGlobalMicrobatches rows)
        consumedGlobalMicrobatches :=
          .int (geometry.consumedGlobalMicrobatches rows)
        droppedGlobalMicrobatches :=
          .int (geometry.availableGlobalMicrobatches rows -
            geometry.consumedGlobalMicrobatches rows : Int)
        droppedPartialMicrobatchRows :=
          .int (rows % geometry.globalMicrobatchRows : Nat)
        optimizerUpdates := .int (geometry.optimizerUpdates rows)
        availableInputTokens := .int (rows * sequenceLength : Nat)
        availableSupervisedTokens := .int (totalOf draft.selectedSupervised)
        consumedInputTokens := .int (consumedRows * sequenceLength : Nat)
        droppedInputTokens :=
          .int ((rows - consumedRows : Int) * sequenceLength)
        consumedSupervisedTokens := .int (totalOf consumedSupervised)
        droppedSupervisedTokens := .int (totalOf draft.droppedSupervised)
        consumedRowsPerDomain := mapping consumed
        consumedInputTokensPerDomain := mapping (draft.inputTokens consumed)
        consumedSupervisedTokensPerDomain := mapping consumedSupervised
        realizedConsumedInputTokenWeights := .ofWeights fun domain =>
          (consumed domain : Rat) / consumedRows
        realizedConsumedSupervisedTokenWeights := .ofWeights fun domain =>
          shareOf (consumedSupervised domain) (totalOf consumedSupervised)
        droppedRowsPerDomain := mapping dropped
        droppedInputTokensPerDomain := mapping (draft.inputTokens dropped)
        droppedSupervisedTokensPerDomain := mapping draft.droppedSupervised }

/-- `input_token_budget`. -/
def inputTokenBudget : InputTokenBudgetJson where
  policy := .str ("packed_model_inputs_including_eos_" ++
    "excluding_lookahead_duplicates")
  direction := .str "at_or_below"
  expectedTotal := match draft.selection.target with
    | none => .null
    | some target => .int target.expectedTotal
  actualTotal := .int
    (accountedRows draft.selection.totalRows draft.geometry *
      draft.common.sequenceLength : Nat)
  availableTotal :=
    .int (draft.selection.totalRows * draft.common.sequenceLength : Nat)
  packedAvailableTotal := .int (totalOf
    (draft.inputTokens fun domain => draft.availableRows domain))
  packedSurplusTotal := .int (totalOf (draft.inputTokens draft.surplusRows))
  accounting := .str (accountingName draft.geometry)
  delta := match draft.selection.target with
    | none => .null
    | some target => .int target.delta
  tolerance := match draft.selection.target with
    | none => .null
    | some target => target.tolerance.toValue

/-- Which of the two selections was made. -/
def rowSelection : RowSelection :=
  if draft.selection.target.isSome then .strictWeightedTokenCap
  else .allPackedRows

/-- `order_manifest`. -/
def document (hash : FileHash Digest Cursor) (numpyVersion : String) :
    OrderManifestJson Digest :=
  let available (domain : Domain) : Int := draft.availableRows domain
  let selected (domain : Domain) : Int := draft.selection.rowsPerDomain domain
  let availableSupervised (domain : Domain) : Int :=
    draft.availableSupervised domain
  let bytes := encodeWords referenceItemSize draft.references
  { format := .str "global-packed-row-order"
    formatVersion := .int orderFormatVersion
    referenceDtype := .str referenceDtype
    encoding := some (.int domainBits, .int rowBits)
    domainOrder := some (Domain.order.map fun domain => .str domain.name)
    rowsPerDomain := mapping selected
    rows := .int draft.selection.totalRows
    packedAvailableRows := .int (totalOf available)
    packedAvailableRowsPerDomain := mapping available
    packedAvailableInputTokens := .int (totalOf (draft.inputTokens available))
    packedAvailableInputTokensPerDomain :=
      mapping (draft.inputTokens available)
    packedAvailableSupervisedTokens := .int (totalOf availableSupervised)
    packedAvailableSupervisedTokensPerDomain := mapping availableSupervised
    packedSurplusRows := .int (totalOf draft.surplusRows)
    packedSurplusRowsPerDomain := mapping draft.surplusRows
    packedSurplusInputTokens :=
      .int (totalOf (draft.inputTokens draft.surplusRows))
    packedSurplusInputTokensPerDomain :=
      mapping (draft.inputTokens draft.surplusRows)
    packedSurplusSupervisedTokens := .int (totalOf draft.surplusSupervised)
    packedSurplusSupervisedTokensPerDomain := mapping draft.surplusSupervised
    split := .str draft.common.split
    sequenceLength := .int draft.common.sequenceLength
    vocabSize := .int draft.common.vocabSize
    eosTokenId := draft.common.eosTokenId.toValue
    seed := .int draft.seed
    rng := .str orderRng
    seedDerivation := draft.rowSelection.seedDerivation
    numpyVersion := .str numpyVersion
    shuffle := .str draft.rowSelection.shuffle
    rowSelection := .str draft.rowSelection.name
    tokenizerManifestSha256 := .sha256 draft.common.tokenizerManifestSha256
    expectedInputTokenWeights := match draft.weights with
      | none => .null
      | some weights => .ofWeights weights.weight
    inputTokensPerDomain := mapping (draft.inputTokens selected)
    realizedInputTokenWeights := .ofWeights fun domain =>
      (selected domain : Rat) / draft.selection.totalRows
    validLossTokensPerDomain := mapping draft.selectedSupervised
    realizedValidLossTokenWeights := .ofWeights fun domain =>
      shareOf (draft.selectedSupervised domain)
        (totalOf draft.selectedSupervised)
    trainingConsumption := some draft.trainingConsumption
    inputTokenBudget := some draft.inputTokenBudget
    datasetManifests := .mapping fun domain => some {
      path := .str (draft.paths domain).path
      sha256 := .sha256
        (hash.packedManifest (draft.packed domain).document) }
    order := some {
      path := .str "order.bin"
      bytes := .int bytes.length
      sha256 := .sha256 (hash.bytes bytes) } }

end OrderDraft

/-! ## The build -/

/-- `selected_supervised_tokens_per_domain`: as packed, by the complement of
the surplus, or counted directly, whichever side is smaller. -/
def selectedSupervisedTokens
    (packed : Domain -> PackedInput Digest Cursor) (sequenceLength : Nat)
    (selection : SelectedRows) (references : OrderReferences) :
    Checked (Domain -> Int) :=
  let available (domain : Domain) : Int :=
    (packed domain).manifest.validLossTokens
  let surplusRows : Int := totalOf fun domain =>
    ((packed domain).manifest.rows : Int) - selection.rowsPerDomain domain
  if selection.target.isNone then pure available
  else if surplusRows ≤ selection.totalRows then do
    let surplus ← countSupervisedTokensForReferences references.surplus
      (fun domain => (packed domain).directory) sequenceLength
    return fun domain => available domain - surplus domain
  else do
    let selected ← countSupervisedTokensForReferences references.selected
      (fun domain => (packed domain).directory) sequenceLength
    return fun domain => selected domain

/-- `dropped_supervised_tokens_per_domain`; nothing without a geometry. -/
def droppedSupervisedTokens
    (packed : Domain -> PackedInput Digest Cursor) (sequenceLength : Nat)
    (geometry : Option FrozenGeometry) (totalRows : Nat)
    (references : List Nat) : Checked (Domain -> Nat) :=
  match geometry with
  | none => pure fun _ => 0
  | some geometry => do
      let _ ← require (1 ≤ geometry.optimizerUpdates totalRows) (.valueError
        "frozen optimizer-update geometry is larger than the order")
      countSupervisedTokensForReferences
        (references.drop (geometry.consumedRows totalRows))
        (fun domain => (packed domain).directory) sequenceLength

/-- The values from which `build_training_order` writes an order. -/
def draftTrainingOrder [DecidableEq Digest]
    (environment : OrderEnvironment Digest Cursor)
    (arguments : OrderArguments) : Checked (OrderDraft Digest Cursor) := do
  let paths ← requireObject arguments.manifests.mapping?
    (.valueError "Expected exactly the domains")
  let geometry ← requireGeometry arguments.frozenGlobalMicrobatchRows
    arguments.frozenGradientAccumulationSteps
  let packed ← loadPackedInputs environment.store paths
  let sequenceLength := (packed .python).manifest.sequenceLength
  let available (domain : Domain) : Nat := (packed domain).manifest.rows
  let _ ← require (1 ≤ totalOf available)
    (.valueError "Cannot build an empty training order")
  let _ ← require (∀ domain ∈ Domain.order, available domain ≤ maxRowId)
    (.valueError "A packed domain contains too many addressable rows")
  let weights ← optionalWeights arguments.expectedWeights
  let selection ← selectRows available sequenceLength weights geometry
    arguments.expectedTotalInputTokens arguments.inputTokenTolerance
  let references ← orderReferences environment.shuffles arguments.seed
    available selection.rowsPerDomain arguments.expectedTotalInputTokens
  let selectedSupervised ←
    selectedSupervisedTokens packed sequenceLength selection references
  let _ ← require
    (∀ domain ∈ Domain.order, 0 ≤
      ((packed domain).manifest.validLossTokens : Int) -
        selectedSupervised domain)
    (.valueError "Selected supervised tokens exceed packed availability")
  let droppedSupervised ← droppedSupervisedTokens packed sequenceLength
    geometry selection.totalRows references.selected
  return {
    packed, paths, weights, geometry, selection, selectedSupervised
    seed := arguments.seed
    references := references.selected
    droppedSupervised := fun domain => droppedSupervised domain
  }

/-- `build_training_order`: what the output directory holds afterwards. -/
def buildTrainingOrder [DecidableEq Digest]
    (environment : OrderEnvironment Digest Cursor)
    (arguments : OrderArguments) (output : OrderDirectory Digest) :
    Checked (OrderDirectory Digest) := do
  let _ ← require output.IsEmpty
    (.fileExistsError "Refusing to write into non-empty order directory")
  let draft ← draftTrainingOrder environment arguments
  return {
    manifest := some
      (draft.document environment.hash environment.numpyVersion)
    payload := some (encodeWords referenceItemSize draft.references)
    others := []
  }

end CodingLlm
