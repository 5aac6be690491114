import CodingLlm.Pretrain.SelectedReferences

/-!
# Validating training orders

`validate_training_order` loads an order, scans its payload chunk by chunk for
rows that do not exist or occur twice, and counts supervised tokens anew on the
smaller side of the selection.
-/

namespace CodingLlm

open Words Slices

variable {Digest Cursor : Type}

/-! ## The scan -/

/-- The rows of each domain that the scan has seen, and how many of them lie
in the consumed prefix. -/
structure OrderScan where
  seen : Domain -> Nat -> Bool
  consumed : Domain -> Nat

/-- `chunk_rows`. -/
def chunkRows : Nat := 1000000

/-- The row ids of a chunk that belong to a domain. -/
def rowIdsOf (domain : Domain) (chunk : List Nat) : List Nat :=
  (chunk.filter fun reference =>
    (decodeReference reference).1 = domain.id).map fun reference =>
      (decodeReference reference).2

/-- The body of the loop over the domains of a chunk. -/
def markRows (available : Nat) (rowIds : List Nat) (seen : Nat -> Bool) :
    Checked (Nat -> Bool) := do
  let _ ← require (∀ row ∈ rowIds, row < available)
    (.valueError "Order row ID is out of range")
  let unique := rowIds.dedup
  let _ ← require
    (unique.length = rowIds.length ∧ ∀ row ∈ unique, seen row = false)
    (.valueError "Order contains a duplicate row")
  return fun row => seen row || decide (row ∈ unique)

/-- Rows of the consumed prefix that a chunk adds. -/
def consumedInChunk
    (consumedRows : Option Nat) (begin : Nat) (chunk : List Nat)
    (domain : Domain) : Nat :=
  match consumedRows with
  | none => 0
  | some count =>
      if begin < count then rowsIn (chunk.take (count - begin)) domain
      else 0

/-- The scan of one chunk. -/
def scanChunk
    (available : Domain -> Nat) (consumedRows : Option Nat) (begin : Nat)
    (chunk : List Nat) (scan : OrderScan) : Checked OrderScan := do
  let _ ← require
    (∀ reference ∈ chunk,
      (decodeReference reference).1 < Domain.order.length)
    (.valueError "Order contains an invalid domain ID")
  let seen ← forDomains fun domain =>
    markRows (available domain) (rowIdsOf domain chunk) (scan.seen domain)
  return {
    seen
    consumed := fun domain => scan.consumed domain +
      consumedInChunk consumedRows begin chunk domain
  }

/-- The loop over the chunks of an order. -/
def scanChunks
    (chunkRows : Nat) (available : Domain -> Nat) (consumedRows : Option Nat)
    (order : List Nat) (chunks : Nat) : Checked OrderScan :=
  (List.range chunks).foldlM (fun scan index =>
    scanChunk available consumedRows (index * chunkRows)
      (slice order (index * chunkRows) chunkRows) scan)
    ⟨fun _ _ => false, fun _ => 0⟩

/-- The scan and the checks of its counts against the manifest. -/
def scanOrder
    (manifest : OrderManifest Digest) (order : List Nat) :
    Checked OrderScan := do
  let consumedRows := manifest.geometry.map fun geometry =>
    geometry.consumedRows manifest.rows
  -- `np.zeros` of one byte for each row: address spaces end before `2 ^ 56`
  let _ ← require
    (∀ domain ∈ Domain.order,
      manifest.packedAvailableRowsPerDomain domain ≤ maxRowId)
    (.memoryError "Unable to allocate array")
  let scan ← scanChunks chunkRows manifest.packedAvailableRowsPerDomain
    consumedRows order ((manifest.rows + (chunkRows - 1)) / chunkRows)
  let _ ← require
    (∀ domain ∈ Domain.order,
      (List.range (manifest.packedAvailableRowsPerDomain domain)).countP
        (scan.seen domain) = manifest.rowsPerDomain domain)
    (.valueError "Order selected-row count differs")
  let _ ← require
    (∀ frozen ∈ manifest.consumption, ∀ domain ∈ Domain.order,
      scan.consumed domain = frozen.consumedRowsPerDomain domain)
    (.valueError ("Training-consumption per-domain counts differ from the " ++
      "frozen order prefix"))
  return scan

/-! ## Recorded weights and tokens -/

/-- The checks on `expected_input_token_weights`. -/
def checkExpectedWeights (manifest : OrderManifest Digest) : Checked Unit :=
  if manifest.expectedInputTokenWeights.IsNull then .ok ()
  else do
    let weights ←
      normalizeDomainWeights manifest.expectedInputTokenWeights
    let _ ← require
      (manifest.expectedInputTokenWeights.AllClose weights.weight)
      (.valueError "Expected input-token weights are not normalized")
    validateRowMixture manifest.rowsPerDomain weights

/-- The checks on tokens and weights that the loader left.  Those on the
budget repeat what the loader has checked. -/
def checkRecordedTokens (manifest : OrderManifest Digest) : Checked Unit := do
  let inputTokens (domain : Domain) : Nat :=
    manifest.rowsPerDomain domain * manifest.sequenceLength
  let _ ← require
    (manifest.inputTokensPerDomain.EqualsInts fun domain =>
      inputTokens domain)
    (.valueError "Order input_tokens_per_domain is inconsistent")
  let _ ← require
    (manifest.realizedInputTokenWeights.AllClose fun domain =>
      (inputTokens domain : Rat) / (manifest.rows * manifest.sequenceLength))
    (.valueError "Order realized input-token weights are inconsistent")
  let _ ← require
    (manifest.realizedValidLossTokenWeights.AllClose fun domain =>
      shareOf (manifest.validLossTokensPerDomain domain)
        (totalOf manifest.validLossTokensPerDomain : Nat))
    (.valueError
      "Order realized valid-loss-token weights are inconsistent")
  return ()

/-! ## Packed manifests -/

/-- One turn of `_resolve_order_manifests`. -/
def resolveDataset [DecidableEq Digest]
    (hash : FileHash Digest Cursor) (store : PackedStore Digest Cursor)
    (tokenizerManifestSha256 : Digest)
    (reference : DatasetReference Digest) :
    Checked (Directory Digest Cursor) := do
  let _ ← require (isAbsolute reference.path = false)
    (.valueError "Packed dataset manifest path must be relative")
  let directory ← requireObject (store reference.path)
    (.ioError "Packed dataset manifest is missing")
  let document ← readManifest directory
  let _ ← require (hash.packedManifest document = reference.sha256)
    (.ioError "Packed dataset manifest changed after order creation")
  let manifest ← parsePackedManifest document
  let _ ← require
    (manifest.tokenizerManifestSha256 = tokenizerManifestSha256)
    (.valueError
      "Packed dataset tokenizer manifest differs from the training order")
  return directory

/-- `_resolve_order_manifests`. -/
def resolveOrderManifests [DecidableEq Digest]
    (hash : FileHash Digest Cursor) (store : PackedStore Digest Cursor)
    (directory : OrderDirectory Digest) :
    Checked (Domain -> Directory Digest Cursor) := do
  let loaded ← loadOrderManifest hash.bytes false directory
  forDomains fun domain =>
    resolveDataset hash store loaded.1.tokenizerManifestSha256
      (loaded.1.datasetManifests domain)

/-- The comparison of an order with one of its packed manifests. -/
def checkPackedFields [DecidableEq Digest]
    (manifest : OrderManifest Digest) (domain : Domain)
    (packed : Directory Digest Cursor) : Checked Unit := do
  let document ← readManifest packed
  let packedManifest ← parsePackedManifest document
  let available := manifest.packedAvailableRowsPerDomain domain
  let _ ← require
    (packedManifest.domain = domain ∧
      packedManifest.rows = available ∧
      packedManifest.rows * packedManifest.sequenceLength =
        available * manifest.sequenceLength ∧
      packedManifest.validLossTokens =
        manifest.packedAvailableSupervisedTokensPerDomain domain ∧
      packedManifest.split = manifest.split ∧
      packedManifest.sequenceLength = manifest.sequenceLength ∧
      packedManifest.vocabSize = manifest.vocabSize.toInt ∧
      packedManifest.eosTokenId.toInt = manifest.eosTokenId.toInt ∧
      packedManifest.tokenizerManifestSha256 =
        manifest.tokenizerManifestSha256)
    (.valueError "Order differs from packed manifest")
  return ()

/-- References of the rows that the scan has not seen. -/
def surplusReferences
    (available : Domain -> Nat) (seen : Domain -> Nat -> Bool) : List Nat :=
  Domain.order.flatMap fun domain =>
    encodedDomainReferences domain.id
      ((List.range (available domain)).filter fun row => !seen domain row)

/-- The supervised tokens of the dropped suffix. -/
def checkDroppedSupervision
    (manifest : OrderManifest Digest) (order : List Nat)
    (resolved : Domain -> Directory Digest Cursor) : Checked Unit :=
  match manifest.consumption with
  | none => .ok ()
  | some frozen => do
      let observed ← countSupervisedTokensForReferences
        (order.drop (frozen.consumedRows manifest.rows)) resolved
        manifest.sequenceLength
      let _ ← require
        (∀ domain ∈ Domain.order,
          observed domain = frozen.droppedSupervisedTokensPerDomain domain)
        (.valueError ("Training-consumption supervised counts differ from " ++
          "the frozen order suffix"))
      return ()

/-- Selected and surplus supervised tokens, one side counted and the other
taken as what the packed manifests leave. -/
def observedSupervision
    (manifest : OrderManifest Digest) (order : List Nat)
    (seen : Domain -> Nat -> Bool)
    (resolved : Domain -> Directory Digest Cursor) :
    Checked ((Domain -> Int) × (Domain -> Int)) :=
  let available (domain : Domain) : Int :=
    manifest.packedAvailableSupervisedTokensPerDomain domain
  if manifest.packedSurplusRows ≤ manifest.rows then do
    let surplus ← countSupervisedTokensForReferences
      (surplusReferences manifest.packedAvailableRowsPerDomain seen) resolved
      manifest.sequenceLength
    return (fun domain => available domain - surplus domain,
      fun domain => surplus domain)
  else do
    let selected ← countSupervisedTokensForReferences order resolved
      manifest.sequenceLength
    return (fun domain => selected domain,
      fun domain => available domain - selected domain)

/-- The comparison of the observed with the recorded supervised tokens. -/
def checkSupervisedTokens
    (manifest : OrderManifest Digest) (order : List Nat)
    (seen : Domain -> Nat -> Bool)
    (resolved : Domain -> Directory Digest Cursor) : Checked Unit := do
  let observed ← observedSupervision manifest order seen resolved
  let _ ← require
    (∀ domain ∈ Domain.order,
      observed.1 domain = manifest.validLossTokensPerDomain domain)
    (.valueError
      "Order selected supervised-token counts differ from source rows")
  let _ ← require
    (∀ domain ∈ Domain.order, observed.2 domain =
      manifest.packedSurplusSupervisedTokensPerDomain domain)
    (.valueError
      "Order packed-surplus supervised-token counts differ from source rows")
  return ()

/-- What is checked with `verify_dataset_manifest_hashes`. -/
def checkOrderDatasets [DecidableEq Digest]
    (hash : FileHash Digest Cursor) (store : PackedStore Digest Cursor)
    (directory : OrderDirectory Digest) (manifest : OrderManifest Digest)
    (order : List Nat) (seen : Domain -> Nat -> Bool) : Checked Unit := do
  let resolved ← resolveOrderManifests hash store directory
  checkDroppedSupervision manifest order resolved
  let _ ← forDomains fun domain =>
    checkPackedFields manifest domain (resolved domain)
  checkSupervisedTokens manifest order seen resolved

/-- `validate_training_order`. -/
def validateTrainingOrder [DecidableEq Digest]
    (hash : FileHash Digest Cursor) (store : PackedStore Digest Cursor)
    (verifyDatasetManifestHashes : Bool)
    (directory : OrderDirectory Digest) :
    Checked (OrderManifest Digest) := do
  let (manifest, bytes) ← loadOrderManifest hash.bytes true directory
  checkExpectedWeights manifest
  checkRecordedTokens manifest
  let order := decodeWords referenceItemSize bytes
  let scan ← scanOrder manifest order
  if verifyDatasetManifestHashes then do
    checkOrderDatasets hash store directory manifest order scan.seen
    return manifest
  else return manifest

end CodingLlm
