import CodingLlm.Pretrain.FinalizationFormat

/-!
# The portable finalizer

`PortablePackedFinalizer` builds the orders of a packed corpus in staging
directories, publishes provenance, manifest and sidecar one by one, and removes
the packed journal last.  The read-only checks of the authorities write
nothing and are parameters.
-/

namespace CodingLlm

open CrashLogic

variable {Digest Cursor Json : Type}

/-! ## Errors -/

/-- `except (FileExistsError, OSError, TypeError, ValueError)` around a
call, which raises a `PortableFinalizationError` instead. -/
def asFinalizationError (text : String) (computation : Checked α) :
    Checked α :=
  match computation with
  | .ok value => .ok value
  | .error error =>
      if error.errorClass ∈ [.fileExistsError, .ioError, .fileNotFoundError,
        .typeError, .valueError]
      then .error (portableFinalizationError text)
      else .error error

/-! ## Environment -/

/-- What a finalizer reads besides its configuration and the corpus root. -/
structure FinalizerEnvironment (Digest Cursor Json : Type) where
  hash : CorpusHash Digest Cursor Json
  shuffles : OrderShuffles
  numpyVersion : String
  numpyVersion_ne_empty : numpyVersion ≠ ""
  /-- The checks of `_load_journal` on the document. -/
  checkJournal : PackedJournal Json -> Checked Unit
  /-- `_authenticate_restore_receipt`. -/
  checkRestoreReceipt :
    PackedJournal Json -> PackedStore Digest Cursor -> Checked Unit
  /-- `_authenticate_selection`, `_authenticate_configs`,
  `_authenticate_tokenizer` and `_authenticate_cache_inventory`. -/
  readExternal :
    PackedIdentity Json -> Checked (ExternalAuthority Digest Json)
  /-- `_build_archive_authority`, for at least one archive. -/
  readArchives : PackedJournal Json -> ExternalAuthority Digest Json ->
    Checked {archives : List (RawArchive Digest) // archives ≠ []}
  /-- The checks of `_authenticate_packed` on one parsed manifest. -/
  checkPacked : PackedJournal Json -> ExternalAuthority Digest Json -> Split ->
    Domain -> PackedInput Digest Cursor -> Checked Unit
  /-- The checks of `_authenticate_document_indexes` on one manifest. -/
  checkDocumentIndex : PackedJournal Json -> List (RawArchive Digest) ->
    PackedInput Digest Cursor -> Split -> Domain -> IndexManifest Json ->
    Checked Unit
  /-- `_provenance_payloads`, without `raw_archives`. -/
  provenancePayload : Authority Digest Cursor Json -> ProvenanceFile -> Json
  /-- `split_isolation`, which is copied from the selection. -/
  splitIsolation : Json -> Json

namespace FinalizerEnvironment

variable (environment : FinalizerEnvironment Digest Cursor Json)

/-- What `build_training_order` reads below a corpus root. -/
def orderEnvironment (store : PackedStore Digest Cursor) :
    OrderEnvironment Digest Cursor where
  hash := environment.hash.toFileHash
  store := store
  shuffles := environment.shuffles
  numpyVersion := environment.numpyVersion
  numpyVersion_ne_empty := environment.numpyVersion_ne_empty

/-! ## Authentication -/

/-- One turn of `_authenticate_packed`. -/
def readPacked
    (root : CorpusRoot Digest Cursor Json) (journal : PackedJournal Json)
    (external : ExternalAuthority Digest Json)
    (split : Split) (domain : Domain) :
    Checked (PackedInput Digest Cursor) := do
  let packed ← asFinalizationError "Invalid packed manifest" do
    let directory ← requireObject (root.packed (packedPath split domain).path)
      (.ioError "Packed manifest must be a regular non-symlink file")
    let document ← readManifest directory
    let manifest ← parsePackedManifest document
    return (⟨directory, document, manifest⟩ : PackedInput Digest Cursor)
  environment.checkPacked journal external split domain packed
  return packed

/-- One turn of `_authenticate_document_indexes`. -/
def readDocumentIndex
    (root : CorpusRoot Digest Cursor Json) (journal : PackedJournal Json)
    (archives : List (RawArchive Digest))
    (packed : PackedInput Digest Cursor) (split : Split) (domain : Domain) :
    Checked (IndexManifest Json) := do
  let manifest ← requireObject (root.documentIndexes split domain)
    (portableFinalizationError "Missing JSON artifact")
  environment.checkDocumentIndex journal archives packed split domain manifest
  return manifest

/-- `authenticate`. -/
def authenticate (root : CorpusRoot Digest Cursor Json) :
    Checked (Authority Digest Cursor Json) := do
  let journal ← requireObject root.journal
    (portableFinalizationError "Packed handoff journal is missing")
  environment.checkJournal journal
  environment.checkRestoreReceipt journal root.packed
  let external ← environment.readExternal journal.identity
  let ⟨archives, nonempty⟩ ← environment.readArchives journal external
  let packed ← forSplits fun split => forDomains fun domain =>
    environment.readPacked root journal external split domain
  let documentIndexes ← forSplits fun split => forDomains fun domain =>
    environment.readDocumentIndex root journal archives (packed split domain)
      split domain
  return ⟨journal, external, archives, packed, documentIndexes, nonempty⟩

end FinalizerEnvironment

/-! ## Order plans -/

/-- The binary search of `_largest_feasible_rows`. -/
def searchUnits (fits : Nat -> Checked Bool) (low high : Nat) :
    Checked Nat := do
  if low < high then
    let middle := (low + high + 1) / 2
    if ← fits middle then searchUnits fits middle high
    else searchUnits fits low (middle - 1)
  else return low
termination_by high - low
decreasing_by all_goals omega

/-- `_largest_feasible_rows`. -/
def largestFeasibleRows
    (available : Domain -> Nat) (maximumRows rowQuantum : Nat) :
    Checked Nat := do
  let _ ← require (1 ≤ maximumRows ∧ 1 ≤ rowQuantum)
    (portableFinalizationError "Order row caps and quanta must be positive")
  let units ← searchUnits (fun units => do
      let counts ←
        strictWeightedRowCounts (units * rowQuantum) expectedWeights
      return decide (∀ domain ∈ Domain.order,
        counts domain ≤ available domain))
    0 (maximumRows / rowQuantum)
  let rows := units * rowQuantum
  let _ ← require (1 ≤ rows) (portableFinalizationError
    "Packed supply cannot form one strict 40/40/20 order quantum")
  return rows

/-- `_aligned_train_rows`. -/
def alignedTrainRows
    (maximumInputTokens sequenceLength optimizerUpdateRows : Nat) :
    Checked Nat := do
  let _ ← require
    (1 ≤ maximumInputTokens ∧ 1 ≤ sequenceLength ∧ 1 ≤ optimizerUpdateRows)
    (portableFinalizationError "expected a positive integer")
  let maximumRows := maximumInputTokens / sequenceLength
  let rows := maximumRows / optimizerUpdateRows * optimizerUpdateRows
  let _ ← require (optimizerUpdateRows ≤ rows) (portableFinalizationError
    "Train cap is smaller than one complete optimizer update")
  return rows

namespace Authority

variable (authority : Authority Digest Cursor Json)

/-- `sequence_length` of the packing configuration. -/
def sequenceLength : Nat := authority.journal.identity.sequenceLength

/-- `_available_rows`. -/
def availableRows (split : Split) (domain : Domain) : Nat :=
  (authority.packed split domain).manifest.rows

/-- `_target_rows`. -/
def targetRows
    (config : FinalizationConfig) (split : Split)
    (geometry : Option FrozenGeometry) : Checked Nat :=
  match split with
  | .train => do
      let geometry ← requireObject geometry
        (portableFinalizationError "Train target requires frozen geometry")
      let rows ← alignedTrainRows (config.cap .train) authority.sequenceLength
        geometry.updateRows
      let counts ← strictWeightedRowCounts rows expectedWeights
      let _ ← require
        (∀ domain ∈ Domain.order,
          counts domain ≤ authority.availableRows .train domain)
        (portableFinalizationError ("Packed train supply cannot satisfy " ++
          "the authorized 52.58B strict-weight order"))
      return rows
  | split => largestFeasibleRows (authority.availableRows split)
      (config.cap split / authority.sequenceLength) 5

/-- The rows and the `_order_budget` of a split. -/
def orderPlan
    (config : FinalizationConfig) (split : Split)
    (geometry : Option FrozenGeometry) : Checked OrderPlan := do
  let rows ← authority.targetRows config split geometry
  let actual := rows * authority.sequenceLength
  let seed := config.orderSeed + split.index
  match split with
  | .train =>
      let expected := config.maximumTrainInputTokens
      let _ ← require (actual ≤ expected)
        (portableFinalizationError "Train order exceeds its token cap")
      return ⟨.train, seed, geometry, expected, actual, expected - actual⟩
  | split => return ⟨split, seed, none, actual, actual, 0⟩

end Authority

/-! ## Orders -/

/-- An order manifest with its budget. -/
structure PublishedOrder (Digest : Type) where
  document : OrderManifestJson Digest
  budget : InputTokenBudgetJson

namespace FinalizerEnvironment

variable (environment : FinalizerEnvironment Digest Cursor Json)

section Orders

variable [DecidableEq Digest]

/-- `validate_training_order`, with the document that it returns. -/
def validatedOrder
    (store : PackedStore Digest Cursor) (text : String)
    (directory : OrderDirectory Digest) :
    Checked (OrderManifestJson Digest) := do
  let _ ← asFinalizationError text (validateTrainingOrder
    environment.hash.toFileHash store true directory)
  requireObject directory.manifest (portableFinalizationError text)

/-- `_validate_order`. -/
def validateOrder
    (store : PackedStore Digest Cursor) (plan : OrderPlan)
    (directory : OrderDirectory Digest) :
    Checked (PublishedOrder Digest) := do
  let document ← environment.validatedOrder store "Invalid order" directory
  let consumption ← requireObject document.trainingConsumption
    (portableFinalizationError "order has no consumption contract")
  let _ ← require (plan.MatchesIdentity document)
    (portableFinalizationError "order identity mismatch")
  let _ ← require (plan.MatchesGeometry consumption)
    (portableFinalizationError "order geometry mismatch")
  let budget ← requireObject document.inputTokenBudget
    (portableFinalizationError "order token target mismatch")
  let _ ← require (plan.MatchesBudget budget)
    (portableFinalizationError "order token target mismatch")
  return ⟨document, budget⟩

/-- `_validate_staged_order`. -/
def validateStagedOrder
    (store : PackedStore Digest Cursor) (plan : OrderPlan)
    (directory : OrderDirectory Digest) :
    Checked (PublishedOrder Digest) := do
  let document ←
    environment.validatedOrder store "Invalid staged order" directory
  let error := portableFinalizationError "Staged order identity mismatch"
  let consumption ← requireObject document.trainingConsumption error
  let budget ← requireObject document.inputTokenBudget error
  let _ ← require
    (plan.MatchesIdentity document ∧ plan.MatchesBudget budget ∧
      plan.MatchesGeometry consumption) error
  return ⟨document, budget⟩

/-- What building a plan from an empty directory comes to. -/
def intendedOrder
    (store : PackedStore Digest Cursor) (plan : OrderPlan) :
    Checked (OrderDirectory Digest × PublishedOrder Digest) := do
  let directory ← asFinalizationError "Cannot build order"
    (buildTrainingOrder (environment.orderEnvironment store) plan.arguments
      .empty)
  let order ← environment.validateStagedOrder store plan directory
  return (directory, order)

end Orders

end FinalizerEnvironment

/-! ## Effects -/

namespace CorpusRoot

/-- Put a staging directory in place, or remove it. -/
def setStaging
    (split : Split) (directory : Option (OrderDirectory Digest))
    (root : CorpusRoot Digest Cursor Json) : CorpusRoot Digest Cursor Json :=
  { root with staging := Function.update root.staging split directory }

/-- `os.replace(staging, final)`. -/
def publishOrder
    (split : Split) (directory : OrderDirectory Digest)
    (root : CorpusRoot Digest Cursor Json) : CorpusRoot Digest Cursor Json :=
  { root with
    staging := Function.update root.staging split none
    orders := Function.update root.orders split (some directory) }

/-- `mkstemp` beside an artifact. -/
def addTemporary
    (artifact : Artifact) (root : CorpusRoot Digest Cursor Json) :
    CorpusRoot Digest Cursor Json :=
  { root with temporaries := artifact :: root.temporaries }

/-- `os.replace` of the temporary. -/
def removeTemporary
    (artifact : Artifact) (root : CorpusRoot Digest Cursor Json) :
    CorpusRoot Digest Cursor Json :=
  { root with temporaries := root.temporaries.erase artifact }

/-- `path.write` of a provenance document. -/
def setProvenance
    (file : ProvenanceFile) (payload : ProvenancePayload Digest Json)
    (root : CorpusRoot Digest Cursor Json) : CorpusRoot Digest Cursor Json :=
  { root with
    provenance := Function.update root.provenance file (some payload) }

/-- `path.write` of `manifest.json`. -/
def setManifest
    (manifest : FinalManifest Digest Json)
    (root : CorpusRoot Digest Cursor Json) : CorpusRoot Digest Cursor Json :=
  { root with manifest := some manifest }

/-- `path.write` of `manifest.sha256`. -/
def setSidecar
    (digest : Digest) (root : CorpusRoot Digest Cursor Json) :
    CorpusRoot Digest Cursor Json :=
  { root with sidecar := some digest }

/-- `self.journal_path.unlink()`. -/
def removeJournal (root : CorpusRoot Digest Cursor Json) :
    CorpusRoot Digest Cursor Json :=
  { root with journal := none }

end CorpusRoot

/-- `atomic_bytes`: a temporary is written, and takes the place of the
artifact. -/
def atomicBytes
    (artifact : Artifact)
    (write : CorpusRoot Digest Cursor Json -> CorpusRoot Digest Cursor Json) :
    Finalization Digest Cursor Json Unit := do
  Program.commit (CorpusRoot.addTemporary artifact)
  Program.commit fun root => write (root.removeTemporary artifact)

/-- An artifact that exists must be what would be published; one that does not
is published. -/
def ensureArtifact [DecidableEq α]
    (artifact : Artifact)
    (read : CorpusRoot Digest Cursor Json -> Option α) (value : α)
    (write : CorpusRoot Digest Cursor Json -> CorpusRoot Digest Cursor Json)
    (error : PyError) : Finalization Digest Cursor Json Unit := do
  let existing ← Program.query read
  match existing with
  | some found => do
      let _ ← Program.lift (require (found = value) error)
      return ()
  | none => atomicBytes artifact write

/-- `shutil.rmtree(staging)`.  A kill inside may leave any part of it. -/
def removeStaging
    (split : Split) (directory : OrderDirectory Digest) :
    Finalization Digest Cursor Json Unit := do
  Program.commit (CorpusRoot.setStaging split
    (some { directory with others := [] }))
  Program.commit (CorpusRoot.setStaging split
    (some { directory with others := [], payload := none }))
  Program.commit (CorpusRoot.setStaging split (some .empty))
  Program.commit (CorpusRoot.setStaging split none)

/-! ## The run -/

/-- The two modes of `run`. -/
inductive FinalizationMode
  | heldout
  | final (globalMicrobatchRows gradientAccumulationSteps : Int)

/-- What `run` returns. -/
inductive Completion (Digest Json : Type)
  | heldoutOrders (orders : Split -> PublishedOrder Digest)
  | complete (manifest : FinalManifest Digest Json)

/-- `_validate_geometry`. -/
def validateGeometry
    (config : FinalizationConfig)
    (globalMicrobatchRows gradientAccumulationSteps : Int) :
    Checked FrozenGeometry := do
  let ⟨rowsPos⟩ ← require (1 ≤ globalMicrobatchRows)
    (portableFinalizationError "global_microbatch_rows must be an integer")
  let ⟨stepsPos⟩ ← require (1 ≤ gradientAccumulationSteps)
    (portableFinalizationError
      "gradient_accumulation_steps must be an integer")
  let _ ← require (globalMicrobatchRows % config.worldSize = 0)
    (portableFinalizationError
      "Global microbatch rows must be divisible by world size")
  let _ ← require
    (globalMicrobatchRows * gradientAccumulationSteps =
      config.expectedOptimizerBatchRows)
    (portableFinalizationError
      "Geometry does not preserve the frozen optimizer batch")
  return {
    globalMicrobatchRows := globalMicrobatchRows.toNat
    gradientAccumulationSteps := gradientAccumulationSteps.toNat
    globalMicrobatchRows_pos := by omega
    gradientAccumulationSteps_pos := by omega
  }

/-- The checks of `run` on its arguments. -/
def modeGeometry (config : FinalizationConfig) :
    FinalizationMode -> Checked (Option FrozenGeometry)
  | .heldout => pure none
  | .final globalMicrobatchRows gradientAccumulationSteps => do
      let geometry ← validateGeometry config globalMicrobatchRows
        gradientAccumulationSteps
      return some geometry

namespace FinalizerEnvironment

variable (environment : FinalizerEnvironment Digest Cursor Json)

section Run

variable [DecidableEq Digest]

/-- The part of `_build_order` for an order that does not exist. -/
def stageOrder (plan : OrderPlan) :
    Finalization Digest Cursor Json (PublishedOrder Digest) := do
  let setStaging (directory : OrderDirectory Digest) :
      Finalization Digest Cursor Json Unit :=
    Program.commit (CorpusRoot.setStaging plan.split (some directory))
  let store ← Program.query CorpusRoot.packed
  setStaging .empty
  let built ← Program.lift (asFinalizationError "Cannot build order"
    (buildTrainingOrder (environment.orderEnvironment store) plan.arguments
      .empty))
  setStaging { OrderDirectory.empty with others := [".order.bin.part"] }
  setStaging { built with manifest := none }
  setStaging { built with manifest := none, others := [".manifest.json."] }
  setStaging built
  let order ← Program.lift (environment.validateStagedOrder store plan built)
  Program.commit (CorpusRoot.publishOrder plan.split built)
  return order

/-- `_build_order` of a plan. -/
def buildOrder (plan : OrderPlan) :
    Finalization Digest Cursor Json (PublishedOrder Digest) := do
  let final ← Program.query fun root => root.orders plan.split
  let staging ← Program.query fun root => root.staging plan.split
  match final, staging with
  | some _, some _ => throw (portableFinalizationError
      "Both final and staging order exist")
  | some directory, none => do
      let store ← Program.query CorpusRoot.packed
      Program.lift (environment.validateOrder store plan directory)
  | none, some directory => do
      removeStaging plan.split directory
      environment.stageOrder plan
  | none, none => environment.stageOrder plan

/-- `_build_order`. -/
def buildSplitOrder
    (authority : Authority Digest Cursor Json) (config : FinalizationConfig)
    (split : Split) (geometry : Option FrozenGeometry) :
    Finalization Digest Cursor Json (PublishedOrder Digest) := do
  let plan ← Program.lift (authority.orderPlan config split geometry)
  environment.buildOrder plan

/-- `_provenance_payloads`. -/
def provenanceDocument
    (authority : Authority Digest Cursor Json) (file : ProvenanceFile) :
    ProvenancePayload Digest Json :=
  match file with
  | .source => .source authority.archives
      (environment.provenancePayload authority .source)
  | file => .other (environment.provenancePayload authority file)

section Publication

variable [DecidableEq Json]

/-- `_write_provenance`. -/
def writeProvenance (authority : Authority Digest Cursor Json) :
    Finalization Digest Cursor Json (ProvenanceFile -> Digest) := do
  Program.forEach ProvenanceFile.sorted fun file =>
    let payload := environment.provenanceDocument authority file
    ensureArtifact (.provenance file) (fun root => root.provenance file)
      payload (CorpusRoot.setProvenance file payload)
      (portableFinalizationError "Existing provenance differs")
  return fun file => environment.hash.provenance
    (environment.provenanceDocument authority file)

omit [DecidableEq Digest] [DecidableEq Json] in
/-- `_order_configuration`. -/
def orderConfiguration
    (config : FinalizationConfig) (geometry : FrozenGeometry)
    (orders : Split -> PublishedOrder Digest) : OrderConfiguration where
  orderSeeds := fun split => config.orderSeed + split.index
  frozenGlobalMicrobatchRows := geometry.globalMicrobatchRows
  frozenGradientAccumulationSteps := geometry.gradientAccumulationSteps
  expectedInputTokens := fun split => (orders split).budget.expectedTotal
  inputTokenTolerance := fun split => (orders split).budget.tolerance

omit [DecidableEq Digest] [DecidableEq Json] in
/-- The entry of `_final_manifest` for a packed directory. -/
def packedDescriptor
    (packed : PackedInput Digest Cursor) (index : IndexManifest Json) :
    PackedDescriptor Digest where
  sha256 := environment.hash.packedManifest packed.document
  rows := packed.manifest.rows
  documents := packed.manifest.documents
  sourceContentTokens := packed.manifest.sourceContentTokens
  indexSha256 := environment.hash.documentIndex index
  indexDocuments := index.documents
  indexLogicalStreamTokens := index.logicalStreamTokens

omit [DecidableEq Digest] [DecidableEq Json] in
/-- The entry of `_final_manifest` for an order. -/
def orderDescriptor (order : PublishedOrder Digest) :
    OrderDescriptor Digest where
  sha256 := environment.hash.orderManifest order.document
  formatVersion := order.document.formatVersion
  rows := order.document.rows
  packedAvailableRows := order.document.packedAvailableRows
  packedSurplusRows := order.document.packedSurplusRows
  authorizedInputTokens := order.budget.actualTotal

omit [DecidableEq Digest] [DecidableEq Json] in
/-- `_final_manifest`. -/
def finalManifest
    (authority : Authority Digest Cursor Json) (config : FinalizationConfig)
    (geometry : FrozenGeometry) (orders : Split -> PublishedOrder Digest)
    (provenance : ProvenanceFile -> Digest) : FinalManifest Digest Json where
  identity := authority.journal.identity
  orderConfiguration := orderConfiguration config geometry orders
  archiveCount := authority.archives.length
  splitIsolation :=
    environment.splitIsolation authority.external.selection
  packed := fun split domain => environment.packedDescriptor
    (authority.packed split domain) (authority.documentIndexes split domain)
  orders := fun split => environment.orderDescriptor (orders split)
  provenance := provenance
  packedJournalSha256 := environment.hash.journal authority.journal

/-! ## The completed corpus -/

omit [DecidableEq Json] in
/-- The checks of `_validate_completed` on one packed directory. -/
def checkPackedDescriptor
    (root : CorpusRoot Digest Cursor Json)
    (descriptor : PackedDescriptor Digest) (split : Split) (domain : Domain) :
    Checked Unit := do
  let directory ← requireObject (root.packed (packedPath split domain).path)
    (portableFinalizationError "Missing packed manifest")
  let document ← readManifest directory
  let _ ← require
    (environment.hash.packedManifest document = descriptor.sha256)
    (portableFinalizationError "Completed packed manifest changed")
  let packed ← parsePackedManifest document
  let _ ← require
    (descriptor.rows = packed.rows ∧
      descriptor.documents = packed.documents ∧
      descriptor.sourceContentTokens = packed.sourceContentTokens)
    (portableFinalizationError "Completed packed directory differs")
  let index ← requireObject (root.documentIndexes split domain)
    (portableFinalizationError "Missing document-index manifest")
  let _ ← require
    (environment.hash.documentIndex index = descriptor.indexSha256)
    (portableFinalizationError "Completed document-index manifest changed")
  return ()

omit [DecidableEq Json] in
/-- The checks of `_validate_completed` on one order. -/
def checkOrderDescriptor
    (root : CorpusRoot Digest Cursor Json)
    (descriptor : OrderDescriptor Digest) (split : Split) :
    Checked Unit := do
  let directory ← requireObject (root.orders split)
    (portableFinalizationError "Missing order manifest")
  let document ← requireObject directory.manifest
    (portableFinalizationError "Missing order manifest")
  let _ ← require
    (environment.hash.orderManifest document = descriptor.sha256)
    (portableFinalizationError "Completed order changed")
  let _ ← validateTrainingOrder environment.hash.toFileHash root.packed true
    directory
  return ()

omit [DecidableEq Json] in
/-- The checks of `_validate_completed` on one provenance file. -/
def checkProvenance
    (root : CorpusRoot Digest Cursor Json)
    (manifest : FinalManifest Digest Json) (file : ProvenanceFile) :
    Checked Unit := do
  let payload ← requireObject (root.provenance file)
    (portableFinalizationError "Missing provenance artifact")
  let _ ← require
    (environment.hash.provenance payload = manifest.provenance file)
    (portableFinalizationError "Provenance changed")
  return ()

/-- `_validate_completed` up to the removal of the journal. -/
def checkCompleted
    (identity : PackedIdentity Json) (root : CorpusRoot Digest Cursor Json) :
    Checked (FinalManifest Digest Json) := do
  let manifest ← requireObject root.manifest
    (portableFinalizationError "Missing JSON artifact")
  let _ ← require
    (root.sidecar = some (environment.hash.finalManifest manifest))
    (portableFinalizationError "Corpus manifest sidecar mismatch")
  let _ ← require (manifest.identity = identity)
    (portableFinalizationError "Completed corpus identity mismatch")
  let _ ← forSplits fun split => do
    let _ ← forDomains fun domain => environment.checkPackedDescriptor root
      (manifest.packed split domain) split domain
    environment.checkOrderDescriptor root (manifest.orders split) split
  ProvenanceFile.sorted.forM (environment.checkProvenance root manifest)
  return manifest

/-- `_validate_completed`. -/
def validateCompleted (identity : PackedIdentity Json) :
    Finalization Digest Cursor Json (FinalManifest Digest Json) := do
  let manifest ← Program.inspect (environment.checkCompleted identity)
  let journal ← Program.query CorpusRoot.journal
  match journal with
  | some _ => do
      Program.commit CorpusRoot.removeJournal
      return manifest
  | none => return manifest

omit [DecidableEq Json] in
/-- The checks of `_build_completed_archive_authority`. -/
def checkCompletedArchives
    (manifest : FinalManifest Digest Json)
    (root : CorpusRoot Digest Cursor Json) : Checked Unit := do
  let source ← requireObject (root.provenance .source)
    (portableFinalizationError "Missing source provenance")
  let _ ← require
    (environment.hash.provenance source = manifest.provenance .source)
    (portableFinalizationError "Completed source provenance changed")
  let archives ← requireObject source.rawArchives?
    (portableFinalizationError "Completed source inventory is missing")
  let _ ← require (archives ≠ [])
    (portableFinalizationError "Completed source inventory is missing")
  return ()

omit [DecidableEq Digest] [DecidableEq Json] in
/-- The comparison of the frozen geometry in final mode. -/
def requireSameGeometry
    (configuration : OrderConfiguration) : Option FrozenGeometry -> Checked Unit
  | none => pure ()
  | some geometry => do
      let _ ← require
        (configuration.frozenGlobalMicrobatchRows =
            geometry.globalMicrobatchRows ∧
          configuration.frozenGradientAccumulationSteps =
            geometry.gradientAccumulationSteps)
        (portableFinalizationError
          "Completed corpus was finalized with another geometry")
      return ()

/-- The part of `run` for a corpus with manifest and sidecar. -/
def adoptCompleted
    (geometry : Option FrozenGeometry) (manifest : FinalManifest Digest Json) :
    Finalization Digest Cursor Json (Completion Digest Json) := do
  Program.lift (requireSameGeometry manifest.orderConfiguration geometry)
  let _ ← Program.lift (environment.readExternal manifest.identity)
  Program.inspect (environment.checkCompletedArchives manifest)
  let completed ← environment.validateCompleted manifest.identity
  return .complete completed

/-- The part of `run` after the orders of final mode. -/
def publishCorpus
    (authority : Authority Digest Cursor Json) (config : FinalizationConfig)
    (geometry : FrozenGeometry) (orders : Split -> PublishedOrder Digest) :
    Finalization Digest Cursor Json (Completion Digest Json) := do
  let provenance ← environment.writeProvenance authority
  let manifest :=
    environment.finalManifest authority config geometry orders provenance
  ensureArtifact .manifest CorpusRoot.manifest manifest
    (CorpusRoot.setManifest manifest)
    (portableFinalizationError "Existing incomplete corpus manifest differs")
  let expectedSidecar := environment.hash.finalManifest manifest
  ensureArtifact .sidecar CorpusRoot.sidecar expectedSidecar
    (CorpusRoot.setSidecar expectedSidecar)
    (portableFinalizationError "Existing corpus sidecar differs")
  let completed ← environment.validateCompleted authority.journal.identity
  return .complete completed

/-- The part of `run` for a corpus that is not complete. -/
def finalizeHandoff
    (config : FinalizationConfig) (geometry : Option FrozenGeometry) :
    Finalization Digest Cursor Json (Completion Digest Json) := do
  let authority ← Program.inspect environment.authenticate
  let validation ←
    environment.buildSplitOrder authority config .validation none
  let test ← environment.buildSplitOrder authority config .test none
  match geometry with
  | none => return .heldoutOrders fun split =>
      if split = .test then test else validation
  | some geometry => do
      let train ←
        environment.buildSplitOrder authority config .train (some geometry)
      environment.publishCorpus authority config geometry fun
        | .train => train
        | .validation => validation
        | .test => test

/-- `PortablePackedFinalizer.run`. -/
def run (config : FinalizationConfig) (mode : FinalizationMode) :
    Finalization Digest Cursor Json (Completion Digest Json) := do
  let geometry ← Program.lift (modeGeometry config mode)
  let finalManifest ← Program.query CorpusRoot.manifest
  let finalSidecar ← Program.query CorpusRoot.sidecar
  match finalManifest, finalSidecar with
  | some manifest, some _ => environment.adoptCompleted geometry manifest
  | none, some _ => throw (portableFinalizationError
      "Corpus has a manifest sidecar without manifest.json")
  | _, none => environment.finalizeHandoff config geometry

end Publication
end Run
end FinalizerEnvironment
end CodingLlm
