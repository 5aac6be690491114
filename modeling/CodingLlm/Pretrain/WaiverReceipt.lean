import CodingLlm.Pretrain.GeometryWaiver

/-!
# Receipts of geometry waivers

The receipt that `collect_geometry_waiver` builds is checked by
`validate_geometry_waiver_receipt`, which ends by reading the digest of the
stable hardware from the record of the runtime.  No receipt has it there, so
nothing is ever collected or accepted.
-/

namespace CodingLlm

open JsonTree

/-- The arguments of `collect_geometry_waiver`. -/
structure WaiverEvidence where
  gridResult : String
  hardwareContract : String
  trainOrderManifest : String
  validationOrderManifest : String
  uninterruptedResult : String
  resumedResult : String
  overfitOrderManifest : String
  phaseOneMetadata : String
  phaseOneSummary : String
  phaseOneEventLog : String
  phaseTwoMetadata : String
  phaseTwoSummary : String
  phaseTwoEventLog : String
  waiverCli : String
  decisionBy : String
  decisionUtc : String
  rationale : String

/-- The bindings that a caller of `validate_geometry_waiver_receipt` may
expect. -/
structure ExpectedBindings where
  hardwareContractSha256 : Option String
  trainOrder : Option JsonTree
  validationOrder : Option JsonTree

/-- No expected bindings. -/
def ExpectedBindings.none : ExpectedBindings := ⟨.none, .none, .none⟩

/-- `WAIVER_FORMAT`. -/
def waiverFormat : String := "pretraining-accepted-geometry-with-waiver"

/-- `WAIVER_SCOPE`. -/
def waiverScope : String := "separate-final-order-soak-only"

/-- `REQUIRED_SAFEGUARDS`. -/
def requiredSafeguards : List String :=
  ["durable-checkpoint-rotation-and-resume-readiness",
    "validation-at-step-zero-and-frozen-cadence",
    "online-wandb-from-step-one",
    "attended-opening-through-first-validation-and-checkpoint"]

namespace WaiverWorld

variable (world : WaiverWorld)

/-- `_decision_record`. -/
def decisionRecord (decisionBy decisionUtc rationale : String) :
    Checked JsonTree := do
  let _ ← require (pythonStrip decisionBy ≠ "" ∧ pythonStrip decisionUtc ≠ "" ∧
      pythonStrip rationale ≠ "")
    (geometryWaiverError ("Waiver decision_by, decision_utc, and rationale " ++
      "must be non-empty"))
  world.checkDecisionTime decisionUtc
  return .object [
    ("decision", .str "approved"),
    ("decision_by", .str (pythonStrip decisionBy)),
    ("decision_utc", .str decisionUtc),
    ("rationale", .str (pythonStrip rationale)),
    ("scope", .str waiverScope),
    ("required_full_run_safeguards",
      .array (requiredSafeguards.map JsonTree.str))]

/-- The accepted geometry of a candidate and a grid plan. -/
def acceptedGeometry (candidate gridPlan : JsonTree) : Checked JsonTree := do
  let rows ← candidate.subscript "global_microbatch_rows"
  let steps ← candidate.subscript "gradient_accumulation_steps"
  let workers ← gridPlan.subscripts ["settings", "workers"]
  let compile ← candidate.subscript "compile_model"
  return .object [
    ("global_microbatch_rows", rows),
    ("gradient_accumulation_steps", steps),
    ("workers", workers),
    ("overfit_batch_rows", rows),
    ("compile_model", compile),
    ("activation_checkpointing", .bool true),
    ("precision", .str "bfloat16"),
    ("parameter_dtype", .str "float32")]

/-! ## Collection -/

/-- The fields of the grid's external measurement that are kept. -/
def gridEvidenceFields : List String :=
  ["validation_events", "checkpoint_events", "wandb_log_events",
    "resume_verified"]

/-- One phase of the restart, with the summary of its validation. -/
def collectPhase
    (metadata summary eventLog : String) (expectedStep : Nat)
    (orderManifest : String) (checkpoint : JsonTree)
    (referenceCheckpoint : Option JsonTree) :
    Checked JsonTree := do
  let metadata ← world.artifact metadata
  let summary ← world.artifact summary
  let eventLog ← world.artifact eventLog
  let path ← checkpoint.subscript "path"
  let reference ← referenceCheckpoint.mapM fun reference =>
    reference.subscript "path"
  let validation ← world.validateWandbPhase
    { metadata, summary, eventLog, expectedStep, orderManifest
      checkpoint := world.str path
      referenceCheckpoint := reference.map world.str }
  return .object [
    ("metadata", metadata),
    ("summary", summary),
    ("event_log", eventLog),
    ("validation", validation)]

/-- The part of `collect_geometry_waiver` on the overfit runs. -/
def collectPrior
    (evidence : WaiverEvidence) (selectedBound external : JsonTree) :
    Checked JsonTree := do
  let overfitOrder ← world.inspectOrder evidence.overfitOrderManifest "train"
  let controlDescriptor ← world.artifact evidence.uninterruptedResult
  let resumeDescriptor ← world.artifact evidence.resumedResult
  let control ← world.validateOverfitResult controlDescriptor
  let resumed ← world.validateOverfitResult resumeDescriptor
  let controlPath ← control.subscript "checkpoint"
  let controlCheckpoint ← world.artifact (world.str controlPath)
  let resumedPath ← resumed.subscript "checkpoint"
  let resumedCheckpoint ← world.artifact (world.str resumedPath)
  let metadata ← world.artifact evidence.phaseOneMetadata
  let metadata ← asGeometryWaiverError osAndValueErrors
    "Invalid phase-one W&B metadata" (world.readBoundJson metadata)
  let program ← metadata.subscript "program"
  let producerSource ← world.artifact (world.str program)
  let manifest ← overfitOrder.subscript "manifest"
  let payload ← overfitOrder.subscript "payload"
  let events ← gridEvidenceFields.mapM fun field => do
    let value ← external.get field
    return (field, value)
  let phaseOne ← world.collectPhase evidence.phaseOneMetadata
    evidence.phaseOneSummary evidence.phaseOneEventLog 500
    evidence.overfitOrderManifest resumedCheckpoint .none
  let phaseTwo ← world.collectPhase evidence.phaseTwoMetadata
    evidence.phaseTwoSummary evidence.phaseTwoEventLog 1000
    evidence.overfitOrderManifest resumedCheckpoint (some controlCheckpoint)
  return .object [
    ("overfit_order", .object [("manifest", manifest), ("payload", payload)]),
    ("overfit_producer_source", producerSource),
    ("uninterrupted", .object [("result", controlDescriptor),
      ("checkpoint", controlCheckpoint)]),
    ("restart", .object [("result", resumeDescriptor),
      ("checkpoint", resumedCheckpoint),
      ("wandb", .object [("phase_one", phaseOne), ("phase_two", phaseTwo)])]),
    ("grid_validation_and_telemetry",
      .object (("selected_candidate_result", selectedBound) :: events))]

/-- The receipt of `collect_geometry_waiver` before it is validated. -/
def buildReceipt (evidence : WaiverEvidence) : Checked JsonTree := do
  let ((grid, gridBound, gridPlanBound), gridPlan,
      (hardware, hardwareBound, hardwareIdentity)) ←
    asGeometryWaiverError osAndValueErrors
      "Grid or hardware authority is invalid" (do
        let loaded ← world.loadValidatedGridResult evidence.gridResult
        let artifact ← loaded.2.2.subscript "artifact"
        let gridPlan ← world.readBoundJson artifact
        let hardware ← world.validateHardwareContract
          evidence.hardwareContract
        return (loaded, gridPlan, hardware))
  let gridIdentity ← gridPlan.subscripts
    ["inputs", "hardware", "geometry_identity"]
  let hardwareCompatible ←
    world.hardwareCompatibility hardwareIdentity gridIdentity
  let runtimeCompatible ← world.validateGridRuntimeCompatibility gridPlan
  let candidate ← grid.get "accepted_candidate"
  let acceptedResult ← grid.get "accepted_result"
  let _ ← require (candidate.IsMapping ∧ acceptedResult.IsMapping)
    (geometryWaiverError
      "Passing grid does not identify an accepted candidate/result")
  let selectedBound ← acceptedResult.get "artifact"
  let _ ← require selectedBound.IsMapping
    (geometryWaiverError "Grid accepted result binding is invalid")
  let selectedArtifact ← selectedBound.subscript "artifact"
  let selected ← world.readBoundJson selectedArtifact
  let measurements ← selected.get "measurements"
  let _ ← require measurements.IsMapping
    (geometryWaiverError "Selected grid candidate lacks measurements")
  let external ← measurements.get "throughput_measurement"
  let _ ← require external.IsMapping
    (geometryWaiverError ("Selected grid candidate lacks external " ++
      "validation/telemetry evidence"))
  let accepted ← acceptedGeometry candidate gridPlan
  let (train, validation) ← world.validateOrders evidence.trainOrderManifest
    evidence.validationOrderManifest gridPlan accepted
  let prior ← world.collectPrior evidence selectedBound external
  let hardwareSha256 ← hardwareBound.subscripts ["artifact", "sha256"]
  let trainSha256 ← train.subscripts ["manifest", "sha256"]
  let validationSha256 ← validation.subscripts ["manifest", "sha256"]
  let waiver ← world.decisionRecord evidence.decisionBy evidence.decisionUtc
    evidence.rationale
  let baselines ← gridPlan.subscripts ["inputs", "single_gpu_baselines"]
  let sources ← world.currentSources evidence.waiverCli
  return .object [
    ("format", .str waiverFormat),
    ("format_version", .int 1),
    ("status", .str "pass"),
    ("hardware_contract_sha256", hardwareSha256),
    ("train_order_manifest_sha256", trainSha256),
    ("validation_order_manifest_sha256", validationSha256),
    ("accepted", accepted),
    ("measurements", measurements),
    ("final_soak_waived", .bool true),
    ("waiver", waiver),
    ("qualification", .object [
      ("hardware", .object [
        ("bound", hardwareBound),
        ("expected", hardware),
        ("geometry_identity", hardwareIdentity),
        ("grid_geometry_identity", gridIdentity),
        ("compatibility", hardwareCompatible)]),
      ("single_gpu_baselines", baselines),
      ("grid_plan", gridPlanBound),
      ("grid_result", gridBound),
      ("selected_candidate", candidate),
      ("selected_candidate_result", selectedBound),
      ("selected_candidate_measurements_sha256",
        .str (world.canonicalSha256 measurements)),
      ("train_order", train),
      ("validation_order", validation),
      ("grid_runtime_compatibility", runtimeCompatible),
      ("prior_evidence", prior),
      ("producer_sources", sources),
      ("secrets_recorded", .bool false)])]

/-! ## Validation -/

/-- `required_top`. -/
def requiredTop : List String :=
  ["format", "format_version", "status", "hardware_contract_sha256",
    "train_order_manifest_sha256", "validation_order_manifest_sha256",
    "accepted", "measurements", "final_soak_waived", "waiver",
    "qualification"]

/-- `required_record`. -/
def requiredRecord : List String :=
  ["hardware", "single_gpu_baselines", "grid_plan", "grid_result",
    "selected_candidate", "selected_candidate_result",
    "selected_candidate_measurements_sha256", "train_order",
    "validation_order", "grid_runtime_compatibility", "prior_evidence",
    "producer_sources", "secrets_recorded"]

/-- The checks on the top level of a receipt. -/
def validateTop (receipt : JsonTree) (expected : ExpectedBindings) :
    Checked Unit := do
  let _ ← require (receipt.HasExactly requiredTop)
    (geometryWaiverError
      "Unsupported or non-passing geometry waiver receipt")
  let format ← receipt.get "format"
  let version ← receipt.get "format_version"
  let status ← receipt.get "status"
  let waived ← receipt.get "final_soak_waived"
  let _ ← require (format.EqualsStr waiverFormat ∧ version.equals (.int 1) ∧
      status.EqualsStr "pass" ∧ waived.isTrue)
    (geometryWaiverError
      "Unsupported or non-passing geometry waiver receipt")
  ["hardware_contract_sha256", "train_order_manifest_sha256",
    "validation_order_manifest_sha256"].forM fun field => do
      let value ← receipt.get field
      let _ ← requireObject value.sha256?
        (geometryWaiverError "Waiver digest is invalid")
      return ()
  let bound ← receipt.subscript "hardware_contract_sha256"
  let _ ← require (∀ digest ∈ expected.hardwareContractSha256,
      bound.EqualsStr digest)
    (geometryWaiverError "Waiver is bound to another final hardware contract")
  return ()

/-- The text of `waiver.get(key, "")`. -/
def decisionText (waiver : JsonTree) (key : String) : String :=
  world.str ((waiver.field? key).getD (.str ""))

/-- The check on the decision of a receipt. -/
def validateDecision (receipt : JsonTree) : Checked Unit := do
  let waiver ← receipt.get "waiver"
  let _ ← require waiver.IsMapping
    (geometryWaiverError "Waiver decision metadata is non-canonical")
  let canonical ← world.decisionRecord
    (world.decisionText waiver "decision_by")
    (world.decisionText waiver "decision_utc")
    (world.decisionText waiver "rationale")
  let _ ← require (waiver.equals canonical)
    (geometryWaiverError "Waiver decision metadata is non-canonical")
  return ()

/-- What `validate_geometry_waiver_receipt` reads of the grid and of the
hardware. -/
structure GridEvidence where
  grid : JsonTree
  gridBound : JsonTree
  gridPlan : JsonTree
  hardwareIdentity : JsonTree
  runtimeCompatibility : JsonTree

/-- The checks on the grid, the hardware and the runtime. -/
def validateGrid (receipt record : JsonTree) : Checked GridEvidence := do
  let ((grid, gridBound, gridPlanBound), gridPlan,
      (hardware, hardwareBound, hardwareIdentity)) ←
    asGeometryWaiverError (.keyError :: osAndValueErrors)
      "Waiver grid/hardware evidence is invalid" (do
        let path ← record.subscripts ["grid_result", "artifact", "path"]
        let loaded ← world.loadValidatedGridResult (world.str path)
        let artifact ← loaded.2.2.subscript "artifact"
        let gridPlan ← world.readBoundJson artifact
        let path ← record.subscripts
          ["hardware", "bound", "artifact", "path"]
        let hardware ← world.validateHardwareContract (world.str path)
        return (loaded, gridPlan, hardware))
  let recordedResult ← record.subscript "grid_result"
  let recordedPlan ← record.subscript "grid_plan"
  let _ ← require (gridBound.equals recordedResult ∧
      gridPlanBound.equals recordedPlan)
    (geometryWaiverError
      "Grid result or plan changed after waiver publication")
  let recordedBound ← record.subscripts ["hardware", "bound"]
  let recordedExpected ← record.subscripts ["hardware", "expected"]
  let _ ← require (hardwareBound.equals recordedBound ∧
      hardware.equals recordedExpected)
    (geometryWaiverError
      "Final hardware contract changed after waiver publication")
  let digest ← receipt.subscript "hardware_contract_sha256"
  let boundDigest ← hardwareBound.subscripts ["artifact", "sha256"]
  let _ ← require (digest.equals boundDigest)
    (geometryWaiverError
      "Top-level hardware digest differs from bound strict hardware")
  let gridIdentity ← gridPlan.subscripts
    ["inputs", "hardware", "geometry_identity"]
  let compatibility ←
    world.hardwareCompatibility hardwareIdentity gridIdentity
  let recordedIdentity ← record.subscripts ["hardware", "geometry_identity"]
  let recordedGridIdentity ←
    record.subscripts ["hardware", "grid_geometry_identity"]
  let recordedHardware ← record.subscript "hardware"
  let recordedCompatibility ← recordedHardware.get "compatibility"
  let _ ← require (hardwareIdentity.equals recordedIdentity ∧
      gridIdentity.equals recordedGridIdentity ∧
      compatibility.equals recordedCompatibility)
    (geometryWaiverError
      "Final hardware and provisional grid hardware identities differ")
  -- The same local name now holds the record of the runtime.
  let compatibility ← world.validateGridRuntimeCompatibility gridPlan
  let recordedRuntime ← record.subscript "grid_runtime_compatibility"
  let _ ← require (compatibility.equals recordedRuntime)
    (geometryWaiverError ("Frozen-grid/current-runtime compatibility record " ++
      "is inconsistent"))
  let recordedBaselines ← record.subscript "single_gpu_baselines"
  let baselines ← gridPlan.subscripts ["inputs", "single_gpu_baselines"]
  let _ ← require (recordedBaselines.equals baselines)
    (geometryWaiverError
      "Waiver is bound to another single-GPU baseline receipt")
  return ⟨grid, gridBound, gridPlan, hardwareIdentity, compatibility⟩

/-- The checks on the selected candidate: the candidate, its bound result, its
measurements and the accepted geometry. -/
def validateCandidate (receipt record : JsonTree) (evidence : GridEvidence) :
    Checked (JsonTree × JsonTree × JsonTree × JsonTree) := do
  let candidate ← evidence.grid.get "accepted_candidate"
  let acceptedResult ← evidence.grid.get "accepted_result"
  let _ ← require (candidate.IsMapping ∧ acceptedResult.IsMapping)
    (geometryWaiverError "Grid has no accepted candidate")
  let selectedBound ← acceptedResult.subscript "artifact"
  let selectedArtifact ← selectedBound.subscript "artifact"
  let selected ← world.readBoundJson selectedArtifact
  let measurements ← selected.get "measurements"
  let expectedAccepted ← acceptedGeometry candidate evidence.gridPlan
  let recordedAccepted ← receipt.get "accepted"
  let recordedMeasurements ← receipt.get "measurements"
  let recordedCandidate ← record.subscript "selected_candidate"
  let recordedSelected ← record.subscript "selected_candidate_result"
  let recordedDigest ←
    record.subscript "selected_candidate_measurements_sha256"
  let _ ← require (recordedAccepted.equals expectedAccepted ∧
      recordedMeasurements.equals measurements ∧
      recordedCandidate.equals candidate ∧
      recordedSelected.equals selectedBound ∧
      recordedDigest.EqualsStr (world.canonicalSha256 measurements))
    (geometryWaiverError
      "Waiver selected candidate/result/measurements binding is invalid")
  return (candidate, selectedBound, measurements, expectedAccepted)

/-- An order is the one that a caller expects. -/
def requireBinding
    (expected : Option JsonTree) (order : JsonTree) (text : String) :
    Checked Unit := do
  match expected with
  | .none => return ()
  | some expected =>
      let expectedManifest ← expected.get "manifest"
      let manifest ← order.subscript "manifest"
      let expectedPayload ← expected.get "payload"
      let payload ← order.subscript "payload"
      let _ ← require (expectedManifest.equals manifest ∧
        expectedPayload.equals payload) (geometryWaiverError text)
      return ()

/-- The checks on the final orders. -/
def validateFinalOrders
    (receipt record gridPlan accepted : JsonTree)
    (expected : ExpectedBindings) : Checked (JsonTree × JsonTree) := do
  let trainPath ← record.subscripts ["train_order", "manifest", "path"]
  let validationPath ←
    record.subscripts ["validation_order", "manifest", "path"]
  let (train, validation) ← world.validateOrders (world.str trainPath)
    (world.str validationPath) gridPlan accepted
  let recordedTrain ← record.subscript "train_order"
  let recordedValidation ← record.subscript "validation_order"
  let _ ← require (train.equals recordedTrain ∧
      validation.equals recordedValidation)
    (geometryWaiverError
      "Final train or validation order changed after waiver publication")
  let topTrain ← receipt.subscript "train_order_manifest_sha256"
  let trainSha256 ← train.subscripts ["manifest", "sha256"]
  let topValidation ← receipt.subscript "validation_order_manifest_sha256"
  let validationSha256 ← validation.subscripts ["manifest", "sha256"]
  let _ ← require (topTrain.equals trainSha256 ∧
      topValidation.equals validationSha256)
    (geometryWaiverError "Top-level final-order digests are inconsistent")
  requireBinding expected.trainOrder train
    "Waiver is bound to another authoritative train order"
  requireBinding expected.validationOrder validation
    "Waiver is bound to another authoritative validation order"
  return (train, validation)

/-- The checks on the evidence from before the final orders. -/
def validatePrior (record selectedBound measurements : JsonTree) :
    Checked JsonTree := do
  let prior ← record.subscript "prior_evidence"
  let priorSummary ← world.validatePriorEvidence prior
  let gridPrior ← prior.subscript "grid_validation_and_telemetry"
  let external ← measurements.get "throughput_measurement"
  let _ ← require external.IsMapping
    (geometryWaiverError ("Prior validation/telemetry claim differs from " ++
      "selected grid evidence"))
  let recorded ← gridPrior.subscript "selected_candidate_result"
  let _ ← require (recorded.equals selectedBound)
    (geometryWaiverError ("Prior validation/telemetry claim differs from " ++
      "selected grid evidence"))
  gridEvidenceFields.forM fun field => do
    let claimed ← gridPrior.subscript field
    let measured ← external.get field
    let _ ← require (claimed.equals measured)
      (geometryWaiverError ("Prior validation/telemetry claim differs from " ++
        "selected grid evidence"))
    return ()
  return priorSummary

/-- `validate_geometry_waiver_receipt`. -/
def validateGeometryWaiverReceipt
    (receipt : JsonTree) (expected : ExpectedBindings) : Checked JsonTree := do
  validateTop receipt expected
  world.validateDecision receipt
  let record ← receipt.get "qualification"
  let _ ← require (record.HasExactly requiredRecord)
    (geometryWaiverError "Waiver qualification provenance is incomplete")
  let secrets ← record.get "secrets_recorded"
  let _ ← require secrets.isFalse
    (geometryWaiverError "Waiver qualification provenance is incomplete")
  let evidence ← world.validateGrid receipt record
  let (candidate, selectedBound, measurements, accepted) ←
    world.validateCandidate receipt record evidence
  let (train, validation) ← world.validateFinalOrders receipt record
    evidence.gridPlan accepted expected
  let priorSummary ← world.validatePrior record selectedBound measurements
  let sources ← record.subscript "producer_sources"
  world.validateCurrentSources sources
  let identity ← evidence.hardwareIdentity.subscript "identity_sha256"
  let gridCompatible ←
    evidence.runtimeCompatibility.subscript "stable_identity_sha256"
  let gridSha256 ← evidence.gridBound.subscripts ["artifact", "sha256"]
  let trainManifest ← train.subscripts ["manifest", "sha256"]
  let trainPayload ← train.subscripts ["payload", "sha256"]
  let validationManifest ← validation.subscripts ["manifest", "sha256"]
  let validationPayload ← validation.subscripts ["payload", "sha256"]
  return .object [
    ("status", .str "pass"),
    ("format", .str waiverFormat),
    ("final_soak_waived", .bool true),
    ("waiver_scope", .str waiverScope),
    ("hardware_identity_sha256", identity),
    ("grid_compatible_hardware_identity_sha256", gridCompatible),
    ("grid_result_sha256", gridSha256),
    ("selected_candidate", candidate),
    ("train_order_manifest_sha256", trainManifest),
    ("train_order_payload_sha256", trainPayload),
    ("validation_order_manifest_sha256", validationManifest),
    ("validation_order_payload_sha256", validationPayload),
    ("prior_evidence", priorSummary)]

/-- `collect_geometry_waiver`. -/
def collectGeometryWaiver (evidence : WaiverEvidence) : Checked JsonTree := do
  let receipt ← world.buildReceipt evidence
  let _ ← world.validateGeometryWaiverReceipt receipt .none
  return receipt

/-! ## The launch -/

/-- `_read_json_artifact` of `geometry_evidence`. -/
def readEvidenceArtifact (descriptor : JsonTree) : Checked JsonTree := do
  let _ ← require (descriptor.HasExactly ["path", "bytes", "sha256"])
    (.valueError "descriptor must contain exactly path, bytes, and sha256")
  asGeometryWaiverError osAndValueErrors "is not valid UTF-8 JSON"
    (world.readBoundJson descriptor)

/-- The waiver evidence of an authority: what `validate_authority_geometry_soak`
makes of it before it looks at the measurements. -/
def soakWaiverValidation (authority : JsonTree) :
    Checked (JsonTree × Option JsonTree) := do
  let (geometry, hardware, data) ← asGeometryWaiverError [.keyError]
    "Run authority lacks geometry soak inputs" (do
      let geometry ← authority.subscript "geometry"
      let hardware ← authority.subscript "hardware"
      let _ ← authority.subscript "training"
      let data ← authority.subscript "data"
      return (geometry, hardware, data))
  let _ ← require (geometry.IsMapping ∧ hardware.IsMapping ∧ data.IsMapping)
    (.valueError "Run-authority geometry soak inputs must be objects")
  let descriptor ← geometry.get "artifact"
  let embedded ← geometry.get "receipt"
  let _ ← require (descriptor.IsMapping ∧ embedded.IsMapping)
    (.valueError "Run authority lacks an authenticated geometry receipt")
  let receipt ← world.readEvidenceArtifact descriptor
  let _ ← require (receipt.equals embedded)
    (.valueError ("Accepted-geometry receipt differs from the authority's " ++
      "embedded copy"))
  let waived ← receipt.get "final_soak_waived"
  if waived.isTrue then
    let validation ← asGeometryWaiverError (.keyError :: osAndValueErrors)
      "Separate-final-soak waiver evidence is invalid" (do
        let trainOrder ← data.get "train_order"
        let validationOrder ← data.get "validation_order"
        let contract ← hardware.get "contract"
        let _ ← require (trainOrder.IsMapping ∧ validationOrder.IsMapping ∧
            contract.IsMapping)
          (.valueError ("Waived geometry requires authoritative " ++
            "hardware/train/validation bindings"))
        let digest ← contract.subscript "sha256"
        world.validateGeometryWaiverReceipt receipt
          ⟨some (world.str digest), some trainOrder, some validationOrder⟩)
    return (receipt, some validation)
  else return (receipt, .none)

/-! ## What the validator reads last -/

variable {world}

/-- The record of the runtime has no digest of the stable hardware. -/
theorem validateGridRuntimeCompatibility_names
    {gridPlan record : JsonTree}
    (compatible : world.validateGridRuntimeCompatibility gridPlan =
      .ok record) :
    record.names =
      ["stable_sources", "python", "allowed_newer_sources"] := by
  simp only [validateGridRuntimeCompatibility, checked_bind_eq_ok,
    checked_pure_eq_ok] at compatible
  obtain ⟨_, -, _, -, _, -, _, -, _, -, _, -, _, -, _, -, _, -, _, -, _, -,
    _, -, _, -, _, -, _, -, rfl⟩ := compatible
  rfl

theorem validateGrid_runtime
    {receipt record : JsonTree} {evidence : GridEvidence}
    (validated : world.validateGrid receipt record = .ok evidence) :
    world.validateGridRuntimeCompatibility evidence.gridPlan =
      .ok evidence.runtimeCompatibility := by
  simp only [validateGrid, checked_bind_eq_ok] at validated
  obtain ⟨⟨⟨_, _, _⟩, _, _, _, _⟩, -, rest⟩ := validated
  simp only [checked_pure_eq_ok] at rest
  obtain ⟨_, -, _, -, _, -, _, -, _, -, _, -, _, -, _, -, _, -, _, -, _, -,
    _, -, _, -, _, -, _, -, _, -, _, compatible, _, -, _, -, _, -, _, -, _, -,
    rfl⟩ := rest
  exact compatible

/-- The validator returns on no receipt. -/
theorem validateGeometryWaiverReceipt_ne_ok
    (receipt : JsonTree) (expected : ExpectedBindings) (summary : JsonTree) :
    world.validateGeometryWaiverReceipt receipt expected ≠ .ok summary := by
  intro validated
  simp only [validateGeometryWaiverReceipt, checked_bind_eq_ok] at validated
  obtain ⟨_, -, _, -, record, -, _, -, _, -, _, -, evidence, grid, _, -, _, -,
    _, -, _, -, _, -, _, -, digest, read, -⟩ := validated
  have names := validateGridRuntimeCompatibility_names
    (validateGrid_runtime grid)
  have present : "stable_identity_sha256" ∈
      evidence.runtimeCompatibility.names := by
    rw [mem_names_iff, subscript_eq_ok.mp read]
    rfl
  rw [names] at present
  exact absurd present (by decide)

theorem exists_error_of_ne_ok
    {computation : Checked α}
    (never : ∀ value, computation ≠ .ok value) :
    ∃ error, computation = .error error := by
  cases computation with
  | ok value => exact absurd rfl (never value)
  | error error => exact ⟨error, rfl⟩

theorem asGeometryWaiverError_ne_ok
    {caught : List ErrorClass} {text : String} {computation : Checked α}
    (never : ∀ value, computation ≠ .ok value)
    (value : α) :
    asGeometryWaiverError caught text computation ≠ .ok value := by
  obtain ⟨error, rfl⟩ := exists_error_of_ne_ok never
  unfold asGeometryWaiverError
  dsimp only
  split <;> nofun

/-- An authority that waives the soak has no waiver evidence that is
accepted. -/
theorem soakWaiverValidation_ne_some
    {authority receipt validation : JsonTree} :
    world.soakWaiverValidation authority ≠ .ok (receipt, some validation) := by
  intro validated
  simp only [soakWaiverValidation, checked_bind_eq_ok] at validated
  obtain ⟨⟨_, _, _⟩, -, rest⟩ := validated
  obtain ⟨_, -, _, -, _, -, _, -, _, -, _, -, waived, -, rest⟩ := rest
  split at rest
  · obtain ⟨_, accepted, -⟩ := checked_bind_eq_ok.mp rest
    refine asGeometryWaiverError_ne_ok (fun summary inner => ?_) _ accepted
    simp only [checked_bind_eq_ok] at inner
    obtain ⟨_, -, _, -, _, -, _, -, _, -, accepted⟩ := inner
    exact validateGeometryWaiverReceipt_ne_ok _ _ _ accepted
  · cases rest

/-- On no evidence do the two agree: the collector always raises, the validator
returns on no receipt with whatever bindings, and no authority has accepted
waiver evidence. -/
theorem waiver_never_accepted (world : WaiverWorld) :
    (∀ evidence, ∃ error,
      world.collectGeometryWaiver evidence = .error error) ∧
    (∀ receipt expected, ∃ error,
      world.validateGeometryWaiverReceipt receipt expected =
        .error error) ∧
    ∀ authority receipt validation,
      world.soakWaiverValidation authority ≠
        .ok (receipt, some validation) := by
  refine ⟨fun evidence => exists_error_of_ne_ok fun receipt collected => ?_,
    fun receipt expected => exists_error_of_ne_ok
      (validateGeometryWaiverReceipt_ne_ok receipt expected),
    fun _ _ _ => soakWaiverValidation_ne_some⟩
  obtain ⟨_, -, checked⟩ := checked_bind_eq_ok.mp collected
  obtain ⟨_, validated, -⟩ := checked_bind_eq_ok.mp checked
  exact validateGeometryWaiverReceipt_ne_ok _ _ _ validated

/-! ## A small campaign -/

/-- The descriptor of a file of one byte. -/
def sampleDescriptor (path : String) : JsonTree :=
  .object [("path", .str path), ("bytes", .int 1), ("sha256", .str
    "aaaaaaaaaaaaaaaaaaaaaaaaaaaaaaaaaaaaaaaaaaaaaaaaaaaaaaaaaaaaaaaa")]

/-- A descriptor as a sidecar binds it. -/
def sampleBound (path : String) : JsonTree :=
  .object [("artifact", sampleDescriptor path)]

/-- The identity of clean hardware in a scope, whose commit and paths differ
from scope to scope. -/
def sampleIdentity (scope : String) : JsonTree :=
  .object [
    ("scope", .str scope),
    ("identity_sha256", .str
      "bbbbbbbbbbbbbbbbbbbbbbbbbbbbbbbbbbbbbbbbbbbbbbbbbbbbbbbbbbbbbbbb"),
    ("identity", .object [
      ("source", .object [("git_clean", .bool true),
        ("git_commit", .str scope)]),
      ("package_lock", .object [
        ("lock", .object [("path", .str scope)]),
        ("python", .object [("executable", .str scope)])])])]

/-- A grid plan of the current sources and the current Python. -/
def sampleGridPlan : JsonTree :=
  .object [
    ("runtime", .object [
      ("sources", .object (stableGridSourceKeys.map fun key =>
        (key, sampleDescriptor key))),
      ("python", .object [("resolved", sampleDescriptor "/usr/bin/python3"),
        ("version", .str "3.11.9"), ("implementation", .str "cpython")])]),
    ("inputs", .object [
      ("hardware", .object [("geometry_identity",
        sampleIdentity "geometry-only-provisional")]),
      ("single_gpu_baselines", .object [])]),
    ("settings", .object [("workers", .int 4)])]

/-- A grid that accepts six rows and 32 steps. -/
def sampleGrid : JsonTree :=
  .object [
    ("accepted_candidate", .object [("global_microbatch_rows", .int 6),
      ("gradient_accumulation_steps", .int 32),
      ("compile_model", .bool true)]),
    ("accepted_result",
      .object [("artifact", sampleBound "/grid/candidate.json")])]

/-- The result of its candidate. -/
def sampleCandidate : JsonTree :=
  .object [("measurements", .object [("throughput_measurement", .object [
    ("validation_events", .int 1), ("checkpoint_events", .int 1),
    ("wandb_log_events", .int 1), ("resume_verified", .bool true)])])]

/-- An order on the disk. -/
def sampleOrder (split : String) : JsonTree :=
  .object [("manifest", sampleDescriptor (split ++ "/manifest.json")),
    ("payload", sampleDescriptor (split ++ "/order.u64"))]

/-- Evidence on which every delegated check succeeds. -/
def sampleWorld : WaiverWorld where
  artifact path := .ok (sampleDescriptor path)
  readBoundJson descriptor :=
    match (descriptor.field? "path").bind JsonTree.str? with
    | some "/grid/PLAN.json" => .ok sampleGridPlan
    | some "/grid/candidate.json" => .ok sampleCandidate
    | _ => .ok (.object [("program", .str "/overfit_single_chunk.py")])
  canonicalSha256 _ :=
    "cccccccccccccccccccccccccccccccccccccccccccccccccccccccccccccccc"
  loadValidatedGridResult _ := .ok (sampleGrid,
    sampleBound "/grid/RESULT.json", sampleBound "/grid/PLAN.json")
  validateHardwareContract _ := .ok (.object [],
    sampleBound "/hardware.json", sampleIdentity "final-launch-authorizing")
  validateOrders _ _ _ _ := .ok (sampleOrder "train",
    sampleOrder "validation")
  inspectOrder _ split := .ok (sampleOrder split)
  validateOverfitResult _ := .ok (.object [("checkpoint", .str "/c.pt")])
  validateWandbPhase phase :=
    .ok (.object [("run_id", .str "r"), ("step", .int phase.expectedStep)])
  validatePriorEvidence _ := .ok (.object [("wandb_run_id", .str "r")])
  checkDecisionTime _ := .ok ()
  moduleFile module := some module
  stableSourcePath key := key
  pythonExecutable := "/usr/bin/python3"
  pythonVersion := "3.11.9"
  pythonImplementation := "cpython"
  repr _ := ""

def sampleEvidence : WaiverEvidence where
  gridResult := "/grid/RESULT.json"
  hardwareContract := "/hardware.json"
  trainOrderManifest := "train/manifest.json"
  validationOrderManifest := "validation/manifest.json"
  uninterruptedResult := "/control.json"
  resumedResult := "/resumed.json"
  overfitOrderManifest := "overfit/manifest.json"
  phaseOneMetadata := "/one/metadata.json"
  phaseOneSummary := "/one/summary.json"
  phaseOneEventLog := "/one/run-r.wandb"
  phaseTwoMetadata := "/two/metadata.json"
  phaseTwoSummary := "/two/summary.json"
  phaseTwoEventLog := "/two/run-r.wandb"
  waiverCli := "/accept_geometry_waiver.py"
  decisionBy := "operator"
  decisionUtc := "2026-01-01T00:00:00+00:00"
  rationale := "the grid measured this geometry"

/-- What a computation raises. -/
def raised? (computation : Checked α) : Option PyError :=
  match computation with
  | .ok _ => .none
  | .error error => some error

theorem raised?_eq_some {computation : Checked α} {error : PyError} :
    raised? computation = some error ↔ computation = .error error := by
  cases computation <;> simp [raised?]

/-- On the small campaign a receipt is built, and checking it raises a
`KeyError`. -/
theorem sample_collection_raises :
    (∃ receipt, sampleWorld.buildReceipt sampleEvidence = .ok receipt) ∧
    (∀ prior, ∃ summary,
      sampleWorld.validatePriorEvidence prior = .ok summary) ∧
    sampleWorld.collectGeometryWaiver sampleEvidence =
      .error (.keyError "stable_identity_sha256") :=
  ⟨exists_of_isOk (by decide +kernel), fun _ => ⟨_, rfl⟩,
    raised?_eq_some.mp (by decide +kernel)⟩

end WaiverWorld
end CodingLlm
