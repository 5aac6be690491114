import CodingLlm.Pretrain.AcceptedOrder
import CodingLlm.Pretrain.BuiltOrder

/-!
# Soundness of order validation

What the document of an accepted order says of the references in its payload.
Supervised tokens are counted on the smaller side of the selection; the other
side is what is left of the packed total, and exact if that total is.
-/

namespace CodingLlm

open CrashLogic Words

variable {Digest Cursor : Type}

/-! ## What is established -/

/-- References of the packed rows that an order leaves out. -/
def leftOut
    (manifests : Domain -> PackedManifest Digest Cursor)
    (references : List Nat) : List Nat :=
  encodedRows (unseenRows (fun domain => (manifests domain).rows) references)

/-- Frozen consumption is the largest prefix of whole optimizer updates, and
its counts are those of the prefix and of the rest. -/
structure SoundConsumption
    (manifests : Domain -> PackedManifest Digest Cursor)
    (directories : Domain -> Directory Digest Cursor)
    (references : List Nat) (geometry : FrozenGeometry)
    (consumption : TrainingConsumptionJson) : Prop where
  globalMicrobatchRows : consumption.frozenGlobalMicrobatchRows =
    .int geometry.globalMicrobatchRows
  gradientAccumulationSteps : consumption.frozenGradientAccumulationSteps =
    .int geometry.gradientAccumulationSteps
  consumedRows : consumption.consumedRows.EqualsInt
    (geometry.consumedRows references.length)
  wholeUpdates : geometry.updateRows ∣ geometry.consumedRows references.length
  consumedRows_le :
    geometry.consumedRows references.length ≤ references.length
  length_lt : references.length <
    geometry.consumedRows references.length + geometry.updateRows
  consumedRowsPerDomain : consumption.consumedRowsPerDomain = .ofCounts
    (rowsIn (references.take (geometry.consumedRows references.length)))
  droppedSupervisedPerDomain :
    consumption.droppedSupervisedTokensPerDomain = .ofCounts
      (supervisedIn manifests directories
        (references.drop (geometry.consumedRows references.length)))

/-- A token target is met by the largest selection in whole units, split
strictly by weight. -/
structure SoundTarget
    (sequenceLength : Nat) (references : List Nat)
    (geometry : Option FrozenGeometry) (budget : InputTokenBudgetJson)
    (expectedWeights : DomainField PyValue)
    (target : Nat) (weights : DomainWeights) : Prop where
  expectedTotal : budget.expectedTotal = .int target
  normalized : normalizeDomainWeights expectedWeights = .ok weights
  selectable :
    references.length = selectableRows sequenceLength target geometry
  below : references.length * sequenceLength ≤ target
  largest : target < references.length * sequenceLength +
    selectableUnit geometry * sequenceLength
  rowsIn_eq : rowsIn references = weightedRowCounts references.length weights

/-- A document is right about the references of its payload. -/
structure SoundOrder
    (manifests : Domain -> PackedManifest Digest Cursor)
    (directories : Domain -> Directory Digest Cursor)
    (geometry : Option FrozenGeometry) (references : List Nat)
    (document : OrderManifestJson Digest) : Prop where
  nodup : references.Nodup
  addresses : ∀ reference ∈ references, ∃ domain row,
    Addresses manifests reference domain row
  rows : document.rows = .int references.length
  rowsPerDomain : document.rowsPerDomain = .ofCounts (rowsIn references)
  availableRows : document.packedAvailableRowsPerDomain =
    .ofCounts fun domain => (manifests domain).rows
  surplusRows : document.packedSurplusRowsPerDomain = .ofCounts fun domain =>
    (manifests domain).rows - rowsIn references domain
  consumption : ∃ consumption,
    document.trainingConsumption = some consumption ∧
    (geometry = none -> consumption.frozenGlobalMicrobatchRows = .null) ∧
    ∀ frozen ∈ geometry,
      SoundConsumption manifests directories references frozen consumption
  target : ∃ budget, document.inputTokenBudget = some budget ∧
    (budget.expectedTotal ≠ .null -> ∃ target weights,
      SoundTarget (manifests .python).sequenceLength references geometry
        budget document.expectedInputTokenWeights target weights)

/-- The supervised tokens of both sides of the selection are recorded. -/
structure SupervisionRecorded
    (manifests : Domain -> PackedManifest Digest Cursor)
    (directories : Domain -> Directory Digest Cursor)
    (references : List Nat) (document : OrderManifestJson Digest) :
    Prop where
  selected : document.validLossTokensPerDomain =
    .ofCounts (supervisedIn manifests directories references)
  surplus : document.packedSurplusSupervisedTokensPerDomain =
    .ofCounts (supervisedIn manifests directories
      (leftOut manifests references))

/-- The audited total of a packed manifest is the one of its start bits. -/
def Audited
    (manifest : PackedManifest Digest Cursor)
    (directory : Directory Digest Cursor) : Prop :=
  ((List.range manifest.rows).map
    (rowSupervisedLabels manifest directory)).sum = manifest.validLossTokens

/-! ## Proof -/

theorem ofCounts_injective :
    Function.Injective DomainField.ofCounts := by
  intro first second equal
  funext domain
  exact Int.ofNat.inj
    (PyValue.int.inj (congrFun (DomainField.mapping.inj equal) domain))

section Accepted

variable {hash : FileHash Digest Cursor} {store : PackedStore Digest Cursor}
variable {directory : OrderDirectory Digest}
variable {manifest : OrderManifest Digest} {bytes : List Byte}
variable {directories : Domain -> Directory Digest Cursor}
variable {manifests : Domain -> PackedManifest Digest Cursor}
variable {document : OrderManifestJson Digest}

namespace AcceptedOrder

variable (accepted : AcceptedOrder hash store directory manifest bytes
  directories manifests)

include accepted

theorem length_references :
    (decodeWords referenceItemSize bytes).length = manifest.rows := by
  rw [length_decodeWords, accepted.loads.length_eq]
  exact Nat.mul_div_cancel _ (by decide)

theorem availableRows_eq : manifest.packedAvailableRowsPerDomain =
    fun domain => (manifests domain).rows :=
  funext fun domain => (accepted.fields domain).rows.symm

theorem surplusRows_eq : manifest.packedSurplusRowsPerDomain =
    fun domain => (manifests domain).rows -
      rowsIn (decodeWords referenceItemSize bytes) domain := by
  funext domain
  have total := manifest.availableRows_eq domain
  rw [accepted.scanned.rowsIn_eq, (accepted.fields domain).rows]
  omega

theorem soundConsumption
    {frozen : FrozenConsumption} (member : frozen ∈ manifest.consumption)
    {consumption : TrainingConsumptionJson}
    (recorded : frozen.Recorded manifest.rows manifest.sequenceLength
      manifest.rowsPerDomain manifest.validLossTokensPerDomain consumption) :
    SoundConsumption manifests directories
      (decodeWords referenceItemSize bytes) frozen.toFrozenGeometry
      consumption := by
  have length := accepted.length_references
  obtain ⟨entries, counts, -, -, -, -, -, -, dropped, every⟩ :=
    recorded.domains
  have update := frozen.updateRows_pos
  refine ⟨recorded.globalMicrobatchRows, recorded.gradientAccumulationSteps,
    ?_, Nat.dvd_mul_left _ _, frozen.consumedRows_le _,
    Nat.lt_div_mul_add update, ?_, ?_⟩
  · rw [length]
    exact recorded.consumedRows
  · rw [length, accepted.scanned.consumed frozen member, counts]
    exact congrArg DomainField.mapping
      (funext fun domain => (every domain).rows)
  · rw [length, ← (accepted.dropped frozen member).2, dropped]
    exact congrArg DomainField.mapping
      (funext fun domain => (every domain).droppedSupervised)

theorem soundTarget
    {budget : InputTokenBudgetJson} {target : InputTokenTarget}
    (recorded : target.Recorded budget manifest.expectedInputTokenWeights
      manifest.rowSelection manifest.rows manifest.sequenceLength
      manifest.rowsPerDomain manifest.geometry) :
    SoundTarget (manifests .python).sequenceLength
      (decodeWords referenceItemSize bytes) manifest.geometry budget
      manifest.expectedInputTokenWeights target.expectedTotal
      target.weights := by
  have length := accepted.length_references
  have positive : 0 < manifest.sequenceLength :=
    Nat.lt_of_lt_of_le (by decide) manifest.two_le_sequenceLength
  obtain ⟨-, below, largest⟩ := @accountedRows_selectableRows
    manifest.sequenceLength target.expectedTotal positive manifest.geometry
  rw [← recorded.rows_eq, ← length] at below largest
  rw [(accepted.fields .python).sequenceLength]
  refine ⟨recorded.expectedTotal, recorded.weights,
    length.trans recorded.rows_eq, below, largest, ?_⟩
  rw [accepted.scanned.rowsIn_eq, length]
  exact recorded.rowsPerDomain_eq

theorem soundOrder (recorded : manifest.Recorded document) :
    SoundOrder manifests directories manifest.geometry
      (decodeWords referenceItemSize bytes) document := by
  have length := accepted.length_references
  refine ⟨accepted.scanned.distinct.nodup, ?_, ?_, ?_, ?_, ?_, ?_, ?_⟩
  · intro reference member
    obtain ⟨domain, row, decoded, bound⟩ :=
      accepted.scanned.distinct.addresses reference member
    exact ⟨domain, row, decoded, (accepted.fields domain).rows ▸ bound⟩
  · rw [length]
    exact recorded.header.rows
  · rw [accepted.scanned.rowsIn_eq]
    exact recorded.counts.rowsPerDomain
  · rw [← accepted.availableRows_eq]
    exact recorded.counts.packedAvailableRowsPerDomain
  · rw [← accepted.surplusRows_eq]
    exact recorded.counts.packedSurplusRowsPerDomain
  · obtain ⟨consumption, found, consumed⟩ := recorded.consumption
    refine ⟨consumption, found, fun none => ?_, fun geometry member => ?_⟩
    · exact (consumed.unfrozen (Option.map_eq_none_iff.mp none)).1
    · obtain ⟨frozen, inManifest, rfl⟩ := Option.map_eq_some_iff.mp member
      exact accepted.soundConsumption inManifest
        (consumed.frozen frozen inManifest).2
  · obtain ⟨budget, found, kept⟩ := recorded.budget
    refine ⟨budget, found, fun targeted => ?_⟩
    cases aims : manifest.target with
    | none => exact absurd (kept.untargeted aims).1 targeted
    | some target =>
        rw [recorded.expectedInputTokenWeights]
        exact ⟨_, _, accepted.soundTarget (kept.targeted target aims)⟩

theorem surplusOf_eq :
    surplusOf manifest (decodeWords referenceItemSize bytes) =
      leftOut manifests (decodeWords referenceItemSize bytes) := by
  rw [surplusOf, accepted.availableRows_eq, leftOut]

/-- Selected and left-out references supervise what all rows supervise. -/
theorem supervisedIn_add_leftOut (domain : Domain) :
    supervisedIn manifests directories
        (decodeWords referenceItemSize bytes) domain +
        supervisedIn manifests directories
          (leftOut manifests (decodeWords referenceItemSize bytes)) domain =
      ((List.range (manifests domain).rows).map (rowSupervisedLabels
        (manifests domain) (directories domain))).sum := by
  have choice := accepted.scanned.distinct.rowChoice
    accepted.scanned.addressable
  have both := @RowChoice.supervisedIn_selected_add_surplus _ _ _ _ _ _ _
    choice accepted.scanned.addressable manifests directories domain
  rw [accepted.availableRows_eq] at both
  exact both

/-- Both sides are recorded exactly when the packed totals are audited. -/
theorem supervisionRecorded_iff (recorded : manifest.Recorded document) :
    SupervisionRecorded manifests directories
        (decodeWords referenceItemSize bytes) document ↔
      ∀ domain, Audited (manifests domain) (directories domain) := by
  have both := accepted.supervisedIn_add_leftOut
  have side := accepted.side
  rw [accepted.surplusOf_eq] at side
  have total (domain : Domain) :
      (manifests domain).validLossTokens =
        manifest.validLossTokensPerDomain domain +
          manifest.packedSurplusSupervisedTokensPerDomain domain :=
    (accepted.fields domain).validLossTokens.trans
      (manifest.availableSupervisedTokens_eq domain)
  have selected := recorded.supervision.validLossTokensPerDomain
  have surplus := recorded.supervision.packedSurplusSupervisedTokensPerDomain
  constructor
  · rintro ⟨selectedEq, surplusEq⟩ domain
    have selectedHere := congrFun
      (ofCounts_injective (selected.symm.trans selectedEq)) domain
    have surplusHere := congrFun
      (ofCounts_injective (surplus.symm.trans surplusEq)) domain
    rw [Audited, ← both, total, selectedHere, surplusHere]
  · intro audited
    have sums (domain : Domain) :
        supervisedIn manifests directories
            (decodeWords referenceItemSize bytes) domain +
            supervisedIn manifests directories
              (leftOut manifests (decodeWords referenceItemSize bytes))
                domain =
          manifest.validLossTokensPerDomain domain +
            manifest.packedSurplusSupervisedTokensPerDomain domain := by
      rw [both, ← total]
      exact audited domain
    rcases Nat.lt_or_ge manifest.rows manifest.packedSurplusRows with
      more | fewer
    · have counted := (side.selected more).2
      refine ⟨counted ▸ selected, surplus.trans
        (congrArg DomainField.ofCounts (funext fun domain => ?_))⟩
      have here := sums domain
      have same := congrFun counted domain
      omega
    · have counted := (side.surplus fewer).2
      refine ⟨selected.trans
        (congrArg DomainField.ofCounts (funext fun domain => ?_)),
        counted ▸ surplus⟩
      have here := sums domain
      have same := congrFun counted domain
      omega

end AcceptedOrder

end Accepted

/-- The small order as it is built, if the validator accepts it. -/
def smallAccepted : Checked
    (OrderDirectory (List Byte) × OrderManifest (List Byte)) := do
  let directory ←
    buildTrainingOrder smallEnvironment smallOrderArguments .empty
  let manifest ← validateTrainingOrder smallEnvironment.hash
    smallEnvironment.store true directory
  return (directory, manifest)

/-- The small directories, but the Python manifest counts one of its two
supervised labels as masked. -/
def miscountedDirectory (domain : Domain) : Directory (List Byte) Unit :=
  match (smallDirectory domain).lookup .manifest with
  | some (.manifest document) =>
      if domain = .python then
        (smallDirectory domain).insert .manifest (.manifest { document with
          validLossTokens := .int 1, maskedBoundaryLabels := .int 1 })
      else smallDirectory domain
  | _ => ∅

/-- The miscounted directories in the place of the small ones. -/
def miscountedEnvironment : OrderEnvironment (List Byte) Unit :=
  { smallEnvironment with
    store := fun path => (Domain.order.find? fun domain =>
      (smallPath domain).path = path).map miscountedDirectory }

/-- Every packed row and no target. -/
def everyRowArguments : OrderArguments :=
  { smallOrderArguments with
    expectedWeights := .null
    expectedTotalInputTokens := .null }

/-- The order of all miscounted rows, if the validator accepts it, and the
python labels that its references supervise. -/
def miscountedAccepted : Checked
    (OrderDirectory (List Byte) × OrderManifest (List Byte) ×
      (Domain -> PackedManifest (List Byte) Unit)) := do
  let directory ←
    buildTrainingOrder miscountedEnvironment everyRowArguments .empty
  let manifest ← validateTrainingOrder miscountedEnvironment.hash
    miscountedEnvironment.store true directory
  let manifests ← forDomains fun domain => do
    let document ← readManifest (miscountedDirectory domain)
    parsePackedManifest document
  let bytes ← requireObject directory.payload (.assertionError "no payload")
  let _ ← require
    ((∀ domain ∈ Domain.order, (manifest.datasetManifests domain).path =
        (smallPath domain).path) ∧
      manifest.validLossTokensPerDomain .python = 1 ∧
      supervisedIn manifests miscountedDirectory
        (decodeWords referenceItemSize bytes) .python = 2)
    (.assertionError "counts differ from the expected ones")
  return (directory, manifest, manifests)

end CodingLlm
