import CodingLlm.Pretrain.SelectedReferences
import CodingLlm.Pretrain.TrainableRows

/-!
# Accounting of built orders

What a successful build has established, and that the numbers it records are
the counts of the order it writes.
-/

namespace CodingLlm

open Words

variable {Digest Cursor : Type}

/-! ## What a successful build has checked -/

theorem requireAgreement_eq_ok [DecidableEq Digest]
    {manifest common : PackedManifest Digest Cursor} {result : Unit} :
    requireAgreement manifest common = .ok result ↔
      manifest.Agrees common := by
  simp only [requireAgreement, require_then_eq_ok, checked_pure_eq_ok]
  constructor
  · rintro ⟨split, sequenceLength, vocabSize, eosTokenId, tokenizer, -⟩
    exact ⟨split, sequenceLength, vocabSize, eosTokenId, tokenizer⟩
  · intro agrees
    exact ⟨agrees.split, agrees.sequenceLength, agrees.vocabSize,
      agrees.eosTokenId, agrees.tokenizerManifestSha256, trivial⟩

theorem PackedManifest.Agrees.refl (manifest : PackedManifest Digest Cursor) :
    manifest.Agrees manifest := ⟨rfl, rfl, rfl, rfl, rfl⟩

/-- What the loop over the packed manifests has established. -/
theorem loadPackedInputs_eq_ok [DecidableEq Digest]
    {store : PackedStore Digest Cursor} {paths : Domain -> RelativePath}
    {packed : Domain -> PackedInput Digest Cursor} :
    loadPackedInputs store paths = .ok packed ↔
      (∀ domain, loadPackedInput store (paths domain) domain =
        .ok (packed domain)) ∧
      ∀ domain, (packed domain).manifest.Agrees (packed .python).manifest := by
  simp only [loadPackedInputs, checked_bind_eq_ok, requireAgreement_eq_ok,
    checked_pure_eq_ok]
  constructor
  · rintro ⟨_, python, _, otherCode, _, otherAgrees, _, english, _,
      englishAgrees, rfl⟩
    refine ⟨fun domain => ?_, fun domain => ?_⟩
    · cases domain
      · exact python
      · exact otherCode
      · exact english
    · cases domain
      · exact .refl _
      · exact otherAgrees
      · exact englishAgrees
  · rintro ⟨loads, agrees⟩
    refine ⟨_, loads .python, _, loads .otherCode, (), agrees .otherCode,
      _, loads .english, (), agrees .english, ?_⟩
    funext domain
    cases domain <;> rfl

theorem loadPackedInput_eq_ok
    {store : PackedStore Digest Cursor} {path : RelativePath}
    {domain : Domain} {packed : PackedInput Digest Cursor} :
    loadPackedInput store path domain = .ok packed ↔
      store path.path = some packed.directory ∧
        readManifest packed.directory = .ok packed.document ∧
        parsePackedManifest packed.document = .ok packed.manifest ∧
        packed.manifest.domain = domain := by
  simp only [loadPackedInput, checked_bind_eq_ok, exists_require,
    requireObject_eq_ok, checked_pure_eq_ok]
  constructor
  · rintro ⟨_, stored, _, read, _, parsed, same, rfl⟩
    exact ⟨stored, read, parsed, same⟩
  · rintro ⟨stored, read, parsed, same⟩
    exact ⟨_, stored, _, read, _, parsed, same, rfl⟩

/-- How the rows of a draft were selected and referenced. -/
inductive SelectedBy
    (environment : OrderEnvironment Digest Cursor)
    (arguments : OrderArguments) (draft : OrderDraft Digest Cursor)
    (references : OrderReferences) : Prop
  | capped
      (targeted : arguments.expectedTotalInputTokens ≠ .null)
      (selected : selectCapped draft.availableRows
        draft.common.sequenceLength draft.weights draft.geometry
        arguments.expectedTotalInputTokens arguments.inputTokenTolerance =
          .ok draft.selection)
      (drawn : references = cappedReferences environment.shuffles
        arguments.seed draft.availableRows draft.selection.rowsPerDomain)
  | all
      (untargeted : arguments.expectedTotalInputTokens = .null)
      (selected : selectAll draft.availableRows draft.weights
        arguments.inputTokenTolerance = .ok draft.selection)
      (drawn : allReferences environment.shuffles arguments.seed
        draft.availableRows = .ok references)

/-- What a successful draft has established. -/
structure Drafted [DecidableEq Digest]
    (environment : OrderEnvironment Digest Cursor)
    (arguments : OrderArguments) (draft : OrderDraft Digest Cursor) :
    Prop where
  paths : arguments.manifests = .mapping draft.paths
  seed : draft.seed = arguments.seed
  geometry : requireGeometry arguments.frozenGlobalMicrobatchRows
    arguments.frozenGradientAccumulationSteps = .ok draft.geometry
  packed : ∀ domain, loadPackedInput environment.store (draft.paths domain)
    domain = .ok (draft.packed domain)
  agrees : ∀ domain, (draft.packed domain).manifest.Agrees draft.common
  rows_pos : 1 ≤ totalOf draft.availableRows
  addressable : ∀ domain, draft.availableRows domain ≤ maxRowId
  weights : optionalWeights arguments.expectedWeights = .ok draft.weights
  references : ∃ references : OrderReferences,
    references.selected = draft.references ∧
    SelectedBy environment arguments draft references ∧
    selectedSupervisedTokens draft.packed draft.common.sequenceLength
      draft.selection references = .ok draft.selectedSupervised ∧
    ∃ dropped, droppedSupervisedTokens draft.packed
        draft.common.sequenceLength draft.geometry draft.selection.totalRows
        draft.references = .ok dropped ∧
      draft.droppedSupervised = fun domain => (dropped domain : Int)
  surplus_nonneg : ∀ domain, 0 ≤ draft.surplusSupervised domain

theorem drafted_of_draftTrainingOrder [DecidableEq Digest]
    {environment : OrderEnvironment Digest Cursor}
    {arguments : OrderArguments} {draft : OrderDraft Digest Cursor}
    (success : draftTrainingOrder environment arguments = .ok draft) :
    Drafted environment arguments draft := by
  simp only [draftTrainingOrder, checked_bind_eq_ok, exists_require,
    requireObject_eq_ok, DomainField.mapping?_eq_some, loadPackedInputs_eq_ok,
    checked_pure_eq_ok] at success
  obtain ⟨paths, mapping, geometry, geometryEq, packed, ⟨loads, agrees⟩,
    rowsPos, addressable, weights, weightsEq, selection, selectionEq,
    references, referencesEq, selected, selectedEq, nonneg, dropped,
    droppedEq, rfl⟩ := success
  refine ⟨mapping, rfl, geometryEq, loads, agrees, rowsPos,
    fun domain => addressable domain (Domain.mem_order domain), weightsEq,
    ⟨references, rfl, ?_, selectedEq, dropped, droppedEq, rfl⟩,
    fun domain => nonneg domain (Domain.mem_order domain)⟩
  by_cases untargeted : arguments.expectedTotalInputTokens = .null
  · rw [selectRows, if_pos untargeted] at selectionEq
    rw [orderReferences, if_pos untargeted] at referencesEq
    exact .all untargeted selectionEq referencesEq
  · rw [selectRows, if_neg untargeted] at selectionEq
    rw [orderReferences, if_neg untargeted] at referencesEq
    exact .capped untargeted selectionEq (Except.ok.inj referencesEq).symm

/-- What a capped selection has established. -/
structure CappedSelection
    (available : Domain -> Nat) (sequenceLength : Nat)
    (geometry : Option FrozenGeometry) (expectedTotal tolerance : PyValue)
    (selection : SelectedRows) (weights : DomainWeights)
    (target : SelectedTarget) : Prop where
  target_eq : selection.target = some target
  expectedTotal : expectedTotal = .int target.expectedTotal
  expectedTotal_pos : 1 ≤ target.expectedTotal
  totalRows_eq : selection.totalRows =
    selectableRows sequenceLength target.expectedTotal geometry
  totalRows_pos : 1 ≤ selection.totalRows
  rowsPerDomain_eq : selection.rowsPerDomain =
    weightedRowCounts selection.totalRows weights
  enough : ∀ domain, selection.rowsPerDomain domain ≤ available domain
  tolerance : toleranceOrDefault tolerance sequenceLength geometry =
    target.tolerance.toValue
  tolerance_nonneg : 0 ≤ target.tolerance.toInt
  delta_eq : target.delta =
    (selection.totalRows * sequenceLength : Nat) - (target.expectedTotal : Int)
  delta_bounds : target.delta ≤ 0 ∧ -target.tolerance.toInt ≤ target.delta

theorem selectCapped_eq_ok
    {available : Domain -> Nat} {sequenceLength : Nat}
    {weights : Option DomainWeights} {geometry : Option FrozenGeometry}
    {expectedTotal tolerance : PyValue} {selection : SelectedRows}
    (selected : selectCapped available sequenceLength weights geometry
      expectedTotal tolerance = .ok selection) :
    ∃ domainWeights target, weights = some domainWeights ∧
      CappedSelection available sequenceLength geometry expectedTotal
        tolerance selection domainWeights target := by
  simp only [selectCapped, checked_bind_eq_ok, exists_require,
    requireObject_eq_ok, requirePositive_eq_ok,
    strictWeightedRowCounts_eq_ok, requireInt_eq_ok, checked_pure_eq_ok]
    at selected
  obtain ⟨domainWeights, weighted, ⟨total, positive⟩, expected, selectable, _,
    ⟨-, rfl⟩, enough, found, toleranceEq, nonneg, bounds, rfl⟩ := selected
  exact ⟨domainWeights, _, weighted, rfl, expected, positive, rfl,
    selectable, rfl, fun domain => enough domain (Domain.mem_order domain),
    toleranceEq, nonneg, rfl, bounds⟩

theorem selectAll_eq_ok
    {available : Domain -> Nat} {weights : Option DomainWeights}
    {tolerance : PyValue} {selection : SelectedRows}
    (selected : selectAll available weights tolerance = .ok selection) :
    tolerance = .null ∧ selection = ⟨available, totalOf available, none⟩ ∧
      ∀ domainWeights ∈ weights,
        validateRowMixture available domainWeights = .ok () := by
  rw [selectAll, require_then_eq_ok] at selected
  obtain ⟨noTolerance, selected⟩ := selected
  refine ⟨noTolerance, ?_⟩
  cases weights with
  | none =>
      simp only [checked_pure_eq_ok] at selected
      exact ⟨selected.symm, by simp⟩
  | some domainWeights =>
      obtain ⟨_, mixture, equal⟩ := checked_bind_eq_ok.mp selected
      refine ⟨(checked_pure_eq_ok.mp equal).symm, ?_⟩
      intro _ member
      cases member
      exact mixture

/-! ## Accounting -/

namespace OrderDraft

/-- The packed manifests of a draft. -/
def manifests (draft : OrderDraft Digest Cursor) (domain : Domain) :
    PackedManifest Digest Cursor := (draft.packed domain).manifest

/-- The packed directories of a draft. -/
def directories (draft : OrderDraft Digest Cursor) (domain : Domain) :
    Directory Digest Cursor := (draft.packed domain).directory

end OrderDraft

/-- The packed directories of a draft are accepted by
`validate_packed_manifest`. -/
def ValidatedInputs [DecidableEq Digest]
    (environment : OrderEnvironment Digest Cursor)
    (draft : OrderDraft Digest Cursor) : Prop :=
  ∀ domain, ∃ verifyChecksums,
    validatePackedManifest environment.hash.bytes verifyChecksums
      (draft.directories domain) = .ok (draft.manifests domain)

namespace Drafted

variable [DecidableEq Digest]
variable {environment : OrderEnvironment Digest Cursor}
variable {arguments : OrderArguments} {draft : OrderDraft Digest Cursor}

theorem selection_facts
    (drafted : Drafted environment arguments draft)
    {references : OrderReferences}
    (selected : SelectedBy environment arguments draft references) :
    totalOf draft.selection.rowsPerDomain = draft.selection.totalRows ∧
      1 ≤ draft.selection.totalRows ∧
      ∃ chosen rest, RowChoice draft.availableRows
        draft.selection.rowsPerDomain references chosen rest := by
  cases selected with
  | capped targeted selected drawn =>
      obtain ⟨weights, target, -, capped⟩ := selectCapped_eq_ok selected
      refine ⟨?_, capped.totalRows_pos, ?_⟩
      · rw [capped.rowsPerDomain_eq, totalOf_weightedRowCounts]
      · rw [drawn]
        exact rowChoice_capped _ _ capped.enough
  | all untargeted selected drawn =>
      obtain ⟨-, selection, -⟩ := selectAll_eq_ok selected
      rw [selection]
      exact ⟨rfl, drafted.rows_pos, _, _, rowChoice_all drawn⟩

theorem sequenceLength_eq
    (drafted : Drafted environment arguments draft) (domain : Domain) :
    (draft.manifests domain).sequenceLength = draft.common.sequenceLength :=
  (drafted.agrees domain).sequenceLength

end Drafted

section Validated

variable [DecidableEq Digest]
variable {environment : OrderEnvironment Digest Cursor}
variable {draft : OrderDraft Digest Cursor}

theorem ValidatedInputs.opens
    (validated : ValidatedInputs environment draft) (domain : Domain) :
    Opens (draft.manifests domain) (draft.directories domain) := by
  obtain ⟨verifyChecksums, accepted⟩ := validated domain
  obtain ⟨parsed, valid⟩ := validatePackedManifest_eq_ok_iff.mp accepted
  exact valid.opens parsed

/-- Every reference to an available row of validated directories is counted. -/
theorem ValidatedInputs.countable
    (validated : ValidatedInputs environment draft)
    {reference row : Nat} {domain : Domain}
    (decoded : decodeReference reference = (domain.id, row))
    (bound : row < (draft.manifests domain).rows) :
    Countable draft.manifests draft.directories reference := by
  obtain ⟨verifyChecksums, accepted⟩ := validated domain
  obtain ⟨-, valid⟩ := validatePackedManifest_eq_ok_iff.mp accepted
  exact ⟨domain, row, ⟨decoded, bound⟩, (valid.rows row bound).startsValid⟩

theorem ValidatedInputs.sum_rowSupervisedLabels
    (validated : ValidatedInputs environment draft) (domain : Domain) :
    ((List.range (draft.availableRows domain)).map (rowSupervisedLabels
      (draft.manifests domain) (draft.directories domain))).sum =
        draft.availableSupervised domain := by
  obtain ⟨verifyChecksums, accepted⟩ := validated domain
  obtain ⟨-, valid⟩ := validatePackedManifest_eq_ok_iff.mp accepted
  exact valid.sum_rowSupervisedLabels_eq

/-- Either side of the selection yields the supervised tokens of the selected
references. -/
theorem selectedSupervised_eq
    {arguments : OrderArguments}
    (drafted : Drafted environment arguments draft)
    (validated : ValidatedInputs environment draft)
    {references : OrderReferences}
    (same : references.selected = draft.references)
    (selected : SelectedBy environment arguments draft references)
    (counted : selectedSupervisedTokens draft.packed
      draft.common.sequenceLength draft.selection references =
        .ok draft.selectedSupervised)
    (domain : Domain) :
    draft.selectedSupervised domain =
      supervisedIn draft.manifests draft.directories draft.references
        domain := by
  obtain ⟨-, -, chosen, rest, choice⟩ := drafted.selection_facts selected
  have both := @RowChoice.supervisedIn_selected_add_surplus _ _ _ _ _ _ _
    choice drafted.addressable draft.manifests draft.directories domain
  rw [validated.sum_rowSupervisedLabels, same] at both
  have counts {side : List Nat} {counts : Domain -> Nat}
      (counted : countSupervisedTokensForReferences side
        (fun domain => (draft.packed domain).directory)
        draft.common.sequenceLength = .ok counts) :
      counts = supervisedIn draft.manifests draft.directories side :=
    ((countSupervisedTokens_eq_ok validated.opens
      drafted.sequenceLength_eq).mp counted).2
  unfold selectedSupervisedTokens at counted
  by_cases untargeted : draft.selection.target.isNone = true
  · rw [if_pos untargeted, checked_pure_eq_ok] at counted
    have nothing : references.surplus = [] := by
      cases selected with
      | capped targeted selected drawn =>
          obtain ⟨_, _, -, capped⟩ := selectCapped_eq_ok selected
          rw [capped.target_eq] at untargeted
          cases untargeted
      | all _ _ drawn =>
          rw [allReferences, require_then_eq_ok, checked_pure_eq_ok] at drawn
          rw [← drawn.2]
    rw [nothing] at both
    rw [← counted]
    simp only [supervisedIn, List.map_nil, List.sum_nil, Nat.add_zero] at both
    exact congrArg Int.ofNat both.symm
  · rw [if_neg untargeted] at counted
    split at counted
    · obtain ⟨surplus, surplusCounted, equal⟩ :=
        checked_bind_eq_ok.mp counted
      rw [← checked_pure_eq_ok.mp equal, counts surplusCounted]
      change (draft.availableSupervised domain : Int) - _ = _
      omega
    · obtain ⟨direct, directCounted, equal⟩ := checked_bind_eq_ok.mp counted
      rw [← checked_pure_eq_ok.mp equal, counts directCounted, same]

/-- The counted tail is what the dropped references supervise. -/
theorem droppedSupervised_eq
    {arguments : OrderArguments}
    (drafted : Drafted environment arguments draft)
    (validated : ValidatedInputs environment draft)
    {geometry : FrozenGeometry} (frozen : draft.geometry = some geometry)
    {dropped : Domain -> Nat}
    (counted : droppedSupervisedTokens draft.packed
      draft.common.sequenceLength draft.geometry draft.selection.totalRows
      draft.references = .ok dropped) :
    1 ≤ geometry.optimizerUpdates draft.selection.totalRows ∧
      dropped = supervisedIn draft.manifests draft.directories
        (draft.references.drop
          (geometry.consumedRows draft.selection.totalRows)) := by
  rw [frozen] at counted
  simp only [droppedSupervisedTokens, require_then_eq_ok] at counted
  exact ⟨counted.1, ((countSupervisedTokens_eq_ok validated.opens
    drafted.sequenceLength_eq).mp counted.2).2⟩

end Validated

/-- Everything that later results use of a draft from validated directories. -/
structure OrderDraft.Exact
    (draft : OrderDraft Digest Cursor) : Prop where
  nodup : draft.references.Nodup
  addresses : ∀ reference ∈ draft.references, ∃ domain row,
    Addresses draft.manifests reference domain row
  length_eq : draft.references.length = draft.selection.totalRows
  totalRows_pos : 1 ≤ draft.selection.totalRows
  totalOf_rows : totalOf draft.selection.rowsPerDomain =
    draft.selection.totalRows
  rowsIn_eq : ∀ domain,
    rowsIn draft.references domain = draft.selection.rowsPerDomain domain
  rows_le : ∀ domain,
    draft.selection.rowsPerDomain domain ≤ draft.availableRows domain
  selectedSupervised_eq : ∀ domain, draft.selectedSupervised domain =
    supervisedIn draft.manifests draft.directories draft.references domain
  supervised_le : ∀ domain,
    supervisedIn draft.manifests draft.directories draft.references domain ≤
      draft.availableSupervised domain
  dropped : ∀ geometry, draft.geometry = some geometry ->
    1 ≤ geometry.optimizerUpdates draft.selection.totalRows ∧
      draft.droppedSupervised = fun domain =>
        (supervisedIn draft.manifests draft.directories
          (draft.references.drop
            (geometry.consumedRows draft.selection.totalRows)) domain : Int)

theorem Drafted.exact [DecidableEq Digest]
    {environment : OrderEnvironment Digest Cursor}
    {arguments : OrderArguments} {draft : OrderDraft Digest Cursor}
    (drafted : Drafted environment arguments draft)
    (validated : ValidatedInputs environment draft) : draft.Exact := by
  obtain ⟨references, same, selected, counted, dropped, droppedCounted,
    droppedEq⟩ := drafted.references
  obtain ⟨totalRows, totalPos, chosen, rest, choice⟩ :=
    drafted.selection_facts selected
  have addressable := drafted.addressable
  have supervised := fun domain =>
    selectedSupervised_eq drafted validated same selected counted domain
  refine ⟨same ▸ choice.nodup addressable, ?_, ?_, totalPos, totalRows, ?_,
    choice.selected_le, supervised, ?_, ?_⟩
  · intro reference member
    rw [← same] at member
    obtain ⟨domain, row, decoded, bound⟩ :=
      choice.decode_selected addressable member
    exact ⟨domain, row, decoded, bound⟩
  · rw [← same, choice.length_selected, totalRows]
  · intro domain
    rw [← same]
    exact choice.rowsIn_selected addressable domain
  · intro domain
    have nonneg := drafted.surplus_nonneg domain
    rw [OrderDraft.surplusSupervised, supervised domain] at nonneg
    omega
  · intro geometry frozen
    obtain ⟨updates, equal⟩ :=
      droppedSupervised_eq drafted validated frozen droppedCounted
    exact ⟨updates, by rw [droppedEq, equal]⟩

end CodingLlm
