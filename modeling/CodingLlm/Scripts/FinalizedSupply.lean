import CodingLlm.Pretrain.CappedOrder
import CodingLlm.Pretrain.UsableOrder
import CodingLlm.Scripts.PortableSupply

/-!
# Orders of a packed supply

A supply is what packing leaves for the three splits.  A plan whose rows the
supply has is built, and the order that is read back has the rows, the target
and the mixture of the plan.
-/

namespace CodingLlm
namespace CorpusQualification

open Words

variable {Digest Cursor Json : Type} [DecidableEq Digest]

/-- Validated packed directories of the three splits, with the authority that
a finalizer has read of them. -/
structure PackedSupply
    (environment : FinalizerEnvironment Digest Cursor Json) where
  authority : Authority Digest Cursor Json
  store : PackedStore Digest Cursor
  directories : Split -> Domain -> Directory Digest Cursor
  manifests : Split -> Domain -> PackedManifest Digest Cursor
  inputs : ∀ split, PackedInputs (environment.orderEnvironment store)
    (packedPath split) (directories split) (manifests split)
  read : ∀ split domain,
    (authority.packed split domain).manifest = manifests split domain
  split_eq : ∀ split domain, (manifests split domain).split = split.name
  sequenceLength_eq : ∀ split domain,
    (manifests split domain).sequenceLength = authority.sequenceLength
  addressable : ∀ split domain, (manifests split domain).rows ≤ maxRowId

variable {environment : FinalizerEnvironment Digest Cursor Json}
variable (supply : PackedSupply environment)

/-- The rows of a split and domain. -/
def PackedSupply.rows (split : Split) (domain : Domain) : Nat :=
  supply.authority.availableRows split domain

/-- The sequence length of all packed rows. -/
def PackedSupply.sequenceLength : Nat := supply.authority.sequenceLength

/-- A plan that the supply can meet. -/
structure Meets (plan : OrderPlan) (rows : Nat) : Prop where
  expected_pos : 1 ≤ plan.expectedTokens
  selectable : selectableRows supply.sequenceLength plan.expectedTokens
    plan.geometry = rows
  rows_pos : 1 ≤ rows
  actual_eq : plan.actualTokens = rows * supply.sequenceLength
  tolerance_eq : plan.actualTokens + plan.toleranceTokens =
    plan.expectedTokens
  enough : ∀ domain,
    weightedRowCounts rows expectedWeights domain ≤
      supply.rows plan.split domain

/-- An order that records a plan. -/
structure RecordsPlan
    (plan : OrderPlan) (rows sequenceLength : Nat)
    (order : OrderManifest Digest) : Prop where
  split_eq : order.split = plan.split.name
  rows_eq : order.rows = rows
  sequenceLength_eq : order.sequenceLength = sequenceLength
  geometry_eq : order.geometry = plan.geometry
  target_eq : expectedTotal? order = some plan.expectedTokens
  weights_eq : order.expectedInputTokenWeights =
    .ofWeights expectedWeights.weight
  realized_eq : order.realizedInputTokenWeights = .ofWeights fun domain =>
    (weightedRowCounts rows expectedWeights domain : Rat) / rows

theorem requireGeometry_plan (plan : OrderPlan) :
    requireGeometry (optionalCount plan.frozenRows)
      (optionalCount plan.frozenSteps) = .ok plan.geometry := by
  unfold OrderPlan.frozenRows OrderPlan.frozenSteps
  cases plan.geometry with
  | none => rfl
  | some geometry =>
      change requireGeometry (.int geometry.globalMicrobatchRows)
        (.int geometry.gradientAccumulationSteps) = _
      unfold requireGeometry
      rw [require_eq_ok (by simp), checked_ok_bind, if_neg (by simp),
        requirePositive_int _ geometry.globalMicrobatchRows_pos,
        checked_ok_bind,
        requirePositive_int _ geometry.gradientAccumulationSteps_pos]
      rfl

theorem optionalWeights_expectedWeights :
    optionalWeights (.ofWeights expectedWeights.weight) =
      .ok (some expectedWeights) := by
  change some <$> normalizeDomainWeights (.ofWeights expectedWeights.weight) = _
  rw [normalizeDomainWeights_ofWeights]
  rfl

variable {supply} {plan : OrderPlan} {rows : Nat}

/-- The selection of a plan that the supply can meet. -/
theorem Meets.exists_selection (meets : Meets supply plan rows) :
    ∃ selection, selectCapped (supply.rows plan.split) supply.sequenceLength
      (some expectedWeights) plan.geometry (.int plan.expectedTokens)
      (.int plan.toleranceTokens) = .ok selection := by
  have counts : strictWeightedRowCounts rows expectedWeights =
      .ok (weightedRowCounts rows expectedWeights) :=
    strictWeightedRowCounts_eq_ok.mpr ⟨meets.rows_pos, rfl⟩
  have actual := meets.actual_eq
  have tolerance := meets.tolerance_eq
  unfold selectCapped
  rw [requireObject_some, checked_ok_bind,
    requirePositive_int _ meets.expected_pos, checked_ok_bind]
  dsimp only
  rw [meets.selectable, require_eq_ok meets.rows_pos, checked_ok_bind, counts,
    checked_ok_bind, require_eq_ok fun domain _ => meets.enough domain,
    checked_ok_bind, toleranceOrDefault, if_neg (by simp), requireInt_int,
    checked_ok_bind, require_eq_ok, checked_ok_bind, require_eq_ok,
    checked_ok_bind]
  · exact ⟨_, rfl⟩
  · simp only [PyInt.toInt]
    omega
  · simp only [PyInt.toInt]
    omega

/-- The order of a plan that the supply can meet is built. -/
theorem Meets.exists_directory (meets : Meets supply plan rows) :
    ∃ directory, buildTrainingOrder
      (environment.orderEnvironment supply.store) plan.arguments .empty =
        .ok directory := by
  have inputs := supply.inputs plan.split
  have available : (fun domain =>
      (supply.manifests plan.split domain).rows) =
        supply.rows plan.split := by
    funext domain
    rw [← supply.read]
    rfl
  have width : (supply.manifests plan.split .python).sequenceLength =
      supply.sequenceLength := supply.sequenceLength_eq _ _
  obtain ⟨selection, selected⟩ := meets.exists_selection
  have ends : CappedEnds _ _ (buildTrainingOrder
      (environment.orderEnvironment supply.store) plan.arguments .empty) :=
    inputs.buildTrainingOrder_capped ⟨rfl, rfl, rfl⟩ rfl
      (requireGeometry_plan plan) optionalWeights_expectedWeights nofun
  have something : totalOf (supply.rows plan.split) ≠ 0 := by
    have counts := totalOf_weightedRowCounts rows expectedWeights
    have python := meets.enough .python
    have otherCode := meets.enough .otherCode
    have english := meets.enough .english
    have positive := meets.rows_pos
    rw [totalOf_eq] at counts ⊢
    omega
  have addressable : ∀ domain ∈ Domain.order,
      supply.rows plan.split domain ≤ maxRowId := by
    intro domain _
    rw [← available]
    exact supply.addressable plan.split domain
  rw [available, width] at ends
  change CappedEnds _ (selectCapped _ _ _ _ (.int plan.expectedTokens)
    (.int plan.toleranceTokens)) _ at ends
  rw [selected, CappedEnds, if_neg something, if_pos addressable] at ends
  exact ends

/-- What a plan hands to a draft. -/
structure DraftsPlan
    (plan : OrderPlan) (draft : OrderDraft Digest Cursor)
    (target : SelectedTarget) : Prop where
  geometry_eq : draft.geometry = plan.geometry
  weights_eq : draft.weights = some expectedWeights
  seed_eq : draft.seed = plan.seed
  expected_eq : target.expectedTotal = plan.expectedTokens
  tolerance_eq : target.tolerance = .int plan.toleranceTokens
  selection : ∃ expectedTotal tolerance, CappedSelection draft.availableRows
    draft.common.sequenceLength draft.geometry expectedTotal tolerance
    draft.selection expectedWeights target

theorem exists_draftsPlan
    {environment : OrderEnvironment Digest Cursor}
    {draft : OrderDraft Digest Cursor}
    (drafted : Drafted environment plan.arguments draft) :
    ∃ target, DraftsPlan plan draft target := by
  have geometry : draft.geometry = plan.geometry :=
    Except.ok.inj (drafted.geometry.symm.trans (requireGeometry_plan plan))
  have weights : draft.weights = some expectedWeights :=
    Except.ok.inj (drafted.weights.symm.trans optionalWeights_expectedWeights)
  obtain ⟨_, -, selected, -⟩ := drafted.references
  cases selected with
  | all untargeted => cases untargeted
  | capped _ selected _ =>
      obtain ⟨domainWeights, target, weighted, capped⟩ :=
        selectCapped_eq_ok selected
      obtain rfl : expectedWeights = domainWeights :=
        Option.some.inj (weights.symm.trans weighted)
      have expected : plan.expectedTokens = target.expectedTotal :=
        Int.ofNat_injective (PyValue.int.inj capped.expectedTotal)
      have tolerance : PyValue.int plan.toleranceTokens =
          target.tolerance.toValue := capped.tolerance
      refine ⟨target, geometry, weights, drafted.seed, expected.symm, ?_, _, _,
        capped⟩
      cases found : target.tolerance with
      | int value =>
          rw [found] at tolerance
          exact congrArg PyInt.int (PyValue.int.inj tolerance).symm
      | bool value =>
          rw [found] at tolerance
          cases tolerance

section Drafted

variable (meets : Meets supply plan rows)
variable {draft : OrderDraft Digest Cursor} {target : SelectedTarget}
variable (drafts : DraftsPlan plan draft target)
variable (manifests : draft.manifests = supply.manifests plan.split)

include meets drafts manifests

theorem Meets.common_eq :
    draft.common.sequenceLength = supply.sequenceLength ∧
      draft.common.split = plan.split.name ∧
        draft.selection.totalRows = rows ∧
          draft.selection.rowsPerDomain =
            weightedRowCounts rows expectedWeights := by
  have common : draft.common = supply.manifests plan.split .python :=
    congrFun manifests .python
  have width : draft.common.sequenceLength = supply.sequenceLength := by
    rw [common]
    exact supply.sequenceLength_eq _ _
  obtain ⟨expectedTotal, tolerance, capped⟩ := drafts.selection
  have totalRows : draft.selection.totalRows = rows := by
    rw [capped.totalRows_eq, width, drafts.geometry_eq, drafts.expected_eq]
    exact meets.selectable
  refine ⟨width, ?_, totalRows, ?_⟩
  · rw [common]
    exact supply.split_eq _ _
  · rw [capped.rowsPerDomain_eq, totalRows]

/-- What is built for a plan records it. -/
theorem Meets.records
    {environment : OrderEnvironment Digest Cursor}
    (drafted : Drafted environment plan.arguments draft)
    (validated : ValidatedInputs environment draft) :
    RecordsPlan plan rows supply.sequenceLength
      (drafted.orderManifest validated) := by
  obtain ⟨width, split, totalRows, counts⟩ := meets.common_eq drafts manifests
  obtain ⟨_, _, capped⟩ := drafts.selection
  constructor
  case split_eq => exact split
  case rows_eq => exact (drafted.exact validated).length_eq.trans totalRows
  case sequenceLength_eq => exact width
  case geometry_eq =>
    change (draft.geometry.map draft.frozenConsumption).map
      FrozenConsumption.toFrozenGeometry = _
    rw [Option.map_map, ← drafts.geometry_eq]
    exact congrFun Option.map_id draft.geometry
  case target_eq =>
    change draft.inputTokenTarget.map InputTokenTarget.expectedTotal = _
    rw [OrderDraft.inputTokenTarget, capped.target_eq, drafts.weights_eq,
      ← drafts.expected_eq]
    rfl
  case weights_eq =>
    change (draft.document environment.hash
      environment.numpyVersion).expectedInputTokenWeights = _
    rw [OrderDraft.document, drafts.weights_eq]
  case realized_eq =>
    change DomainField.ofWeights _ = _
    rw [totalRows, counts]
    simp only [Int.cast_natCast]

/-- What is built for a plan passes the checks on a staged order. -/
theorem Meets.accepts
    (accepted : ∃ manifest, validateTrainingOrder environment.hash.toFileHash
      supply.store true
      (draft.directory environment.hash.toFileHash environment.numpyVersion) =
        .ok manifest) :
    environment.Accepted supply.store plan
      (draft.directory environment.hash.toFileHash environment.numpyVersion)
      ⟨draft.document environment.hash.toFileHash environment.numpyVersion,
        draft.inputTokenBudget⟩ := by
  obtain ⟨width, split, totalRows, counts⟩ := meets.common_eq drafts manifests
  obtain ⟨_, _, capped⟩ := drafts.selection
  constructor
  case validated => exact accepted
  case manifest => rfl
  case consumption =>
    refine ⟨draft.trainingConsumption, rfl, ?_⟩
    unfold OrderPlan.MatchesGeometry OrderPlan.frozenRows OrderPlan.frozenSteps
    rw [← drafts.geometry_eq, OrderDraft.trainingConsumption]
    cases draft.geometry with
    | none => exact ⟨rfl, rfl⟩
    | some frozen =>
        exact ⟨(PyValue.equalsInt_int _ _).mpr rfl,
          (PyValue.equalsInt_int _ _).mpr rfl⟩
  case identity =>
    refine ⟨(PyValue.equalsInt_int _ _).mpr rfl,
      congrArg PyValue.str split,
      (PyValue.equalsInt_int _ _).mpr drafts.seed_eq, ?_⟩
    change (draft.document environment.hash.toFileHash
      environment.numpyVersion).expectedInputTokenWeights.EqualsNumbers _
    rw [OrderDraft.document, drafts.weights_eq]
    exact fun _ _ => rfl
  case budget => rfl
  case matchesBudget =>
    have positive : 0 < supply.sequenceLength := by
      have two := draft.common.two_le_sequenceLength
      omega
    have accounted : accountedRows draft.selection.totalRows draft.geometry *
        draft.common.sequenceLength = plan.actualTokens := by
      have whole := (@accountedRows_selectableRows supply.sequenceLength
        plan.expectedTokens positive plan.geometry).1
      rw [meets.selectable] at whole
      rw [totalRows, drafts.geometry_eq, width, whole, meets.actual_eq]
    refine ⟨?_, ?_, ?_⟩
    · rw [OrderDraft.inputTokenBudget, capped.target_eq]
      exact (PyValue.equalsInt_int _ _).mpr
        (congrArg Int.ofNat drafts.expected_eq)
    · rw [OrderDraft.inputTokenBudget, accounted]
      exact (PyValue.equalsInt_int _ _).mpr rfl
    · rw [OrderDraft.inputTokenBudget, capped.target_eq]
      dsimp only
      rw [drafts.tolerance_eq]
      exact (PyValue.equalsInt_int _ _).mpr rfl

end Drafted

/-- The order of a plan that the supply can meet is built, passes the checks
on a staged order, and records the plan. -/
theorem Meets.built (meets : Meets supply plan rows) :
    ∃ directory order manifest,
      environment.intendedOrder supply.store plan = .ok (directory, order) ∧
      validateTrainingOrder environment.hash.toFileHash supply.store true
        directory = .ok manifest ∧
      RecordsPlan plan rows supply.sequenceLength manifest := by
  obtain ⟨directory, built⟩ := meets.exists_directory
  obtain ⟨draft, success, rfl⟩ := buildTrainingOrder_eq_ok built
  have drafted := drafted_of_draftTrainingOrder success
  have inputs := supply.inputs plan.split
  obtain ⟨-, -, manifests, validated⟩ := drafted.inputs_eq rfl inputs.stored
    fun domain => ⟨true, inputs.validated domain⟩
  obtain ⟨target, drafts⟩ := exists_draftsPlan drafted
  have loadable : draft.Loadable := by
    rw [drafted.loadable_iff]
    exact ⟨Int.natCast_nonneg _, fun _ => nofun⟩
  have accepted := drafted.accepted validated loadable
  refine ⟨_, _, _, FinalizerEnvironment.intendedOrder_eq_ok.mpr ⟨built,
    meets.accepts drafts manifests ⟨_, accepted⟩⟩, accepted,
    meets.records drafts manifests drafted validated⟩

end CorpusQualification
end CodingLlm
