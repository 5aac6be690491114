import CodingLlm.Pretrain.BuiltOrder

/-!
# Capped orders of validated directories

With packed directories that `validate_packed_manifest` accepts and that agree
with each other, `build_training_order` for an input-token target ends as its
selection does, unless no row or too many rows are packed.
-/

namespace CodingLlm

open Words

variable {Digest Cursor : Type}

/-! ## Selecting -/

/-- What a selection raises that finds too few rows. -/
def insufficientRows : PyError :=
  .valueError "Insufficient packed rows for strict weighted cap"

/-- With the default tolerance a selection of at least one row succeeds just
when every domain has its share. -/
theorem selectCapped_outcome
    {available : Domain -> Nat} {sequenceLength target : Nat}
    {weights : DomainWeights} {geometry : Option FrozenGeometry}
    (width : 1 ≤ sequenceLength) (positive : 1 ≤ target)
    (selectable : 1 ≤ selectableRows sequenceLength target geometry) :
    if ∀ domain ∈ Domain.order,
        weightedRowCounts (selectableRows sequenceLength target geometry)
          weights domain ≤ available domain then
      ∃ selection, selectCapped available sequenceLength (some weights)
        geometry (.int target) .null = .ok selection
    else
      selectCapped available sequenceLength (some weights) geometry
        (.int target) .null = .error insufficientRows := by
  obtain ⟨-, below, above⟩ :=
    @accountedRows_selectableRows sequenceLength target width geometry
  have counts : strictWeightedRowCounts
      (selectableRows sequenceLength target geometry) weights =
        .ok (weightedRowCounts
          (selectableRows sequenceLength target geometry) weights) :=
    strictWeightedRowCounts_eq_ok.mpr ⟨selectable, rfl⟩
  unfold selectCapped
  rw [requireObject_some, checked_ok_bind, requirePositive_int _ positive,
    checked_ok_bind]
  dsimp only
  rw [require_eq_ok selectable, checked_ok_bind, counts, checked_ok_bind]
  split
  · rename_i enough
    have unit : 1 ≤ selectableUnit geometry * sequenceLength := by
      apply Nat.mul_pos _ width
      cases geometry with
      | none => exact Nat.one_pos
      | some frozen => exact frozen.updateRows_pos
    rw [require_eq_ok enough, checked_ok_bind, toleranceOrDefault,
      if_pos rfl, requireInt_int, checked_ok_bind, require_eq_ok,
      checked_ok_bind, require_eq_ok, checked_ok_bind]
    · exact ⟨_, rfl⟩
    · simp only [PyInt.toInt]
      omega
    · simp only [PyInt.toInt]
      omega
  · rename_i short
    rw [require_eq_error short]
    rfl

/-! ## Inputs -/

/-- Packed directories under the paths of the domains, validated, and
agreeing. -/
structure PackedInputs [DecidableEq Digest]
    (environment : OrderEnvironment Digest Cursor)
    (paths : Domain -> RelativePath)
    (directories : Domain -> Directory Digest Cursor)
    (manifests : Domain -> PackedManifest Digest Cursor) : Prop where
  stored : ∀ domain,
    environment.store (paths domain).path = some (directories domain)
  validated : ∀ domain, validatePackedManifest environment.hash.bytes true
    (directories domain) = .ok (manifests domain)
  domain_eq : ∀ domain, (manifests domain).domain = domain
  agrees : ∀ domain, (manifests domain).Agrees (manifests .python)

/-- How a build ends for packed row counts and the outcome of a selection. -/
def CappedEnds
    (available : Domain -> Nat) (selected : Checked SelectedRows)
    (built : Checked (OrderDirectory Digest)) : Prop :=
  if totalOf available = 0 then
    built = .error (.valueError "Cannot build an empty training order")
  else if ∀ domain ∈ Domain.order, available domain ≤ maxRowId then
    match selected with
    | .error error => built = .error error
    | .ok _ => ∃ directory, built = .ok directory
  else
    built = .error
      (.valueError "A packed domain contains too many addressable rows")

/-! ## Counting -/

namespace PackedInputs

variable [DecidableEq Digest]
variable {environment : OrderEnvironment Digest Cursor}
variable {paths : Domain -> RelativePath}
variable {directories : Domain -> Directory Digest Cursor}
variable {manifests : Domain -> PackedManifest Digest Cursor}

variable (inputs : PackedInputs environment paths directories manifests)

include inputs

/-- The loop over the packed manifests finds them. -/
theorem loadPackedInputs_eq :
    ∃ packed, loadPackedInputs environment.store paths = .ok packed ∧
      directories = (fun domain => (packed domain).directory) ∧
      manifests = fun domain => (packed domain).manifest := by
  choose documents read parsed using fun domain =>
    (validatePackedManifest_eq_ok_iff.mp (inputs.validated domain)).1
  refine ⟨fun domain =>
    ⟨directories domain, documents domain, manifests domain⟩,
    loadPackedInputs_eq_ok.mpr ⟨?_, inputs.agrees⟩, rfl, rfl⟩
  intro domain
  exact loadPackedInput_eq_ok.mpr
    ⟨inputs.stored domain, read domain, parsed domain, inputs.domain_eq domain⟩

theorem opens (domain : Domain) :
    Opens (manifests domain) (directories domain) := by
  obtain ⟨parsed, valid⟩ :=
    validatePackedManifest_eq_ok_iff.mp (inputs.validated domain)
  exact valid.opens parsed

/-- References to packed rows are counted. -/
theorem counts
    {references : List Nat}
    (addressed : ∀ reference ∈ references, ∃ domain row,
      decodeReference reference = (domain.id, row) ∧
        row < (manifests domain).rows) :
    countSupervisedTokensForReferences references directories
        (manifests .python).sequenceLength =
      .ok (supervisedIn manifests directories references) := by
  have widths (domain : Domain) : (manifests domain).sequenceLength =
      (manifests .python).sequenceLength :=
    (inputs.agrees domain).sequenceLength
  apply (countSupervisedTokens_eq_ok inputs.opens widths).mpr
  refine ⟨fun reference member => ?_, rfl⟩
  obtain ⟨domain, row, decoded, bound⟩ := addressed reference member
  obtain ⟨-, valid⟩ :=
    validatePackedManifest_eq_ok_iff.mp (inputs.validated domain)
  exact ⟨domain, row, ⟨decoded, bound⟩, (valid.rows row bound).startsValid⟩

section Choice

variable {selected : Domain -> Nat} {references : OrderReferences}
variable {chosen rest : Domain -> List Nat}
variable (choice : RowChoice (fun domain => (manifests domain).rows) selected
  references chosen rest)
variable (addressable : ∀ domain, (manifests domain).rows ≤ maxRowId)

include choice addressable

/-- Selected and surplus rows supervise what the directories hold. -/
theorem supervised_eq (domain : Domain) :
    supervisedIn manifests directories references.selected domain +
        supervisedIn manifests directories references.surplus domain =
      (manifests domain).validLossTokens := by
  obtain ⟨-, valid⟩ :=
    validatePackedManifest_eq_ok_iff.mp (inputs.validated domain)
  exact (@RowChoice.supervisedIn_selected_add_surplus _ _ _ _ _ _ _ choice
    addressable manifests directories domain).trans
      valid.sum_rowSupervisedLabels_eq

/-- Either side of a selection is counted, and tells the supervised tokens of
the selected rows. -/
theorem selectedSupervisedTokens_eq
    {packed : Domain -> PackedInput Digest Cursor}
    {selection : SelectedRows}
    (held : directories = fun domain => (packed domain).directory)
    (declared : manifests = fun domain => (packed domain).manifest)
    (targeted : selection.target.isNone = false) :
    selectedSupervisedTokens packed (manifests .python).sequenceLength
        selection references =
      .ok fun domain => (supervisedIn manifests directories
        references.selected domain : Int) := by
  have both := inputs.supervised_eq choice addressable
  unfold selectedSupervisedTokens
  rw [if_neg (by rw [targeted]; exact Bool.false_ne_true), ← held]
  split
  · rw [inputs.counts fun reference member =>
      choice.decode_surplus addressable member, checked_ok_bind,
      checked_pure_eq_ok]
    funext domain
    have parts := both domain
    rw [declared] at parts ⊢
    dsimp only at parts ⊢
    omega
  · rw [inputs.counts fun reference member =>
      choice.decode_selected addressable member, checked_ok_bind]
    rfl

end Choice

/-- The rows that a capped selection drops are counted. -/
theorem exists_droppedSupervisedTokens
    {packed : Domain -> PackedInput Digest Cursor}
    {geometry : Option FrozenGeometry} {totalRows : Nat}
    {references : List Nat}
    (held : directories = fun domain => (packed domain).directory)
    (updates : ∀ frozen, geometry = some frozen ->
      1 ≤ frozen.optimizerUpdates totalRows)
    (addressed : ∀ reference ∈ references, ∃ domain row,
      decodeReference reference = (domain.id, row) ∧
        row < (manifests domain).rows) :
    ∃ dropped, droppedSupervisedTokens packed
      (manifests .python).sequenceLength geometry totalRows references =
        .ok dropped := by
  cases geometry with
  | none => exact ⟨_, rfl⟩
  | some frozen =>
      unfold droppedSupervisedTokens
      dsimp only
      rw [require_eq_ok (updates frozen rfl), checked_ok_bind, ← held,
        inputs.counts fun reference member =>
          addressed reference (List.mem_of_mem_drop member)]
      exact ⟨_, rfl⟩

/-! ## Building -/

/-- A build for a target ends as its selection does. -/
theorem buildTrainingOrder_capped
    {arguments : OrderArguments} {output : OrderDirectory Digest}
    {geometry : Option FrozenGeometry} {weights : DomainWeights}
    (isEmpty : output.IsEmpty)
    (mapping : arguments.manifests = .mapping paths)
    (frozen : requireGeometry arguments.frozenGlobalMicrobatchRows
      arguments.frozenGradientAccumulationSteps = .ok geometry)
    (weighted : optionalWeights arguments.expectedWeights =
      .ok (some weights))
    (targeted : arguments.expectedTotalInputTokens ≠ .null) :
    CappedEnds (fun domain => (manifests domain).rows)
      (selectCapped (fun domain => (manifests domain).rows)
        (manifests .python).sequenceLength (some weights) geometry
        arguments.expectedTotalInputTokens arguments.inputTokenTolerance)
      (buildTrainingOrder environment arguments output) := by
  obtain ⟨packed, loaded, held, declared⟩ := inputs.loadPackedInputs_eq
  subst held declared
  unfold buildTrainingOrder
  rw [require_eq_ok isEmpty, checked_ok_bind]
  unfold draftTrainingOrder
  rw [mapping, DomainField.mapping?_mapping, requireObject_some,
    checked_ok_bind, frozen, checked_ok_bind, loaded, checked_ok_bind]
  dsimp only
  unfold CappedEnds
  split
  · rename_i nothing
    rw [require_eq_error (by omega)]
    rfl
  · rename_i something
    rw [require_eq_ok (by omega), checked_ok_bind]
    split
    · rename_i addressable
      rw [require_eq_ok addressable, checked_ok_bind, weighted,
        checked_ok_bind, selectRows, if_neg targeted]
      cases selected : selectCapped (fun domain =>
          (packed domain).manifest.rows)
        (packed .python).manifest.sequenceLength (some weights) geometry
        arguments.expectedTotalInputTokens arguments.inputTokenTolerance with
      | error error => rfl
      | ok selection =>
          obtain ⟨_, target, equal, capped⟩ := selectCapped_eq_ok selected
          obtain ⟨chosen, rest, choice⟩ := rowChoice_capped
            environment.shuffles arguments.seed capped.enough
          have within (domain : Domain) :
              (packed domain).manifest.rows ≤ maxRowId :=
            addressable domain (Domain.mem_order domain)
          have supervised := inputs.supervised_eq choice within
          have aims : selection.target.isNone = false := by
            rw [capped.target_eq]
            rfl
          have updates (frozen : FrozenGeometry)
              (same : geometry = some frozen) :
              1 ≤ frozen.optimizerUpdates selection.totalRows := by
            have rows := capped.totalRows_eq
            have positive := capped.totalRows_pos
            rw [same] at rows
            apply Nat.one_le_iff_ne_zero.mpr
            intro missing
            have updates : target.expectedTotal /
                (packed .python).manifest.sequenceLength /
                  frozen.updateRows = 0 := by
              rw [FrozenGeometry.optimizerUpdates, rows, selectableRows,
                Nat.mul_div_cancel _ frozen.updateRows_pos] at missing
              exact missing
            rw [selectableRows, updates, Nat.zero_mul] at rows
            omega
          obtain ⟨dropped, droppedEq⟩ :=
            inputs.exists_droppedSupervisedTokens rfl updates
              fun reference member => choice.decode_selected within member
          have drawn : orderReferences environment.shuffles arguments.seed
              (fun domain => (packed domain).manifest.rows)
              selection.rowsPerDomain arguments.expectedTotalInputTokens =
            .ok (cappedReferences environment.shuffles arguments.seed
              (fun domain => (packed domain).manifest.rows)
              selection.rowsPerDomain) := if_neg targeted
          dsimp only
          rw [checked_ok_bind, drawn, checked_ok_bind,
            inputs.selectedSupervisedTokens_eq choice within rfl rfl aims,
            checked_ok_bind, require_eq_ok, checked_ok_bind, droppedEq]
          · exact ⟨_, rfl⟩
          · intro domain _
            have parts := supervised domain
            dsimp only at parts ⊢
            omega
    · rename_i unaddressable
      rw [require_eq_error unaddressable]
      rfl

end PackedInputs

end CodingLlm
