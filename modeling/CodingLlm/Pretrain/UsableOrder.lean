import CodingLlm.Pretrain.DraftManifest
import CodingLlm.Pretrain.ExactlyOnce

/-!
# When a built order is usable

The order that a successful build writes is accepted by the validator and
loaded by the sampler exactly when the seed is not negative and the tolerance
is no boolean.
-/

namespace CodingLlm

open Words

variable {Digest Cursor : Type}

section Usable

variable [DecidableEq Digest]
variable {environment : OrderEnvironment Digest Cursor}
variable {arguments : OrderArguments} {draft : OrderDraft Digest Cursor}

/-- What a build writes. -/
def OrderDraft.directory
    (draft : OrderDraft Digest Cursor) (hash : FileHash Digest Cursor)
    (numpyVersion : String) : OrderDirectory Digest where
  manifest := some (draft.document hash numpyVersion)
  payload := some (encodeWords referenceItemSize draft.references)
  others := []

/-! ## A loadable draft is accepted -/

section Accepted

variable (drafted : Drafted environment arguments draft)
variable (inputs : ValidatedInputs environment draft)
variable (loadable : draft.Loadable)

/-- The manifest of a draft in its environment. -/
abbrev Drafted.orderManifest : OrderManifest Digest :=
  draft.manifest (drafted.exact inputs) environment.hash
    environment.numpyVersion environment.numpyVersion_ne_empty

include loadable in
theorem Drafted.loads (verifyChecksum : Bool) :
    Loads environment.hash.bytes verifyChecksum
      (draft.directory environment.hash environment.numpyVersion)
      (drafted.orderManifest inputs)
      (encodeWords referenceItemSize draft.references) where
  recorded := ⟨_, rfl, loadable.recorded (drafted.exact inputs)
    environment.hash environment.numpyVersion_ne_empty drafted.selection⟩
  payload := rfl
  length_eq := length_encodeWords _ _
  checksum := fun _ => rfl

theorem Drafted.weightsRecorded :
    WeightsRecorded (drafted.orderManifest inputs) := by
  intro present
  have written : (drafted.orderManifest inputs).expectedInputTokenWeights =
      draft.weights.elim .null fun weights => .ofWeights weights.weight := by
    change (draft.document environment.hash
      environment.numpyVersion).expectedInputTokenWeights = _
    unfold OrderDraft.document
    dsimp only
    cases draft.weights <;> rfl
  rw [written] at present ⊢
  have rows : (drafted.orderManifest inputs).rowsPerDomain =
      draft.selection.rowsPerDomain :=
    funext (drafted.exact inputs).rowsIn_eq
  rw [rows]
  cases found : draft.weights with
  | none =>
      rw [found] at present
      exact absurd trivial present
  | some weights =>
      refine ⟨weights, normalizeDomainWeights_ofWeights weights,
        DomainField.allClose_ofWeights weights.weight, ?_⟩
      cases drafted.selection with
      | all _ rows mixture =>
          rw [rows]
          exact mixture weights found
      | capped _ _ _ _ weighted selected =>
          rw [found] at weighted
          cases weighted
          rw [selected.rowsPerDomain_eq]
          exact validateRowMixture_weightedRowCounts _ _

theorem Drafted.tokensRecorded :
    TokensRecorded (drafted.orderManifest inputs) := by
  have exact := drafted.exact inputs
  have positive : (draft.common.sequenceLength : Rat) ≠ 0 := by
    have twoLe := draft.common.two_le_sequenceLength
    exact_mod_cast (by omega : draft.common.sequenceLength ≠ 0)
  refine ⟨?_, ?_, ?_⟩
  · refine EqualsInts.of_eq fun domain => ?_
    change (draft.selection.rowsPerDomain domain : Int) *
        draft.common.sequenceLength =
      (rowsIn draft.references domain * draft.common.sequenceLength : Nat)
    rw [exact.rowsIn_eq, Nat.cast_mul]
  · refine ⟨_, rfl, fun domain _ => ?_⟩
    have share : ((rowsIn draft.references domain *
          draft.common.sequenceLength : Nat) : Rat) /
        (draft.references.length * draft.common.sequenceLength) =
      ((draft.selection.rowsPerDomain domain : Int) : Rat) /
        draft.selection.totalRows := by
      rw [exact.rowsIn_eq, exact.length_eq, Nat.cast_mul,
        mul_div_mul_right _ _ positive, Int.cast_natCast]
    change PyValue.IsClose _ (((rowsIn draft.references domain *
          draft.common.sequenceLength : Nat) : Rat) /
        (draft.references.length * draft.common.sequenceLength))
    rw [share]
    exact PyValue.isClose_float _
  · refine ⟨_, rfl, fun domain _ => ?_⟩
    have share : shareOf
        (supervisedIn draft.manifests draft.directories draft.references
          domain)
        (totalOf (supervisedIn draft.manifests draft.directories
          draft.references) : Nat) =
      shareOf (draft.selectedSupervised domain)
        (totalOf draft.selectedSupervised) := by
      rw [funext exact.selectedSupervised_eq]
      exact congrArg _ (totalOf_natCast _).symm
    change PyValue.IsClose _ (shareOf (supervisedIn draft.manifests
      draft.directories draft.references domain) _)
    exact share ▸ PyValue.isClose_float _

theorem Drafted.scanned :
    Scanned (drafted.orderManifest inputs) draft.references where
  addressable := drafted.addressable
  distinct := by
    refine ⟨(drafted.exact inputs).nodup, fun reference member => ?_⟩
    obtain ⟨domain, row, addresses⟩ :=
      (drafted.exact inputs).addresses reference member
    exact ⟨domain, row, addresses.decode_eq, addresses.row_lt⟩
  rowsIn_eq := rfl
  consumed := by
    intro frozen member
    obtain ⟨geometry, -, rfl⟩ := Option.map_eq_some_iff.mp member
    rfl

theorem Drafted.resolves (domain : Domain) :
    Resolves environment.hash environment.store
      draft.common.tokenizerManifestSha256
      ((drafted.orderManifest inputs).datasetManifests domain)
      (draft.directories domain) (draft.manifests domain) := by
  obtain ⟨stored, read, parsed, -⟩ :=
    loadPackedInput_eq_ok.mp (drafted.packed domain)
  exact ⟨(draft.paths domain).relative, stored, ⟨_, read, rfl, parsed⟩,
    (drafted.agrees domain).tokenizerManifestSha256⟩

theorem Drafted.packedFields (domain : Domain) :
    PackedFields (drafted.orderManifest inputs) domain
      (draft.manifests domain) := by
  obtain ⟨-, -, -, same⟩ := loadPackedInput_eq_ok.mp (drafted.packed domain)
  have agrees := drafted.agrees domain
  exact ⟨same, rfl, rfl, agrees.split, agrees.sequenceLength,
    congrArg Nat.cast agrees.vocabSize, agrees.eosTokenId,
    agrees.tokenizerManifestSha256⟩

include drafted inputs in
/-- References to existing rows of validated directories are counted. -/
theorem Drafted.counted
    {reference row : Nat} {domain : Domain}
    (decoded : decodeReference reference = (domain.id, row))
    (bound : row < draft.availableRows domain) :
    Counted draft.manifests draft.directories draft.common.sequenceLength
      reference :=
  (counted_iff_countable inputs.opens drafted.sequenceLength_eq).mpr
    (inputs.countable decoded bound)

include drafted inputs in
theorem Drafted.counted_of_mem {reference : Nat}
    (member : reference ∈ draft.references) :
    Counted draft.manifests draft.directories draft.common.sequenceLength
      reference := by
  obtain ⟨domain, row, addresses⟩ :=
    (drafted.exact inputs).addresses reference member
  exact drafted.counted inputs addresses.decode_eq addresses.row_lt

theorem Drafted.sideCounted :
    SideCounted draft.manifests draft.directories
      (drafted.orderManifest inputs) draft.references
      (surplusOf (drafted.orderManifest inputs) draft.references) := by
  have choice := (drafted.scanned inputs).distinct.rowChoice
    drafted.addressable
  refine ⟨fun _ => ⟨fun reference member => ?_, funext fun domain => ?_⟩,
    fun _ => ⟨fun reference member =>
      drafted.counted_of_mem inputs member, rfl⟩⟩
  · obtain ⟨domain, row, decoded, bound⟩ :=
      choice.decode_surplus drafted.addressable member
    exact drafted.counted inputs decoded bound
  · have both := @RowChoice.supervisedIn_selected_add_surplus _ _ _ _ _ _ _
      choice drafted.addressable draft.manifests draft.directories domain
    have audited := inputs.sum_rowSupervisedLabels domain
    change draft.availableSupervised domain - supervisedIn draft.manifests
      draft.directories draft.references domain = _
    rw [← audited]
    exact Nat.sub_eq_of_eq_add' both.symm

include loadable in
/-- The validator accepts what a loadable draft writes. -/
theorem Drafted.accepted :
    validateTrainingOrder environment.hash environment.store true
        (draft.directory environment.hash environment.numpyVersion) =
      .ok (drafted.orderManifest inputs) := by
  have decoded := (drafted.exact inputs).decodeWords_payload
  refine validateTrainingOrder_eq_ok.mpr
    ⟨_, draft.directories, draft.manifests, drafted.loads inputs loadable true,
      drafted.weightsRecorded inputs, drafted.tokensRecorded inputs, ?_,
      drafted.resolves inputs, drafted.packedFields inputs, ?_, ?_⟩
  · rw [decoded]
    exact drafted.scanned inputs
  · rw [decoded]
    intro frozen member
    obtain ⟨geometry, -, rfl⟩ := Option.map_eq_some_iff.mp member
    exact ⟨fun reference inDropped => drafted.counted_of_mem inputs
      (List.mem_of_mem_drop inDropped), rfl⟩
  · rw [decoded]
    exact drafted.sideCounted inputs

end Accepted

/-! ## An accepted draft is loadable -/

omit [DecidableEq Digest] in
/-- Whatever is loaded from a draft, its seed and tolerance are not refused. -/
theorem OrderDraft.loadable_of_loads
    {verifyChecksum : Bool} {manifest : OrderManifest Digest}
    {bytes : List Byte}
    (loads : Loads environment.hash.bytes verifyChecksum
      (draft.directory environment.hash environment.numpyVersion) manifest
      bytes) : draft.Loadable := by
  obtain ⟨document, found, recorded⟩ := loads.recorded
  cases found
  refine ⟨?_, fun target member => ?_⟩
  · have seed : draft.seed = manifest.seed :=
      PyValue.int.inj recorded.header.seed
    omega
  · have aims : draft.selection.target = some target := member
    obtain ⟨budget, found, kept⟩ := recorded.budget
    cases found
    cases targeted : manifest.target with
    | none =>
        have absent := (kept.untargeted targeted).1
        simp only [OrderDraft.inputTokenBudget, aims] at absent
        cases absent
    | some aim =>
        have tolerance := (kept.targeted aim targeted).tolerance
        simp only [OrderDraft.inputTokenBudget, aims] at tolerance
        cases found : target.tolerance with
        | int value => rfl
        | bool value =>
            rw [found] at tolerance
            cases tolerance

/-- The tolerance of a draft is a boolean when the argument is one. -/
theorem Drafted.loadable_iff
    (drafted : Drafted environment arguments draft) :
    draft.Loadable ↔
      0 ≤ arguments.seed ∧
        ∀ flag, arguments.inputTokenTolerance ≠ .bool flag := by
  obtain ⟨_, -, selected, -⟩ := drafted.references
  have seed := drafted.seed
  cases selected with
  | all _ selected _ =>
      obtain ⟨noTolerance, selection, -⟩ := selectAll_eq_ok selected
      constructor
      · intro loadable
        exact ⟨seed ▸ loadable.seed_nonneg, by rw [noTolerance]; exact nofun⟩
      · rintro ⟨nonneg, -⟩
        refine ⟨seed ▸ nonneg, fun target aims => ?_⟩
        rw [selection] at aims
        cases aims
  | capped _ selected _ =>
      obtain ⟨weights, target, -, capped⟩ := selectCapped_eq_ok selected
      have tolerance := capped.tolerance
      constructor
      · intro loadable
        refine ⟨seed ▸ loadable.seed_nonneg, fun flag isFlag => ?_⟩
        have plain := loadable.tolerance target capped.target_eq
        rw [isFlag, toleranceOrDefault, if_neg (by nofun)] at tolerance
        cases found : target.tolerance with
        | int value =>
            rw [found] at tolerance
            cases tolerance
        | bool value =>
            rw [found] at plain
            cases plain
      · rintro ⟨nonneg, noFlag⟩
        refine ⟨seed ▸ nonneg, fun aim aims => ?_⟩
        rw [capped.target_eq] at aims
        cases aims
        cases found : target.tolerance with
        | int value => rfl
        | bool value =>
            rw [found, toleranceOrDefault] at tolerance
            split at tolerance
            · cases tolerance
            · exact absurd tolerance (noFlag value)

/-! ## Usable orders -/

/-- An order is accepted by the validator and loaded by every rank of every
sampler whose geometry fits. -/
structure Usable
    (environment : OrderEnvironment Digest Cursor)
    (geometry : Option FrozenGeometry) (directory : OrderDirectory Digest) :
    Prop where
  validated : ∃ manifest, validateTrainingOrder environment.hash
    environment.store true directory = .ok manifest
  sampled : ∀ rows steps worldSize rank verifyChecksum,
    DistributedBatchSampler.Fits geometry rows steps worldSize ->
    rank < worldSize ->
    ∃ sampler, DistributedBatchSampler.new environment.hash directory
      (DistributedBatchSampler.arguments rows steps worldSize rank
        verifyChecksum) .none = .ok sampler

end Usable

/-! ## Small orders -/

/-- The small arguments with a negative seed. -/
def negativeSeedArguments : OrderArguments :=
  { smallOrderArguments with seed := -1 }

/-- The order with the negative seed, if it is built and the validator does
not accept it. -/
def negativeSeedRefused : Checked (OrderDirectory (List Byte)) := do
  let directory ←
    buildTrainingOrder smallEnvironment negativeSeedArguments .empty
  let _ ← require
    ((validateTrainingOrder smallEnvironment.hash smallEnvironment.store true
      directory).isOk = false)
    (.assertionError "accepted")
  return directory

end CodingLlm
