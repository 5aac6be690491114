import CodingLlm.Pretrain.OrderSoundness

/-!
# Batches of a training loader

`create_training_dataloader` joins an order, the packed directories it refers
to and the collator.  Over directories that a writer has finished every batch
loads, and every row of it supervises something: documents are not empty, so of
two adjacent stream positions at most one starts a document.
-/

namespace CodingLlm

open CrashLogic Words Slices PackedStream

variable {Digest Cursor : Type}

/-! ## The loader -/

/-- Batches of the loader that `create_training_dataloader` constructs: its
dataset, and its collator on the references that a sampler yields. -/
def trainingBatch [DecidableEq Digest]
    (hash : FileHash Digest Cursor) (store : PackedStore Digest Cursor)
    (verifyPayloadChecksums : Bool) (directory : OrderDirectory Digest)
    (references : List Nat) : Checked Batch := do
  let directories ← resolveOrderManifests hash store directory
  let dataset ←
    DomainMixtureDataset.new hash.bytes verifyPayloadChecksums directories
  let first := (dataset.datasets .python).manifest
  let collator ← PackedBatchCollator.new (.int first.sequenceLength)
    (.int first.vocabSize) first.eosTokenId.toValue
  let samples ← references.mapM (dataset.getItem directories)
  collator.call samples

/-- A directory on which some session has ended with a finished writer, after
any killed sessions. -/
def WriterFinished [DecidableEq Digest]
    (sha256 : List Byte -> Digest) (directory : Directory Digest Cursor) :
    Prop :=
  ∃ (config : WriterConfig Digest) (arguments : WriterArguments Digest)
      (policy : DrainPolicy) (resume : Bool)
      (caller : PackedShardWriter Digest Cursor -> List (Call Cursor))
      (before : Directory Digest Cursor)
      (writer : PackedShardWriter Digest Cursor),
    Program.Survives (AnySession sha256 config) Directory.AfterKill ∅
      before ∧
    arguments.check = .ok config ∧
    ((session sha256 arguments policy resume caller).run before).result =
      .ok writer ∧
    writer.finished = true ∧
    directory = ((session sha256 arguments policy resume caller).run
      before).final

/-! ## Supervised rows -/

/-- Documents that are not empty do not start at adjacent positions. -/
theorem not_isDocumentStart_succ
    {documents : List (List Nat)} {index : Nat}
    (nonempty : ∀ document ∈ documents, document ≠ [])
    (start : IsDocumentStart documents index) :
    ¬IsDocumentStart documents (index + 1) := by
  obtain ⟨count, inside, rfl⟩ := start
  have filled := List.length_pos_of_ne_nil
    (nonempty documents[count] (List.getElem_mem inside))
  apply not_isDocumentStart_between (Nat.lt_succ_self _)
  rw [position_succ inside]
  omega

/-- A row with a column that does not start a segment supervises a label. -/
theorem maskedLabels_lt
    {sequenceLength column : Nat} {starts : List Byte}
    (inside : column < sequenceLength)
    (unmasked : bitAt starts (column + 1) = false) :
    maskedLabels sequenceLength starts < sequenceLength := by
  unfold maskedLabels
  have flags : (unpackBits (sequenceLength + 1) starts).tail[column]? =
      some false := by
    rw [List.getElem?_tail, unpackBits, List.getElem?_map,
      List.getElem?_range (by omega), Option.map_some, unmasked]
  have length : (unpackBits (sequenceLength + 1) starts).tail.length =
      sequenceLength := by
    simp [unpackBits]
  have few : (unpackBits (sequenceLength + 1) starts).tail.countP id <
      (unpackBits (sequenceLength + 1) starts).tail.length := by
    rw [List.countP_lt_length_iff]
    exact ⟨false, List.mem_of_getElem? flags, rfl⟩
  omega

namespace Construction

variable {construction : Construction Digest Cursor}
variable {cursor : Option Cursor} {directory : Directory Digest Cursor}

/-- Every row of a finished construction supervises a label. -/
theorem Finished.rowSupervisedLabels_pos
    (finished : construction.Finished cursor directory)
    {row : Nat}
    (bound : row < construction.rowsAt construction.documents.length) :
    1 ≤ rowSupervisedLabels (construction.packedManifest cursor) directory
      row := by
  have width := construction.config.two_le_sequenceLength
  have exact : ExactRow construction.config.sequenceLength
      construction.config.eosTokenId construction.documents row
      (packedRow (construction.packedManifest cursor) directory row) := by
    rw [finished.packedRow_eq bound]
    exact streamRow_exact (row_inside_stream bound)
  obtain ⟨column, inside, unmasked⟩ :
      ∃ column < construction.config.sequenceLength,
        bitAt (packedRow (construction.packedManifest cursor) directory
          row).starts (column + 1) = false := by
    by_cases first : bitAt (packedRow (construction.packedManifest cursor)
        directory row).starts 1 = true
    · refine ⟨1, by omega, ?_⟩
      rw [← Bool.not_eq_true, exact.bitAt_iff]
      rintro ⟨_, second⟩
      have start := ((exact.bitAt_iff 1).mp first).2.resolve_left (by decide)
      exact not_isDocumentStart_succ construction.documents_ne start
        (second.resolve_left (by decide))
    · exact ⟨0, by omega, by simpa using first⟩
  exact Nat.sub_pos_of_lt (maskedLabels_lt inside unmasked)

end Construction

/-! ## Finished directories -/

/-- What loaders and trainers ask of a packed directory. -/
structure Loadable [DecidableEq Digest]
    (sha256 : List Byte -> Digest) (directory : Directory Digest Cursor)
    (manifest : PackedManifest Digest Cursor) : Prop where
  validates : ∀ verifyChecksums,
    validatePackedManifest sha256 verifyChecksums directory = .ok manifest
  eosTokenId : ∃ value, manifest.eosTokenId = .int value
  supervised : ∀ row < manifest.rows,
    1 ≤ rowSupervisedLabels manifest directory row

/-- A directory of a finished writer is loadable. -/
theorem WriterFinished.loadable [DecidableEq Digest]
    {sha256 : List Byte -> Digest} {directory : Directory Digest Cursor}
    {manifest : PackedManifest Digest Cursor}
    (finished : WriterFinished sha256 directory)
    (parsed : ∃ document, readManifest directory = .ok document ∧
      parsePackedManifest document = .ok manifest) :
    Loadable sha256 directory manifest := by
  obtain ⟨config, arguments, policy, resume, caller, before, writer, history,
    accepts, ended, finished, rfl⟩ := finished
  obtain ⟨construction, cursor, rfl, _, complete⟩ :=
    Construction.exists_complete_of_finished history accepts ended finished
  have validates := complete.validates true
  obtain ⟨⟨document, read, parse⟩, _⟩ :=
    validatePackedManifest_eq_ok_iff.mp validates
  obtain ⟨other, readAgain, parseAgain⟩ := parsed
  rw [read] at readAgain
  cases readAgain
  rw [parse] at parseAgain
  cases parseAgain
  refine ⟨complete.validates, ⟨_, rfl⟩, ?_⟩
  intro row bound
  exact complete.toFinished.rowSupervisedLabels_pos bound

namespace Loadable

variable [DecidableEq Digest]
variable {sha256 : List Byte -> Digest} {directory : Directory Digest Cursor}
variable {manifest : PackedManifest Digest Cursor}

theorem validated (loadable : Loadable sha256 directory manifest) :
    Validated sha256 true manifest directory :=
  (validatePackedManifest_eq_ok_iff.mp (loadable.validates true)).2

theorem opens (loadable : Loadable sha256 directory manifest) :
    Opens manifest directory :=
  ⟨(validatePackedManifest_eq_ok_iff.mp (loadable.validates true)).1,
    loadable.validated.exact⟩

theorem dataset_eq_ok
    (loadable : Loadable sha256 directory manifest)
    (verifyChecksums : Bool) :
    PackedShardDataset.new sha256 verifyChecksums directory =
      .ok manifest.dataset :=
  CodingLlm.new_eq_ok.mpr
    ⟨fun _ => ⟨manifest, loadable.validates true⟩, manifest, loadable.opens,
      rfl⟩

end Loadable

/-! ## Batches -/

/-- The sample that a reference addresses. -/
def sampleOf
    (manifests : Domain -> PackedManifest Digest Cursor)
    (directories : Domain -> Directory Digest Cursor) (reference : Nat) :
    SampleRow :=
  let domain := (Domain.ofId? (decodeReference reference).1).getD .python
  (packedRow (manifests domain) (directories domain)
    (decodeReference reference).2).sample domain.id reference

theorem sampleOf_eq
    {manifests : Domain -> PackedManifest Digest Cursor}
    {directories : Domain -> Directory Digest Cursor}
    {reference row : Nat} {domain : Domain}
    (addresses : Addresses manifests reference domain row) :
    sampleOf manifests directories reference =
      (packedRow (manifests domain) (directories domain) row).sample
        domain.id reference := by
  unfold sampleOf
  rw [addresses.decode_eq, Domain.ofId?_id]
  rfl

section Batches

variable [DecidableEq Digest]
variable {hash : FileHash Digest Cursor} {store : PackedStore Digest Cursor}
variable {directory : OrderDirectory Digest} {manifest : OrderManifest Digest}
variable {bytes : List Byte}
variable {directories : Domain -> Directory Digest Cursor}
variable {manifests : Domain -> PackedManifest Digest Cursor}

theorem AcceptedOrder.resolveOrderManifests_eq
    (accepted : AcceptedOrder hash store directory manifest bytes directories
      manifests) :
    resolveOrderManifests hash store directory = .ok directories := by
  have reloaded : loadOrderManifest hash.bytes false directory =
      .ok (manifest, bytes) :=
    loadOrderManifest_eq_ok.mpr ⟨accepted.loads.recorded,
      accepted.loads.payload, accepted.loads.length_eq, nofun⟩
  unfold resolveOrderManifests
  rw [reloaded, checked_ok_bind]
  rw [forDomains_eq_ok]
  intro domain
  exact resolveDataset_eq_ok.mpr ⟨_, accepted.resolves domain⟩

/-- The loader's dataset opens. -/
theorem AcceptedOrder.dataset_eq_ok
    (accepted : AcceptedOrder hash store directory manifest bytes directories
      manifests)
    (loadable : ∀ domain, Loadable hash.bytes (directories domain)
      (manifests domain))
    (verifyChecksums : Bool) :
    DomainMixtureDataset.new hash.bytes verifyChecksums directories =
      .ok ⟨fun domain => (manifests domain).dataset⟩ := by
  have shared (domain : Domain) :
      DomainMixtureDataset.SharedKeys (manifests domain)
        (manifests .python) := by
    have fields := accepted.fields domain
    have first := accepted.fields .python
    refine ⟨?_, ?_, ?_, ?_, ?_⟩
    · rw [fields.sequenceLength, first.sequenceLength]
    · have same := fields.vocabSize.trans first.vocabSize.symm
      exact_mod_cast same
    · rw [fields.eosTokenId, first.eosTokenId]
    · rw [fields.split, first.split]
    · rw [fields.tokenizerManifestSha256, first.tokenizerManifestSha256]
  have checked (domain : Domain) : DomainMixtureDataset.checkDataset
      (manifests .python) (manifests domain) domain = .ok () := by
    unfold DomainMixtureDataset.checkDataset
    rw [require_eq_ok (accepted.fields domain).domain_eq, checked_ok_bind,
      require_eq_ok (shared domain), checked_ok_bind]
    rfl
  unfold DomainMixtureDataset.new
  rw [(loadable .python).dataset_eq_ok, checked_ok_bind,
    (loadable .otherCode).dataset_eq_ok, checked_ok_bind,
    (loadable .english).dataset_eq_ok, checked_ok_bind]
  simp only [PackedManifest.dataset_manifest, checked, checked_ok_bind]
  congr 2
  funext domain
  cases domain <;> rfl

/-- The loader raises on no references to existing rows. -/
theorem AcceptedOrder.trainingBatch_eq_ok
    (accepted : AcceptedOrder hash store directory manifest bytes directories
      manifests)
    (loadable : ∀ domain, Loadable hash.bytes (directories domain)
      (manifests domain))
    (verifyPayloadChecksums : Bool) {references : List Nat}
    (nonempty : references ≠ [])
    (addressed : ∀ reference ∈ references, ∃ domain row,
      Addresses manifests reference domain row) :
    trainingBatch hash store verifyPayloadChecksums directory references =
      .ok (PackedBatchCollator.batch manifest.sequenceLength
        (references.map (sampleOf manifests directories))) := by
  have samples : references.mapM (DomainMixtureDataset.getItem
      ⟨fun domain => (manifests domain).dataset⟩ directories) =
        .ok (references.map (sampleOf manifests directories)) := by
    apply checked_mapM_of_forall
    intro reference member
    obtain ⟨domain, row, addresses⟩ := addressed reference member
    unfold DomainMixtureDataset.getItem
    rw [addresses.decode_eq]
    simp only [Domain.ofId?_id, requireObject_some, checked_ok_bind]
    rw [getItem_dataset (loadable domain).validated.exact addresses.row_lt,
      checked_ok_bind, sampleOf_eq addresses]
    rfl
  obtain ⟨eos, eosEq⟩ := (loadable .python).eosTokenId
  have collator : PackedBatchCollator.new
      (.int (manifests .python).sequenceLength)
      (.int (manifests .python).vocabSize)
      (manifests .python).eosTokenId.toValue =
        .ok ⟨manifest.sequenceLength, some (manifests .python).vocabSize,
          some (manifests .python).eosTokenId.toInt⟩ := by
    have bounds := (manifests .python).eosTokenId_bounds
    rw [eosEq] at bounds ⊢
    rw [← (accepted.fields .python).sequenceLength]
    exact PackedBatchCollator.new_eq_ok
      (manifests .python).two_le_sequenceLength
      (manifests .python).vocabSize_bounds bounds
  unfold trainingBatch
  rw [accepted.resolveOrderManifests_eq, checked_ok_bind,
    accepted.dataset_eq_ok loadable, checked_ok_bind]
  simp only [PackedManifest.dataset_manifest]
  rw [collator, checked_ok_bind, samples, checked_ok_bind]
  apply PackedBatchCollator.call_eq_ok
  · simpa using nonempty
  · rw [List.forall_mem_map]
    intro reference member
    obtain ⟨domain, row, addresses⟩ := addressed reference member
    rw [sampleOf_eq addresses]
    have valid := (loadable domain).validated.rows row addresses.row_lt
    have fields := accepted.fields domain
    have first := accepted.fields .python
    unfold PackedRowValid at valid
    unfold PackedBatchCollator.SampleValid
    have vocab : (manifests domain).vocabSize =
        (manifests .python).vocabSize := by
      have same := fields.vocabSize.trans first.vocabSize.symm
      exact_mod_cast same
    rw [fields.sequenceLength, vocab, fields.eosTokenId,
      ← first.eosTokenId] at valid
    exact valid

end Batches

end CodingLlm
