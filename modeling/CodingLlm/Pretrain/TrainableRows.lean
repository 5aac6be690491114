import CodingLlm.Pretrain.Supervision
import CodingLlm.Pretrain.SupervisedTokens

/-!
# Accepted directories are trainable

What `validate_packed_manifest` accepts, the collator collates: over any
division of the rows into batches its loss tokens add up to the audited total,
and so do the supervised tokens counted from references.  The one manifest
field that validation checks less than the collator is the EOS token id, which
may be a JSON boolean.
-/

namespace CodingLlm

open CrashLogic Words Slices

variable {Digest Cursor : Type}

section Batches

variable {manifest : PackedManifest Digest Cursor}
variable {directory : Directory Digest Cursor}
variable {domainId : Nat} {references : Nat -> Nat}

theorem Validated.opens
    {sha256 : List Byte -> Digest} {verifyChecksums : Bool}
    (validated : Validated sha256 verifyChecksums manifest directory)
    (parsed : ∃ document, readManifest directory = .ok document ∧
      parsePackedManifest document = .ok manifest) :
    Opens manifest directory :=
  ⟨parsed, validated.exact⟩

/-- Loss tokens of batches, with the masked labels of their rows, make up all
labels of the rows. -/
theorem sum_numLossTokens
    (domainId : Nat) (references : Nat -> Nat)
    (valid : ∀ row < manifest.rows, PackedRowValid manifest directory row)
    {batches : List (List Nat)}
    (bound : ∀ ids ∈ batches, ∀ row ∈ ids, row < manifest.rows) :
    ((batches.map fun ids =>
        PackedBatchCollator.batch manifest.sequenceLength
          (ids.map (packedSample manifest directory domainId
            references))).map Batch.numLossTokens).sum +
        (batches.flatten.map (rowMaskedLabels manifest directory)).sum =
      batches.flatten.length * manifest.sequenceLength := by
  induction batches with
  | nil => simp
  | cons ids rest inductionHypothesis =>
      rw [List.forall_mem_cons] at bound
      have others := inductionHypothesis bound.2
      have widths : ∀ sample ∈ ids.map (packedSample manifest directory
          domainId references),
          sample.tokens.length = manifest.sequenceLength + 1 := by
        rw [List.forall_mem_map]
        exact fun row member =>
          (valid row (bound.1 row member)).tokens_length
      have first := PackedBatchCollator.numLossTokens_batch widths
      rw [List.map_map, List.length_map] at first
      simp only [List.map_cons, List.sum_cons, List.flatten_cons,
        List.map_append, List.sum_append, List.length_append, Nat.add_mul]
      have masked : (ids.map (rowMaskedLabels manifest directory)).sum =
          (ids.map ((fun row : SampleRow =>
            maskedLabels manifest.sequenceLength row.starts) ∘
              packedSample manifest directory domainId references)).sum := rfl
      omega

/-- Over any division of all rows the loss tokens are the audited total. -/
theorem Validated.sum_numLossTokens_eq
    {sha256 : List Byte -> Digest} {verifyChecksums : Bool}
    (validated : Validated sha256 verifyChecksums manifest directory)
    {batches : List (List Nat)}
    (division : batches.flatten.Perm (List.range manifest.rows)) :
    ((batches.map fun ids =>
        PackedBatchCollator.batch manifest.sequenceLength
          (ids.map (packedSample manifest directory domainId
            references))).map Batch.numLossTokens).sum =
      manifest.validLossTokens := by
  have total := sum_numLossTokens domainId references validated.rows
    (forall_division division)
  rw [(division.map _).sum_eq, validated.masked, division.length_eq,
    List.length_range] at total
  have losses := manifest.loss_eq
  omega

end Batches

/-! ## Counting references -/

section Counting

variable {manifest : PackedManifest Digest Cursor}
variable {directory : Directory Digest Cursor}

/-- References to one domain are counted in its directory only. -/
theorem countSupervisedTokens_congr
    {directories others : Domain -> Directory Digest Cursor}
    {domain : Domain} {references : List Nat} (sequenceLength : Nat)
    (same : directories domain = others domain)
    (inDomain : ∀ reference ∈ references,
      (decodeReference reference).1 = domain.id) :
    countSupervisedTokensForReferences references directories
        sequenceLength =
      countSupervisedTokensForReferences references others
        sequenceLength := by
  have step (counts : Domain -> Nat) {reference : Nat}
      (inside : (decodeReference reference).1 = domain.id) :
      countReference sequenceLength directories counts reference =
        countReference sequenceLength others counts reference := by
    unfold countReference
    simp only [inside, Domain.ofId?_id, requireObject_some, checked_ok_bind,
      same]
  unfold countSupervisedTokensForReferences
  generalize (fun _ : Domain => 0) = start
  induction references generalizing start with
  | nil => rfl
  | cons reference rest inductionHypothesis =>
      rw [List.forall_mem_cons] at inDomain
      rw [List.foldlM_cons, List.foldlM_cons, step start inDomain.1]
      congr 1
      funext counts
      exact inductionHypothesis inDomain.2 counts

/-- Counted over references to all rows of a validated directory, the
supervised tokens are the audited total. -/
theorem Validated.countSupervisedTokens
    {sha256 : List Byte -> Digest} {verifyChecksums : Bool}
    (validated : Validated sha256 verifyChecksums manifest directory)
    (parsed : ∃ document, readManifest directory = .ok document ∧
      parsePackedManifest document = .ok manifest)
    {directories : Domain -> Directory Digest Cursor}
    {domain : Domain} {references : List Nat}
    (at' : directories domain = directory)
    (allRows : (references.map decodeReference).Perm
      ((List.range manifest.rows).map fun row => (domain.id, row))) :
    ∃ counts,
      countSupervisedTokensForReferences references directories
        manifest.sequenceLength = .ok counts ∧
      counts domain = manifest.validLossTokens := by
  have decodes : ∀ reference ∈ references, ∃ row < manifest.rows,
      decodeReference reference = (domain.id, row) := by
    intro reference member
    have inAll := allRows.mem_iff.mp (List.mem_map_of_mem member)
    obtain ⟨row, inRange, equal⟩ := List.mem_map.mp inAll
    exact ⟨row, List.mem_range.mp inRange, equal.symm⟩
  have counted : countSupervisedTokensForReferences references
      (fun _ => directory) manifest.sequenceLength =
        .ok (supervisedIn (fun _ => manifest) (fun _ => directory)
          references) := by
    refine (countSupervisedTokens_eq_ok (fun _ => validated.opens parsed)
      fun _ => rfl).mpr ⟨?_, rfl⟩
    intro reference member
    obtain ⟨row, bound, equal⟩ := decodes reference member
    exact ⟨domain, row, ⟨equal, bound⟩,
      (validated.rows row bound).startsValid⟩
  refine ⟨_, (countSupervisedTokens_congr _ at' ?_).trans counted, ?_⟩
  · intro reference member
    obtain ⟨row, -, equal⟩ := decodes reference member
    rw [equal]
  · rw [supervisedIn_of_decode allRows,
      validated.sum_rowSupervisedLabels_eq]

end Counting

/-! ## Trainability -/

/-- What training asks of an accepted directory: the collator of its manifest
raises on no batch of its rows, and over any division of all rows its loss
tokens are the audited total, as are the tokens counted from references. -/
structure Trainable
    (manifest : PackedManifest Digest Cursor)
    (directory : Directory Digest Cursor) : Prop where
  collates : ∃ dataset collator,
    PackedShardDataset.load directory = .ok dataset ∧
    PackedBatchCollator.new (.int manifest.sequenceLength)
      (.int manifest.vocabSize) manifest.eosTokenId.toValue = .ok collator ∧
    ∀ (domainId : Nat) (references : Nat -> Nat),
      (∀ ids : List Nat, ids ≠ [] -> (∀ row ∈ ids, row < dataset.length) ->
        ∃ batch, collator.collateRows dataset directory domainId references
          ids = .ok batch) ∧
      ∀ batches : List (List Nat), (∀ ids ∈ batches, ids ≠ []) ->
        batches.flatten.Perm (List.range dataset.length) ->
        ∃ tensors, batches.mapM (collator.collateRows dataset directory
            domainId references) = .ok tensors ∧
          (tensors.map Batch.numLossTokens).sum = manifest.validLossTokens
  counted : ∀ (directories : Domain -> Directory Digest Cursor)
      (domain : Domain) (references : List Nat),
    directories domain = directory ->
    (references.map decodeReference).Perm
      ((List.range manifest.rows).map fun row => (domain.id, row)) ->
    ∃ counts,
      countSupervisedTokensForReferences references directories
        manifest.sequenceLength = .ok counts ∧
      counts domain = manifest.validLossTokens

section Trainability

variable {sha256 : List Byte -> Digest} {verifyChecksums : Bool}
variable {manifest : PackedManifest Digest Cursor}
variable {directory : Directory Digest Cursor}

/-- The collator's constructor rejects booleans. -/
theorem not_new_bool
    (sequenceLength vocabSize : Nat) (eosTokenId : Bool)
    (collator : PackedBatchCollator) :
    PackedBatchCollator.new (.int sequenceLength) (.int vocabSize)
      (.bool eosTokenId) ≠ .ok collator := by
  unfold PackedBatchCollator.new
  rw [PyValue.plainInt?_int, requireObject_some, checked_ok_bind]
  intro accepted
  rw [require_then_eq_ok, require_then_eq_ok] at accepted
  simp only [PackedBatchCollator.optionalInteger, checked_ok_bind]
    at accepted
  cases accepted.2.2

/-- A validated directory is trainable exactly when its EOS token id is no
boolean. -/
theorem Validated.trainable_iff
    (validated : Validated sha256 verifyChecksums manifest directory)
    (parsed : ∃ document, readManifest directory = .ok document ∧
      parsePackedManifest document = .ok manifest) :
    Trainable manifest directory ↔ manifest.eosTokenId.isBool = false := by
  constructor
  · rintro ⟨⟨dataset, collator, -, accepts, -⟩, -⟩
    cases eos : manifest.eosTokenId with
    | int value => rfl
    | bool value =>
        rw [eos] at accepts
        exact absurd accepts (not_new_bool _ _ _ _)
  · intro noBool
    obtain ⟨value, eos⟩ : ∃ value, manifest.eosTokenId = .int value := by
      cases eos : manifest.eosTokenId with
      | int value => exact ⟨value, rfl⟩
      | bool value =>
          rw [eos] at noBool
          cases noBool
    have collator : PackedBatchCollator.new (.int manifest.sequenceLength)
        (.int manifest.vocabSize) manifest.eosTokenId.toValue =
          .ok ⟨manifest.sequenceLength, some manifest.vocabSize,
            some manifest.eosTokenId.toInt⟩ := by
      have bounds := manifest.eosTokenId_bounds
      rw [eos] at bounds ⊢
      exact PackedBatchCollator.new_eq_ok manifest.two_le_sequenceLength
        manifest.vocabSize_bounds bounds
    refine ⟨⟨manifest.dataset, _,
      load_eq_ok.mpr ⟨_, validated.opens parsed, rfl⟩, collator, ?_⟩, ?_⟩
    · intro domainId references
      refine ⟨fun ids filled bound => ⟨_, collateRows_eq_ok validated.exact
        validated.rows filled bound⟩, ?_⟩
      intro batches filled division
      refine ⟨_, checked_mapM_of_forall fun ids member =>
        collateRows_eq_ok validated.exact validated.rows
          (filled ids member) (forall_division division ids member), ?_⟩
      exact validated.sum_numLossTokens_eq division
    · intro directories domain references at' allRows
      exact validated.countSupervisedTokens parsed at' allRows

end Trainability

/-- Every directory that validation accepts is trainable exactly when its EOS
token id is no JSON boolean; and validation accepts whatever a session ends
with a finished writer on, after any killed sessions. -/
theorem accepted_trainable_iff
    [DecidableEq Digest] (sha256 : List Byte -> Digest) :
    (∀ (verifyChecksums : Bool) (directory : Directory Digest Cursor)
        (manifest : PackedManifest Digest Cursor),
      validatePackedManifest sha256 verifyChecksums directory =
        .ok manifest ->
      (Trainable manifest directory ↔
        manifest.eosTokenId.isBool = false)) ∧
    ∀ (config : WriterConfig Digest) (arguments : WriterArguments Digest)
        (policy : DrainPolicy) (resume : Bool)
        (caller : PackedShardWriter Digest Cursor -> List (Call Cursor))
        (directory : Directory Digest Cursor)
        (writer : PackedShardWriter Digest Cursor),
      Program.Survives (AnySession sha256 config) Directory.AfterKill ∅
        directory ->
      arguments.check = .ok config ->
      ((session sha256 arguments policy resume caller).run
        directory).result = .ok writer ->
      writer.finished = true ->
      ∀ verifyChecksums, ∃ manifest,
        validatePackedManifest sha256 verifyChecksums
          ((session sha256 arguments policy resume caller).run
            directory).final = .ok manifest ∧
        manifest.eosTokenId.isBool = false := by
  refine ⟨?_, ?_⟩
  · intro verifyChecksums directory manifest accepted
    obtain ⟨parsed, validated⟩ :=
      validatePackedManifest_eq_ok_iff.mp accepted
    exact validated.trainable_iff parsed
  · intro config arguments policy resume caller directory writer history
      accepts ended finished verifyChecksums
    obtain ⟨construction, cursor, rfl, -, complete⟩ :=
      Construction.exists_complete_of_finished history accepts ended finished
    exact ⟨_, complete.validates verifyChecksums, rfl⟩

/-- The packed small documents. -/
def smallPacked : Directory (List Byte) Unit :=
  ((packDocuments id smallArguments .default smallDocuments).run ∅).final

/-- The same directory with the EOS token id written as `false`, which Python
compares as 0. -/
def booleanEos : Directory (List Byte) Unit :=
  match smallPacked.lookup .manifest with
  | some (.manifest document) => smallPacked.insert .manifest
      (.manifest { document with eosTokenId := .bool false })
  | _ => ∅

theorem booleanEos_accepted :
    ∃ manifest, validatePackedManifest id true booleanEos = .ok manifest ∧
      manifest.eosTokenId = .bool false := by
  have accepted : (validatePackedManifest id true booleanEos).map
      PackedManifest.eosTokenId = .ok (.bool false) := rfl
  cases result : validatePackedManifest id true booleanEos with
  | error error =>
      rw [result] at accepted
      cases accepted
  | ok manifest =>
      rw [result] at accepted
      exact ⟨manifest, rfl, Except.ok.inj accepted⟩

/-- The directory with `false` is accepted and not trainable; a fresh session
that finishes without documents is accepted. -/
theorem accepted_trainable_iff_booleanEos :
    (∃ manifest,
      validatePackedManifest id true booleanEos = .ok manifest ∧
      ¬Trainable manifest booleanEos) ∧
    ∃ manifest, validatePackedManifest id true
      ((session id smallArguments .default false fun _ =>
        [.finish none]).run (∅ : Directory (List Byte) Unit)).final =
          .ok manifest ∧
      manifest.eosTokenId.isBool = false := by
  obtain ⟨trainable, sessions⟩ :=
    @accepted_trainable_iff (List Byte) Unit _ id
  refine ⟨?_, ?_⟩
  · obtain ⟨manifest, accepted, eos⟩ := booleanEos_accepted
    refine ⟨manifest, accepted, fun holds => ?_⟩
    have noBool := (trainable true booleanEos manifest accepted).mp holds
    rw [eos] at noBool
    cases noBool
  · have ended : (((session id smallArguments .default false fun _ =>
        [.finish none]).run (∅ : Directory (List Byte) Unit)).result).map
          PackedShardWriter.finished = .ok true := rfl
    cases result : ((session id smallArguments .default false fun _ =>
        [.finish none]).run (∅ : Directory (List Byte) Unit)).result with
    | error error =>
        rw [result] at ended
        cases ended
    | ok writer =>
        rw [result] at ended
        exact sessions smallConfig smallArguments .default false
          (fun _ => [.finish none]) ∅ writer .start smallArguments_check
          result (Except.ok.inj ended) true

/-- Validation accepts the directory with `false`, and its manifest makes the
collator raise. -/
theorem booleanEos_not_trainable :
    ¬∀ (directory : Directory (List Byte) Unit)
        (manifest : PackedManifest (List Byte) Unit),
      validatePackedManifest id true directory = .ok manifest ->
      Trainable manifest directory := by
  intro everyAccepted
  obtain ⟨manifest, accepted, eos⟩ := booleanEos_accepted
  obtain ⟨⟨_, collator, -, accepts, -⟩, -⟩ :=
    everyAccepted booleanEos manifest accepted
  rw [eos] at accepts
  exact not_new_bool _ _ _ _ accepts

end CodingLlm
