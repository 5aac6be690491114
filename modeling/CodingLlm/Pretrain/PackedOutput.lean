import CodingLlm.Pretrain.PackedShardDataset
import CodingLlm.Pretrain.WriterResume

/-!
# Reading a finished construction

The directory of a finished construction passes `validate_packed_manifest`, and
its rows read back as the windows of the document stream.
-/

namespace CodingLlm

open CrashLogic Words Slices PackedStream

variable {Digest Cursor : Type}

namespace Construction

variable {construction : Construction Digest Cursor}
variable {cursor : Option Cursor} {directory : Directory Digest Cursor}
variable {index row : Nat} {kind : ShardKind}

/-! ## Payload files -/

theorem Finished.payload?_eq
    (finished : construction.Finished cursor directory)
    (bound : index < construction.finalCount) (kind : ShardKind) :
    directory.payload? (.shard index kind) =
      some (.sealed (construction.shardContent index
        (construction.finalRows index) kind)) := by
  rw [Directory.payload?_eq_some, finished.shard_eq, if_pos bound]

theorem Finished.payloadBytes_eq
    (finished : construction.Finished cursor directory)
    (bound : index < construction.finalCount) (kind : ShardKind) :
    payloadBytes directory index kind =
      construction.shardContent index (construction.finalRows index)
        kind := by
  rw [payloadBytes, finished.payload?_eq bound]
  rfl

theorem mem_packedManifest_shards
    {shard : Shard Digest} :
    shard ∈ (construction.packedManifest cursor).shards ↔
      ∃ index < construction.finalCount,
        construction.finalShard index = shard := by
  simp [packedManifest]

theorem Finished.payloadsExact
    (finished : construction.Finished cursor directory) :
    PayloadsExact (construction.packedManifest cursor) directory := by
  intro shard member kind
  obtain ⟨index, bound, rfl⟩ := mem_packedManifest_shards.mp member
  exact ⟨_, finished.payload?_eq bound kind,
    construction.length_shardContent kind (construction.finalRows_le bound)⟩

/-! ## Rows -/

/-- A row of a shard's file is the row of the stream. -/
theorem slice_shardContent
    (kind : ShardKind)
    (bound : index < construction.finalCount)
    (inside : row < construction.finalRows index) :
    slice (construction.shardContent index (construction.finalRows index)
          kind)
        (row * rowBytes construction.config.sequenceLength kind)
        (rowBytes construction.config.sequenceLength kind) =
      construction.stream.rowContent construction.config.sequenceLength kind
        (index * construction.config.rowsPerShard + row) := by
  have within := construction.finalRows_le bound
  refine slice_pieces (fun position _ high => ?_) inside
  refine length_rowContent kind
    (row_fits construction.sequenceLength_pos ?_)
  rw [construction.length_stream]
  exact lt_of_lt_of_le high within

theorem rowTokens_lt :
    ∀ token ∈ construction.stream.rowTokens
        construction.config.sequenceLength row,
      token < construction.config.vocabSize := fun _ member =>
  construction.tokens_lt (List.mem_of_mem_drop (List.mem_of_mem_take member))

theorem decodeWords_rowContent :
    decodeWords tokenItemSize (construction.stream.rowContent
        construction.config.sequenceLength .tokens row) =
      construction.stream.rowTokens construction.config.sequenceLength
        row := by
  refine decodeWords_encodeWords (by decide) fun token member => ?_
  have := rowTokens_lt token member
  have := construction.config.vocabSize_bounds.2
  unfold tokenValues at this
  simp only [tokenItemSize]
  omega

/-- The rows of a finished construction are the windows of its stream. -/
theorem Finished.packedRow_eq
    (finished : construction.Finished cursor directory)
    (bound : row < construction.rowsAt construction.documents.length) :
    packedRow (construction.packedManifest cursor) directory row =
      { tokens := construction.stream.rowTokens
          construction.config.sequenceLength row
        starts := packBits (construction.stream.rowStarts
          construction.config.sequenceLength row)
        rowId := row } := by
  obtain ⟨shard, -, member, index, inside⟩ :=
    (construction.packedManifest cursor).exists_shard bound
  obtain ⟨position, inCount, rfl⟩ := mem_packedManifest_shards.mp member
  have place : row / construction.config.rowsPerShard = position := index.symm
  have whole : position * construction.config.rowsPerShard +
      row % construction.config.rowsPerShard = row := by
    rw [← place]
    exact Nat.div_add_mod' _ _
  have bytes (kind : ShardKind) := slice_shardContent kind inCount inside
  have rows : (construction.packedManifest cursor).rowsPerShard =
      construction.config.rowsPerShard := rfl
  have width : (construction.packedManifest cursor).sequenceLength =
      construction.config.sequenceLength := rfl
  rw [rows] at bytes
  simp only [whole] at bytes
  simp only [packedRow, tokenRow, startsRow, rows, width, place,
    finished.payloadBytes_eq inCount, bytes, decodeWords_rowContent]
  rfl

theorem row_inside_stream
    (bound : row < construction.rowsAt construction.documents.length) :
    row * construction.config.sequenceLength +
        construction.config.sequenceLength + 1 ≤
      construction.stream.tokens.length := by
  rw [construction.length_stream]
  exact row_fits construction.sequenceLength_pos bound

/-- Unpacking the starts of a row gives its flags. -/
theorem unpackBits_rowStarts
    (bound : row < construction.rowsAt construction.documents.length) :
    unpackBits (construction.config.sequenceLength + 1)
        (packBits (construction.stream.rowStarts
          construction.config.sequenceLength row)) =
      construction.stream.rowStarts construction.config.sequenceLength
        row := by
  rw [← length_rowStarts (row_inside_stream bound)]
  exact unpackBits_packBits _

/-- A start past the first column of a row follows an EOS in the row. -/
theorem boundariesFollowEos_row
    (bound : row < construction.rowsAt construction.documents.length) :
    BoundariesFollowEos construction.config.sequenceLength
      construction.config.eosTokenId
      (construction.stream.rowTokens construction.config.sequenceLength row)
      (packBits (construction.stream.rowStarts
        construction.config.sequenceLength row)) := by
  have fits := row_inside_stream bound
  intro column member start
  rw [unpackBits_rowStarts bound] at member
  obtain ⟨position, found⟩ := List.getElem?_of_mem member
  rw [List.getElem?_zip_eq_some, List.getElem?_tail,
    List.getElem?_dropLast] at found
  obtain ⟨flag, token⟩ := found
  split at token
  · rename_i inside
    rw [length_rowTokens fits] at inside
    rw [getElem?_rowStarts fits (by omega), if_neg (by omega), start] at flag
    rw [getElem?_rowTokens (by omega)] at token
    have eos : construction.stream.tokens[
        row * construction.config.sequenceLength + position]? =
          some construction.config.eosTokenId :=
      eos_before_start (getElem?_starts_iff.mp flag)
    rw [eos, Option.some.injEq] at token
    rw [← token]
  · cases token

/-- The rows of a finished construction are valid. -/
theorem Finished.rowValid
    (finished : construction.Finished cursor directory)
    (bound : row < construction.rowsAt construction.documents.length) :
    PackedRowValid (construction.packedManifest cursor) directory row := by
  have fits := row_inside_stream bound
  have startsLength := length_rowStarts fits
  unfold PackedRowValid
  rw [finished.packedRow_eq bound]
  refine ⟨length_rowTokens fits, ?_, rowTokens_lt, ?_, ?_,
    boundariesFollowEos_row bound⟩
  · rw [length_packBits, startsLength]
    rfl
  · rw [and_one_ne_zero_iff, ← bitAt_zero, bitAt_packBits,
      List.getD_eq_getElem?_getD, getElem?_rowStarts fits (Nat.zero_le _)]
    rfl
  · intro ragged
    have padding := getLastD_packBits_and_highBits
      (construction.stream.rowStarts construction.config.sequenceLength row)
      (by rwa [startsLength])
    rwa [startsLength] at padding

theorem Finished.rowMaskedLabels_eq
    (finished : construction.Finished cursor directory)
    (bound : row < construction.rowsAt construction.documents.length) :
    rowMaskedLabels (construction.packedManifest cursor) directory row =
      construction.stream.rowMasked construction.config.sequenceLength
        row := by
  rw [rowMaskedLabels, finished.packedRow_eq bound, maskedLabels]
  exact congrArg (fun flags => flags.tail.countP id)
    (unpackBits_rowStarts bound)

/-- A finished directory passes validation. -/
theorem Complete.validated
    (complete : construction.Complete cursor directory)
    (verifyChecksums : Bool) :
    Validated construction.sha256 verifyChecksums
      (construction.packedManifest cursor) directory where
  names := by
    intro name member
    have present := Directory.mem_keys.mp member
    obtain ⟨entry, found⟩ := Directory.has_iff.mp present
    by_cases isShard : ∃ index kind, name = .shard index kind
    · obtain ⟨index, kind, rfl⟩ := isShard
      rw [complete.shard_eq] at found
      split at found
      · rename_i bound
        refine List.mem_cons_of_mem _ (List.mem_flatMap.mpr
          ⟨construction.finalShard index,
            mem_packedManifest_shards.mpr ⟨index, bound, rfl⟩, ?_⟩)
        cases kind <;> simp [finalShard]
      · cases found
    · by_cases isManifest : name = .manifest
      · subst isManifest
        exact List.mem_cons_self ..
      · have noJournal : name ≠ .journal := by
          rintro rfl
          exact complete.no_journal present
        rw [complete.rest name isShard isManifest noJournal] at found
        cases found
  exact := complete.payloadsExact
  checksums := by
    intro _ shard member kind
    obtain ⟨index, bound, rfl⟩ := mem_packedManifest_shards.mp member
    rw [show (construction.finalShard index).index = index from rfl,
      complete.payloadBytes_eq bound]
    cases kind <;> rfl
  rows := fun row bound => complete.rowValid bound
  masked := by
    refine congrArg List.sum (List.map_congr_left fun row member => ?_)
    exact complete.rowMaskedLabels_eq (List.mem_range.mp member)

theorem Complete.validates
    [DecidableEq Digest]
    (complete : construction.Complete cursor directory)
    (verifyChecksums : Bool) :
    validatePackedManifest construction.sha256 verifyChecksums directory =
      .ok (construction.packedManifest cursor) :=
  validatePackedManifest_eq_ok_iff.mpr
    ⟨⟨_, readManifest_eq complete.manifest_eq,
      construction.parsePackedManifest_manifest cursor⟩,
      complete.validated verifyChecksums⟩

/-- A finished directory opens as a dataset. -/
theorem Complete.opens
    [DecidableEq Digest]
    (complete : construction.Complete cursor directory)
    (verifyChecksums : Bool) :
    PackedShardDataset.new construction.sha256 verifyChecksums directory =
      .ok (construction.packedManifest cursor).dataset :=
  new_eq_ok.mpr ⟨fun _ => ⟨_, complete.validates true⟩,
    _, ⟨⟨_, readManifest_eq complete.manifest_eq,
      construction.parsePackedManifest_manifest cursor⟩,
      complete.payloadsExact⟩, rfl⟩

end Construction
end CodingLlm
