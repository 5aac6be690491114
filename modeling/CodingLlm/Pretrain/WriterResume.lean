import CodingLlm.Pretrain.WriterKills

/-!
# Resuming from a finished output or a journal

Reopening a finished directory exposes its manifest.  Reopening a directory
with a journal rolls it back to the journaled state, unless a file is there
that the scan of generated names does not know.
-/

namespace CodingLlm

open CrashLogic Words Slices PackedStream

variable {Digest Cursor : Type}

namespace Construction

variable {construction : Construction Digest Cursor}
variable {commit : Commit Cursor} {cursor : Option Cursor}
variable {directory current : Directory Digest Cursor}
variable {kind : ShardKind}

/-! ## A finished directory -/

theorem identityMatches_packedManifest
    (construction : Construction Digest Cursor) (cursor : Option Cursor) :
    PackedShardWriter.IdentityMatches
      (construction.packedManifest cursor) construction.config where
  domain := rfl
  split := rfl
  sequenceLength := rfl
  vocabSize := rfl
  eosTokenId := rfl
  rowsPerShard := rfl
  tokenizer := rfl
  curation := rfl
  selection := rfl
  seed := by
    simp only [packedManifest]
    cases construction.config.constructionSeed with
    | none => rfl
    | some seed => exact (PyValue.equalsInt_int seed seed).mpr rfl

/-- Every token of the stream is in the vocabulary. -/
theorem tokens_lt
    (construction : Construction Digest Cursor)
    {token : Nat} (member : token ∈ construction.stream.tokens) :
    token < construction.config.vocabSize := by
  rcases mem_tokens_ofDocuments member with rfl | ⟨document, inside, at_⟩
  · exact construction.config.eosTokenId_lt
  · exact construction.documents_lt document inside token at_

/-- The last shard ends with the last row. -/
theorem finalRows_le
    (construction : Construction Digest Cursor)
    {index : Nat} (bound : index < construction.finalCount) :
    index * construction.config.rowsPerShard +
        construction.finalRows index ≤
      construction.rowsAt construction.documents.length := by
  rw [construction.rowsAt_eq]
  by_cases before :
      index < construction.completedAt construction.documents.length
  · have := Nat.mul_le_mul_right construction.config.rowsPerShard
      (Nat.succ_le_of_lt before)
    rw [Nat.succ_mul] at this
    rw [finalRows, if_pos before]
    omega
  · have last : index =
        construction.completedAt construction.documents.length := by
      unfold finalCount at bound
      split at bound <;> omega
    rw [finalRows, if_neg before, last]

/-- The checks of `_resume_finished_manifest` pass on a finished
directory. -/
theorem checkFinishedManifest_eq
    [DecidableEq Digest]
    (finished : construction.Finished cursor directory) :
    PackedShardWriter.checkFinishedManifest construction.config
        (construction.manifest cursor) directory =
      .ok (construction.packedManifest cursor) := by
  have files : (construction.packedManifest cursor).shards.forM
      (fun shard => PackedShardWriter.shardKinds.forM fun kind =>
        PackedShardWriter.checkCompletedFile directory
          construction.config.sequenceLength shard kind) = .ok () := by
    rw [checked_forM_eq_ok]
    intro shard member
    simp only [packedManifest, List.mem_map, List.mem_range] at member
    obtain ⟨index, bound, rfl⟩ := member
    rw [checked_forM_eq_ok]
    intro kind _
    have found := finished.shard_eq index kind
    rw [if_pos bound] at found
    unfold PackedShardWriter.checkCompletedFile
    rw [show (construction.finalShard index).index = index from rfl,
      Directory.payload?_eq_some.mpr found]
    exact require_bind (construction.length_shardContent kind
      (construction.finalRows_le bound)) _
  have names : ∀ name ∈ directory.keys,
      name ∈ [FileName.manifest, .journal] ++
        (construction.packedManifest cursor).shards.flatMap fun shard =>
          PackedShardWriter.shardKinds.map fun kind =>
            FileName.shard shard.index kind := by
    intro name member
    obtain ⟨entry, found⟩ :=
      Directory.has_iff.mp (Directory.mem_keys.mp member)
    by_cases isShard : ∃ index kind, name = .shard index kind
    · obtain ⟨index, kind, rfl⟩ := isShard
      rw [finished.shard_eq] at found
      by_cases bound : index < construction.finalCount
      · apply List.mem_append_right
        rw [List.mem_flatMap]
        refine ⟨construction.finalShard index, ?_, ?_⟩
        · exact List.mem_map.mpr ⟨index, List.mem_range.mpr bound, rfl⟩
        · cases kind <;> simp [PackedShardWriter.shardKinds, finalShard]
      · rw [if_neg bound] at found
        cases found
    · by_cases isManifest : name = .manifest
      · simp [isManifest]
      · by_cases isJournal : name = .journal
        · simp [isJournal]
        · rw [finished.rest name isShard isManifest isJournal] at found
          cases found
  unfold PackedShardWriter.checkFinishedManifest
  rw [construction.parsePackedManifest_manifest, checked_ok_bind,
    require_bind (construction.identityMatches_packedManifest cursor)]
  simp only
  rw [files, checked_ok_bind, require_bind names]
  rfl

/-- `_resume_finished_manifest` exposes a finished writer. -/
theorem safely_resumeFinished
    [DecidableEq Digest]
    (finished : construction.Finished cursor directory)
    (policy : DrainPolicy) :
    construction.Safely
      (PackedShardWriter.resumeFinishedManifest
        { config := construction.config, policy := policy })
      (fun writer current => construction.Final cursor writer ∧
        writer.finished = true ∧ construction.Complete cursor current)
      directory := by
  unfold PackedShardWriter.resumeFinishedManifest
  rw [Safely, Program.wp_bind, PackedShardWriter.loadManifest,
    Program.wp_inspect_ok (readManifest_eq finished.manifest_eq),
    Program.wp_bind,
    Program.wp_inspect_ok (construction.checkFinishedManifest_eq finished)]
  have final {opened : PackedShardWriter Digest Cursor}
      (same : opened = { opened with
        config := construction.config
        shards := (construction.packedManifest cursor).shards.map
          (PackedShardWriter.completedRecord
            construction.config.sequenceLength)
        documents := (construction.packedManifest cursor).documents
        sourceContentTokens :=
          (construction.packedManifest cursor).sourceContentTokens
        rows := (construction.packedManifest cursor).rows
        validLossTokens :=
          (construction.packedManifest cursor).validLossTokens
        maskedBoundaryLabels :=
          (construction.packedManifest cursor).maskedBoundaryLabels
        sourceCursor := cursor }) :
      construction.Final cursor opened := by
    have documents := construction.count_le_fed le_rfl
    have masked :=
      construction.masked_le_inputs construction.documents.length
    rw [same]
    refine ⟨rfl, rfl, Nat.sub_add_cancel documents, rfl, rfl,
      Nat.sub_add_cancel masked, ?_, rfl⟩
    rw [construction.finalShards_eq]
    exact List.map_map
  rw [Program.wp_bind, unlinkIfExists, Program.wp_bind, wp_fileExists]
  by_cases journaled : directory.Has .journal
  · obtain ⟨entry, found⟩ := Directory.has_iff.mp journaled
    have erased : construction.Finished cursor
        (directory.erase .journal) := by
      refine ⟨?_, ?_, ?_⟩
      · rw [lookup_erase, if_neg (by simp)]
        exact finished.manifest_eq
      · intro index kind
        rw [lookup_erase, if_neg (by simp)]
        exact finished.shard_eq index kind
      · intro name noShard noManifest noJournal
        rw [lookup_erase, if_neg noJournal]
        exact finished.rest name noShard noManifest noJournal
    rw [decide_eq_true journaled, if_pos rfl, wp_unlinkFile found]
    refine ⟨.inr (.inr ⟨cursor, erased⟩), ?_⟩
    rw [Program.wp_pure]
    exact ⟨final rfl, rfl, erased,
      Directory.not_has_iff.mpr (by rw [lookup_erase, if_pos rfl])⟩
  · rw [decide_eq_false journaled, if_neg (by simp), Program.wp_pure,
      Program.wp_pure]
    exact ⟨final rfl, rfl, finished, journaled⟩

end Construction
end CodingLlm
