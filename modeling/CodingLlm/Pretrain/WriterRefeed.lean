import CodingLlm.Pretrain.WriterSession

/-!
# Feeding other documents after a commit

A journal only depends on the documents before its commit.  A caller that
resumes may therefore feed anything, and the directory it resumed from is one
of the construction of what it feeds.
-/

namespace CodingLlm

open CrashLogic Words Slices PackedStream

variable {Digest Cursor : Type}

namespace Construction

/-- The construction of other documents with the same configuration. -/
def refeed
    (construction : Construction Digest Cursor)
    (documents : List (List Nat))
    (documents_ne : ∀ document ∈ documents, document ≠ [])
    (documents_lt : ∀ document ∈ documents, ∀ token ∈ document,
      token < construction.config.vocabSize) :
    Construction Digest Cursor :=
  { construction with documents, documents_ne, documents_lt }

section Prefix

variable {construction : Construction Digest Cursor}
variable {documents : List (List Nat)}
variable {documents_ne : ∀ document ∈ documents, document ≠ []}
variable {documents_lt : ∀ document ∈ documents, ∀ token ∈ document,
  token < construction.config.vocabSize}
variable {commit : Commit Cursor} {count : Nat}
variable {directory : Directory Digest Cursor}

theorem fed_refeed
    (same : documents.take count = construction.documents.take count) :
    (construction.refeed documents documents_ne documents_lt).fed count =
      construction.fed count := by
  simp only [fed, position, refeed, same]

theorem rowsAt_refeed
    (same : documents.take count = construction.documents.take count) :
    (construction.refeed documents documents_ne documents_lt).rowsAt count =
      construction.rowsAt count := by
  unfold rowsAt
  rw [fed_refeed same]
  rfl

theorem completedAt_refeed
    (same : documents.take count = construction.documents.take count) :
    (construction.refeed documents documents_ne documents_lt).completedAt
        count = construction.completedAt count := by
  unfold completedAt
  rw [rowsAt_refeed same]
  rfl

theorem openRowsAt_refeed
    (same : documents.take count = construction.documents.take count) :
    (construction.refeed documents documents_ne documents_lt).openRowsAt
        count = construction.openRowsAt count := by
  unfold openRowsAt
  rw [rowsAt_refeed same]
  rfl

/-- A slice within a prefix is a slice of the prefix. -/
theorem slice_take
    (items : List α) {length start width : Nat}
    (inside : start + width ≤ length) :
    slice items start width = slice (items.take length) start width := by
  simp only [slice, List.drop_take, List.take_take]
  rw [Nat.min_eq_left (by omega)]

theorem slice_refeed_tokens
    (same : documents.take count = construction.documents.take count)
    {start width : Nat}
    (inside : start + width ≤ construction.fed count) :
    slice (construction.refeed documents documents_ne
        documents_lt).stream.tokens start width =
      slice construction.stream.tokens start width := by
  rw [slice_take _ inside, slice_take construction.stream.tokens inside]
  have before := take_position_tokens construction.config.eosTokenId
    construction.documents count
  have after := take_position_tokens construction.config.eosTokenId
    documents count
  rw [same, ← before] at after
  have fedEq : position documents count = construction.fed count := by
    simp only [fed, position, same]
  rw [fedEq] at after
  exact congrArg (fun items => slice items start width) after

theorem slice_refeed_starts
    (same : documents.take count = construction.documents.take count)
    {start width : Nat}
    (inside : start + width ≤ construction.fed count) :
    slice (construction.refeed documents documents_ne
        documents_lt).stream.starts start width =
      slice construction.stream.starts start width := by
  rw [slice_take _ inside, slice_take construction.stream.starts inside]
  have before := take_position_starts construction.config.eosTokenId
    construction.documents count
  have after := take_position_starts construction.config.eosTokenId
    documents count
  rw [same, ← before] at after
  have fedEq : position documents count = construction.fed count := by
    simp only [fed, position, same]
  rw [fedEq] at after
  exact congrArg (fun items => slice items start width) after

/-- A row that the common documents fill ends before the others start. -/
theorem row_inside
    {row : Nat} (bound : row < construction.rowsAt count) :
    row * construction.config.sequenceLength +
        (construction.config.sequenceLength + 1) ≤
      construction.fed count := by
  have := row_fits construction.sequenceLength_pos bound
  omega

theorem shardContent_refeed
    (same : documents.take count = construction.documents.take count)
    {index rows : Nat} (kind : ShardKind)
    (bound : index * construction.config.rowsPerShard + rows ≤
      construction.rowsAt count) :
    (construction.refeed documents documents_ne documents_lt).shardContent
        index rows kind =
      construction.shardContent index rows kind := by
  apply pieces_congr
  intro row low high
  have inside := construction.row_inside (show row < _ by
    exact Nat.lt_of_lt_of_le high bound)
  cases kind with
  | tokens =>
      exact congrArg (encodeWords tokenItemSize)
        (slice_refeed_tokens same inside)
  | starts =>
      exact congrArg (fun flags => packBits (forceFirst flags))
        (slice_refeed_starts same inside)

theorem masked_refeed
    (same : documents.take count = construction.documents.take count) :
    (construction.refeed documents documents_ne
        documents_lt).stream.masked construction.config.sequenceLength
        (construction.rowsAt count) =
      construction.stream.masked construction.config.sequenceLength
        (construction.rowsAt count) := by
  unfold masked
  congr 1
  apply List.map_congr_left
  intro row member
  have inside := construction.row_inside (List.mem_range.mp member)
  exact congrArg (fun flags => (forceFirst flags).tail.countP id)
    (slice_refeed_starts same inside)

theorem record_refeed
    (same : documents.take count = construction.documents.take count)
    (name : Nat -> ShardKind -> FileName) {index rows : Nat}
    (bound : index * construction.config.rowsPerShard + rows ≤
      construction.rowsAt count) :
    (construction.refeed documents documents_ne documents_lt).record name
        index rows = construction.record name index rows := by
  have content : (construction.refeed documents documents_ne
      documents_lt).shardContent index rows =
        construction.shardContent index rows :=
    funext fun kind => shardContent_refeed same kind bound
  unfold record
  rw [content]
  rfl

theorem completed_le_rowsAt
    {index : Nat} (before : index < construction.completedAt count) :
    index * construction.config.rowsPerShard +
        construction.config.rowsPerShard ≤ construction.rowsAt count := by
  have next := Nat.mul_le_mul_right construction.config.rowsPerShard
    (Nat.succ_le_of_lt before)
  rw [Nat.succ_mul] at next
  have := construction.rowsAt_eq count
  omega

/-- The journal of a commit does not depend on later documents. -/
theorem journal_refeed
    (same : documents.take commit.count =
      construction.documents.take commit.count) :
    (construction.refeed documents documents_ne documents_lt).journal
        commit = construction.journal commit := by
  have rows := construction.rowsAt_mul_le commit.count
  have shards : (construction.refeed documents documents_ne
      documents_lt).fullShards (construction.completedAt commit.count) =
        construction.fullShards (construction.completedAt commit.count) := by
    apply List.map_congr_left
    intro index member
    exact record_refeed same _
      (completed_le_rowsAt (List.mem_range.mp member))
  have opened : (construction.refeed documents documents_ne
      documents_lt).record .shardPart
        (construction.completedAt commit.count)
        (construction.openRowsAt commit.count) =
      construction.record .shardPart
        (construction.completedAt commit.count)
        (construction.openRowsAt commit.count) :=
    record_refeed same _ (construction.rowsAt_eq commit.count).ge
  have carried : construction.rowsAt commit.count *
        construction.config.sequenceLength +
      (construction.fed commit.count - construction.rowsAt commit.count *
        construction.config.sequenceLength) ≤
      construction.fed commit.count := by omega
  have width : (construction.refeed documents documents_ne
      documents_lt).config.sequenceLength =
        construction.config.sequenceLength := rfl
  simp only [Construction.journal, rowsAt_refeed same, fed_refeed same,
    completedAt_refeed same, openRowsAt_refeed same, shards, opened, width,
    slice_refeed_tokens same carried, slice_refeed_starts same carried,
    masked_refeed same]
  rfl

/-- A committed directory is also one of every construction with the same
documents before the commit. -/
theorem Committed.refeed
    (committed : construction.Committed commit directory)
    (same : documents.take commit.count =
      construction.documents.take commit.count) :
    (construction.refeed documents documents_ne documents_lt).Committed
      commit directory where
  admitted := committed.admitted
  count_le := by
    have lengths := congrArg List.length same
    rw [List.length_take, List.length_take] at lengths
    have := committed.count_le
    simp only [Construction.refeed]
    omega
  journal_eq := by
    rw [journal_refeed same]
    exact committed.journal_eq
  completed := by
    intro index bound kind
    rw [completedAt_refeed same] at bound
    have content : (construction.refeed documents documents_ne
        documents_lt).shardContent index
          construction.config.rowsPerShard kind =
        construction.shardContent index construction.config.rowsPerShard
          kind :=
      shardContent_refeed same kind (completed_le_rowsAt bound)
    exact ⟨(committed.completed index bound kind).1.trans
      (congrArg (fun bytes => some (Entry.payload (File.sealed bytes)))
        content.symm), (committed.completed index bound kind).2⟩
  open_recoverable := by
    intro openRows kind
    rw [openRowsAt_refeed same] at openRows
    obtain ⟨file, kept, place⟩ := committed.open_recoverable openRows kind
    unfold Recoverable
    rw [completedAt_refeed same]
    refine ⟨file, ⟨kept.synced_le, ?_, ?_⟩, place⟩
    · rw [openRowsAt_refeed same]
      exact kept.durable
    · rw [openRowsAt_refeed same, completedAt_refeed same,
        shardContent_refeed same kind
          (construction.rowsAt_eq commit.count).ge]
      exact kept.agree
  names := committed.names

end Prefix
end Construction
end CodingLlm
