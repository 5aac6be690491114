import CodingLlm.Pretrain.WriterInvariant
import Mathlib.Algebra.Order.BigOperators.Group.List

/-!
# Draining rows and sealing shards

The directory steps of a live writer, and what `_open_shard`, the batch write,
`_finalize_open_shard` and the whole of `_drain_rows` do to the writer and its
directory.  Every directory passed through is one a kill may leave.
-/

namespace CodingLlm

open CrashLogic Words Slices PackedStream

variable {Digest Cursor : Type}

namespace Construction

variable {construction : Construction Digest Cursor}
variable {commit : Commit Cursor} {completed : Nat}
variable {tail : ShardKind -> TailFile}
variable {directory : Directory Digest Cursor}
variable {kind : ShardKind} {file : File}

/-! ## Single files -/

theorem Protected.append
    (kept : construction.Protected commit kind file)
    (more : List Byte) :
    construction.Protected commit kind
      ⟨file.bytes ++ more, file.synced⟩ where
  synced_le := by
    have := kept.synced_le
    simp only [List.length_append]
    omega
  durable := kept.durable
  agree := by
    have bound := kept.durable.trans kept.synced_le
    rw [← kept.agree]
    exact List.take_append_of_le_length bound

theorem Protected.sealed
    (kept : construction.Protected commit kind file) :
    construction.Protected commit kind (.sealed file.bytes) where
  synced_le := le_rfl
  durable := kept.durable.trans kept.synced_le
  agree := kept.agree

/-- Killing a live writer leaves its last committed journal resumable. -/
theorem InProgress.committed
    (progress : construction.InProgress commit completed tail directory) :
    construction.Committed commit directory where
  admitted := progress.admitted
  count_le := progress.count_le
  journal_eq := progress.shape.journal_eq
  completed := by
    intro index bound kind
    have le := progress.protects.1
    constructor
    · rw [progress.shape.shard_eq, if_pos (by omega)]
    · rw [progress.shape.part_eq, if_neg (by omega)]
  open_recoverable := by
    intro openRows kind
    have le := progress.protects.1
    unfold Recoverable
    rcases Nat.lt_or_eq_of_le le with later | same
    · -- the journaled open shard has been completed since
      refine ⟨.sealed (construction.shardContent
        (construction.completedAt commit.count)
        construction.config.rowsPerShard kind), ?_, .inr ⟨?_, ?_⟩⟩
      · obtain ⟨more, full⟩ := Nat.exists_eq_add_of_le
          (construction.openRowsAt_lt commit.count).le
        have fits : construction.completedAt commit.count *
              construction.config.rowsPerShard +
            construction.openRowsAt commit.count ≤
              construction.rowsAt construction.documents.length := by
          rw [← construction.rowsAt_eq]
          exact construction.rowsAt_mono progress.count_le
        have prefixLength := construction.length_shardContent kind fits
        have split : construction.shardContent
            (construction.completedAt commit.count)
            construction.config.rowsPerShard kind =
          construction.shardContent
              (construction.completedAt commit.count)
              (construction.openRowsAt commit.count) kind ++
            construction.content kind
              (construction.completedAt commit.count *
                  construction.config.rowsPerShard +
                construction.openRowsAt commit.count) more := by
          conv_lhs => rw [full]
          exact content_add _ _ _ _ _ _
        refine ⟨le_rfl, ?_, ?_⟩
        · simp only [File.sealed]
          rw [split, List.length_append, prefixLength]
          omega
        · simp only [File.sealed]
          rw [split, ← prefixLength, List.take_left]
      · rw [progress.shape.part_eq, if_neg (by omega)]
      · rw [progress.shape.shard_eq, if_pos later]
    · obtain ⟨file, place, kept⟩ := progress.protects.2 same openRows kind
      refine ⟨file, kept, ?_⟩
      rw [progress.shape.part_eq, progress.shape.shard_eq, if_pos same,
        if_neg (by omega), if_pos same]
      rcases place with here | here <;>
        simp [here, TailFile.partEntry, TailFile.finalEntry]
  names := by
    intro name present
    by_cases shardName : IsShardName name
    · cases name <;> simp_all [IsShardName, KnownName]
    · by_cases isJournal : name = .journal
      · subst isJournal
        trivial
      · rw [Directory.has_iff, progress.shape.rest name shardName isJournal]
          at present
        simp at present

theorem InProgress.crashState
    (progress : construction.InProgress commit completed tail directory) :
    construction.CrashState directory :=
  .inr (.inl ⟨commit, progress.committed⟩)

/-- Writing under the part name of a payload that has no final file. -/
theorem Shape.setPart
    (shape : construction.Shape commit completed tail directory)
    (unsealed : ∀ sealed, tail kind ≠ .final sealed) :
    construction.Shape commit completed
      (Function.update tail kind (.part file))
      (directory.insert (.shardPart completed kind) (.payload file)) where
  journal_eq := by
    rw [lookup_insert, if_neg (by simp)]
    exact shape.journal_eq
  shard_eq := by
    intro index other
    rw [lookup_insert, if_neg (by simp), shape.shard_eq]
    by_cases same : other = kind
    · subst same
      have noEntry : (tail other).finalEntry =
          (none : Option (Entry Digest Cursor)) := by
        cases place : tail other with
        | final sealed => exact absurd place (unsealed sealed)
        | absent => rfl
        | part _ => rfl
      rw [noEntry]
      simp [TailFile.finalEntry]
    · simp [same]
  part_eq := by
    intro index other
    rw [lookup_insert, shape.part_eq]
    by_cases here : index = completed
    · by_cases same : other = kind
      · simp [here, same, TailFile.partEntry]
      · simp [here, same]
    · simp [here]
  rest := by
    intro name noShard noJournal
    have different : name ≠ .shardPart completed kind := by
      rintro rfl
      exact noShard trivial
    rw [lookup_insert, if_neg different]
    exact shape.rest name noShard noJournal

/-- Renaming a part file to its final name. -/
theorem Shape.rename
    (shape : construction.Shape commit completed tail directory) :
    construction.Shape commit completed
      (Function.update tail kind (.final file))
      ((directory.erase (.shardPart completed kind)).insert
        (.shard completed kind) (.payload file)) where
  journal_eq := by
    rw [lookup_replace (by simp), if_neg (by simp), if_neg (by simp)]
    exact shape.journal_eq
  shard_eq := by
    intro index other
    rw [lookup_replace (by simp), shape.shard_eq]
    by_cases here : index = completed
    · by_cases same : other = kind
      · simp [here, same, TailFile.finalEntry]
      · simp [here, same]
    · simp [here]
  part_eq := by
    intro index other
    rw [lookup_replace (by simp), if_neg (by simp), shape.part_eq]
    by_cases here : index = completed
    · by_cases same : other = kind
      · simp [here, same, TailFile.partEntry]
      · simp [here, same]
    · simp [here]
  rest := by
    intro name noShard noJournal
    have notPart : name ≠ .shardPart completed kind := by
      rintro rfl
      exact noShard trivial
    have notFinal : name ≠ .shard completed kind := by
      rintro rfl
      exact noShard trivial
    rw [lookup_replace (by simp), if_neg notFinal, if_neg notPart]
    exact shape.rest name noShard noJournal

/-- Two sealed full payloads complete a shard. -/
theorem Shape.complete
    (shape : construction.Shape commit completed
      (fun kind => .final (.sealed (construction.shardContent completed
        construction.config.rowsPerShard kind))) directory) :
    construction.Shape commit (completed + 1) (fun _ => .absent)
      directory where
  journal_eq := shape.journal_eq
  shard_eq := by
    intro index kind
    rw [shape.shard_eq]
    by_cases before : index < completed
    · rw [if_pos before, if_pos (by omega)]
    · by_cases here : index = completed
      · subst here
        simp [TailFile.finalEntry]
      · rw [if_neg before, if_neg here, if_neg (by omega)]
        simp [TailFile.finalEntry]
  part_eq := by
    intro index kind
    rw [shape.part_eq]
    simp [TailFile.partEntry]
  rest := shape.rest

/-- A payload keeps protecting the journal while its file is replaced by one
that does. -/
theorem Protects.update
    {next : TailFile}
    (protects : construction.Protects commit completed tail)
    (place : next = .part file ∨ next = .final file)
    (kept : construction.completedAt commit.count = completed ->
      0 < construction.openRowsAt commit.count ->
      construction.Protected commit kind file) :
    construction.Protects commit completed
      (Function.update tail kind next) := by
  refine ⟨protects.1, ?_⟩
  intro same openRows other
  by_cases here : other = kind
  · subst here
    exact ⟨file, by simpa using place, kept same openRows⟩
  · simpa [here] using protects.2 same openRows other

/-- The file a payload in progress has is the protected one. -/
theorem Protects.kept
    (protects : construction.Protects commit completed tail)
    (found : tail kind = .part file)
    (same : construction.completedAt commit.count = completed)
    (openRows : 0 < construction.openRowsAt commit.count) :
    construction.Protected commit kind file := by
  obtain ⟨other, place, kept⟩ := protects.2 same openRows kind
  rw [found] at place
  rcases place with equal | equal
  · cases equal
    exact kept
  · cases equal

theorem Shape.lookup_part
    (shape : construction.Shape commit completed tail directory)
    (found : tail kind = .part file) :
    directory.lookup (.shardPart completed kind) = some (.payload file) := by
  rw [shape.part_eq, if_pos rfl, found]
  rfl

theorem Shape.lookup_final
    (shape : construction.Shape commit completed tail directory)
    (found : tail kind = .final file) :
    directory.lookup (.shard completed kind) = some (.payload file) := by
  rw [shape.shard_eq, if_neg (by omega), if_pos rfl, found]
  rfl

/-! ## Single effects -/

/-- A run from `directory` that cannot raise and passes only through
directories a kill may leave. -/
abbrev Safely
    (construction : Construction Digest Cursor)
    (program : Fs Digest Cursor α)
    (post : α -> Directory Digest Cursor -> Prop)
    (directory : Directory Digest Cursor) : Prop :=
  program.wp post (fun _ _ => False) construction.CrashState directory

theorem safely_openTail
    (progress : construction.InProgress commit completed tail directory)
    (absent : tail kind = .absent)
    (unjournaled : construction.completedAt commit.count = completed ->
      construction.openRowsAt commit.count = 0) :
    construction.Safely (openExclusive (.shardPart completed kind))
      (fun _ => construction.InProgress commit completed
        (Function.update tail kind (.part ⟨[], 0⟩))) directory := by
  have missing : directory.lookup (.shardPart completed kind) = none := by
    rw [progress.shape.part_eq, if_pos rfl, absent]
    rfl
  have next : construction.InProgress commit completed
      (Function.update tail kind (.part ⟨[], 0⟩))
      (directory.insert (.shardPart completed kind)
        (.payload ⟨[], 0⟩)) :=
    ⟨progress.admitted, progress.count_le,
      progress.shape.setPart (by simp [absent]),
      progress.protects.update (.inl rfl) fun same openRows => by
        have := unjournaled same
        omega⟩
  rw [Safely, wp_openExclusive missing]
  exact ⟨next.crashState, next⟩

theorem safely_appendTail
    (progress : construction.InProgress commit completed tail directory)
    (found : tail kind = .part file)
    (more : List Byte) :
    construction.Safely (appendBytes (.shardPart completed kind) more)
      (fun _ => construction.InProgress commit completed
        (Function.update tail kind
          (.part ⟨file.bytes ++ more, file.synced⟩))) directory := by
  have next : construction.InProgress commit completed
      (Function.update tail kind (.part ⟨file.bytes ++ more, file.synced⟩))
      (directory.insert (.shardPart completed kind)
        (.payload ⟨file.bytes ++ more, file.synced⟩)) :=
    ⟨progress.admitted, progress.count_le,
      progress.shape.setPart (by simp [found]),
      progress.protects.update (.inl rfl) fun same openRows =>
        (progress.protects.kept found same openRows).append more⟩
  rw [Safely, wp_appendBytes (progress.shape.lookup_part found)]
  exact ⟨next.crashState, next⟩

theorem safely_syncTail
    (progress : construction.InProgress commit completed tail directory)
    (found : tail kind = .part file) :
    construction.Safely (syncFile (.shardPart completed kind))
      (fun _ => construction.InProgress commit completed
        (Function.update tail kind (.part (.sealed file.bytes))))
      directory := by
  have next : construction.InProgress commit completed
      (Function.update tail kind (.part (.sealed file.bytes)))
      (directory.insert (.shardPart completed kind)
        (.payload (.sealed file.bytes))) :=
    ⟨progress.admitted, progress.count_le,
      progress.shape.setPart (by simp [found]),
      progress.protects.update (.inl rfl) fun same openRows =>
        (progress.protects.kept found same openRows).sealed⟩
  rw [Safely, wp_syncFile (progress.shape.lookup_part found)]
  exact ⟨next.crashState, next⟩

theorem safely_renameTail
    (progress : construction.InProgress commit completed tail directory)
    (found : tail kind = .part file) :
    construction.Safely
      (replaceFile (.shardPart completed kind) (.shard completed kind))
      (fun _ => construction.InProgress commit completed
        (Function.update tail kind (.final file))) directory := by
  have next : construction.InProgress commit completed
      (Function.update tail kind (.final file))
      ((directory.erase (.shardPart completed kind)).insert
        (.shard completed kind) (.payload file)) :=
    ⟨progress.admitted, progress.count_le,
      progress.shape.rename,
      progress.protects.update (.inr rfl) fun same openRows =>
        progress.protects.kept found same openRows⟩
  rw [Safely, wp_replaceFile (progress.shape.lookup_part found)]
  exact ⟨next.crashState, next⟩

/-! ## Attributes -/

section Attributes

variable {count : Nat} {writer : PackedShardWriter Digest Cursor}

theorem Tracks.available_eq
    (tracks : construction.Tracks count writer) :
    writer.available =
      construction.fed count -
        writer.rows * construction.config.sequenceLength := by
  have lengths := congrArg List.length tracks.tokens_eq
  rw [List.length_drop, slice, List.length_take, List.length_drop] at lengths
  have := construction.fed_le_length tracks.count_le
  unfold PackedShardWriter.available
  omega

/-- Rows already written end before the fed part of the stream. -/
theorem Tracks.rows_mul_le
    (tracks : construction.Tracks count writer) :
    writer.rows * construction.config.sequenceLength ≤
      construction.fed count :=
  (Nat.mul_le_mul_right _ tracks.rows_le).trans
    (construction.rowsAt_mul_le count)

/-- A writer without a full row left has written every row. -/
theorem Tracks.drained
    (tracks : construction.Tracks count writer)
    (exhausted : writer.available < construction.config.sequenceLength + 1) :
    writer.rows = construction.rowsAt count := by
  have spec := rowCount_spec (construction.fed count)
    construction.sequenceLength_pos
  have rest := tracks.available_eq
  have below := tracks.rows_mul_le
  refine Nat.le_antisymm tracks.rows_le ?_
  by_contra fewer
  have next : (writer.rows + 1) * construction.config.sequenceLength ≤
      construction.rowsAt count * construction.config.sequenceLength :=
    Nat.mul_le_mul_right _ (by omega)
  rw [Nat.add_mul, Nat.one_mul] at next
  have first : construction.rowsAt count *
      construction.config.sequenceLength ≤ construction.fed count - 1 :=
    spec.1
  have := construction.sequenceLength_pos
  omega

theorem Tracks.afterOpen
    (tracks : construction.Tracks count writer)
    (closed : writer.openShard = none) :
    construction.Tracks count writer.afterOpen :=
  { tracks with
    rows_eq := by
      have empty := tracks.open_none closed
      have rows := tracks.rows_eq
      rw [empty] at rows
      exact rows
    open_none := fun _ => rfl
    open_some := by
      intro openShard found kind
      cases found
      cases kind <;>
        simp [PackedShardWriter.afterOpen, OpenShard.digest] }

/-- The next batch is not empty while a full row is available. -/
theorem Tracks.batchRows_pos
    (tracks : construction.Tracks count writer)
    (more : construction.config.sequenceLength + 1 ≤ writer.available)
    (room : writer.rowsInOpenShard < construction.config.rowsPerShard) :
    1 ≤ writer.batchRows := by
  have complete : 1 ≤ (writer.available - 1) /
      construction.config.sequenceLength := by
    rw [Nat.le_div_iff_mul_le construction.sequenceLength_pos]
    omega
  have := writer.policy.batchRows_pos
  unfold PackedShardWriter.batchRows
  rw [tracks.config_eq]
  omega

/-- The next batch ends within the buffer. -/
theorem Tracks.batch_fits
    (tracks : construction.Tracks count writer)
    (more : construction.config.sequenceLength + 1 ≤ writer.available) :
    writer.batchRows * construction.config.sequenceLength + 1 ≤
      writer.available := by
  have le : writer.batchRows ≤ (writer.available - 1) /
      construction.config.sequenceLength := by
    unfold PackedShardWriter.batchRows
    rw [tracks.config_eq]
    exact Nat.min_le_left _ _
  have := (Nat.le_div_iff_mul_le construction.sequenceLength_pos).mp le
  omega

theorem batchRows_le_room
    (writer : PackedShardWriter Digest Cursor) :
    writer.batchRows ≤
      writer.config.rowsPerShard - writer.rowsInOpenShard := by
  unfold PackedShardWriter.batchRows
  omega

/-- The batch's rows are the next rows of the stream. -/
theorem Tracks.batchTokens_eq
    (tracks : construction.Tracks count writer)
    (more : construction.config.sequenceLength + 1 ≤ writer.available) :
    writer.batchTokens =
      (List.range writer.batchRows).map fun row =>
        construction.stream.rowTokens construction.config.sequenceLength
          (writer.rows + row) := by
  have fits := tracks.batch_fits more
  have rest := tracks.available_eq
  have span : slice writer.tokens writer.bufferOffset
      (writer.batchRows * construction.config.sequenceLength + 1) =
      slice construction.stream.tokens
        (writer.rows * construction.config.sequenceLength)
        (writer.batchRows * construction.config.sequenceLength + 1) := by
    have dropped := slice_drop writer.tokens writer.bufferOffset 0
      (writer.batchRows * construction.config.sequenceLength + 1)
    rw [Nat.add_zero, tracks.tokens_eq, slice_slice _ (by omega)] at dropped
    simpa using dropped.symm
  unfold PackedShardWriter.batchTokens stridedRows
  rw [tracks.config_eq, span]
  apply List.map_congr_left
  intro row member
  rw [List.mem_range] at member
  have inside : row * construction.config.sequenceLength +
      (construction.config.sequenceLength + 1) ≤
        writer.batchRows * construction.config.sequenceLength + 1 := by
    have := Nat.mul_le_mul_right construction.config.sequenceLength
      (Nat.succ_le_of_lt member)
    rw [Nat.succ_mul] at this
    omega
  rw [slice_slice _ inside, rowTokens, Nat.add_mul]

/-- The batch's start rows are those of the next rows of the stream. -/
theorem Tracks.batchStarts_eq
    (tracks : construction.Tracks count writer)
    (more : construction.config.sequenceLength + 1 ≤ writer.available) :
    writer.batchStarts =
      (List.range writer.batchRows).map fun row =>
        construction.stream.rowStarts construction.config.sequenceLength
          (writer.rows + row) := by
  have fits := tracks.batch_fits more
  have rest := tracks.available_eq
  have span : slice writer.starts writer.bufferOffset
      (writer.batchRows * construction.config.sequenceLength + 1) =
      slice construction.stream.starts
        (writer.rows * construction.config.sequenceLength)
        (writer.batchRows * construction.config.sequenceLength + 1) := by
    have dropped := slice_drop writer.starts writer.bufferOffset 0
      (writer.batchRows * construction.config.sequenceLength + 1)
    rw [Nat.add_zero, tracks.starts_eq, slice_slice _ (by omega)] at dropped
    simpa using dropped.symm
  unfold PackedShardWriter.batchStarts stridedRows
  rw [tracks.config_eq, span, List.map_map]
  apply List.map_congr_left
  intro row member
  rw [List.mem_range] at member
  have inside : row * construction.config.sequenceLength +
      (construction.config.sequenceLength + 1) ≤
        writer.batchRows * construction.config.sequenceLength + 1 := by
    have := Nat.mul_le_mul_right construction.config.sequenceLength
      (Nat.succ_le_of_lt member)
    rw [Nat.succ_mul] at this
    omega
  simp only [Function.comp_apply]
  rw [slice_slice _ inside, rowStarts, Nat.add_mul]

/-- The batch's bytes are the stream's next rows. -/
theorem Tracks.batchBytes_eq
    (tracks : construction.Tracks count writer)
    (more : construction.config.sequenceLength + 1 ≤ writer.available)
    (kind : ShardKind) :
    writer.batchBytes kind =
      construction.content kind writer.rows writer.batchRows := by
  unfold Construction.content PackedStream.content
  rw [← flatMap_range_eq_pieces]
  cases kind with
  | tokens =>
      rw [PackedShardWriter.batchBytes, tracks.batchTokens_eq more,
        List.flatMap_map]
      rfl
  | starts =>
      rw [PackedShardWriter.batchBytes, tracks.batchStarts_eq more,
        List.flatMap_map]
      rfl

theorem Tracks.batchMasked_eq
    (tracks : construction.Tracks count writer)
    (more : construction.config.sequenceLength + 1 ≤ writer.available) :
    writer.batchMasked =
      ((List.range writer.batchRows).map fun row =>
        construction.stream.rowMasked construction.config.sequenceLength
          (writer.rows + row)).sum := by
  rw [PackedShardWriter.batchMasked, tracks.batchStarts_eq more,
    List.map_map]
  rfl

/-- Appending a batch to an open shard appends its rows. -/
theorem Tracks.shardContent_append
    (tracks : construction.Tracks count writer)
    (more : construction.config.sequenceLength + 1 ≤ writer.available)
    (kind : ShardKind) :
    construction.shardContent writer.shards.length writer.rowsInOpenShard
        kind ++ writer.batchBytes kind =
      construction.shardContent writer.shards.length
        (writer.rowsInOpenShard + writer.batchRows) kind := by
  rw [tracks.batchBytes_eq more, tracks.rows_eq]
  exact (content_add _ _ _ _ _ _).symm

theorem Tracks.afterBatch
    {openShard : OpenShard}
    (tracks : construction.Tracks count writer)
    (opened : writer.openShard = some openShard)
    (more : construction.config.sequenceLength + 1 ≤ writer.available) :
    construction.Tracks count (writer.afterBatch openShard) := by
  have fits := tracks.batch_fits more
  have rest := tracks.available_eq
  have below := tracks.rows_mul_le
  have inputs : (writer.rows + writer.batchRows) *
      construction.config.sequenceLength =
        writer.rows * construction.config.sequenceLength +
          writer.batchRows * construction.config.sequenceLength :=
    Nat.add_mul _ _ _
  have maskedSum := tracks.batchMasked_eq more
  have maskedTotal := masked_add construction.stream
    construction.config.sequenceLength writer.rows writer.batchRows
  rw [← maskedSum, ← tracks.masked_eq] at maskedTotal
  have maskedBound : writer.batchMasked ≤
      writer.batchRows * construction.config.sequenceLength := by
    rw [maskedSum]
    have := List.sum_le_card_nsmul
      ((List.range writer.batchRows).map fun row =>
        construction.stream.rowMasked construction.config.sequenceLength
          (writer.rows + row))
      construction.config.sequenceLength (by
        intro value member
        rw [List.mem_map] at member
        obtain ⟨row, _, rfl⟩ := member
        exact rowMasked_le _ _ _)
    simpa using this
  refine
    { tracks with
      offset_le := ?_
      tokens_eq := ?_
      starts_eq := ?_
      rows_le := ?_
      masked_eq := ?_
      loss_eq := ?_
      rows_eq := ?_
      open_none := ?_
      open_some := ?_ }
  · have := tracks.offset_le
    simp only [PackedShardWriter.afterBatch, PackedShardWriter.available,
      tracks.config_eq] at fits ⊢
    omega
  · simp only [PackedShardWriter.afterBatch, tracks.config_eq]
    rw [← List.drop_drop, tracks.tokens_eq, inputs, slice, slice,
      List.drop_take, List.drop_drop, Nat.sub_sub]
  · simp only [PackedShardWriter.afterBatch, tracks.config_eq]
    rw [← List.drop_drop, tracks.starts_eq, inputs, slice, slice,
      List.drop_take, List.drop_drop, Nat.sub_sub]
  · simp only [PackedShardWriter.afterBatch]
    unfold Construction.rowsAt rowCount
    rw [Nat.le_div_iff_mul_le construction.sequenceLength_pos, inputs]
    omega
  · simp only [PackedShardWriter.afterBatch]
    exact maskedTotal.symm
  · have loss := tracks.loss_eq
    simp only [PackedShardWriter.afterBatch, tracks.config_eq]
    rw [inputs]
    omega
  · have rows := tracks.rows_eq
    simp only [PackedShardWriter.afterBatch]
    omega
  · intro impossible
    cases impossible
  · intro shard found kind
    cases found
    have digest := tracks.open_some openShard opened kind
    have appended := tracks.shardContent_append more kind
    rw [← digest] at appended
    cases kind <;> exact appended

theorem Tracks.afterFinalize
    {openShard : OpenShard}
    (tracks : construction.Tracks count writer)
    (opened : writer.openShard = some openShard)
    (full : writer.rowsInOpenShard = construction.config.rowsPerShard) :
    construction.Tracks count
      (writer.afterFinalize construction.sha256 openShard) :=
  { tracks with
    shards_eq := by
      have digest := funext (tracks.open_some openShard opened)
      simp only [PackedShardWriter.afterFinalize, List.length_append,
        List.length_singleton]
      rw [construction.fullShards_succ, ← tracks.shards_eq,
        tracks.config_eq, digest, full]
      rfl
    rows_eq := by
      have rows := tracks.rows_eq
      simp only [PackedShardWriter.afterFinalize, List.length_append,
        List.length_singleton, Nat.add_mul, Nat.one_mul, Nat.add_zero]
      omega
    open_none := fun _ => rfl
    open_some := by
      intro shard impossible
      cases impossible }

theorem available_compact (writer : PackedShardWriter Digest Cursor) :
    writer.compact.available = writer.available := by
  unfold PackedShardWriter.compact PackedShardWriter.available
  split <;> simp

theorem Tracks.compact
    (tracks : construction.Tracks count writer) :
    construction.Tracks count writer.compact := by
  unfold PackedShardWriter.compact
  split
  · exact
      { tracks with
        offset_le := Nat.zero_le _
        same_length := by
          simp only [List.length_drop, tracks.same_length]
        tokens_eq := by
          simpa using tracks.tokens_eq
        starts_eq := by
          simpa using tracks.starts_eq }
  · exact tracks

end Attributes

/-! ## Shard files -/

section Programs

variable {count : Nat} {writer : PackedShardWriter Digest Cursor}
variable {openShard : OpenShard}

theorem Safely.andThen
    {program : Fs Digest Cursor α} {next : α -> Fs Digest Cursor β}
    {middle : α -> Directory Digest Cursor -> Prop}
    {post : β -> Directory Digest Cursor -> Prop}
    (first : construction.Safely program middle directory)
    (rest : ∀ value current, middle value current ->
      construction.Safely (next value) post current) :
    construction.Safely (program >>= next) post directory := by
  rw [Safely, Program.wp_bind]
  exact first.weaken rest

/-- A passed check has no effect. -/
theorem Safely.require
    {condition : Prop} [Decidable condition] {error : PyError}
    {next : PLift condition -> Fs Digest Cursor α}
    {post : α -> Directory Digest Cursor -> Prop}
    (holds : condition)
    (rest : construction.Safely (next ⟨holds⟩) post directory) :
    construction.Safely (Program.lift (require condition error) >>= next)
      post directory := by
  rw [Safely, Program.wp_bind, require_eq_ok holds, Program.wp_lift_ok]
  exact rest

/-- One effect on each of the two files in progress, tokens first. -/
theorem safely_both
    {before : ShardKind -> TailFile}
    (change : ShardKind -> Fs Digest Cursor Unit)
    (next : ShardKind -> TailFile)
    {rest : Fs Digest Cursor α}
    {post : α -> Directory Digest Cursor -> Prop}
    (entry : construction.InProgress commit completed before directory)
    (step : ∀ kind tail current, tail kind = before kind ->
      construction.InProgress commit completed tail current ->
        construction.Safely (change kind)
          (fun _ => construction.InProgress commit completed
            (Function.update tail kind (next kind))) current)
    (continuation : ∀ current,
      construction.InProgress commit completed next current ->
        construction.Safely rest post current) :
    construction.Safely
      (change .tokens >>= fun _ => change .starts >>= fun _ => rest)
      post directory := by
  refine (step .tokens before directory rfl entry).andThen ?_
  intro _ middle progress
  refine (step .starts _ middle (by simp) progress).andThen ?_
  intro _ final finished
  apply continuation
  have both : Function.update
      (Function.update before .tokens (next .tokens)) .starts
        (next .starts) = next := by
    funext kind
    cases kind <;> simp
  rw [both] at finished
  exact finished

/-- While no shard is open the journal has none after the completed ones. -/
theorem Protects.unjournaled
    (protects : construction.Protects commit completed fun _ => .absent)
    (same : construction.completedAt commit.count = completed) :
    construction.openRowsAt commit.count = 0 := by
  by_contra openRows
  obtain ⟨_, impossible | impossible, _⟩ :=
    protects.2 same (Nat.pos_of_ne_zero openRows) .tokens <;>
    cases impossible

/-- `_open_shard` leaves a live writer with an open shard. -/
theorem safely_openShardFiles
    (live : construction.Live commit count writer directory) :
    construction.Safely writer.openShardFiles
      (fun opened current => construction.Live commit count opened current ∧
        opened.openShard ≠ none ∧
        opened.rowsInOpenShard = writer.rowsInOpenShard ∧
        opened.available = writer.available) directory := by
  unfold PackedShardWriter.openShardFiles
  cases found : writer.openShard with
  | some openShard =>
      rw [Safely, Program.wp_pure]
      exact ⟨live, by simp [found], rfl, rfl⟩
  | none =>
      obtain ⟨tail, progress, agree⟩ := live.progress
      simp only [PartsAgree, found] at agree
      subst agree
      refine safely_both
        (fun kind =>
          openExclusive (.shardPart writer.shards.length kind))
        (fun _ => .part ⟨[], 0⟩) progress ?_ ?_
      · intro kind tail current absent inProgress
        exact safely_openTail inProgress absent progress.protects.unjournaled
      · intro current inProgress
        rw [Safely, Program.wp_pure]
        refine ⟨⟨live.tracks.afterOpen found, live.cursor_eq, _, inProgress,
          ?_⟩, by simp [PackedShardWriter.afterOpen],
          (live.tracks.open_none found).symm, rfl⟩
        intro kind
        exact ⟨0, by simp [PackedShardWriter.afterOpen],
          Nat.zero_le _, fun _ => by simp [PackedShardWriter.afterOpen]⟩

/-- Every start row of the next batch takes its bytes. -/
theorem Tracks.batchStarts_width
    (tracks : construction.Tracks count writer)
    (more : construction.config.sequenceLength + 1 ≤ writer.available) :
    ∀ row ∈ writer.batchStarts, (packBits row).length =
      startsBytesPerRow writer.config.sequenceLength := by
  intro row member
  rw [tracks.batchStarts_eq more, List.mem_map] at member
  obtain ⟨index, inBatch, rfl⟩ := member
  rw [List.mem_range] at inBatch
  have fits := tracks.batch_fits more
  have rest := tracks.available_eq
  have whole := construction.fed_le_length tracks.count_le
  have last : (writer.rows + index) * construction.config.sequenceLength +
      construction.config.sequenceLength ≤
        writer.rows * construction.config.sequenceLength +
          writer.batchRows * construction.config.sequenceLength := by
    rw [← Nat.succ_mul, ← Nat.add_mul]
    exact Nat.mul_le_mul_right _ (by omega)
  rw [tracks.config_eq]
  exact length_rowContent .starts (by omega)

/-- Writing a batch keeps the writer live and consumes its rows. -/
theorem safely_writeBatch
    (live : construction.Live commit count writer directory)
    (opened : writer.openShard ≠ none)
    (room : writer.rowsInOpenShard < construction.config.rowsPerShard)
    (more : construction.config.sequenceLength + 1 ≤ writer.available) :
    construction.Safely writer.writeBatch
      (fun written current =>
        construction.Live commit count written current ∧
        written.openShard ≠ none ∧
        0 < written.rowsInOpenShard ∧
        written.rowsInOpenShard ≤ construction.config.rowsPerShard ∧
        written.available < writer.available) directory := by
  obtain ⟨openShard, found⟩ := Option.ne_none_iff_exists'.mp opened
  obtain ⟨tail, progress, agree⟩ := live.progress
  have positive := live.tracks.batchRows_pos more room
  have fits := live.tracks.batch_fits more
  have roomLeft := batchRows_le_room writer
  rw [live.tracks.config_eq] at roomLeft
  simp only [PartsAgree, found] at agree
  choose synced place syncedLe _ using agree
  unfold PackedShardWriter.writeBatch
  rw [found]
  refine Safely.require positive ?_
  refine Safely.require (live.tracks.batchStarts_width more) ?_
  refine safely_both
    (fun kind => appendBytes
      (.shardPart writer.shards.length kind) (writer.batchBytes kind))
    (fun kind => .part
      ⟨construction.shardContent writer.shards.length
        (writer.rowsInOpenShard + writer.batchRows) kind, synced kind⟩)
    progress ?_ ?_
  · intro kind before current same inProgress
    have appended := safely_appendTail inProgress (same.trans (place kind))
      (writer.batchBytes kind)
    rw [live.tracks.shardContent_append more kind] at appended
    exact appended
  · intro current inProgress
    rw [Safely, Program.wp_pure]
    refine ⟨⟨live.tracks.afterBatch found more, live.cursor_eq, _,
      inProgress, ?_⟩, by simp [PackedShardWriter.afterBatch], ?_, ?_, ?_⟩
    · intro kind
      refine ⟨synced kind, rfl, ?_, by simp [PackedShardWriter.afterBatch]⟩
      have longer := congrArg List.length
        (live.tracks.shardContent_append more kind)
      rw [List.length_append] at longer
      have := syncedLe kind
      simp only [PackedShardWriter.afterBatch]
      omega
    · simp only [PackedShardWriter.afterBatch]
      omega
    · simp only [PackedShardWriter.afterBatch]
      omega
    · have consumed : 0 <
          writer.batchRows * construction.config.sequenceLength :=
        Nat.mul_pos positive construction.sequenceLength_pos
      simp only [PackedShardWriter.afterBatch, PackedShardWriter.available,
        live.tracks.config_eq] at fits ⊢
      omega

/-- The rows of the open shard exist in the stream of all documents. -/
theorem Tracks.openRows_le
    (tracks : construction.Tracks count writer) :
    writer.shards.length * construction.config.rowsPerShard +
        writer.rowsInOpenShard ≤
      construction.rowsAt construction.documents.length := by
  rw [← tracks.rows_eq]
  exact tracks.rows_le.trans (construction.rowsAt_mono tracks.count_le)

/-- `_finalize_open_shard` seals both files of the open shard. -/
theorem safely_finalizeOpenShard
    (live : construction.Live commit count writer directory)
    (found : writer.openShard = some openShard)
    (nonempty : 0 < writer.rowsInOpenShard) :
    construction.Safely (writer.finalizeOpenShard construction.sha256)
      (fun sealed current =>
        sealed = writer.afterFinalize construction.sha256 openShard ∧
        construction.InProgress commit writer.shards.length
          (fun kind => .final (.sealed (construction.shardContent
            writer.shards.length writer.rowsInOpenShard kind))) current)
      directory := by
  obtain ⟨tail, progress, agree⟩ := live.progress
  simp only [PartsAgree, found] at agree
  choose synced place _ _ using agree
  have sizes (kind : ShardKind) :=
    construction.length_shardContent kind live.tracks.openRows_le
  unfold PackedShardWriter.finalizeOpenShard
  rw [found]
  refine Safely.require nonempty ?_
  refine safely_both
    (fun kind => syncFile (.shardPart writer.shards.length kind))
    (fun kind => .part (.sealed (construction.shardContent
      writer.shards.length writer.rowsInOpenShard kind))) progress ?_ ?_
  · intro kind before current same inProgress
    exact safely_syncTail inProgress (same.trans (place kind))
  intro current inProgress
  refine safely_both
    (fun kind => replaceFile
      (.shardPart writer.shards.length kind)
      (.shard writer.shards.length kind))
    (fun kind => .final (.sealed (construction.shardContent
      writer.shards.length writer.rowsInOpenShard kind))) inProgress ?_ ?_
  · intro kind before current same inProgress
    exact safely_renameTail inProgress same
  intro current inProgress
  have size (kind : ShardKind) :
      construction.Safely (fileSize (.shard writer.shards.length kind))
        (fun size final => size = writer.rowsInOpenShard *
            rowBytes writer.config.sequenceLength kind ∧ final = current)
        current := by
    rw [Safely, wp_fileSize (inProgress.shape.lookup_final rfl),
      live.tracks.config_eq]
    exact ⟨sizes kind, rfl⟩
  refine (size .tokens).andThen ?_
  rintro _ _ ⟨rfl, rfl⟩
  refine Safely.require rfl ?_
  refine (size .starts).andThen ?_
  rintro _ _ ⟨rfl, rfl⟩
  refine Safely.require rfl ?_
  rw [Safely, Program.wp_pure]
  exact ⟨rfl, inProgress⟩

/-- Completing a full shard keeps the writer live. -/
theorem Live.afterFinalize
    {sealed : Directory Digest Cursor}
    (live : construction.Live commit count writer directory)
    (found : writer.openShard = some openShard)
    (full : writer.rowsInOpenShard = construction.config.rowsPerShard)
    (progress : construction.InProgress commit writer.shards.length
      (fun kind => .final (.sealed (construction.shardContent
        writer.shards.length writer.rowsInOpenShard kind))) sealed) :
    construction.Live commit count
      (writer.afterFinalize construction.sha256 openShard) sealed := by
  rw [full] at progress
  refine ⟨live.tracks.afterFinalize found full, live.cursor_eq,
    fun _ => .absent, ⟨progress.admitted, progress.count_le, ?_, ?_⟩, rfl⟩
  · simp only [PackedShardWriter.afterFinalize, List.length_append,
      List.length_singleton]
    exact progress.shape.complete
  · simp only [PackedShardWriter.afterFinalize, List.length_append,
      List.length_singleton]
    have behind := progress.protects.1
    exact ⟨by omega, fun same => by omega⟩

/-! ## The drain loop -/

theorem Live.compact
    (live : construction.Live commit count writer directory) :
    construction.Live commit count writer.compact directory := by
  have tracks := live.tracks.compact
  unfold PackedShardWriter.compact at tracks ⊢
  split at tracks <;> rename_i long
  · rw [if_pos long]
    exact ⟨tracks, live.cursor_eq, live.progress⟩
  · rw [if_neg long]
    exact live

theorem HasRoom.compact
    (room : construction.HasRoom writer) :
    construction.HasRoom writer.compact := by
  unfold PackedShardWriter.compact
  split
  · exact ⟨room.open_lt, room.open_pos⟩
  · exact room

/-- One iteration of the drain loop keeps the writer live, with room in the
open shard, and consumes a row. -/
theorem safely_drainBatch
    (live : construction.Live commit count writer directory)
    (room : construction.HasRoom writer)
    (more : construction.config.sequenceLength + 1 ≤ writer.available) :
    construction.Safely (writer.drainBatch construction.sha256)
      (fun drained current =>
        (construction.Live commit count drained current ∧
          construction.HasRoom drained) ∧
        drained.available < writer.available) directory := by
  unfold PackedShardWriter.drainBatch
  refine (safely_openShardFiles live).andThen ?_
  rintro opened current ⟨openedLive, isOpen, sameRows, sameAvailable⟩
  rw [← sameAvailable] at more ⊢
  refine (safely_writeBatch openedLive isOpen
    (by rw [sameRows]; exact room.open_lt) more).andThen ?_
  rintro written current ⟨writtenLive, stillOpen, nonempty, bounded, fewer⟩
  have sealing : construction.Safely
      (if written.rowsInOpenShard = written.config.rowsPerShard then
        written.finalizeOpenShard construction.sha256
      else pure written)
      (fun sealed current =>
        (construction.Live commit count sealed current ∧
          construction.HasRoom sealed) ∧
        sealed.available = written.available) current := by
    rw [writtenLive.tracks.config_eq]
    by_cases full :
        written.rowsInOpenShard = construction.config.rowsPerShard
    · rw [if_pos full]
      obtain ⟨openShard, found⟩ := Option.ne_none_iff_exists'.mp stillOpen
      refine (safely_finalizeOpenShard writtenLive found nonempty).weaken ?_
      rintro sealed final ⟨rfl, progress⟩
      exact ⟨⟨writtenLive.afterFinalize found full progress,
        ⟨construction.config.rowsPerShard_pos,
          fun impossible => absurd rfl impossible⟩⟩, rfl⟩
    · rw [if_neg full, Safely, Program.wp_pure]
      exact ⟨⟨writtenLive, ⟨by omega, fun _ => nonempty⟩⟩, rfl⟩
  refine sealing.andThen ?_
  rintro sealed current ⟨⟨sealedLive, sealedRoom⟩, sameLeft⟩
  rw [Safely, Program.wp_pure, available_compact]
  exact ⟨⟨sealedLive.compact, sealedRoom.compact⟩, by omega⟩

/-- `_drain_rows` writes every row that the fed documents fill. -/
theorem safely_drainRows
    (live : construction.Live commit count writer directory)
    (room : construction.HasRoom writer) :
    construction.Safely (writer.drainRows construction.sha256)
      (fun drained current =>
        construction.Live commit count drained current ∧
        construction.HasRoom drained ∧
        drained.rows = construction.rowsAt count) directory := by
  have more_iff {current : PackedShardWriter Digest Cursor}
      {disk : Directory Digest Cursor}
      (alive : construction.Live commit count current disk) :
      decide (current.config.tokensPerRow ≤ current.available) = true ↔
        construction.config.sequenceLength + 1 ≤ current.available := by
    rw [decide_eq_true_iff, alive.tracks.config_eq]
    rfl
  unfold PackedShardWriter.drainRows
  refine (Program.wp_whileLoop
    (fun current disk => construction.Live commit count current disk ∧
      construction.HasRoom current)
    PackedShardWriter.available ?step ?positive
    (Nat.sub_le _ _) ⟨live, room⟩).weaken ?_
  case step =>
    rintro current disk ⟨alive, hasRoom⟩ continues
    exact safely_drainBatch alive hasRoom ((more_iff alive).mp continues)
  case positive =>
    rintro current disk ⟨alive, hasRoom⟩ continues
    have := (more_iff alive).mp continues
    omega
  rintro drained final ⟨⟨alive, hasRoom⟩, ended⟩
  refine ⟨alive, hasRoom, alive.tracks.drained ?_⟩
  by_contra continues
  rw [(more_iff alive).mpr (by omega)] at ended
  cases ended

end Programs

end Construction
end CodingLlm
