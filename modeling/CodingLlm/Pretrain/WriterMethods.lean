import CodingLlm.Pretrain.WriterDrain

/-!
# Documents, checkpoints and finishing

What `add_document`, `checkpoint` and `finish` do to a writer between two
calls and to its directory.
-/

namespace CodingLlm

open CrashLogic Words Slices PackedStream

variable {Digest Cursor : Type}

namespace Construction

variable {construction : Construction Digest Cursor}
variable {commit : Commit Cursor} {completed count : Nat}
variable {tail : ShardKind -> TailFile}
variable {directory : Directory Digest Cursor}
variable {writer : PackedShardWriter Digest Cursor}

/-- The attributes of a writer between two calls: every row that its documents
fill has been written. -/
structure Idle
    (construction : Construction Digest Cursor)
    (count : Nat)
    (writer : PackedShardWriter Digest Cursor) : Prop where
  tracks : construction.Tracks count writer
  room : construction.HasRoom writer
  rows_eq : writer.rows = construction.rowsAt count

/-- A writer between two calls, and its directory. -/
structure Settled
    (construction : Construction Digest Cursor)
    (commit : Commit Cursor) (count : Nat)
    (writer : PackedShardWriter Digest Cursor)
    (directory : Directory Digest Cursor) : Prop where
  live : construction.Live commit count writer directory
  room : construction.HasRoom writer
  rows_eq : writer.rows = construction.rowsAt count

theorem Settled.idle
    (settled : construction.Settled commit count writer directory) :
    construction.Idle count writer :=
  ⟨settled.live.tracks, settled.room, settled.rows_eq⟩

theorem Idle.shards_length
    (idle : construction.Idle count writer) :
    writer.shards.length = construction.completedAt count := by
  have rows := idle.tracks.rows_eq
  rw [idle.rows_eq] at rows
  unfold completedAt
  rw [rows, Nat.add_comm,
    Nat.add_mul_div_right _ _ construction.config.rowsPerShard_pos,
    Nat.div_eq_of_lt idle.room.open_lt, Nat.zero_add]

theorem Idle.rowsInOpenShard_eq
    (idle : construction.Idle count writer) :
    writer.rowsInOpenShard = construction.openRowsAt count := by
  have rows := idle.tracks.rows_eq
  rw [idle.rows_eq] at rows
  unfold openRowsAt
  rw [rows, Nat.add_comm, Nat.add_mul_mod_self_right,
    Nat.mod_eq_of_lt idle.room.open_lt]

/-! ## Temporaries -/

/-- A JSON file that `_atomic_json` has not yet moved into place. -/
def IsTemporary : FileName -> Prop
  | .journalTemporary _ => True
  | .manifestTemporary _ => True
  | _ => False

/-- A commit does not depend on temporaries. -/
theorem Committed.frame
    {current : Directory Digest Cursor}
    (committed : construction.Committed commit directory)
    (same : ∀ name, ¬IsTemporary name ->
      current.lookup name = directory.lookup name) :
    construction.Committed commit current := by
  refine ⟨committed.admitted, committed.count_le, ?_, ?_, ?_, ?_⟩
  · rw [same .journal (by simp [IsTemporary])]
    exact committed.journal_eq
  · intro index bound kind
    rw [same (.shard index kind) (by simp [IsTemporary]),
      same (.shardPart index kind) (by simp [IsTemporary])]
    exact committed.completed index bound kind
  · intro openRows kind
    unfold Recoverable
    rw [same (.shard _ kind) (by simp [IsTemporary]),
      same (.shardPart _ kind) (by simp [IsTemporary])]
    exact committed.open_recoverable openRows kind
  · intro other present
    by_cases isTemporary : IsTemporary other
    · cases other <;> simp_all [IsTemporary, KnownName]
    · apply committed.names
      rw [Directory.has_iff] at present ⊢
      rwa [same other isTemporary] at present

theorem Committed.insert_temporary
    {current : Directory Digest Cursor} {name : FileName}
    {entry : Entry Digest Cursor}
    (committed : construction.Committed commit directory)
    (isTemporary : IsTemporary name)
    (same : ∀ other, current.lookup other =
      (directory.insert name entry).lookup other) :
    construction.Committed commit current := by
  apply committed.frame
  intro other durable
  have different : other ≠ name := by
    rintro rfl
    exact durable isTemporary
  rw [same, lookup_insert, if_neg different]

/-- `_atomic_json` shows the entry under the target and changes nothing
else. -/
theorem safely_atomicJson
    {temporary : Nat -> FileName} {target : FileName}
    {entry : Entry Digest Cursor}
    {post : Unit -> Directory Digest Cursor -> Prop}
    (fresh : ∀ suffix, directory.lookup (temporary suffix) = none)
    (different : ∀ suffix, temporary suffix ≠ target)
    (pending : ∀ current suffix value,
      (∀ name, current.lookup name =
        (directory.insert (temporary suffix) value).lookup name) ->
        construction.CrashState current)
    (moved : ∀ current,
      (∀ name, current.lookup name =
        (directory.insert target entry).lookup name) ->
        construction.CrashState current ∧ post () current) :
    construction.Safely (atomicJson temporary target entry) post
      directory := by
  unfold atomicJson unusedSuffix
  rw [Safely, Program.wp_bind, Program.wp_inspect]
  simp only
  generalize (directory.keys.map FileName.suffix).foldr max 0 + 1 = suffix
  have twice (name : FileName) :
      ((directory.insert (temporary suffix) .temporary).insert
          (temporary suffix) entry).lookup name =
        (directory.insert (temporary suffix) entry).lookup name := by
    rw [lookup_insert, lookup_insert, lookup_insert]
    split <;> rfl
  rw [Program.wp_bind, wp_writeEntry]
  refine ⟨pending _ suffix _ fun _ => rfl, ?_⟩
  rw [Program.wp_bind, wp_writeEntry]
  refine ⟨pending _ suffix entry twice, ?_⟩
  have written : ((directory.insert (temporary suffix) .temporary).insert
      (temporary suffix) entry).lookup (temporary suffix) = some entry := by
    rw [twice, lookup_insert, if_pos rfl]
  rw [wp_replaceFile written]
  apply moved
  intro name
  rw [lookup_replace (different suffix), twice, lookup_insert, lookup_insert]
  by_cases isTarget : name = target
  · rw [if_pos isTarget, if_pos isTarget]
  · rw [if_neg isTarget, if_neg isTarget]
    by_cases isTemporary : name = temporary suffix
    · rw [if_pos isTemporary, isTemporary, fresh suffix]
    · rw [if_neg isTemporary, if_neg isTemporary]

/-! ## Checkpoints -/

/-- The journal of an idle writer is the one its documents determine. -/
theorem Idle.journalPayload_eq
    (idle : construction.Idle count writer)
    (cursor : Option Cursor) :
    writer.journalPayload construction.sha256 cursor =
      .ok (construction.journal ⟨cursor, count⟩) := by
  have tracks := idle.tracks
  have openShard : writer.journalOpenShard construction.sha256 =
      .ok (construction.journal ⟨cursor, count⟩).state.openShard := by
    unfold PackedShardWriter.journalOpenShard Construction.journal
    simp only [idle.rowsInOpenShard_eq]
    by_cases empty : construction.openRowsAt count = 0
    · rw [if_pos empty, if_pos empty]
    · rw [if_neg empty, if_neg empty]
      cases found : writer.openShard with
      | none =>
          have none := tracks.open_none found
          rw [idle.rowsInOpenShard_eq] at none
          exact absurd none empty
      | some openShard =>
          have digest := funext (tracks.open_some openShard found)
          rw [idle.rowsInOpenShard_eq, idle.shards_length] at digest
          simp only [digest, tracks.config_eq, idle.shards_length]
          rfl
  have content := tracks.content_eq
  have loss := tracks.loss_eq
  rw [tracks.masked_eq, idle.rows_eq] at loss
  unfold PackedShardWriter.journalPayload
  rw [openShard]
  simp only [Construction.journal, bind, Except.bind, pure,
    Except.pure, tracks.config_eq, idle.rows_eq, tracks.documents_eq,
    tracks.masked_eq]
  congr 3
  · omega
  · omega
  · rw [tracks.tokens_eq, idle.rows_eq]
  · rw [tracks.starts_eq, idle.rows_eq]
  · rw [tracks.shards_eq, idle.shards_length]

/-- Syncing changes nothing that the documents determine. -/
theorem Settled.afterSync
    {current : Directory Digest Cursor}
    (settled : construction.Settled commit count writer directory)
    (progress : construction.InProgress commit writer.shards.length tail
      current)
    (agree : construction.PartsAgree writer.afterSync tail) :
    construction.Settled commit count writer.afterSync current :=
  ⟨⟨{ settled.live.tracks with }, settled.live.cursor_eq, tail, progress,
    agree⟩, ⟨settled.room.open_lt, settled.room.open_pos⟩, settled.rows_eq⟩

/-- `_sync_open_shard` makes every byte of the open shard durable. -/
theorem safely_syncOpenShard
    (settled : construction.Settled commit count writer directory) :
    construction.Safely writer.syncOpenShard
      (fun synced current =>
        construction.Settled commit count synced current ∧
        synced.openShardDirty = false) directory := by
  unfold PackedShardWriter.syncOpenShard
  by_cases clean : writer.openShardDirty = false
  · rw [if_pos clean, Safely, Program.wp_pure]
    exact ⟨settled, clean⟩
  · rw [if_neg clean]
    obtain ⟨tail, progress, agree⟩ := settled.live.progress
    cases found : writer.openShard with
    | none =>
        simp only [PartsAgree, found] at agree
        have agreeAfter : construction.PartsAgree writer.afterSync tail := by
          simp only [PartsAgree, PackedShardWriter.afterSync, found]
          exact agree
        simp only
        rw [Safely, Program.wp_pure]
        exact ⟨settled.afterSync progress agreeAfter, rfl⟩
    | some openShard =>
        simp only [PartsAgree, found] at agree
        choose synced place _ _ using agree
        refine safely_both
          (fun kind => syncFile (.shardPart writer.shards.length kind))
          (fun kind => .part (.sealed (construction.shardContent
            writer.shards.length writer.rowsInOpenShard kind)))
          progress ?_ ?_
        · intro kind before current same inProgress
          exact safely_syncTail inProgress (same.trans (place kind))
        · intro current inProgress
          have agreeAfter : construction.PartsAgree writer.afterSync
              (fun kind => .part (.sealed (construction.shardContent
                writer.shards.length writer.rowsInOpenShard kind))) := by
            simp only [PartsAgree, PackedShardWriter.afterSync, found]
            exact fun kind => ⟨_, rfl, le_rfl, fun _ => rfl⟩
          rw [Safely, Program.wp_pure]
          exact ⟨settled.afterSync inProgress agreeAfter, rfl⟩

/-- Moving a new journal into place commits the synced rows. -/
theorem Settled.commit_next
    {current : Directory Digest Cursor} {cursor : Option Cursor}
    (settled : construction.Settled commit count writer directory)
    (clean : writer.openShardDirty = false)
    (admitted : construction.Admits ⟨cursor, count⟩)
    (same : ∀ name, current.lookup name =
      (directory.insert .journal
        (.journal (construction.journal ⟨cursor, count⟩))).lookup name) :
    construction.Settled ⟨cursor, count⟩ count
      { writer with sourceCursor := cursor } current := by
  obtain ⟨tail, progress, agree⟩ := settled.live.progress
  have frame (name : FileName) (other : name ≠ .journal) :
      current.lookup name = directory.lookup name := by
    rw [same, lookup_insert, if_neg other]
  have shape : construction.Shape ⟨cursor, count⟩ writer.shards.length tail
      current := by
    refine ⟨?_, ?_, ?_, ?_⟩
    · rw [same, lookup_insert, if_pos rfl]
    · intro index kind
      rw [frame _ (by simp)]
      exact progress.shape.shard_eq index kind
    · intro index kind
      rw [frame _ (by simp)]
      exact progress.shape.part_eq index kind
    · intro name noShard noJournal
      rw [frame name noJournal]
      exact progress.shape.rest name noShard noJournal
  have protects : construction.Protects ⟨cursor, count⟩
      writer.shards.length tail := by
    refine ⟨settled.idle.shards_length.ge, ?_⟩
    intro _ openRows kind
    cases found : writer.openShard with
    | none =>
        have none := settled.live.tracks.open_none found
        rw [settled.idle.rowsInOpenShard_eq] at none
        simp only at openRows
        omega
    | some openShard =>
        simp only [PartsAgree, found] at agree
        obtain ⟨synced, place, _, whole⟩ := agree kind
        have size := construction.length_shardContent kind
          settled.live.tracks.openRows_le
        rw [whole clean] at place
        rw [settled.idle.shards_length, settled.idle.rowsInOpenShard_eq] at place size
        refine ⟨_, .inl place, le_rfl, size.ge, ?_⟩
        rw [← size, List.take_length]
  exact ⟨⟨{ settled.live.tracks with }, rfl, tail,
    ⟨admitted, settled.live.tracks.count_le, shape, protects⟩, agree⟩,
    ⟨settled.room.open_lt, settled.room.open_pos⟩, settled.rows_eq⟩

/-- `_write_journal` commits the documents fed so far. -/
theorem safely_writeJournal
    {cursor : Option Cursor}
    (settled : construction.Settled commit count writer directory)
    (admitted : construction.Admits ⟨cursor, count⟩) :
    construction.Safely (writer.writeJournal construction.sha256 cursor)
      (construction.Settled ⟨cursor, count⟩ count) directory := by
  unfold PackedShardWriter.writeJournal
  refine (safely_syncOpenShard settled).andThen ?_
  rintro synced current ⟨settled, clean⟩
  obtain ⟨tail, progress, _⟩ := settled.live.progress
  rw [Safely, Program.wp_bind, settled.idle.journalPayload_eq,
    Program.wp_lift_ok, Program.wp_bind]
  refine safely_atomicJson ?_ (by simp) ?_ ?_
  · intro suffix
    exact progress.shape.rest _ (by simp [IsShardName]) (by simp)
  · intro current suffix value same
    exact .inr (.inl ⟨commit, progress.committed.insert_temporary
      (by simp [IsTemporary]) same⟩)
  · intro final same
    have next := settled.commit_next clean admitted same
    rw [Program.wp_pure]
    obtain ⟨_, nextProgress, _⟩ := next.live.progress
    exact ⟨nextProgress.crashState, next⟩

/-- A checkpoint that may be left out. -/
theorem safely_checkpointIfGiven
    {cursor : Option Cursor}
    (settled : construction.Settled commit count writer directory)
    (admitted : ∀ given, cursor = some given ->
      construction.Admits ⟨some given, count⟩) :
    construction.Safely
      (writer.checkpointIfGiven construction.sha256 cursor)
      (fun written current => ∃ commit,
        construction.Settled commit count written current) directory := by
  cases cursor with
  | none =>
      rw [PackedShardWriter.checkpointIfGiven, Safely, Program.wp_pure]
      exact ⟨commit, settled⟩
  | some given =>
      rw [PackedShardWriter.checkpointIfGiven, PackedShardWriter.checkpoint]
      refine Safely.require settled.live.tracks.unfinished ?_
      refine (safely_writeJournal settled (admitted given rfl)).weaken ?_
      exact fun _ _ committed => ⟨_, committed⟩

/-! ## Documents -/

theorem checkTokens_eq_ok
    {vocabSize : Nat} {tokenIds : List Int} {values : List Nat} :
    PackedShardWriter.checkTokens vocabSize tokenIds = .ok values ↔
      (tokenIds ≠ [] ∧
        ∀ tokenId ∈ tokenIds, 0 ≤ tokenId ∧ tokenId < vocabSize) ∧
      tokenIds.map Int.toNat = values := by
  simp only [PackedShardWriter.checkTokens, checked_bind_eq_ok]
  constructor
  · rintro ⟨⟨nonempty⟩, _, ⟨bounded⟩, _, equal⟩
    cases equal
    exact ⟨⟨nonempty, bounded⟩, rfl⟩
  · rintro ⟨⟨nonempty, bounded⟩, rfl⟩
    exact ⟨⟨nonempty⟩, require_eq_ok nonempty, ⟨bounded⟩,
      require_eq_ok bounded, rfl⟩

/-- A valid document passes the checks of `add_document` unchanged. -/
theorem checkTokens_ofNat
    {vocabSize : Nat} {document : List Nat}
    (filled : document ≠ [])
    (bounded : ∀ token ∈ document, token < vocabSize) :
    PackedShardWriter.checkTokens vocabSize (document.map Int.ofNat) =
      .ok document := by
  rw [checkTokens_eq_ok]
  refine ⟨⟨by simpa using filled, ?_⟩, ?_⟩
  · intro tokenId member
    obtain ⟨token, inside, rfl⟩ := List.mem_map.mp member
    have := bounded token inside
    simp only [Int.ofNat_eq_natCast]
    omega
  · rw [List.map_map]
    exact List.map_id' document

/-- The next document's tokens, its EOS and its start flag join the carry. -/
theorem Tracks.extend
    {values : List Nat}
    (tracks : construction.Tracks count writer)
    (next : construction.documents[count]? = some values) :
    construction.Tracks (count + 1) (writer.extend values) := by
  obtain ⟨bound, equal⟩ := List.getElem?_eq_some_iff.mp next
  have below := tracks.rows_mul_le
  have nonempty : 0 < values.length := by
    apply List.length_pos_of_ne_nil
    apply construction.documents_ne
    rw [← equal]
    exact List.getElem_mem bound
  have grown : construction.fed (count + 1) =
      construction.fed count + (values.length + 1) := by
    rw [← equal]
    exact position_succ bound
  have span : construction.fed (count + 1) -
        writer.rows * construction.config.sequenceLength =
      (construction.fed count -
        writer.rows * construction.config.sequenceLength) +
        (values.length + 1) := by omega
  have place : writer.rows * construction.config.sequenceLength +
      (construction.fed count -
        writer.rows * construction.config.sequenceLength) =
      construction.fed count := by omega
  have lengths : writer.bufferOffset ≤ writer.starts.length := by
    rw [tracks.same_length]
    exact tracks.offset_le
  refine
    { tracks with
      count_le := bound
      offset_le := ?_
      same_length := ?_
      tokens_eq := ?_
      starts_eq := ?_
      documents_eq := ?_
      content_eq := ?_
      rows_le := ?_ }
  · have := tracks.offset_le
    simp only [PackedShardWriter.extend, List.length_append]
    omega
  · have := tracks.same_length
    simp only [PackedShardWriter.extend, List.length_append,
      List.length_singleton, List.length_replicate]
    omega
  · have document := slice_position_tokens construction.config.eosTokenId
      bound
    rw [equal] at document
    simp only [PackedShardWriter.extend, tracks.config_eq]
    rw [List.append_assoc, List.drop_append_of_le_length tracks.offset_le,
      tracks.tokens_eq, span, ← slice_append_slice, place]
    exact congrArg _ document.symm
  · have document := slice_position_starts construction.config.eosTokenId
      bound
    rw [equal] at document
    have flags : [true] ++ List.replicate (values.length - 1) false ++
        [false] = true :: List.replicate values.length false := by
      obtain ⟨fewer, length⟩ : ∃ fewer, values.length = fewer + 1 :=
        ⟨values.length - 1, by omega⟩
      rw [length, Nat.add_sub_cancel, List.replicate_succ']
      simp
    simp only [PackedShardWriter.extend]
    rw [List.append_assoc, flags, List.drop_append_of_le_length lengths,
      tracks.starts_eq, span, ← slice_append_slice, place]
    exact congrArg _ document.symm
  · simp only [PackedShardWriter.extend, tracks.documents_eq]
  · have := tracks.content_eq
    simp only [PackedShardWriter.extend]
    omega
  · exact tracks.rows_le.trans (construction.rowsAt_mono (Nat.le_succ _))

/-- `add_document` of the next document. -/
theorem safely_addDocument
    {tokenIds : List Int} {values : List Nat} {cursor : Option Cursor}
    (settled : construction.Settled commit count writer directory)
    (accepted : PackedShardWriter.checkTokens
      construction.config.vocabSize tokenIds = .ok values)
    (next : construction.documents[count]? = some values)
    (admitted : ∀ given, cursor = some given ->
      construction.Admits ⟨some given, count + 1⟩) :
    construction.Safely
      (writer.addDocument construction.sha256 tokenIds cursor)
      (fun written current => ∃ commit,
        construction.Settled commit (count + 1) written current)
      directory := by
  unfold PackedShardWriter.addDocument
  refine Safely.require settled.live.tracks.unfinished ?_
  rw [settled.live.tracks.config_eq, accepted, Safely, Program.wp_bind,
    Program.wp_lift_ok]
  have live : construction.Live commit (count + 1) (writer.extend values)
      directory :=
    ⟨settled.live.tracks.extend next, settled.live.cursor_eq,
      settled.live.progress⟩
  refine (safely_drainRows live
    ⟨settled.room.open_lt, settled.room.open_pos⟩).andThen ?_
  rintro drained current ⟨drainedLive, room, rows⟩
  exact safely_checkpointIfGiven ⟨drainedLive, room, rows⟩ admitted

/-! ## Finishing -/

/-- A finished writer: its attributes and its directory are those of the whole
construction. -/
structure Final
    (construction : Construction Digest Cursor)
    (cursor : Option Cursor)
    (writer : PackedShardWriter Digest Cursor) : Prop where
  config_eq : writer.config = construction.config
  documents_eq : writer.documents = construction.documents.length
  content_eq : writer.sourceContentTokens +
    construction.documents.length =
      construction.fed construction.documents.length
  rows_eq : writer.rows =
    construction.rowsAt construction.documents.length
  masked_eq : writer.maskedBoundaryLabels =
    construction.stream.masked construction.config.sequenceLength writer.rows
  loss_eq : writer.validLossTokens + writer.maskedBoundaryLabels =
    writer.rows * construction.config.sequenceLength
  shards_eq : writer.shards = construction.finalShards
  cursor_eq : writer.sourceCursor = cursor

theorem Final.manifestDocument_eq
    {cursor : Option Cursor}
    (final : construction.Final cursor writer) :
    writer.manifestDocument = construction.manifest cursor := by
  have content := final.content_eq
  have loss := final.loss_eq
  have masked := final.masked_eq
  rw [final.rows_eq] at loss masked
  have contentEq : writer.sourceContentTokens =
      construction.fed construction.documents.length -
        construction.documents.length := by omega
  have lossEq : writer.validLossTokens =
      construction.rowsAt construction.documents.length *
          construction.config.sequenceLength -
        construction.stream.masked construction.config.sequenceLength
          (construction.rowsAt construction.documents.length) := by omega
  unfold Construction.manifest PackedShardWriter.manifestDocument finalWriter
  simp only [final.config_eq, final.documents_eq, contentEq, lossEq, masked,
    final.rows_eq, final.shards_eq, final.cursor_eq]

/-- The shards in progress, all sealed, are those of the finished output. -/
structure Sealed
    (construction : Construction Digest Cursor)
    (commit : Commit Cursor)
    (directory : Directory Digest Cursor) : Prop where
  committed : construction.Committed commit directory
  shard_eq : ∀ index kind, directory.lookup (.shard index kind) =
    if index < construction.finalCount then
      some (.payload (.sealed (construction.shardContent index
        (construction.finalRows index) kind)))
    else none
  rest : ∀ name, ¬(∃ index kind, name = .shard index kind) ->
    name ≠ .journal -> directory.lookup name = none

/-- `_finalize_open_shard` completes the last shard. -/
theorem safely_finalizeLast
    (settled : construction.Settled commit construction.documents.length
      writer directory) :
    construction.Safely (writer.finalizeOpenShard construction.sha256)
      (fun sealed current =>
        construction.Final commit.cursor sealed ∧
        construction.Sealed commit current) directory := by
  have tracks := settled.live.tracks
  have attributes {shards : List (ShardRecord Digest)}
      {sealed : PackedShardWriter Digest Cursor}
      (same : sealed = { writer with
        shards := shards
        openShard := sealed.openShard
        rowsInOpenShard := sealed.rowsInOpenShard
        openShardDirty := sealed.openShardDirty })
      (final : shards = construction.finalShards) :
      construction.Final commit.cursor sealed := by
    rw [same, final]
    exact ⟨tracks.config_eq, tracks.documents_eq, tracks.content_eq,
      settled.rows_eq, tracks.masked_eq, tracks.loss_eq, rfl,
      settled.live.cursor_eq⟩
  cases found : writer.openShard with
  | none =>
      have empty := tracks.open_none found
      rw [settled.idle.rowsInOpenShard_eq] at empty
      obtain ⟨tail, progress, agree⟩ := settled.live.progress
      simp only [PartsAgree, found] at agree
      subst agree
      unfold PackedShardWriter.finalizeOpenShard
      rw [found, Safely, Program.wp_pure]
      refine ⟨attributes rfl ?_, progress.committed, ?_, ?_⟩
      · rw [tracks.shards_eq, settled.idle.shards_length, finalShards,
          if_pos empty, List.append_nil]
      · intro index kind
        rw [progress.shape.shard_eq, settled.idle.shards_length,
          construction.finalCount_of_zero empty]
        by_cases before : index <
            construction.completedAt construction.documents.length
        · rw [if_pos before, if_pos before, finalRows, if_pos before]
        · rw [if_neg before, if_neg before]
          simp [TailFile.finalEntry]
      · intro name noShard noJournal
        cases name with
        | shard index kind => exact absurd ⟨index, kind, rfl⟩ noShard
        | shardPart index kind =>
            rw [progress.shape.part_eq]
            simp [TailFile.partEntry]
        | journal => exact absurd rfl noJournal
        | _ => exact progress.shape.rest _ (by simp [IsShardName]) (by simp)
  | some openShard =>
      have nonempty := settled.room.open_pos (by simp [found])
      refine (safely_finalizeOpenShard settled.live found nonempty).weaken ?_
      rintro sealed final ⟨rfl, progress⟩
      rw [settled.idle.shards_length, settled.idle.rowsInOpenShard_eq] at progress
      rw [settled.idle.rowsInOpenShard_eq] at nonempty
      have digest := funext (tracks.open_some openShard found)
      rw [settled.idle.rowsInOpenShard_eq, settled.idle.shards_length] at digest
      refine ⟨attributes rfl ?_, progress.committed, ?_, ?_⟩
      · rw [digest, settled.idle.shards_length, settled.idle.rowsInOpenShard_eq,
          tracks.shards_eq, settled.idle.shards_length, tracks.config_eq,
          finalShards, if_neg (by omega)]
        rfl
      · intro index kind
        rw [progress.shape.shard_eq, construction.finalCount_of_pos nonempty]
        by_cases before : index <
            construction.completedAt construction.documents.length
        · rw [if_pos before, if_pos (by omega), finalRows, if_pos before]
        · rw [if_neg before, finalRows, if_neg before]
          by_cases last : index =
              construction.completedAt construction.documents.length
          · rw [if_pos last, if_pos (by omega), last]
            rfl
          · rw [if_neg last, if_neg (by omega)]
      · intro name noShard noJournal
        cases name with
        | shard index kind => exact absurd ⟨index, kind, rfl⟩ noShard
        | shardPart index kind =>
            rw [progress.shape.part_eq]
            simp [TailFile.partEntry]
        | journal => exact absurd rfl noJournal
        | _ => exact progress.shape.rest _ (by simp [IsShardName]) (by simp)

/-- `finish` after every document leaves the finished output. -/
theorem safely_finish
    {cursor : Option Cursor}
    (settled : construction.Settled commit construction.documents.length
      writer directory)
    (admitted : ∀ given, cursor = some given ->
      construction.Admits ⟨some given, construction.documents.length⟩) :
    construction.Safely (writer.finish construction.sha256 cursor)
      (fun result current => ∃ last,
        result.1.finished = true ∧
        result.2 = construction.manifest last ∧
        construction.Final last result.1 ∧
        construction.Complete last current) directory := by
  unfold PackedShardWriter.finish
  rw [if_neg (by simp [settled.live.tracks.unfinished])]
  refine (safely_checkpointIfGiven settled admitted).andThen ?_
  rintro written current ⟨next, writtenSettled⟩
  refine (safely_drainRows writtenSettled.live writtenSettled.room).andThen ?_
  rintro drained current ⟨live, room, rows⟩
  refine (safely_finalizeLast ⟨live, room, rows⟩).andThen ?_
  rintro sealed current ⟨final, output⟩
  rw [final.manifestDocument_eq]
  have finished {after : Directory Digest Cursor}
      (manifestEq : after.lookup .manifest =
        some (.manifest (construction.manifest next.cursor)))
      (same : ∀ name, name ≠ .manifest -> name ≠ .journal ->
        after.lookup name = current.lookup name) :
      construction.Finished next.cursor after := by
    refine ⟨manifestEq, ?_, ?_⟩
    · intro index kind
      rw [same _ (by simp) (by simp)]
      exact output.shard_eq index kind
    · intro name noShard noManifest noJournal
      rw [same name noManifest noJournal]
      exact output.rest name noShard noJournal
  rw [Safely, Program.wp_bind]
  refine safely_atomicJson ?_ (by simp) ?_ ?_
  · intro suffix
    exact output.rest _ (by simp) (by simp)
  · intro pending suffix value same
    exact .inr (.inl ⟨next, output.committed.insert_temporary
      (by simp [IsTemporary]) same⟩)
  · intro moved same
    have movedFinished : construction.Finished next.cursor moved := by
      refine finished ?_ ?_
      · rw [same, lookup_insert, if_pos rfl]
      · intro name noManifest _
        rw [same, lookup_insert, if_neg noManifest]
    refine ⟨.inr (.inr ⟨_, movedFinished⟩), ?_⟩
    have journalThere : moved.lookup .journal =
        some (.journal (construction.journal next)) := by
      rw [same, lookup_insert, if_neg (by simp)]
      exact output.committed.journal_eq
    have erased : construction.Finished next.cursor
        (moved.erase .journal) := by
      refine finished ?_ ?_
      · rw [lookup_erase, if_neg (by simp)]
        exact movedFinished.manifest_eq
      · intro name noManifest noJournal
        rw [lookup_erase, if_neg noJournal, same, lookup_insert,
          if_neg noManifest]
    have present : moved.Has .journal :=
      Directory.has_iff.mpr ⟨_, journalThere⟩
    rw [unlinkIfExists, Program.wp_bind, Program.wp_bind, wp_fileExists,
      decide_eq_true present, if_pos rfl, wp_unlinkFile journalThere]
    refine ⟨.inr (.inr ⟨_, erased⟩), ?_⟩
    rw [Program.wp_pure]
    exact ⟨next.cursor, rfl, rfl,
      ⟨final.config_eq, final.documents_eq, final.content_eq, final.rows_eq,
        final.masked_eq, final.loss_eq, final.shards_eq, final.cursor_eq⟩,
      erased, Directory.not_has_iff.mpr (by rw [lookup_erase, if_pos rfl])⟩

end Construction
end CodingLlm
