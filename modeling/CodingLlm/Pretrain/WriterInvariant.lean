import CodingLlm.Pretrain.PackedStream

/-!
# Invariants of a construction

The abstract state of a construction after a number of documents, and the
relations that tie the writer's attributes and the directory to it: what a live
writer holds, what shape its directory has, and what the journal on disk needs
of a directory to be resumable.
-/

namespace CodingLlm

open CrashLogic Words Slices PackedStream

variable {Digest Cursor : Type}

/-- What a journal commits: the caller's cursor, and how many documents had
been fed. -/
structure Commit (Cursor : Type) where
  cursor : Option Cursor
  count : Nat

/-- What the first journal commits. -/
def Commit.initial : Commit Cursor := ⟨none, 0⟩

/-- One construction: its configuration, all of its documents, and the commits
its caller may make. -/
structure Construction (Digest Cursor : Type) where
  config : WriterConfig Digest
  sha256 : List Byte -> Digest
  documents : List (List Nat)
  documents_ne : ∀ document ∈ documents, document ≠ []
  documents_lt : ∀ document ∈ documents, ∀ token ∈ document,
    token < config.vocabSize
  Admits : Commit Cursor -> Prop
  admits_initial : Admits .initial

namespace Construction

variable (construction : Construction Digest Cursor)

/-- The stream of all documents. -/
def stream : PackedStream :=
  .ofDocuments construction.config.eosTokenId construction.documents

/-- Stream tokens of the first `count` documents. -/
def fed (count : Nat) : Nat := position construction.documents count

/-- Rows that the first `count` documents fill. -/
def rowsAt (count : Nat) : Nat :=
  rowCount construction.config.sequenceLength (construction.fed count)

/-- Full shards among those rows. -/
def completedAt (count : Nat) : Nat :=
  construction.rowsAt count / construction.config.rowsPerShard

/-- Rows left for the shard after the full ones. -/
def openRowsAt (count : Nat) : Nat :=
  construction.rowsAt count % construction.config.rowsPerShard

/-- The bytes of consecutive rows in a payload file. -/
def content (kind : ShardKind) (first count : Nat) : List Byte :=
  construction.stream.content construction.config.sequenceLength kind first
    count

/-- The bytes of the first rows of a shard. -/
def shardContent (index rows : Nat) (kind : ShardKind) : List Byte :=
  construction.content kind (index * construction.config.rowsPerShard) rows

/-- The record of a shard of `rows` rows under the given names. -/
def record
    (name : Nat -> ShardKind -> FileName) (index rows : Nat) :
    ShardRecord Digest :=
  shardRecord construction.sha256 construction.config.sequenceLength index
    rows name (construction.shardContent index rows)

/-- The records of the first full shards. -/
def fullShards (count : Nat) : List (ShardRecord Digest) :=
  (List.range count).map fun index =>
    construction.record .shard index construction.config.rowsPerShard

/-- The journal of a commit. -/
def journal (commit : Commit Cursor) : Journal Digest Cursor :=
  let count := commit.count
  let rows := construction.rowsAt count
  let inputs := rows * construction.config.sequenceLength
  { format := packingJournalFormat
    formatVersion := packingJournalFormatVersion
    identity := construction.config.identity
    state := {
      sourceCursor := commit.cursor
      documents := count
      sourceContentTokens := construction.fed count - count
      rows := rows
      validLossTokens := inputs -
        construction.stream.masked construction.config.sequenceLength rows
      maskedBoundaryLabels :=
        construction.stream.masked construction.config.sequenceLength rows
      carryTokens := slice construction.stream.tokens inputs
        (construction.fed count - inputs)
      carryStarts := slice construction.stream.starts inputs
        (construction.fed count - inputs)
      completedShards := construction.fullShards
        (construction.completedAt count)
      openShard :=
        if construction.openRowsAt count = 0 then none
        else some (construction.record .shardPart
          (construction.completedAt count)
          (construction.openRowsAt count)) } }

theorem sequenceLength_pos : 0 < construction.config.sequenceLength := by
  have := construction.config.two_le_sequenceLength
  omega

theorem length_stream :
    construction.stream.tokens.length =
      construction.fed construction.documents.length :=
  length_tokens_ofDocuments

theorem fed_mono {first second : Nat} (le : first ≤ second) :
    construction.fed first ≤ construction.fed second :=
  position_mono le

theorem rowsAt_mono {first second : Nat} (le : first ≤ second) :
    construction.rowsAt first ≤ construction.rowsAt second :=
  Nat.div_le_div_right (Nat.sub_le_sub_right (construction.fed_mono le) 1)

theorem fed_le_length
    {count : Nat} (bound : count ≤ construction.documents.length) :
    construction.fed count ≤ construction.stream.tokens.length := by
  rw [construction.length_stream]
  exact construction.fed_mono bound

theorem rowsAt_mul_le (count : Nat) :
    construction.rowsAt count * construction.config.sequenceLength ≤
      construction.fed count := by
  have := (rowCount_spec (construction.fed count)
    construction.sequenceLength_pos).1
  exact this.trans (Nat.sub_le _ _)

/-- Every document takes at least one position. -/
theorem count_le_fed
    {count : Nat} (bound : count ≤ construction.documents.length) :
    count ≤ construction.fed count :=
  le_position bound

/-- The rows leave at most one row's inputs of the fed stream over. -/
theorem fed_le_rowsAt (count : Nat) :
    construction.fed count ≤
      construction.rowsAt count * construction.config.sequenceLength +
        construction.config.sequenceLength := by
  have := (rowCount_spec (construction.fed count)
    construction.sequenceLength_pos).2
  unfold rowsAt
  omega

theorem masked_le_inputs (count : Nat) :
    construction.stream.masked construction.config.sequenceLength
        (construction.rowsAt count) ≤
      construction.rowsAt count * construction.config.sequenceLength :=
  masked_le _ _ _

theorem rowsAt_eq (count : Nat) :
    construction.rowsAt count =
      construction.completedAt count * construction.config.rowsPerShard +
        construction.openRowsAt count := by
  unfold completedAt openRowsAt
  rw [Nat.mul_comm]
  exact (Nat.div_add_mod _ _).symm

theorem openRowsAt_lt (count : Nat) :
    construction.openRowsAt count < construction.config.rowsPerShard :=
  Nat.mod_lt _ construction.config.rowsPerShard_pos

@[simp] theorem length_fullShards (count : Nat) :
    (construction.fullShards count).length = count := by
  simp [fullShards]

theorem fullShards_succ (count : Nat) :
    construction.fullShards (count + 1) =
      construction.fullShards count ++
        [construction.record .shard count
          construction.config.rowsPerShard] := by
  simp [fullShards, List.range_succ]

@[simp] theorem shardContent_zero (index : Nat) (kind : ShardKind) :
    construction.shardContent index 0 kind = [] := by
  simp [shardContent, content]

/-- The first rows of a shard take their share of its bytes. -/
theorem length_shardContent
    {index rows : Nat} (kind : ShardKind)
    (bound : index * construction.config.rowsPerShard + rows ≤
      construction.rowsAt construction.documents.length) :
    (construction.shardContent index rows kind).length =
      rows * rowBytes construction.config.sequenceLength kind := by
  apply length_content kind construction.sequenceLength_pos
  rw [construction.length_stream]
  exact bound

/-! ## The writer's attributes -/

/-- The attributes of a writer that has been fed the first `count` documents.
Rows that these fill may be still to be written. -/
structure Tracks
    (count : Nat) (writer : PackedShardWriter Digest Cursor) : Prop where
  config_eq : writer.config = construction.config
  count_le : count ≤ construction.documents.length
  unfinished : writer.finished = false
  offset_le : writer.bufferOffset ≤ writer.tokens.length
  same_length : writer.starts.length = writer.tokens.length
  tokens_eq : writer.tokens.drop writer.bufferOffset =
    slice construction.stream.tokens
      (writer.rows * construction.config.sequenceLength)
      (construction.fed count -
        writer.rows * construction.config.sequenceLength)
  starts_eq : writer.starts.drop writer.bufferOffset =
    slice construction.stream.starts
      (writer.rows * construction.config.sequenceLength)
      (construction.fed count -
        writer.rows * construction.config.sequenceLength)
  documents_eq : writer.documents = count
  content_eq : writer.sourceContentTokens + count = construction.fed count
  rows_le : writer.rows ≤ construction.rowsAt count
  masked_eq : writer.maskedBoundaryLabels =
    construction.stream.masked construction.config.sequenceLength writer.rows
  loss_eq : writer.validLossTokens + writer.maskedBoundaryLabels =
    writer.rows * construction.config.sequenceLength
  shards_eq : writer.shards = construction.fullShards writer.shards.length
  rows_eq : writer.rows =
    writer.shards.length * construction.config.rowsPerShard +
      writer.rowsInOpenShard
  open_none : writer.openShard = none -> writer.rowsInOpenShard = 0
  open_some : ∀ openShard, writer.openShard = some openShard ->
    ∀ kind, openShard.digest kind =
      construction.shardContent writer.shards.length writer.rowsInOpenShard
        kind

/-- Between two batches an open shard has a row and room for more. -/
structure HasRoom (writer : PackedShardWriter Digest Cursor) : Prop where
  open_lt : writer.rowsInOpenShard < construction.config.rowsPerShard
  open_pos : writer.openShard ≠ none -> 0 < writer.rowsInOpenShard

/-! ## The directory -/

/-- Where one payload of the shard after the completed ones is. -/
inductive TailFile
  | absent
  | part (file : File)
  | final (file : File)

/-- The entry under the part name. -/
def TailFile.partEntry : TailFile -> Option (Entry Digest Cursor)
  | .part file => some (.payload file)
  | _ => none

/-- The entry under the final name. -/
def TailFile.finalEntry : TailFile -> Option (Entry Digest Cursor)
  | .final file => some (.payload file)
  | _ => none

/-- Names that only a construction in progress uses beside its journal. -/
def IsShardName : FileName -> Prop
  | .shard _ _ => True
  | .shardPart _ _ => True
  | _ => False

/-- The exact content of the directory of a live writer: a journal, the
completed shards, and the two files of the shard in progress. -/
structure Shape
    (commit : Commit Cursor) (completed : Nat) (tail : ShardKind -> TailFile)
    (directory : Directory Digest Cursor) : Prop where
  journal_eq : directory.lookup .journal =
    some (.journal (construction.journal commit))
  shard_eq : ∀ index kind, directory.lookup (.shard index kind) =
    if index < completed then
      some (.payload (.sealed (construction.shardContent index
        construction.config.rowsPerShard kind)))
    else if index = completed then (tail kind).finalEntry
    else none
  part_eq : ∀ index kind, directory.lookup (.shardPart index kind) =
    if index = completed then (tail kind).partEntry else none
  rest : ∀ name, ¬IsShardName name -> name ≠ .journal ->
    directory.lookup name = none

/-- A file that holds the journaled prefix durably. -/
structure Protected
    (commit : Commit Cursor) (kind : ShardKind) (file : File) : Prop where
  synced_le : file.synced ≤ file.bytes.length
  durable : construction.openRowsAt commit.count *
    rowBytes construction.config.sequenceLength kind ≤ file.synced
  agree : file.bytes.take (construction.openRowsAt commit.count *
      rowBytes construction.config.sequenceLength kind) =
    construction.shardContent (construction.completedAt commit.count)
      (construction.openRowsAt commit.count) kind

/-- The files in progress keep what the journal needs of its open shard. -/
def Protects
    (commit : Commit Cursor) (completed : Nat) (tail : ShardKind -> TailFile) :
    Prop :=
  construction.completedAt commit.count ≤ completed ∧
    (construction.completedAt commit.count = completed ->
      0 < construction.openRowsAt commit.count ->
      ∀ kind, ∃ file, (tail kind = .part file ∨ tail kind = .final file) ∧
        construction.Protected commit kind file)

/-- The part files agree with the writer's open shard. -/
def PartsAgree
    (writer : PackedShardWriter Digest Cursor) (tail : ShardKind -> TailFile) :
    Prop :=
  match writer.openShard with
  | none => tail = fun _ => .absent
  | some _ => ∀ kind, ∃ synced, tail kind = .part
        ⟨construction.shardContent writer.shards.length
          writer.rowsInOpenShard kind, synced⟩ ∧
      synced ≤ (construction.shardContent writer.shards.length
        writer.rowsInOpenShard kind).length ∧
      (writer.openShardDirty = false ->
        synced = (construction.shardContent writer.shards.length
          writer.rowsInOpenShard kind).length)

/-- The directory of a live writer together with what its journal needs. -/
structure InProgress
    (commit : Commit Cursor) (completed : Nat) (tail : ShardKind -> TailFile)
    (directory : Directory Digest Cursor) : Prop where
  admitted : construction.Admits commit
  count_le : commit.count ≤ construction.documents.length
  shape : construction.Shape commit completed tail directory
  protects : construction.Protects commit completed tail

/-- A live writer that has been fed `count` documents, and its directory. -/
structure Live
    (commit : Commit Cursor) (count : Nat)
    (writer : PackedShardWriter Digest Cursor)
    (directory : Directory Digest Cursor) : Prop where
  tracks : construction.Tracks count writer
  cursor_eq : writer.sourceCursor = commit.cursor
  progress : ∃ tail,
    construction.InProgress commit writer.shards.length tail directory ∧
      construction.PartsAgree writer tail

/-! ## What a kill can leave -/

/-- Names a kill can leave before the manifest is there. -/
def KnownName : FileName -> Prop
  | .shard _ _ => True
  | .shardPart _ _ => True
  | .journal => True
  | .journalTemporary _ => True
  | .manifestTemporary _ => True
  | .manifest => False
  | .other _ => False

/-- The files of one payload of the journaled open shard: one of the two names
is there and holds the journaled prefix. -/
def Recoverable
    (commit : Commit Cursor) (kind : ShardKind)
    (directory : Directory Digest Cursor) : Prop :=
  ∃ file, construction.Protected commit kind file ∧
    ((directory.lookup
          (.shardPart (construction.completedAt commit.count) kind) =
        some (.payload file) ∧
      directory.lookup
          (.shard (construction.completedAt commit.count) kind) = none) ∨
    (directory.lookup
          (.shardPart (construction.completedAt commit.count) kind) =
        none ∧
      directory.lookup
          (.shard (construction.completedAt commit.count) kind) =
        some (.payload file)))

/-- A directory whose journal is that of a commit. -/
structure Committed
    (commit : Commit Cursor) (directory : Directory Digest Cursor) : Prop where
  admitted : construction.Admits commit
  count_le : commit.count ≤ construction.documents.length
  journal_eq : directory.lookup .journal =
    some (.journal (construction.journal commit))
  completed : ∀ index < construction.completedAt commit.count, ∀ kind,
    directory.lookup (.shard index kind) =
        some (.payload (.sealed (construction.shardContent index
          construction.config.rowsPerShard kind))) ∧
      directory.lookup (.shardPart index kind) = none
  open_recoverable : 0 < construction.openRowsAt commit.count ->
    ∀ kind, construction.Recoverable commit kind directory
  names : ∀ name, directory.Has name -> KnownName name

/-- A directory in which no journal was committed yet. -/
def Untouched (directory : Directory Digest Cursor) : Prop :=
  ∀ name, directory.Has name -> ∃ suffix, name = .journalTemporary suffix

/-- Rows of all shards of the finished output, the last one maybe partial. -/
def finalShards : List (ShardRecord Digest) :=
  construction.fullShards
      (construction.completedAt construction.documents.length) ++
    if construction.openRowsAt construction.documents.length = 0 then []
    else [construction.record .shard
      (construction.completedAt construction.documents.length)
      (construction.openRowsAt construction.documents.length)]

/-- The number of shards of the finished output. -/
def finalCount : Nat :=
  construction.completedAt construction.documents.length +
    if construction.openRowsAt construction.documents.length = 0 then 0
    else 1

/-- Rows of shard `index` of the finished output. -/
def finalRows (index : Nat) : Nat :=
  if index < construction.completedAt construction.documents.length then
    construction.config.rowsPerShard
  else construction.openRowsAt construction.documents.length

theorem finalCount_of_zero
    (whole : construction.openRowsAt construction.documents.length = 0) :
    construction.finalCount =
      construction.completedAt construction.documents.length := by
  rw [finalCount, if_pos whole, Nat.add_zero]

theorem finalCount_of_pos
    (partly : 0 < construction.openRowsAt construction.documents.length) :
    construction.finalCount =
      construction.completedAt construction.documents.length + 1 := by
  rw [finalCount, if_neg (Nat.ne_of_gt partly)]

/-- A writer with the attributes that `finish` puts into the manifest. -/
def finalWriter
    (policy : DrainPolicy) (cursor : Option Cursor) :
    PackedShardWriter Digest Cursor where
  config := construction.config
  policy := policy
  documents := construction.documents.length
  sourceContentTokens := construction.fed construction.documents.length -
    construction.documents.length
  rows := construction.rowsAt construction.documents.length
  validLossTokens :=
    construction.rowsAt construction.documents.length *
        construction.config.sequenceLength -
      construction.stream.masked construction.config.sequenceLength
        (construction.rowsAt construction.documents.length)
  maskedBoundaryLabels :=
    construction.stream.masked construction.config.sequenceLength
      (construction.rowsAt construction.documents.length)
  shards := construction.finalShards
  sourceCursor := cursor

/-- The manifest of the whole construction when the last committed cursor is
`cursor`. -/
def manifest (cursor : Option Cursor) : PackedManifestJson Digest Cursor :=
  (construction.finalWriter .default cursor).manifestDocument

/-- The directory of a finished construction. -/
structure Finished
    (cursor : Option Cursor) (directory : Directory Digest Cursor) : Prop where
  manifest_eq : directory.lookup .manifest =
    some (.manifest (construction.manifest cursor))
  shard_eq : ∀ index kind, directory.lookup (.shard index kind) =
    if index < construction.finalCount then
      some (.payload (.sealed (construction.shardContent index
        (construction.finalRows index) kind)))
    else none
  rest : ∀ name, ¬(∃ index kind, name = .shard index kind) ->
    name ≠ .manifest -> name ≠ .journal -> directory.lookup name = none

/-- The directory of a finished construction whose journal is removed. -/
structure Complete
    (cursor : Option Cursor) (directory : Directory Digest Cursor) : Prop
    extends construction.Finished cursor directory where
  no_journal : ¬directory.Has .journal

/-- What a kill can leave at any moment of any run over the documents. -/
def CrashState (directory : Directory Digest Cursor) : Prop :=
  Untouched directory ∨
    (∃ commit, construction.Committed commit directory) ∨
    ∃ cursor, construction.Finished cursor directory

end Construction
end CodingLlm
