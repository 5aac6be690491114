import CodingLlm.Pretrain.Values
import CodingLlm.Library.Words

/-!
# The packed format

Domains, encoded references, shard records, the construction journal and the
two views of a packed manifest: the JSON document on disk, and the checked
manifest that parsing it yields.
-/

namespace CodingLlm

/-- `FORMAT_VERSION`. -/
def formatVersion : Nat := 2

/-- `PACKING_JOURNAL_FORMAT_VERSION`. -/
def packingJournalFormatVersion : Nat := 1

/-- `PACKING_JOURNAL_FORMAT`. -/
def packingJournalFormat : String := "packed-shard-construction-journal"

/-- `TOKEN_DTYPE.itemsize`. -/
def tokenItemSize : Nat := 2

/-- `TOKEN_DTYPE.str`. -/
def tokenDtype : String := "<u2"

/-- `STARTS_ENCODING`. -/
def startsEncoding : String := "numpy-packbits-little"

/-- `np.iinfo(TOKEN_DTYPE).max + 1`. -/
def tokenValues : Nat := 65536

/-- `IGNORE_INDEX`. -/
def ignoreIndex : Int := -100

/-! ## Domains and references -/

/-- `DOMAIN_ORDER`, in order of their ids. -/
inductive Domain
  | python
  | otherCode
  | english
  deriving DecidableEq, Repr

namespace Domain

/-- The name a manifest gives a domain. -/
def name : Domain -> String
  | python => "python"
  | otherCode => "other_code"
  | english => "english"

/-- `DOMAIN_ORDER.index(domain)`. -/
def id : Domain -> Nat
  | python => 0
  | otherCode => 1
  | english => 2

/-- `DOMAIN_ORDER`. -/
def order : List Domain := [python, otherCode, english]

/-- `domain in DOMAIN_ORDER`. -/
def ofName? (text : String) : Option Domain :=
  order.find? fun domain => domain.name = text

/-- `DOMAIN_ORDER[domain_id]`. -/
def ofId? : Nat -> Option Domain
  | 0 => some python
  | 1 => some otherCode
  | 2 => some english
  | _ => none

@[simp] theorem ofName?_name (domain : Domain) :
    ofName? domain.name = some domain := by
  cases domain <;> decide

@[simp] theorem ofId?_id (domain : Domain) :
    ofId? domain.id = some domain := by
  cases domain <;> rfl

theorem id_lt_three (domain : Domain) : domain.id < 3 := by
  cases domain <;> decide

theorem id_injective : Function.Injective id := by
  intro left right equal
  cases left <;> cases right <;> first | rfl | cases equal

@[simp] theorem mem_order (domain : Domain) : domain ∈ order := by
  cases domain <;> decide

end Domain

/-- A split of the corpus. -/
inductive Split
  | train
  | validation
  | test
  deriving DecidableEq, Repr

namespace Split

/-- A split as a string. -/
def name : Split -> String
  | .train => "train"
  | .validation => "validation"
  | .test => "test"

/-- `SPLITS`. -/
def all : List Split := [.train, .validation, .test]

/-- `SPLITS.index(split)`. -/
def index : Split -> Nat
  | .train => 0
  | .validation => 1
  | .test => 2

theorem name_injective : Function.Injective name := by
  intro left right equal
  cases left <;> cases right <;> first | rfl | simp [name] at equal

end Split

/-- `DOMAIN_BITS`. -/
def domainBits : Nat := 8

/-- `ROW_BITS`. -/
def rowBits : Nat := 64 - domainBits

/-- `MAX_ROW_ID`. -/
def maxRowId : Nat := (1 <<< rowBits) - 1

/-- Split a reference into its domain id and row id. -/
def decodeReference (reference : Nat) : Nat × Nat :=
  (reference >>> rowBits, reference &&& maxRowId)

theorem maxRowId_eq : maxRowId = 2 ^ rowBits - 1 := by
  simp [maxRowId, Nat.shiftLeft_eq]

theorem decodeReference_eq (reference : Nat) :
    decodeReference reference =
      (reference / 2 ^ rowBits, reference % 2 ^ rowBits) := by
  rw [decodeReference, Nat.shiftRight_eq_div_pow, maxRowId_eq,
    Nat.and_two_pow_sub_one_eq_mod]

/-- Shifting a domain id past the row bits and filling them in is addition. -/
theorem shiftLeft_or_eq_add
    {rowId : Nat} (domainId : Nat)
    (fits : rowId ≤ maxRowId) :
    (domainId <<< rowBits) ||| rowId = domainId * 2 ^ rowBits + rowId := by
  have small : rowId < 2 ^ rowBits := by
    rw [maxRowId_eq] at fits
    have : 0 < 2 ^ rowBits := by positivity
    omega
  rw [← Nat.shiftLeft_add_eq_or_of_lt small, Nat.shiftLeft_eq]

theorem decodeReference_shiftLeft_or
    {rowId : Nat} (domainId : Nat)
    (fits : rowId ≤ maxRowId) :
    decodeReference ((domainId <<< rowBits) ||| rowId) =
      (domainId, rowId) := by
  have positive : 0 < 2 ^ rowBits := by positivity
  have small : rowId < 2 ^ rowBits := by
    rw [maxRowId_eq] at fits
    omega
  rw [decodeReference_eq, shiftLeft_or_eq_add domainId fits]
  rw [Nat.add_comm, Nat.add_mul_div_right _ _ positive,
    Nat.add_mul_mod_self_right, Nat.div_eq_of_lt small,
    Nat.mod_eq_of_lt small, Nat.zero_add]

/-! ## Shard records and the journal -/

/-- The two payload files of a shard. -/
inductive ShardKind
  | tokens
  | starts
  deriving DecidableEq, Repr

/-- Names in a packed directory.  Shard indices are written with at least six
digits; the suffix of a temporary is the part `mkstemp` chooses. -/
inductive FileName
  /-- `shard-000000.tokens.bin` -/
  | shard (index : Nat) (kind : ShardKind)
  /-- `.shard-000000.tokens.bin.part` -/
  | shardPart (index : Nat) (kind : ShardKind)
  /-- `.packing-journal.json` -/
  | journal
  /-- `..packing-journal.json.XXXXXXXX` -/
  | journalTemporary (suffix : Nat)
  /-- `manifest.json` -/
  | manifest
  /-- `.manifest.json.XXXXXXXX` -/
  | manifestTemporary (suffix : Nat)
  | other (name : String)
  deriving DecidableEq, Repr

/-- Recorded path, size and digest of one payload file. -/
structure PayloadRecord (Digest : Type) where
  path : FileName
  bytes : Nat
  sha256 : Digest

/-- One entry of `completed_shards`, `open_shard` or `shards`. -/
structure ShardRecord (Digest : Type) where
  index : Nat
  rows : Nat
  tokens : PayloadRecord Digest
  starts : PayloadRecord Digest

/-- The payload record of one kind. -/
def ShardRecord.payload
    (shard : ShardRecord Digest) : ShardKind -> PayloadRecord Digest
  | .tokens => shard.tokens
  | .starts => shard.starts

/-- `PackedShardWriter._identity()`. -/
structure Identity (Digest : Type) where
  outputFormatVersion : Nat
  domain : Domain
  split : String
  sequenceLength : Nat
  vocabSize : Nat
  eosTokenId : Nat
  rowsPerShard : Nat
  tokenizerManifestSha256 : Digest
  curationPolicySha256 : Option Digest
  selectionManifestSha256 : Option Digest
  constructionSeed : Option Int
  deriving DecidableEq

/-- The `state` object of a construction journal. -/
structure JournalState (Digest Cursor : Type) where
  sourceCursor : Option Cursor
  documents : Nat
  sourceContentTokens : Nat
  rows : Nat
  validLossTokens : Nat
  maskedBoundaryLabels : Nat
  carryTokens : List Nat
  carryStarts : List Bool
  completedShards : List (ShardRecord Digest)
  openShard : Option (ShardRecord Digest)

/-- The construction journal. -/
structure Journal (Digest Cursor : Type) where
  format : String
  formatVersion : Nat
  identity : Identity Digest
  state : JournalState Digest Cursor

/-! ## Packed manifests -/

/-- A JSON value where an opaque cursor is expected. -/
inductive CursorField (Cursor : Type)
  | null
  | mapping (cursor : Cursor)
  | malformed

/-- The cursor, if there is one; anything but a mapping is an error. -/
def CursorField.optionalMapping :
    CursorField Cursor -> Checked (Option Cursor)
  | .null => .ok none
  | .mapping cursor => .ok (some cursor)
  | .malformed => .error (.typeError
      "construction_last_source_cursor must be a mapping")

/-- How an optional cursor is written. -/
def CursorField.ofOption : Option Cursor -> CursorField Cursor
  | none => .null
  | some cursor => .mapping cursor

@[simp] theorem CursorField.optionalMapping_ofOption
    (cursor : Option Cursor) :
    (CursorField.ofOption cursor).optionalMapping = .ok cursor := by
  cases cursor <;> rfl

/-- A shard's payload metadata as found on disk. -/
structure PayloadJson (Digest : Type) where
  path : FileName
  bytes : PyValue
  sha256 : DigestField Digest

/-- A shard entry as found on disk; a payload that is no object is `none`. -/
structure ShardJson (Digest : Type) where
  index : PyValue
  rows : PyValue
  tokens : Option (PayloadJson Digest)
  starts : Option (PayloadJson Digest)

/-- `manifest.json` of a packed directory as found on disk.  A shard list that
is no list is `none`, and so is an entry that is no object. -/
structure PackedManifestJson (Digest Cursor : Type) where
  format : PyValue
  formatVersion : PyValue
  domain : PyValue
  split : PyValue
  sequenceLength : PyValue
  tokensPerRow : PyValue
  tokenDtype : PyValue
  startsEncoding : PyValue
  startsBytesPerRow : PyValue
  vocabSize : PyValue
  eosTokenId : PyValue
  rowsPerShard : PyValue
  rows : PyValue
  inputTokens : PyValue
  validLossTokens : PyValue
  maskedBoundaryLabels : PyValue
  documents : PyValue
  sourceContentTokens : PyValue
  streamTokens : PyValue
  unusedAsInputTailTokens : PyValue
  unstoredTailTokens : PyValue
  tokenizerManifestSha256 : DigestField Digest
  curationPolicySha256 : DigestField Digest
  selectionManifestSha256 : DigestField Digest
  constructionSeed : PyValue
  constructionLastSourceCursor : CursorField Cursor
  shards : Option (List (Option (ShardJson Digest)))

/-- `_Shard`; its two paths are the canonical names of its index. -/
structure Shard (Digest : Type) where
  index : Nat
  rows : Nat
  tokensSha256 : Digest
  startsSha256 : Digest

/-- The recorded digest of one payload file. -/
def Shard.sha256 (shard : Shard Digest) : ShardKind -> Digest
  | .tokens => shard.tokensSha256
  | .starts => shard.startsSha256

/-- Rows of a list of shards. -/
def Shard.totalRows (shards : List (Shard Digest)) : Nat :=
  (shards.map Shard.rows).sum

/-- `math.ceil(tokens_per_row / 8)`. -/
def startsBytesPerRow (sequenceLength : Nat) : Nat :=
  (sequenceLength + 1 + 7) / 8

/-- Bytes of one row of a payload file. -/
def rowBytes (sequenceLength : Nat) : ShardKind -> Nat
  | .tokens => (sequenceLength + 1) * tokenItemSize
  | .starts => startsBytesPerRow sequenceLength

/-- A manifest that `_parse_packed_manifest` accepted, with what it checked.
Counters that the parser recomputes (row width, input tokens, stream tokens
and the two tails) are determined by the others and not kept. -/
structure PackedManifest (Digest Cursor : Type) where
  domain : Domain
  split : String
  sequenceLength : Nat
  vocabSize : Nat
  eosTokenId : PyInt
  rowsPerShard : Nat
  rows : Nat
  validLossTokens : Nat
  maskedBoundaryLabels : Nat
  documents : Nat
  sourceContentTokens : Nat
  tokenizerManifestSha256 : Digest
  curationPolicySha256 : Option Digest
  selectionManifestSha256 : Option Digest
  constructionSeed : PyValue
  constructionLastSourceCursor : Option Cursor
  shards : List (Shard Digest)
  split_ne_empty : split ≠ ""
  two_le_sequenceLength : 2 ≤ sequenceLength
  vocabSize_bounds : 1 ≤ vocabSize ∧ vocabSize ≤ tokenValues
  eosTokenId_bounds : 0 ≤ eosTokenId.toInt ∧ eosTokenId.toInt < vocabSize
  rowsPerShard_pos : 1 ≤ rowsPerShard
  loss_eq : validLossTokens + maskedBoundaryLabels = rows * sequenceLength
  shards_index : ∀ position (bound : position < shards.length),
    shards[position].index = position
  shards_rows : ∀ position (bound : position < shards.length),
    0 < shards[position].rows ∧ shards[position].rows ≤ rowsPerShard
  shards_full : ∀ position (bound : position < shards.length),
    position + 1 < shards.length -> shards[position].rows = rowsPerShard
  totalRows_eq : Shard.totalRows shards = rows

end CodingLlm
