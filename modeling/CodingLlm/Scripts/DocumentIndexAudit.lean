import CodingLlm.Pretrain.CacheInventoryManifest
import CodingLlm.Scripts.QualifyOrders
import CodingLlm.Scripts.QualifySelectionSupply
import CodingLlm.Scripts.SplitIdentityAudit

/-!
# Validating document indexes

`_validate_document_indexes`: the nine document indexes of a corpus are read
row by row, compared with the packed streams, and what they say of sources and
source groups is gathered in the audit of split identities.
-/

namespace CodingLlm
namespace CorpusQualification

/-! ## What is read -/

/-- What `iter_jsonl_zst` yields: objects, and the exception that ends them,
if one does. -/
structure JsonRows where
  rows : List (List (String × JsonTree))
  ending : Option PyError

/-- A regular file below the root of a corpus. -/
structure CorpusFile where
  relativePath : String
  bytes : Nat
  sha256 : String
  json : Checked JsonTree
  rows : JsonRows

/-- The arguments of `_validate_document_indexes`.  `files` is the file that
`_safe_file` finds for a path and `sha256` the digest of the encoding of a
text. -/
structure DocumentIndexes where
  sha256 : String -> String
  files : String -> Option CorpusFile
  manifest : JsonTree
  packed : Split -> Domain -> JsonTree
  common : JsonTree
  archiveNames : List String

/-- The fields of `QualificationConfig` that the audit reads: whether the
scratch directory, if there is one, can be used. -/
structure IndexAuditConfig where
  scratchDirectory : Option Bool
  splitIdentityBatchRows : Nat
  collisionExamples : Nat

/-- `DOCUMENT_INDEX_FORMAT`. -/
def documentIndexFormat : String := "packed-document-position-index"

/-- `DOCUMENT_INDEX_VERSION`. -/
def documentIndexVersion : Int := 1

/-- A `QualificationError`: those about identities carry the audit as
`details`. -/
inductive Rejection
  | error (error : PyError)
  | identities (text : String) (audit : SplitIdentitySummary)

/-- `_safe_file`. -/
def safeFile
    (files : String -> Option CorpusFile) (relative : JsonTree)
    (label : String) : Checked CorpusFile := do
  let path ← requireObject (relative.str?.filter fun path => path ≠ "")
    (qualificationError (label ++ " has no relative path"))
  requireObject (files path)
    (qualificationError (label ++ " must be a regular non-symlink file"))

/-- `_descriptor_file`. -/
def descriptorFile
    (files : String -> Option CorpusFile) (descriptor : JsonTree)
    (label : String) (verifyBytes : Bool) : Checked CorpusFile := do
  let _ ← require descriptor.IsMapping
    (qualificationError (label ++ " descriptor must be an object"))
  let file ← safeFile files (getField descriptor "path") label
  let expected ← requireObject (getField descriptor "sha256").sha256?
    (qualificationError
      (label ++ " SHA-256 must be a lowercase SHA-256 digest"))
  let _ ← require
    (verifyBytes = true -> (getField descriptor "bytes").int? =
      some (file.bytes : Int))
    (qualificationError
      (label ++ " byte count differs from its descriptor"))
  let _ ← require (file.sha256 = expected)
    (qualificationError (label ++ " checksum mismatch"))
  return file

/-- What the `except` clause of a scan makes of the exception of a reader. -/
def scanError (error : PyError) : PyError :=
  match error with
  | .ioError _ | .fileNotFoundError _ | .fileExistsError _ | .runtimeError _
  | .typeError _ | .valueError _ =>
      qualificationError "Cannot scan document-index shard"
  | other => other

/-- The end of the loop over the rows of a reader. -/
def JsonRows.checkEnding (rows : JsonRows) : Checked Unit :=
  match rows.ending with
  | some error => .error (scanError error)
  | none => .ok ()

/-! ## Rows -/

/-- What a row of a document index says. -/
structure DocumentRow where
  source : String
  splitGroup : String
  selected : Nat

/-- `_source_identity`. -/
def sourceIdentity (sha256 : String -> String) (row : JsonTree) :
    Checked String := do
  let error := qualificationError
    "Document-index row has an invalid source identity"
  let archive ← requireObject ((getField row "source_archive").str?.filter
    fun text => text ≠ "") error
  let member ← requireObject ((getField row "source_member").str?.filter
    fun text => text ≠ "") error
  return sha256 (archive ++ "\x00" ++ member)

/-- The checks of a row, at a position of the stream. -/
def checkRow
    (indexes : DocumentIndexes) (split : Split) (domain : Domain)
    (ordinal position : Nat) (row : JsonTree) : Checked DocumentRow := do
  let differs := qualificationError "Document-index row identity differs"
  let _ ← require
    (row.fieldEquals "record_version" (.int documentIndexVersion) ∧
      row.fieldEquals "split" (.str split.name) ∧
      row.fieldEquals "domain" (.str domain.name) ∧
      row.fieldEquals "source_archive_ordinal" (.int ordinal)) differs
  let archive ← requireObject indexes.archiveNames[ordinal]?
    (.indexError "tuple index out of range")
  let _ ← require (row.fieldEquals "source_archive" (.str archive)) differs
  let _ ← ["doc_id", "canonical_doc_id", "split_group_id"].mapM fun field =>
    requireObject (getField row field).sha256? (qualificationError
      ("document-index " ++ field ++ " must be a lowercase SHA-256 digest"))
  let _ ← ["bucket", "language"].mapM fun field =>
    requireObject ((getField row field).str?.filter fun text =>
      pythonStrip text ≠ "")
      (qualificationError ("Document-index row has invalid " ++ field))
  let invalid := qualificationError
    "Document-index token/source counters are invalid"
  let sourceIndex ←
    requireObject (getField row "source_manifest_index").int? invalid
  let sourceTokens ← requireObject (getField row "source_tokens").int? invalid
  let selected ←
    requireObject (getField row "selected_content_tokens").int? invalid
  let _ ← require
    (0 ≤ sourceIndex ∧ 1 ≤ selected ∧ selected ≤ sourceTokens) invalid
  let _ ← require
    (row.fieldEquals "logical_stream_start" (.int position) ∧
      row.fieldEquals "logical_content_end_exclusive"
        (.int (position + selected)) ∧
      row.fieldEquals "logical_eos_position" (.int (position + selected)) ∧
      row.fieldEquals "terminal_quota_prefix"
        (.bool (decide (selected < sourceTokens))))
    (qualificationError "Document-index logical offsets are discontinuous")
  let group ← requireObject (getField row "split_group_id").sha256?
    (.keyError "split_group_id")
  let source ← sourceIdentity indexes.sha256 row
  return ⟨source, group, selected.toNat⟩

/-- The running totals of a stream, with the audit that they share. -/
structure ScanState where
  audit : SplitIdentityAudit
  logicalPosition : Nat
  documents : Nat
  selectedContentTokens : Nat

/-- The two identities of a row. -/
def DocumentRow.entries (document : DocumentRow) (split : Split) :
    List IdentityEntry :=
  [⟨.source, document.source, split⟩, ⟨.splitGroup, document.splitGroup, split⟩]

/-- One turn of the loop over the rows of a shard. -/
def scanRow
    (indexes : DocumentIndexes) (split : Split) (domain : Domain)
    (ordinal : Nat) (state : ScanState) (row : JsonTree) :
    Checked ScanState := do
  let document ←
    checkRow indexes split domain ordinal state.logicalPosition row
  return { audit := (document.entries split).foldl SplitIdentityAudit.add
             state.audit
           logicalPosition := state.logicalPosition + (document.selected + 1)
           documents := state.documents + 1
           selectedContentTokens :=
             state.selectedContentTokens + document.selected }

/-! ## Shards -/

/-- The summary of a shard. -/
structure ShardSummary where
  archiveOrdinal : Nat
  path : String
  bytes : Nat
  sha256 : String
  records : Nat

/-- The state of the loop over the shards of an index. -/
structure ShardState where
  lastOrdinal : Int
  scan : ScanState
  shards : List ShardSummary

/-- `str(ordinal)`, padded with zeros to six digits. -/
def sixDigits (ordinal : Nat) : String :=
  let digits := toString ordinal
  String.ofList (List.replicate (6 - digits.length) '0') ++ digits

/-- `expected_path`. -/
def shardPath (split : Split) (domain : Domain) (ordinal : Nat) : String :=
  "provenance/documents/" ++ split.name ++ "/" ++ domain.name ++ "/archive-" ++
    sixDigits ordinal ++ ".jsonl.zst"

/-- `f"{split}/{domain}"`. -/
def streamLabel (split : Split) (domain : Domain) : String :=
  split.name ++ "/" ++ domain.name

/-- The number that a value is compared as with an integer. -/
def requireNumber (value : JsonTree) : Checked Rat :=
  match value with
  | .scalar value => requireObject value.number?
      (.typeError "'>=' not supported between these instances")
  | _ => .error (.typeError "'>=' not supported between these instances")

/-- The ordinal of a shard, after the one before it. -/
def shardOrdinal
    (indexes : DocumentIndexes) (split : Split) (domain : Domain)
    (lastOrdinal : Int) (shard : JsonTree) : Checked Nat := do
  let invalid := qualificationError
    ("Document-index shard order is invalid: " ++ streamLabel split domain)
  let ordinal ← requireObject (getField shard "archive_ordinal").int? invalid
  let _ ← require (0 ≤ ordinal) invalid
  let count ← indexes.manifest.subscripts ["source_cursor", "archive_count"]
  let number ← requireNumber count
  let _ ← require ((ordinal : Rat) < number ∧ lastOrdinal < ordinal) invalid
  return ordinal.toNat

/-- One turn of the loop over the shards of an index. -/
def scanShard
    (indexes : DocumentIndexes) (split : Split) (domain : Domain)
    (state : ShardState) (shard : JsonTree) : Checked ShardState := do
  let label := streamLabel split domain
  let _ ← require shard.IsMapping
    (qualificationError "Document-index shard descriptor is invalid")
  let ordinal ← shardOrdinal indexes split domain state.lastOrdinal shard
  let path := shardPath split domain ordinal
  let _ ← require (shard.fieldEquals "path" (.str path))
    (qualificationError ("Non-canonical document-index shard path: " ++ label))
  let file ← descriptorFile indexes.files shard
    (label ++ " document-index shard " ++ toString ordinal) true
  let scan ← (file.rows.rows.map JsonTree.object).foldlM
    (scanRow indexes split domain ordinal) state.scan
  let _ ← file.rows.checkEnding
  let records := file.rows.rows.length
  let _ ← require
    (1 ≤ records ∧ shard.fieldEquals "records" (.int records))
    (qualificationError "Document-index shard record count differs")
  return ⟨ordinal, scan, state.shards ++
    [⟨ordinal, path, file.bytes, file.sha256, records⟩]⟩

/-! ## Streams -/

/-- The summary of a stream. -/
structure StreamSummary where
  manifest : String
  manifestSha256 : String
  documents : Nat
  selectedContentTokens : Nat
  logicalStreamTokens : Nat
  shards : List ShardSummary

/-- `expected_identity`. -/
def expectedIdentity
    (indexes : DocumentIndexes) (split : Split) (domain : Domain) :
    Checked (List (String × JsonTree)) := do
  let selection ←
    indexes.manifest.subscripts ["identity", "selection_manifest_sha256"]
  let tokenizer ← indexes.common.subscript "tokenizer_manifest_sha256"
  let sequenceLength ← indexes.common.subscript "sequence_length"
  return [("format", .str documentIndexFormat),
    ("format_version", .int documentIndexVersion),
    ("split", .str split.name), ("domain", .str domain.name),
    ("selection_manifest_sha256", selection),
    ("tokenizer_manifest_sha256", tokenizer),
    ("sequence_length", sequenceLength)]

/-- Fields that must have given values. -/
def checkFields
    (tree : JsonTree) (expected : List (String × JsonTree))
    (error : String -> PyError) : Checked Unit :=
  expected.forM fun field => do
    let _ ← require ((getField tree field.1).equals field.2) (error field.1)
    return ()

/-- The comparison of the totals of a stream with its index, the packed
stream and the descriptor. -/
def checkTotals
    (indexes : DocumentIndexes) (split : Split) (domain : Domain)
    (descriptor index : JsonTree) (totals : ScanState) : Checked Unit := do
  let label := streamLabel split domain
  checkFields index
    [("documents", .int totals.documents),
      ("selected_content_tokens", .int totals.selectedContentTokens),
      ("logical_stream_tokens", .int totals.logicalPosition)]
    fun field => qualificationError
      ("Document-index " ++ field ++ " total differs for " ++ label)
  let packed := indexes.packed split domain
  let documents ← packed.subscript "documents"
  let contentTokens ← packed.subscript "source_content_tokens"
  let streamTokens ← packed.subscript "stream_tokens"
  let _ ← require
    (documents.equals (.int totals.documents) ∧
      contentTokens.equals (.int totals.selectedContentTokens) ∧
      streamTokens.equals (.int totals.logicalPosition))
    (qualificationError
      ("Document index and packed stream differ for " ++ label))
  let _ ← require
    (descriptor.fieldEquals "documents" (.int totals.documents) ∧
      descriptor.fieldEquals "logical_stream_tokens"
        (.int totals.logicalPosition))
    (qualificationError
      ("Top-level document-index totals differ for " ++ label))
  return ()

/-- The descriptor of the document index of a stream. -/
def indexDescriptor
    (indexes : DocumentIndexes) (split : Split) (domain : Domain) :
    Checked JsonTree := do
  let descriptor ←
    indexes.manifest.subscripts ["splits", split.name, "packed", domain.name]
  descriptor.get "document_index"

/-- The document index of a stream, as it is loaded. -/
def loadIndex
    (indexes : DocumentIndexes) (split : Split) (domain : Domain) :
    Checked (CorpusFile × JsonTree) := do
  let descriptor ← indexDescriptor indexes split domain
  let file ← descriptorFile indexes.files descriptor
    (streamLabel split domain ++ " document-index manifest") false
  let index ← file.json.mapError fun _ =>
    qualificationError "Invalid JSON object"
  let _ ← require index.IsMapping (qualificationError "Invalid JSON object")
  return (file, index)

/-- The state of the loops over splits and domains. -/
structure AuditedStreams where
  audit : SplitIdentityAudit
  summaries : List ((Split × Domain) × StreamSummary)

/-- One turn of the loop over the domains of a split. -/
def scanStream
    (indexes : DocumentIndexes) (split : Split) (state : AuditedStreams)
    (domain : Domain) : Checked AuditedStreams := do
  let (file, index) ← loadIndex indexes split domain
  let expected ← expectedIdentity indexes split domain
  checkFields index expected fun field => qualificationError
    ("Document-index " ++ field ++ " differs for " ++ streamLabel split domain)
  let shards ← requireObject (getField index "shards").items?
    (qualificationError ("Document-index has no shard inventory: " ++
      streamLabel split domain))
  let scanned ← shards.foldlM (scanShard indexes split domain)
    ⟨-1, ⟨state.audit, 0, 0, 0⟩, []⟩
  let descriptor ← indexDescriptor indexes split domain
  checkTotals indexes split domain descriptor index scanned.scan
  return ⟨scanned.scan.audit, state.summaries ++
    [((split, domain), ⟨file.relativePath, file.sha256,
      scanned.scan.documents, scanned.scan.selectedContentTokens,
      scanned.scan.logicalPosition, scanned.shards⟩)]⟩

/-- One turn of the loop over the splits. -/
def scanSplit
    (indexes : DocumentIndexes) (state : AuditedStreams) (split : Split) :
    Checked AuditedStreams :=
  Domain.order.foldlM (scanStream indexes split) state

/-- The loops over splits and domains. -/
def scanStreams (indexes : DocumentIndexes) (batchRows : Nat) :
    Checked AuditedStreams :=
  Split.all.foldlM (scanSplit indexes) ⟨.start batchRows, []⟩

/-! ## The audit -/

/-- What `_validate_document_indexes` returns. -/
structure AuditedIndexes where
  summaries : List ((Split × Domain) × StreamSummary)
  identities : SplitIdentitySummary

/-- `_validate_document_indexes`, with the size of the scratch database. -/
def validateDocumentIndexes
    (indexes : DocumentIndexes) (config : IndexAuditConfig)
    (databaseBytes : Nat) : Except Rejection AuditedIndexes := do
  if config.scratchDirectory = some false then
    throw (.error (qualificationError
      "Scratch directory must be an existing non-symlink directory"))
  let streams ←
    (scanStreams indexes config.splitIdentityBatchRows).mapError .error
  let identities :=
    streams.audit.finish config.collisionExamples databaseBytes
  if ∃ kind ∈ IdentityKind.all, identities.crossSplitCollisions kind ≠ 0 then
    throw (.identities
      "Source or split-group identities occur in multiple splits" identities)
  if identities.identityOccurrences .source ≠
      identities.uniqueIdentities .source then
    throw (.identities
      "A source archive/member identity occurs more than once in the corpus"
      identities)
  return ⟨streams.summaries, identities⟩

/-! ## What the streams say -/

/-- The rows of a shard. -/
def shardRows (indexes : DocumentIndexes) (shard : JsonTree) :
    List JsonTree :=
  match (getField shard "path").str?.bind indexes.files with
  | some file => file.rows.rows.map JsonTree.object
  | none => []

/-- The rows of a document index, shard by shard. -/
def indexRows (indexes : DocumentIndexes) (index : JsonTree) :
    List JsonTree :=
  ((getField index "shards").items?.getD []).flatMap (shardRows indexes)

/-- The rows of the document index of a stream. -/
def streamRows
    (indexes : DocumentIndexes) (split : Split) (domain : Domain) :
    List JsonTree :=
  match loadIndex indexes split domain with
  | .ok (_, index) => indexRows indexes index
  | .error _ => []

/-- The rows of a split, each with the split. -/
def splitRows (indexes : DocumentIndexes) (split : Split) :
    List (Split × JsonTree) :=
  Domain.order.flatMap fun domain =>
    (streamRows indexes split domain).map fun row => (split, row)

/-- The rows of all streams, each with its split. -/
def corpusRows (indexes : DocumentIndexes) : List (Split × JsonTree) :=
  Split.all.flatMap (splitRows indexes)

/-- `(source_archive, source_member)` of a row. -/
def sourcePair (row : JsonTree) : Option String × Option String :=
  ((getField row "source_archive").str?, (getField row "source_member").str?)

/-- `split_group_id` of a row. -/
def splitGroupOf (row : JsonTree) : Option String :=
  (getField row "split_group_id").str?

/-- No source occurs twice in the corpus. -/
def SourcesDistinct (indexes : DocumentIndexes) : Prop :=
  ((corpusRows indexes).map fun entry => sourcePair entry.2).Nodup

/-- No source group occurs in two splits. -/
def GroupsApart (indexes : DocumentIndexes) : Prop :=
  ∀ first ∈ corpusRows indexes, ∀ second ∈ corpusRows indexes,
    splitGroupOf first.2 = splitGroupOf second.2 -> first.1 = second.1

/-- The logical intervals of rows, each with its end of document, fill a part
of a stream. -/
def Contiguous (start : Nat) : List JsonTree -> Nat -> Prop
  | [], stop => start = stop
  | row :: rows, stop => ∃ selected : Nat, 1 ≤ selected ∧
      (getField row "selected_content_tokens").int? = some (selected : Int) ∧
      row.fieldEquals "logical_stream_start" (.int start) ∧
      row.fieldEquals "logical_content_end_exclusive"
        (.int (start + selected : Nat)) ∧
      row.fieldEquals "logical_eos_position" (.int (start + selected : Nat)) ∧
      Contiguous (start + (selected + 1)) rows stop

theorem Contiguous.append
    {start middle stop : Nat} {rows others : List JsonTree}
    (first : Contiguous start rows middle)
    (second : Contiguous middle others stop) :
    Contiguous start (rows ++ others) stop := by
  induction rows generalizing start with
  | nil =>
      cases first
      exact second
  | cons row rows inductionHypothesis =>
      obtain ⟨selected, positive, counted, starts, ends, eos, rest⟩ := first
      exact ⟨selected, positive, counted, starts, ends, eos,
        inductionHypothesis rest⟩

/-! ## Runs of a scan -/

section Scans

variable {indexes : DocumentIndexes} {split : Split} {domain : Domain}

/-- A loop whose turns compose relates its first state to its last. -/
theorem foldlM_composes
    {α β σ : Type} {step : σ -> α -> Checked σ}
    (Relates : σ -> List β -> σ -> Prop)
    (rows : α -> List β)
    (nil : ∀ state, Relates state [] state)
    (append : ∀ {before middle after first second},
      Relates before first middle -> Relates middle second after ->
        Relates before (first ++ second) after)
    (turn : ∀ before item after, step before item = .ok after ->
      Relates before (rows item) after)
    {items : List α} {before after : σ}
    (runs : items.foldlM step before = .ok after) :
    Relates before (items.flatMap rows) after := by
  induction items generalizing before with
  | nil =>
      cases checked_pure_eq_ok.mp runs
      exact nil _
  | cons item items inductionHypothesis =>
      rw [List.foldlM_cons, checked_bind_eq_ok] at runs
      obtain ⟨middle, first, rest⟩ := runs
      exact append (turn _ _ _ first) (inductionHypothesis rest)

/-- A loop that does not look at a part of its state runs in the same way
whatever that part is. -/
theorem foldlM_simulates
    {α σ : Type} (step : σ -> α -> Checked σ)
    (Alike : σ -> σ -> Prop)
    (turn : ∀ state other item after, Alike state other ->
      step state item = .ok after ->
        ∃ next, step other item = .ok next ∧ Alike after next)
    {items : List α} {state other after : σ}
    (alike : Alike state other)
    (runs : items.foldlM step state = .ok after) :
    ∃ next, items.foldlM step other = .ok next ∧ Alike after next := by
  induction items generalizing state other with
  | nil =>
      cases checked_pure_eq_ok.mp runs
      exact ⟨other, rfl, alike⟩
  | cons item items inductionHypothesis =>
      rw [List.foldlM_cons, checked_bind_eq_ok] at runs
      obtain ⟨middle, first, rest⟩ := runs
      obtain ⟨next, steps, alikeNext⟩ := turn _ _ _ _ alike first
      obtain ⟨last, continues, alikeLast⟩ := inductionHypothesis alikeNext rest
      refine ⟨last, ?_, alikeLast⟩
      rw [List.foldlM_cons, steps, checked_ok_bind, continues]

/-- The text whose digest is the source of a row. -/
def sourceText (row : JsonTree) : String :=
  (sourcePair row).1.getD "" ++ "\x00" ++ (sourcePair row).2.getD ""

/-- What a row adds to the audit. -/
def rowEntries (sha256 : String -> String) (split : Split) (row : JsonTree) :
    List IdentityEntry :=
  [⟨.source, sha256 (sourceText row), split⟩,
    ⟨.splitGroup, (splitGroupOf row).getD "", split⟩]

/-- A row whose identities are texts. -/
structure Identified (indexes : DocumentIndexes) (row : JsonTree) : Prop where
  source : ∃ archive ∈ indexes.archiveNames, ∃ member,
    sourcePair row = (some archive, some member)
  splitGroup : ∃ group, splitGroupOf row = some group

/-- The spec of the checks of a row. -/
theorem checkRow_eq_ok
    {ordinal position : Nat} {row : JsonTree} {document : DocumentRow}
    (checked : checkRow indexes split domain ordinal position row =
      .ok document) :
    Identified indexes row ∧
      document.entries split = rowEntries indexes.sha256 split row ∧
      Contiguous position [row] (position + (document.selected + 1)) := by
  unfold checkRow sourceIdentity at checked
  simp only [checked_bind_eq_ok, checked_pure_eq_ok,
    requireObject_eq_ok, exists_require] at checked
  obtain ⟨-, archive, named, isArchive, -, -, -, -, sourceIndex, -,
    sourceTokens, -, selected, isSelected, ⟨-, positive, -⟩,
    ⟨starts, ends, eos, -⟩, group, isGroup, source,
    ⟨archiveText, isText, member, isMember, hashed⟩, rfl⟩ := checked
  obtain ⟨size, rfl⟩ := Int.eq_ofNat_of_zero_le (by omega : 0 ≤ selected)
  have sameArchive : (getField row "source_archive").str? = some archive := by
    rw [getField, fieldEquals_str_iff.mp isArchive]
    rfl
  have archiveIs : archiveText = archive := by
    rw [sameArchive] at isText
    exact (Option.some.inj (Option.filter_eq_some_iff.mp isText).1).symm
  have memberIs : (getField row "source_member").str? = some member :=
    (Option.filter_eq_some_iff.mp isMember).1
  have groupIs : (getField row "split_group_id").str? = some group :=
    (Option.filter_eq_some_iff.mp isGroup).1
  have pair : sourcePair row = (some archive, some member) := by
    rw [sourcePair, sameArchive, memberIs]
  refine ⟨⟨⟨archive, List.mem_of_getElem? named, member, pair⟩,
    group, groupIs⟩, ?_, ?_⟩
  · rw [rowEntries, sourceText, pair, splitGroupOf, groupIs, ← hashed,
      archiveIs]
    rfl
  · exact ⟨size, by omega, isSelected, starts, ends, eos, rfl⟩

/-- What the rows of a part of a stream do to the state of its scan. -/
structure Scanned
    (indexes : DocumentIndexes) (split : Split)
    (before : ScanState) (rows : List JsonTree) (after : ScanState) :
    Prop where
  identified : ∀ row ∈ rows, Identified indexes row
  audit : after.audit =
    (rows.flatMap (rowEntries indexes.sha256 split)).foldl
      SplitIdentityAudit.add before.audit
  contiguous : Contiguous before.logicalPosition rows after.logicalPosition

theorem Scanned.refl (state : ScanState) :
    Scanned indexes split state [] state where
  identified _ member := absurd member List.not_mem_nil
  audit := rfl
  contiguous := rfl

theorem Scanned.append
    {before middle after : ScanState} {rows others : List JsonTree}
    (first : Scanned indexes split before rows middle)
    (second : Scanned indexes split middle others after) :
    Scanned indexes split before (rows ++ others) after where
  identified row member := (List.mem_append.mp member).elim
    (first.identified row) (second.identified row)
  audit := by
    rw [second.audit, first.audit, List.flatMap_append, List.foldl_append]
  contiguous := first.contiguous.append second.contiguous

theorem scanRow_scanned
    {ordinal : Nat} {before after : ScanState} {row : JsonTree}
    (scanned : scanRow indexes split domain ordinal before row = .ok after) :
    Scanned indexes split before [row] after := by
  rw [scanRow, checked_bind_eq_ok] at scanned
  obtain ⟨document, checked, made⟩ := scanned
  cases checked_pure_eq_ok.mp made
  obtain ⟨identified, entries, contiguous⟩ := checkRow_eq_ok checked
  refine ⟨?_, ?_, contiguous⟩
  · intro other member
    rw [List.mem_singleton.mp member]
    exact identified
  · rw [entries, List.flatMap_singleton]

/-- The spec of the descriptor of a file. -/
theorem descriptorFile_eq_ok
    {files : String -> Option CorpusFile} {descriptor : JsonTree}
    {label : String} {verifyBytes : Bool} {file : CorpusFile}
    (found : descriptorFile files descriptor label verifyBytes = .ok file) :
    (getField descriptor "path").str?.bind files = some file := by
  unfold descriptorFile safeFile at found
  simp only [checked_bind_eq_ok, requireObject_eq_ok, exists_require,
    checked_pure_eq_ok] at found
  obtain ⟨-, read, ⟨path, isPath, isFile⟩, expected, -, -, -, rfl⟩ := found
  rw [(Option.filter_eq_some_iff.mp isPath).1]
  exact isFile

theorem scanShard_scanned
    {before after : ShardState} {shard : JsonTree}
    (scanned : scanShard indexes split domain before shard = .ok after) :
    Scanned indexes split before.scan (shardRows indexes shard)
      after.scan := by
  unfold scanShard at scanned
  simp only [checked_bind_eq_ok, exists_require, checked_pure_eq_ok]
    at scanned
  obtain ⟨-, ordinal, -, -, file, found, scan, runs, ending, -, -, rfl⟩ :=
    scanned
  rw [shardRows, descriptorFile_eq_ok found]
  have composed := foldlM_composes (Scanned indexes split)
    (fun row => [row]) Scanned.refl Scanned.append
    (fun _ _ _ => scanRow_scanned) runs
  rwa [List.flatMap_singleton'] at composed

/-- The rows of a stream fill it up to its end in the packed corpus. -/
def Fills (indexes : DocumentIndexes) (split : Split) (domain : Domain) :
    Prop :=
  ∃ tokens : Nat,
    (indexes.packed split domain).fieldEquals "stream_tokens" (.int tokens) ∧
      Contiguous 0 (streamRows indexes split domain) tokens

/-- What the rows of some streams do to the audit. -/
structure StreamsScanned
    (indexes : DocumentIndexes) (before : AuditedStreams)
    (rows : List (Split × JsonTree)) (after : AuditedStreams) : Prop where
  identified : ∀ row ∈ rows, Identified indexes row.2
  audit : after.audit =
    (rows.flatMap fun row => rowEntries indexes.sha256 row.1 row.2).foldl
      SplitIdentityAudit.add before.audit

theorem StreamsScanned.refl (state : AuditedStreams) :
    StreamsScanned indexes state [] state where
  identified _ member := absurd member List.not_mem_nil
  audit := rfl

theorem StreamsScanned.append
    {before middle after : AuditedStreams}
    {rows others : List (Split × JsonTree)}
    (first : StreamsScanned indexes before rows middle)
    (second : StreamsScanned indexes middle others after) :
    StreamsScanned indexes before (rows ++ others) after where
  identified row member := (List.mem_append.mp member).elim
    (first.identified row) (second.identified row)
  audit := by
    rw [second.audit, first.audit, List.flatMap_append, List.foldl_append]

/-- A stream whose totals agree ends where the packed stream does. -/
theorem checkTotals_eq_ok
    {descriptor index : JsonTree} {totals : ScanState} {done : Unit}
    (checked : checkTotals indexes split domain descriptor index totals =
      .ok done) :
    (indexes.packed split domain).fieldEquals "stream_tokens"
      (.int totals.logicalPosition) := by
  unfold checkTotals at checked
  simp only [checked_bind_eq_ok, exists_require] at checked
  obtain ⟨-, -, documents, -, contentTokens, -, streamTokens, read,
    ⟨-, -, tokens⟩, -⟩ := checked
  rw [JsonTree.fieldEquals, JsonTree.subscript_eq_ok.mp read]
  exact tokens

/-- The spec of the scan of a stream. -/
theorem scanStream_eq_ok
    {before after : AuditedStreams}
    (scanned : scanStream indexes split before domain = .ok after) :
    StreamsScanned indexes before
        ((streamRows indexes split domain).map fun row => (split, row)) after ∧
      Fills indexes split domain := by
  unfold scanStream at scanned
  simp only [checked_bind_eq_ok, checked_pure_eq_ok,
    requireObject_eq_ok] at scanned
  obtain ⟨⟨file, index⟩, loaded, expected, -, -, -, shards, listed, state,
    runs, descriptor, -, done, totals, rfl⟩ := scanned
  have rows : streamRows indexes split domain =
      shards.flatMap (shardRows indexes) := by
    unfold streamRows
    rw [loaded]
    change ((getField index "shards").items?.getD []).flatMap _ = _
    rw [listed]
    rfl
  have composed := foldlM_composes
    (fun before rows after =>
      Scanned indexes split before.scan rows after.scan)
    (shardRows indexes) (fun state => Scanned.refl state.scan) Scanned.append
    (fun _ _ _ => scanShard_scanned) runs
  rw [← rows] at composed
  refine ⟨⟨?_, ?_⟩, state.scan.logicalPosition, checkTotals_eq_ok totals,
    composed.contiguous⟩
  · intro entry member
    obtain ⟨row, isRow, rfl⟩ := List.mem_map.mp member
    exact composed.identified row isRow
  · rw [List.flatMap_map]
    exact composed.audit

/-- What holds of an item after each turn holds of all after a loop. -/
theorem forall_of_foldlM
    {α σ : Type} {step : σ -> α -> Checked σ}
    (Holds : α -> Prop)
    (turn : ∀ before item after, step before item = .ok after -> Holds item)
    {items : List α} {before after : σ}
    (runs : items.foldlM step before = .ok after) :
    ∀ item ∈ items, Holds item := by
  have composed := foldlM_composes
    (fun _ items _ => ∀ item ∈ items, Holds item) (fun item => [item])
    (fun _ _ member => absurd member List.not_mem_nil)
    (fun first second item member =>
      (List.mem_append.mp member).elim (first item) (second item))
    (fun before item after steps other member => by
      rw [List.mem_singleton.mp member]
      exact turn before item after steps) runs
  rwa [List.flatMap_singleton'] at composed

/-- The spec of the loop over the domains of a split. -/
theorem scanSplit_eq_ok
    {before after : AuditedStreams}
    (scanned : scanSplit indexes before split = .ok after) :
    StreamsScanned indexes before (splitRows indexes split) after ∧
      ∀ domain ∈ Domain.order, Fills indexes split domain := by
  unfold scanSplit at scanned
  constructor
  · exact foldlM_composes (StreamsScanned indexes)
      (fun domain => (streamRows indexes split domain).map
        fun row => (split, row))
      StreamsScanned.refl StreamsScanned.append
      (fun _ _ _ steps => (scanStream_eq_ok steps).1) scanned
  · exact forall_of_foldlM (Fills indexes split)
      (fun _ _ _ steps => (scanStream_eq_ok steps).2) scanned

/-- The spec of the loops over splits and domains. -/
theorem scanStreams_eq_ok
    {batchRows : Nat} {streams : AuditedStreams}
    (scanned : scanStreams indexes batchRows = .ok streams) :
    StreamsScanned indexes ⟨.start batchRows, []⟩ (corpusRows indexes) streams ∧
      ∀ split domain, Fills indexes split domain := by
  unfold scanStreams at scanned
  constructor
  · exact foldlM_composes (StreamsScanned indexes) (splitRows indexes)
      StreamsScanned.refl StreamsScanned.append
      (fun _ _ _ steps => (scanSplit_eq_ok steps).1) scanned
  · intro split domain
    have filled := forall_of_foldlM
      (fun split => ∀ domain ∈ Domain.order, Fills indexes split domain)
      (fun _ _ _ steps => (scanSplit_eq_ok steps).2) scanned
    exact filled split (by cases split <;> decide) domain
      (by cases domain <;> decide)

/-! ## Scans with other batches -/

/-- The same state with another audit. -/
def ScanState.withAudit (state : ScanState) (audit : SplitIdentityAudit) :
    ScanState :=
  { state with audit }

/-- Two states of a loop that differ in the audit only. -/
def ShardState.Alike (state other : ShardState) : Prop :=
  ∃ audit, other = { state with scan := state.scan.withAudit audit }

/-- Two states of a loop that differ in the audit only. -/
def AuditedStreams.Alike (state other : AuditedStreams) : Prop :=
  ∃ audit, other = { state with audit }

theorem scanRow_alike
    {ordinal : Nat} {state other after : ScanState} {row : JsonTree}
    (alike : ∃ audit, other = state.withAudit audit)
    (scanned : scanRow indexes split domain ordinal state row = .ok after) :
    ∃ next, scanRow indexes split domain ordinal other row = .ok next ∧
      ∃ audit, next = after.withAudit audit := by
  obtain ⟨audit, rfl⟩ := alike
  rw [scanRow, checked_bind_eq_ok] at scanned
  obtain ⟨document, checked, made⟩ := scanned
  cases checked_pure_eq_ok.mp made
  refine ⟨_, ?_, (document.entries split).foldl SplitIdentityAudit.add audit,
    rfl⟩
  rw [scanRow]
  change (checkRow indexes split domain ordinal state.logicalPosition row >>=
    _) = _
  rw [checked, checked_ok_bind]
  rfl

theorem scanShard_alike
    {state other after : ShardState} {shard : JsonTree}
    (alike : state.Alike other)
    (scanned : scanShard indexes split domain state shard = .ok after) :
    ∃ next, scanShard indexes split domain other shard = .ok next ∧
      after.Alike next := by
  obtain ⟨audit, rfl⟩ := alike
  unfold scanShard at scanned ⊢
  simp only [checked_bind_eq_ok, exists_require, checked_pure_eq_ok]
    at scanned ⊢
  obtain ⟨mapping, ordinal, ordered, named, file, found, scan, runs, ending,
    ended, counted, rfl⟩ := scanned
  obtain ⟨next, alsoRuns, other, rfl⟩ :=
    foldlM_simulates (scanRow indexes split domain ordinal)
      (fun state other => ∃ audit, other = state.withAudit audit)
      (fun _ _ _ _ => scanRow_alike) ⟨audit, rfl⟩ runs
  exact ⟨_, ⟨mapping, ordinal, ordered, named, file, found, _, alsoRuns,
    ending, ended, counted, rfl⟩, other, rfl⟩

theorem scanStream_alike
    {state other after : AuditedStreams}
    (alike : state.Alike other)
    (scanned : scanStream indexes split state domain = .ok after) :
    ∃ next, scanStream indexes split other domain = .ok next ∧
      after.Alike next := by
  obtain ⟨audit, rfl⟩ := alike
  unfold scanStream at scanned ⊢
  simp only [checked_bind_eq_ok, checked_pure_eq_ok, requireObject_eq_ok]
    at scanned ⊢
  obtain ⟨loaded, loads, expected, expects, done, checks, shards, listed,
    state, runs, descriptor, described, finished, totals, rfl⟩ := scanned
  obtain ⟨next, alsoRuns, other, rfl⟩ :=
    foldlM_simulates (scanShard indexes split domain) ShardState.Alike
      (fun _ _ _ _ => scanShard_alike)
      ⟨audit, rfl⟩ runs
  exact ⟨_, ⟨loaded, loads, expected, expects, done, checks, shards, listed,
    _, alsoRuns, descriptor, described, finished, totals, rfl⟩, other, rfl⟩

theorem scanSplit_alike
    {state other after : AuditedStreams}
    (alike : state.Alike other)
    (scanned : scanSplit indexes state split = .ok after) :
    ∃ next, scanSplit indexes other split = .ok next ∧ after.Alike next := by
  unfold scanSplit at scanned ⊢
  exact foldlM_simulates (scanStream indexes split) AuditedStreams.Alike
    (fun _ _ _ _ => scanStream_alike) alike scanned

/-- A scan with other batches comes to the same summaries. -/
theorem scanStreams_alike
    {batchRows : Nat} {streams : AuditedStreams}
    (scanned : scanStreams indexes batchRows = .ok streams)
    (otherRows : Nat) :
    ∃ others, scanStreams indexes otherRows = .ok others ∧
      streams.Alike others := by
  unfold scanStreams at scanned ⊢
  exact foldlM_simulates (scanSplit indexes) AuditedStreams.Alike
    (fun _ _ _ _ => scanSplit_alike) ⟨_, rfl⟩ scanned

end Scans

/-! ## The identities of the corpus -/

section Identities

variable {indexes : DocumentIndexes}

/-- A text without a character is separated from what follows it by that
character. -/
theorem append_separated_inj
    {separator : Char} {left right after next : List Char}
    (leftClean : separator ∉ left)
    (rightClean : separator ∉ right)
    (same : left ++ separator :: after = right ++ separator :: next) :
    left = right ∧ after = next := by
  induction left generalizing right with
  | nil =>
      cases right with
      | nil => exact ⟨rfl, (List.cons.inj same).2⟩
      | cons head rest =>
          have first : separator = head := (List.cons.inj same).1
          exact absurd (first ▸ List.mem_cons_self) rightClean
  | cons head rest inductionHypothesis =>
      cases right with
      | nil =>
          have first : head = separator := (List.cons.inj same).1
          exact absurd (first ▸ List.mem_cons_self) leftClean
      | cons other others =>
          rw [List.mem_cons, not_or] at leftClean rightClean
          obtain ⟨heads, rests⟩ := List.cons.inj same
          obtain ⟨texts, ends⟩ :=
            inductionHypothesis leftClean.2 rightClean.2 rests
          exact ⟨by rw [heads, texts], ends⟩

/-- Rows with the same text have the same source. -/
theorem sourcePair_of_sourceText
    (clean : ∀ archive ∈ indexes.archiveNames, '\x00' ∉ archive.toList)
    {first second : JsonTree}
    (isFirst : Identified indexes first)
    (isSecond : Identified indexes second)
    (same : sourceText first = sourceText second) :
    sourcePair first = sourcePair second := by
  obtain ⟨archive, listed, member, pair⟩ := isFirst.source
  obtain ⟨other, otherListed, otherMember, otherPair⟩ := isSecond.source
  rw [sourceText, sourceText, pair, otherPair] at same
  have texts : archive.toList ++ '\x00' :: member.toList =
      other.toList ++ '\x00' :: otherMember.toList := by
    have lists := congrArg String.toList same
    simpa [String.toList_append] using lists
  obtain ⟨archives, members⟩ := append_separated_inj (clean archive listed)
    (clean other otherListed) texts
  rw [pair, otherPair, String.toList_inj.mp archives,
    String.toList_inj.mp members]

/-- What the corpus adds to the audit. -/
def corpusEntries (indexes : DocumentIndexes) : List IdentityEntry :=
  (corpusRows indexes).flatMap fun row =>
    rowEntries indexes.sha256 row.1 row.2

theorem identitiesOf_source :
    identitiesOf (corpusEntries indexes) .source =
      (corpusRows indexes).map fun row =>
        indexes.sha256 (sourceText row.2) := by
  unfold identitiesOf corpusEntries
  induction corpusRows indexes with
  | nil => rfl
  | cons row rows inductionHypothesis =>
      rw [List.flatMap_cons, List.filter_append, List.map_append,
        inductionHypothesis]
      rfl

theorem mem_corpusEntries_source
    {entry : IdentityEntry}
    (isSource : entry.kind = .source) :
    entry ∈ corpusEntries indexes ↔
      ∃ row ∈ corpusRows indexes,
        entry = ⟨.source, indexes.sha256 (sourceText row.2), row.1⟩ := by
  rw [corpusEntries, List.mem_flatMap]
  refine exists_congr fun row => and_congr_right fun _ => ?_
  rw [rowEntries, List.mem_cons, List.mem_singleton]
  refine or_iff_left ?_
  rintro rfl
  cases isSource

theorem mem_corpusEntries_splitGroup
    {entry : IdentityEntry}
    (isGroup : entry.kind = .splitGroup) :
    entry ∈ corpusEntries indexes ↔
      ∃ row ∈ corpusRows indexes,
        entry = ⟨.splitGroup, (splitGroupOf row.2).getD "", row.1⟩ := by
  rw [corpusEntries, List.mem_flatMap]
  refine exists_congr fun row => and_congr_right fun _ => ?_
  rw [rowEntries, List.mem_cons, List.mem_singleton]
  refine or_iff_right ?_
  rintro rfl
  cases isGroup

variable
  (injective : Function.Injective indexes.sha256)
  (clean : ∀ archive ∈ indexes.archiveNames, '\x00' ∉ archive.toList)
  (identified : ∀ row ∈ corpusRows indexes, Identified indexes row.2)

include injective clean identified in
/-- No digest of a source is repeated exactly when no source is. -/
theorem nodup_identitiesOf_iff :
    (identitiesOf (corpusEntries indexes) .source).Nodup ↔
      SourcesDistinct indexes := by
  rw [identitiesOf_source, SourcesDistinct, List.Nodup, List.Nodup,
    List.pairwise_map, List.pairwise_map]
  refine List.Pairwise.iff_of_mem fun {first second} isFirst isSecond => ?_
  refine not_congr ⟨fun same => ?_, fun same => ?_⟩
  · exact sourcePair_of_sourceText clean (identified _ isFirst)
      (identified _ isSecond) (injective same)
  · rw [sourceText, sourceText, same]

/-- Where no source is repeated, each is in one split. -/
theorem source_apart
    (distinct : (identitiesOf (corpusEntries indexes) .source).Nodup)
    {first second : IdentityEntry}
    (isFirst : first ∈ corpusEntries indexes)
    (isSecond : second ∈ corpusEntries indexes)
    (firstKind : first.kind = .source)
    (secondKind : second.kind = .source)
    (same : first.identity = second.identity) :
    first.split = second.split := by
  rw [identitiesOf_source] at distinct
  obtain ⟨row, inRows, rfl⟩ := (mem_corpusEntries_source firstKind).mp isFirst
  obtain ⟨other, inOthers, rfl⟩ :=
    (mem_corpusEntries_source secondKind).mp isSecond
  rw [List.inj_on_of_nodup_map distinct inRows inOthers same]

include identified in
/-- The audit tells groups apart as the corpus does. -/
theorem groupsApart_iff :
    GroupsApart indexes ↔
      ∀ first ∈ corpusEntries indexes, ∀ second ∈ corpusEntries indexes,
        first.kind = .splitGroup -> second.kind = .splitGroup ->
          first.identity = second.identity -> first.split = second.split := by
  constructor
  · intro apart first isFirst second isSecond firstKind secondKind same
    obtain ⟨row, inRows, rfl⟩ :=
      (mem_corpusEntries_splitGroup firstKind).mp isFirst
    obtain ⟨other, inOthers, rfl⟩ :=
      (mem_corpusEntries_splitGroup secondKind).mp isSecond
    obtain ⟨group, isGroup⟩ := (identified _ inRows).splitGroup
    obtain ⟨otherGroup, isOther⟩ := (identified _ inOthers).splitGroup
    refine apart _ inRows _ inOthers ?_
    rw [isGroup, isOther] at same ⊢
    exact congrArg some same
  · intro apart first isFirst second isSecond same
    refine apart ⟨.splitGroup, (splitGroupOf first.2).getD "", first.1⟩ ?_
      ⟨.splitGroup, (splitGroupOf second.2).getD "", second.1⟩ ?_ rfl rfl
      (congrArg (Option.getD · "") same)
    · exact (mem_corpusEntries_splitGroup rfl).mpr ⟨first, isFirst, rfl⟩
    · exact (mem_corpusEntries_splitGroup rfl).mpr ⟨second, isSecond, rfl⟩

end Identities

/-! ## Exactness -/

section Exactness

variable
  {indexes : DocumentIndexes} {config : IndexAuditConfig}
  {databaseBytes : Nat} {streams : AuditedStreams}

/-- A finished scan has added the corpus to the audit. -/
theorem saw_of_scanStreams
    {batchRows : Nat}
    (scanned : scanStreams indexes batchRows = .ok streams) :
    streams.audit.Saw (corpusEntries indexes) := by
  rw [(scanStreams_eq_ok scanned).1.audit]
  exact saw_foldl batchRows (corpusEntries indexes)

/-- The identities that the audit of a finished scan accepts. -/
structure IdentitiesAccepted (audit : SplitIdentitySummary) : Prop where
  collisions : ∀ kind ∈ IdentityKind.all, audit.crossSplitCollisions kind = 0
  repeated : audit.identityOccurrences .source = audit.uniqueIdentities .source

/-- The audit of a finished scan accepts exactly distinct sources and groups
in one split each. -/
theorem identitiesAccepted_iff
    (injective : Function.Injective indexes.sha256)
    (clean : ∀ archive ∈ indexes.archiveNames, '\x00' ∉ archive.toList)
    {batchRows exampleLimit : Nat}
    (scanned : scanStreams indexes batchRows = .ok streams) :
    IdentitiesAccepted (streams.audit.finish exampleLimit databaseBytes) ↔
      SourcesDistinct indexes ∧ GroupsApart indexes := by
  have saw := saw_of_scanStreams scanned
  have identified := (scanStreams_eq_ok scanned).1.identified
  rw [← nodup_identitiesOf_iff injective clean identified,
    groupsApart_iff identified]
  constructor
  · intro accepted
    exact ⟨(saw.unique_iff .source).mp accepted.repeated,
      (saw.collisions_eq_zero_iff .splitGroup).mp
        (accepted.collisions .splitGroup (by decide))⟩
  · rintro ⟨distinct, apart⟩
    refine ⟨fun kind _ => (saw.collisions_eq_zero_iff kind).mpr ?_,
      (saw.unique_iff .source).mpr distinct⟩
    cases kind with
    | source =>
        intro first isFirst second isSecond firstKind secondKind same
        exact source_apart distinct isFirst isSecond firstKind secondKind same
    | splitGroup => exact apart

/-- The spec of an acceptance. -/
theorem validateDocumentIndexes_eq_ok
    {audited : AuditedIndexes}
    (accepted : validateDocumentIndexes indexes config databaseBytes =
      .ok audited) :
    ∃ streams,
      scanStreams indexes config.splitIdentityBatchRows = .ok streams ∧
        IdentitiesAccepted
          (streams.audit.finish config.collisionExamples databaseBytes) := by
  unfold validateDocumentIndexes at accepted
  split at accepted
  · cases accepted
  · cases scanned : scanStreams indexes config.splitIdentityBatchRows with
    | error error =>
        rw [scanned] at accepted
        cases accepted
    | ok streams =>
        rw [scanned] at accepted
        dsimp only [Except.mapError, bind, Except.bind] at accepted
        split at accepted
        · cases accepted
        · rename_i collisions
          split at accepted
          · cases accepted
          · rename_i repeated
            refine ⟨streams, rfl, fun kind listed => ?_, not_not.mp repeated⟩
            by_contra some
            exact collisions ⟨kind, listed, some⟩

/-- The spec of a rejection for its identities. -/
theorem validateDocumentIndexes_eq_error
    {text : String} {audit : SplitIdentitySummary}
    (rejected : validateDocumentIndexes indexes config databaseBytes =
      .error (.identities text audit)) :
    ∃ streams,
      scanStreams indexes config.splitIdentityBatchRows = .ok streams ∧
        ¬ IdentitiesAccepted
          (streams.audit.finish config.collisionExamples databaseBytes) := by
  unfold validateDocumentIndexes at rejected
  split at rejected
  · cases rejected
  · cases scanned : scanStreams indexes config.splitIdentityBatchRows with
    | error error =>
        rw [scanned] at rejected
        cases rejected
    | ok streams =>
        rw [scanned] at rejected
        dsimp only [Except.mapError, bind, Except.bind] at rejected
        refine ⟨streams, rfl, fun accepted => ?_⟩
        split at rejected
        · rename_i collisions
          obtain ⟨kind, listed, some⟩ := collisions
          exact some (accepted.collisions kind listed)
        · split at rejected
          · rename_i repeated
            exact repeated accepted.repeated
          · cases rejected

/-- The audit in what `_validate_document_indexes` returns or raises. -/
def auditOf (outcome : Except Rejection AuditedIndexes) :
    Option SplitIdentitySummary :=
  match outcome with
  | .ok audited => some audited.identities
  | .error (.identities _ audit) => some audit
  | .error (.error _) => none

/-- The occurrences, the unique identities and the collisions of a kind. -/
def SplitIdentitySummary.counts
    (audit : SplitIdentitySummary) (kind : IdentityKind) : Nat × Nat × Nat :=
  (audit.identityOccurrences kind, audit.uniqueIdentities kind,
    audit.crossSplitCollisions kind)

/-- The audit that a validation comes to is the one of its scan. -/
theorem auditOf_validateDocumentIndexes :
    auditOf (validateDocumentIndexes indexes config databaseBytes) =
      if config.scratchDirectory = some false then none
      else (scanStreams indexes config.splitIdentityBatchRows).toOption.map
        fun streams =>
          streams.audit.finish config.collisionExamples databaseBytes := by
  unfold validateDocumentIndexes
  split
  · rfl
  · cases scanStreams indexes config.splitIdentityBatchRows with
    | error error => rfl
    | ok streams =>
        dsimp only [Except.mapError, bind, Except.bind, Except.toOption]
        split
        · rfl
        · split <;> rfl

/-- The table of an audit after its last flush. -/
theorem lookup_flush
    {audit : SplitIdentityAudit} {entries : List IdentityEntry}
    (saw : audit.Saw entries)
    (kind : IdentityKind) (identity : String) :
    (audit.flush.identities kind).lookup identity =
      if identity ∈ identitiesOf entries kind then
        some (maskOf (splitsOf entries kind identity))
      else none := by
  split
  · rename_i seen
    obtain ⟨row, stored, named⟩ :=
      List.mem_map.mp (saw.mem_keys_flush.mpr seen)
    have mask := saw.row_flush stored
    rw [Table.lookup_eq_some_iff, ← named, ← mask]
    exact stored
  · rename_i unseen
    rw [Table.lookup_eq_none_iff, saw.mem_keys_flush]
    exact unseen

/-- What an audit counts depends on what was added to it only. -/
theorem counts_finish
    {audit other : SplitIdentityAudit} {entries : List IdentityEntry}
    (saw : audit.Saw entries)
    (otherSaw : other.Saw entries)
    (exampleLimit otherLimit otherBytes : Nat) :
    (audit.finish exampleLimit databaseBytes).counts =
      (other.finish otherLimit otherBytes).counts := by
  funext kind
  have tables : audit.flush.identities kind = other.flush.identities kind := by
    apply Table.ext_lookup
    intro identity
    rw [lookup_flush saw, lookup_flush otherSaw]
  have collisions :
      (audit.finish exampleLimit databaseBytes).crossSplitCollisions kind =
        (other.finish otherLimit otherBytes).crossSplitCollisions kind := by
    change ((audit.flush.identities kind).rows.filter _).length =
      ((other.flush.identities kind).rows.filter _).length
    rw [tables]
  rw [SplitIdentitySummary.counts, SplitIdentitySummary.counts,
    saw.identityOccurrences, otherSaw.identityOccurrences,
    saw.uniqueIdentities, otherSaw.uniqueIdentities, collisions]

/-- The counts of a validation do not depend on how the identities are
batched, nor on the examples that are kept. -/
theorem counts_validateDocumentIndexes
    (batchRows exampleLimit otherBytes : Nat) :
    (auditOf (validateDocumentIndexes indexes config databaseBytes)).map
        SplitIdentitySummary.counts =
      (auditOf (validateDocumentIndexes indexes
        ⟨config.scratchDirectory, batchRows, exampleLimit⟩ otherBytes)).map
        SplitIdentitySummary.counts := by
  rw [auditOf_validateDocumentIndexes, auditOf_validateDocumentIndexes]
  dsimp only
  split
  · rfl
  · cases scanned : scanStreams indexes config.splitIdentityBatchRows with
    | ok streams =>
        obtain ⟨others, alsoScanned, -⟩ := scanStreams_alike scanned batchRows
        rw [alsoScanned]
        exact congrArg some (counts_finish (saw_of_scanStreams scanned)
          (saw_of_scanStreams alsoScanned) _ _ _)
    | error error =>
        cases other : scanStreams indexes batchRows with
        | error _ => rfl
        | ok others =>
            obtain ⟨streams, alsoScanned, -⟩ :=
              scanStreams_alike other config.splitIdentityBatchRows
            rw [scanned] at alsoScanned
            cases alsoScanned

/-- The audit of split identities is exact: an acceptance means that no source
is repeated, that every group is in one split and that the logical intervals
fill every stream; a rejection for the identities means that one of the first
two fails; and what is counted does not depend on the batches. -/
theorem validateDocumentIndexes_exact
    (injective : Function.Injective indexes.sha256)
    (clean : ∀ archive ∈ indexes.archiveNames, '\x00' ∉ archive.toList)
    (config : IndexAuditConfig)
    (databaseBytes : Nat) :
    (∀ audited,
      validateDocumentIndexes indexes config databaseBytes = .ok audited ->
        SourcesDistinct indexes ∧ GroupsApart indexes ∧
          ∀ split domain, Fills indexes split domain) ∧
      (∀ text audit,
        validateDocumentIndexes indexes config databaseBytes =
            .error (.identities text audit) ->
          ¬ SourcesDistinct indexes ∨ ¬ GroupsApart indexes) ∧
      ∀ batchRows otherBytes,
        (auditOf (validateDocumentIndexes indexes config databaseBytes)).map
            SplitIdentitySummary.counts =
          (auditOf (validateDocumentIndexes indexes
            { config with splitIdentityBatchRows := batchRows }
            otherBytes)).map SplitIdentitySummary.counts := by
  refine ⟨fun audited accepted => ?_, fun text audit rejected => ?_,
    fun batchRows otherBytes =>
      counts_validateDocumentIndexes batchRows config.collisionExamples
        otherBytes⟩
  · obtain ⟨streams, scanned, identities⟩ :=
      validateDocumentIndexes_eq_ok accepted
    obtain ⟨distinct, apart⟩ :=
      (identitiesAccepted_iff injective clean scanned).mp identities
    exact ⟨distinct, apart, (scanStreams_eq_ok scanned).2⟩
  · obtain ⟨streams, scanned, refused⟩ :=
      validateDocumentIndexes_eq_error rejected
    rw [identitiesAccepted_iff injective clean scanned, not_and_or] at refused
    exact refused

end Exactness

/-! ## A small corpus -/

/-- A digest that is the true one of the two sources of a small corpus. -/
def smallSourceDigest (text : String) : String :=
  if text = "a.tar\x00m1" then
    "c4369a29e003584553844646431bdd5f9674deb3a510c91cd8a1a1ef8eeea650"
  else if text = "a.tar\x00m2" then
    "4070b19ca8628e1ec2d03a48d89bf01883797432fee52c1a666b25bdc8a596d0"
  else "digest of " ++ text

theorem smallSourceDigest_injective :
    Function.Injective smallSourceDigest := by
  intro first second same
  have marked (text hex : String) (plain : hex.toList.head? ≠ some 'd') :
      "digest of " ++ text ≠ hex := by
    rintro rfl
    rw [String.toList_append] at plain
    exact plain rfl
  unfold smallSourceDigest at same
  split_ifs at same with isFirst isSecond isSecond isFirst isSecond
  · exact isFirst.trans isSecond.symm
  · exact absurd same (by decide)
  · exact absurd same.symm (marked _ _ (by decide))
  · exact absurd same (by decide)
  · exact (by assumption : first = _).trans
      (by assumption : second = _).symm
  · exact absurd same.symm (marked _ _ (by decide))
  · exact absurd same (marked _ _ (by decide))
  · exact absurd same (marked _ _ (by decide))
  · rw [← String.toList_inj, String.toList_append, String.toList_append]
      at same
    exact String.toList_inj.mp (List.append_cancel_left same)

/-- The path of the document index of a stream of a small corpus. -/
def smallIndexPath (split : Split) (domain : Domain) : String :=
  "provenance/documents/" ++ split.name ++ "/" ++ domain.name ++
    "/manifest.json"

/-- A row of two content tokens of a small corpus. -/
def smallRow (member : String) (group : Char) (start : Int) :
    List (String × JsonTree) :=
  let hex (character : Char) : JsonTree :=
    .str (String.ofList (List.replicate 64 character))
  [("record_version", .int 1), ("split", .str "train"),
    ("domain", .str "python"), ("source_archive_ordinal", .int 0),
    ("source_archive", .str "a.tar"), ("source_member", .str member),
    ("doc_id", hex 'd'), ("canonical_doc_id", hex 'e'),
    ("split_group_id", hex group), ("bucket", .str "b"),
    ("language", .str "Python"), ("source_manifest_index", .int 0),
    ("source_tokens", .int 2), ("selected_content_tokens", .int 2),
    ("logical_stream_start", .int start),
    ("logical_content_end_exclusive", .int (start + 2)),
    ("logical_eos_position", .int (start + 2)),
    ("terminal_quota_prefix", .bool false)]

/-- The totals of a stream of a small corpus: two documents in the first. -/
def smallTotals (split : Split) (domain : Domain) : Int × Int × Int :=
  if split = .train ∧ domain = .python then (2, 4, 6) else (0, 0, 0)

/-- A corpus of two documents of one source group. -/
def smallIndexes : DocumentIndexes where
  sha256 := smallSourceDigest
  files path :=
    let digest := String.ofList (List.replicate 64 'f')
    if path = shardPath .train .python 0 then
      some ⟨path, 9, digest, .error (.valueError "no object"),
        ⟨[smallRow "m1" 'a' 0, smallRow "m2" 'a' 3], none⟩⟩
    else
      (expectedOrder.find? fun key => smallIndexPath key.1 key.2 = path).map
        fun (split, domain) =>
          let (documents, content, tokens) := smallTotals split domain
          ⟨path, 9, digest, .ok (.object [
            ("format", .str documentIndexFormat), ("format_version", .int 1),
            ("split", .str split.name), ("domain", .str domain.name),
            ("selection_manifest_sha256", .str "s"),
            ("tokenizer_manifest_sha256", .str "t"),
            ("sequence_length", .int 4),
            ("documents", .int documents),
            ("selected_content_tokens", .int content),
            ("logical_stream_tokens", .int tokens),
            ("shards", .array (if documents = 0 then [] else [.object [
              ("archive_ordinal", .int 0), ("path", .str
                (shardPath split domain 0)), ("sha256", .str digest),
              ("bytes", .int 9), ("records", .int 2)]]))]), ⟨[], none⟩⟩
  manifest := .object [
    ("identity", .object [("selection_manifest_sha256", .str "s")]),
    ("source_cursor", .object [("archive_count", .int 1)]),
    ("splits", .object (Split.all.map fun split => (split.name, .object [
      ("packed", .object (Domain.order.map fun domain =>
        let (documents, _, tokens) := smallTotals split domain
        (domain.name, .object [("document_index", .object [
          ("path", .str (smallIndexPath split domain)),
          ("sha256", .str (String.ofList (List.replicate 64 'f'))),
          ("documents", .int documents),
          ("logical_stream_tokens", .int tokens)])])))])))]
  packed split domain :=
    let (documents, content, tokens) := smallTotals split domain
    .object [("documents", .int documents),
      ("source_content_tokens", .int content), ("stream_tokens", .int tokens)]
  common := .object [("tokenizer_manifest_sha256", .str "t"),
    ("sequence_length", .int 4)]
  archiveNames := ["a.tar"]

theorem validateDocumentIndexes_exact_small :
    (validateDocumentIndexes smallIndexes ⟨none, 1, 3⟩ 0).isOk = true ∧
      SourcesDistinct smallIndexes ∧ GroupsApart smallIndexes := by
  have accepted :
      (validateDocumentIndexes smallIndexes ⟨none, 1, 3⟩ 0).isOk = true := by
    decide +kernel
  refine ⟨accepted, ?_⟩
  cases outcome : validateDocumentIndexes smallIndexes ⟨none, 1, 3⟩ 0 with
  | error _ =>
      rw [outcome] at accepted
      cases accepted
  | ok audited =>
      have exactness := (validateDocumentIndexes_exact
        smallSourceDigest_injective (by decide) ⟨none, 1, 3⟩ 0).1 audited outcome
      exact ⟨exactness.1, exactness.2.1⟩

end CorpusQualification
end CodingLlm
