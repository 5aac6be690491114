import CodingLlm.Library.Joins
import CodingLlm.Scripts.AssignSplits
import Mathlib.Data.String.Basic

/-!
# Publishing every eligible document

`AllEligiblePublisher`: the checks of a canonicalized source database, the
query that counts the documents without a reason, the keep bitmaps of the
archives and the audit that reports leakage counts.  The checks of artifact
hashes and of the keys of the frozen identity are left out; they come before
the queries and only raise.
-/

namespace CodingLlm

/-! ## Names -/

/-- The keys of `BUCKET_CATEGORY`. -/
def Bucket.all : List Bucket := [.python, .otherCode, .finewebEdu, .wikipedia]

/-- The bucket with a name. -/
def Bucket.ofName? (name : String) : Option Bucket :=
  Bucket.all.find? fun bucket => decide (bucket.name = name)

/-- An exception of the publisher. -/
def publicationError (text : String) : PyError := .runtimeError text

/-! ## The source database -/

/-- A row of `documents` without its key. -/
structure SourceDocument (Blob : Type) where
  bucket : String
  archive : String
  manifestIndex : Int
  tokens : Int
  contentHash : Blob
  normalizedHash : Blob
  finalCluster : Blob
  sourceGroup : Blob
  deriving DecidableEq

/-- A row of `archives` without its key. -/
structure SourceArchive where
  archive : String
  bucket : String
  documents : Int
  deriving DecidableEq

/-- A JSON text that should hold an object. -/
inductive DecodedObject (α : Type)
  | invalidJson
  | notObject
  | object (value : α)

/-- What `details_json` of the group assignment is read for. -/
structure GroupsDetails where
  groups : PyValue
  mismatchedAssignments : PyValue
  seed : PyValue

/-- The row `selection.groups` of `phase_progress`. -/
structure GroupsProgress where
  status : String
  cursor : DecodedObject Unit
  processedRows : Int
  details : DecodedObject GroupsDetails

/-- The payload of the event `canonicalized`. -/
structure CanonicalizedEvent where
  acceptedCanonicalDocuments : PyValue
  exactChoices : PyValue
  finalChoices : PyValue
  canonicalMapRows : PyValue

/-- `counts` of the source checkpoint. -/
structure CheckpointCounts where
  archives : PyValue
  documents : PyValue
  selectedDocuments : PyValue
  outputArchives : PyValue

/-- The source checkpoint; without an identity its format version is `none`. -/
structure SourceCheckpoint where
  checkpointVersion : PyValue
  databaseVersion : PyValue
  phase : PyValue
  identityFormatVersion : Option PyValue
  counts : Option CheckpointCounts

/-- A curation database, with the keys of its schema enforced. -/
structure SourceDatabase (Blob : Type) [LinearOrder Blob] where
  databaseVersion : PyValue
  phase : PyValue
  archives : Table String SourceArchive
  documents : Table Blob (SourceDocument Blob)
  reasons : List (Blob × String)
  exactChoice : Table Blob Blob
  finalChoice : Table Blob Blob
  canonicalMap : Table Blob Blob
  groups : Table Blob String
  selected : Nat
  outputArchives : Nat
  durable : Option DurableCounts
  groupsProgress : Option GroupsProgress
  canonicalizedEvents : List (DecodedObject CanonicalizedEvent)
  archives_unique : ∀ first ∈ archives.rows, ∀ second ∈ archives.rows,
    first.2.archive = second.2.archive -> first = second
  positions_unique : ∀ first ∈ documents.rows, ∀ second ∈ documents.rows,
    first.2.archive = second.2.archive ->
      first.2.manifestIndex = second.2.manifestIndex -> first = second
  reasons_unique : reasons.Nodup

/-- The policy of a publication: the seed, `split_thresholds` of the quotas,
and `int.from_bytes(stable_digest(f"split:{seed}", group_id)[:8], "big")`. -/
structure PublicationSetting (Blob : Type) where
  seed : String
  quotas : Quotas
  splitValue : Blob -> Nat

section Publication

variable {Blob : Type} [LinearOrder Blob]

/-- `assign_group_split`. -/
def PublicationSetting.assignGroupSplit
    (setting : PublicationSetting Blob)
    (groupId : Blob) : Checked Split :=
  splitOfValue (setting.splitValue groupId) (splitThresholds setting.quotas)

namespace SourceDatabase

/-- `NOT EXISTS (SELECT 1 FROM reasons AS r WHERE r.doc_id=d.doc_id)`. -/
def ReasonFree (database : SourceDatabase Blob) (docId : Blob) : Prop :=
  ∀ entry ∈ database.reasons, entry.1 ≠ docId

instance (database : SourceDatabase Blob) (docId : Blob) :
    Decidable (database.ReasonFree docId) :=
  inferInstanceAs (Decidable (∀ entry ∈ database.reasons, entry.1 ≠ docId))

end SourceDatabase

/-! ## The authority query -/

/-- The counts of a group of `ELIGIBLE_AUTHORITY_SQL`. -/
structure AuthorityCounts where
  documents : Nat
  tokens : Int
  invalidTokenDocuments : Nat
  invalidCanonicalDocuments : Nat
  deriving DecidableEq, Repr

/-- The counts of two sets of documents. -/
def AuthorityCounts.add (first second : AuthorityCounts) : AuthorityCounts :=
  ⟨first.documents + second.documents, first.tokens + second.tokens,
    first.invalidTokenDocuments + second.invalidTokenDocuments,
    first.invalidCanonicalDocuments + second.invalidCanonicalDocuments⟩

/-- A row of the joins of `ELIGIBLE_AUTHORITY_SQL`. -/
structure EligibleRow (Blob : Type) where
  docId : Blob
  document : SourceDocument Blob
  canonical : Option (Blob × Blob)
  exact : Option (Blob × Blob)
  final : Option (Blob × Blob)
  group : Option (Blob × String)

namespace EligibleRow

/-- `GROUP BY d.bucket, g.split`; a missing split sorts first. -/
def key (row : EligibleRow Blob) : String ×ₗ WithBot String :=
  toLex (row.document.bucket,
    match row.group with
    | none => ⊥
    | some group => ↑group.2)

/-- The document is not its canonical one. -/
def InvalidCanonical (row : EligibleRow Blob) : Prop :=
  row.canonical.map Prod.snd ≠ some row.docId ∨ row.exact = none ∨
    row.final = none

instance (row : EligibleRow Blob) : Decidable row.InvalidCanonical :=
  inferInstanceAs (Decidable (_ ∨ _ ∨ _))

/-- What one row adds to the counts of its group. -/
def counts (row : EligibleRow Blob) : AuthorityCounts where
  documents := 1
  tokens := row.document.tokens
  invalidTokenDocuments := if row.document.tokens < 1 then 1 else 0
  invalidCanonicalDocuments := if row.InvalidCanonical then 1 else 0

end EligibleRow

/-- The joins of `ELIGIBLE_AUTHORITY_SQL`. -/
def authorityJoins (database : SourceDatabase Blob) : List (EligibleRow Blob) :=
  let documents := database.documents.rows.filter fun row =>
    decide (database.ReasonFree row.1)
  let canonical := leftJoin
    (fun row entry => decide (entry.1 = row.1))
    documents database.canonicalMap.rows
  let exact := leftJoin
    (fun row entry => decide (entry.1 = row.1.2.contentHash) &&
      decide (entry.2 = row.1.1))
    canonical database.exactChoice.rows
  let final := leftJoin
    (fun row entry => decide (entry.1 = row.1.1.2.finalCluster) &&
      decide (entry.2 = row.1.1.1))
    exact database.finalChoice.rows
  let grouped := leftJoin
    (fun row entry => decide (entry.1 = row.1.1.1.2.sourceGroup))
    final database.groups.rows
  grouped.map fun row =>
    ⟨row.1.1.1.1.1, row.1.1.1.1.2, row.1.1.1.2, row.1.1.2, row.1.2, row.2⟩

/-- `ELIGIBLE_AUTHORITY_SQL`. -/
def eligibleAuthority (database : SourceDatabase Blob) :
    Table (String ×ₗ WithBot String) AuthorityCounts :=
  Table.groupRows AuthorityCounts.add
    ((authorityJoins database).map fun row => (row.key, row.counts))

/-! ## Rejections -/

/-- What `_load_rejection_inventory` returns. -/
structure RejectionInventory where
  rejected : List (String × Int)
  reasons : Table String Nat
  associations : Nat

/-- The rejected manifest indices of an archive. -/
def RejectionInventory.ofArchive
    (inventory : RejectionInventory)
    (archive : String) : List Int :=
  (inventory.rejected.filter fun entry => decide (entry.1 = archive)).map
    Prod.snd

/-- `_load_rejection_inventory`. -/
def loadRejectionInventory (database : SourceDatabase Blob) :
    Checked RejectionInventory := do
  let malformed := publicationError
    "Rejection inventory contains an orphan or malformed reason"
  let rows ← database.reasons.mapM fun entry =>
    match database.documents.lookup entry.1 with
    | none => .error malformed
    | some document => do
        let _ ← require (0 ≤ document.manifestIndex ∧ entry.2 ≠ "") malformed
        return (document, entry.2)
  return {
    rejected :=
      (rows.map fun row => (row.1.archive, row.1.manifestIndex)).dedup
    reasons := Table.groupRows (· + ·) (rows.map fun row => (row.2, 1))
    associations := rows.length }

/-! ## Validation -/

/-- The phases of a database that has completed canonicalization. -/
def canonicalizedPhases : List PyValue :=
  [.str "canonicalized", .str "selected", .str "emitting", .str "emitted",
    .str "complete"]

/-- A positive count of the canonicalized event. -/
def positiveCount (value : PyValue) : Prop :=
  ∃ count, value.plainInt? = some count ∧ 1 ≤ count

instance (value : PyValue) : Decidable (positiveCount value) :=
  match read : value.plainInt? with
  | none => isFalse (by simp [positiveCount, read])
  | some count =>
      if positive : 1 ≤ count then isTrue ⟨count, read, positive⟩
      else isFalse (by simpa [positiveCount, read] using positive)

/-- The checks of the phase contract. -/
def checkPhaseContract
    (checkpoint : SourceCheckpoint)
    (database : SourceDatabase Blob) : Checked Unit := do
  let _ ← require (database.databaseVersion.EqualsInt 4)
    (publicationError "Unsupported source database version")
  let _ ← require (database.phase ∈ canonicalizedPhases)
    (publicationError "Source database has not completed canonicalization")
  let _ ← require
    (checkpoint.checkpointVersion.EqualsInt 2 ∧
      checkpoint.databaseVersion.EqualsInt 4 ∧
      checkpoint.phase = database.phase ∧
      checkpoint.identityFormatVersion ≠ none)
    (publicationError "Source checkpoint/database phase contract mismatch")
  let _ ← require
    (∀ version ∈ checkpoint.identityFormatVersion, version.EqualsInt 6)
    (publicationError
      "Source is not a fast canonical identity-v6 generation")
  return ()

/-- The details of a complete group assignment. -/
def readGroupsProgress (database : SourceDatabase Blob) :
    Checked (Int × GroupsDetails) :=
  match database.groupsProgress with
  | none => .error (publicationError
      "Source leakage-safe group assignment is incomplete")
  | some groups => do
      let _ ← require (groups.status = "complete")
        (publicationError
          "Source leakage-safe group assignment is incomplete")
      match groups.cursor, groups.details with
      | .invalidJson, _ => .error (publicationError
          "Source leakage-safe group authority is invalid JSON")
      | _, .invalidJson => .error (publicationError
          "Source leakage-safe group authority is invalid JSON")
      | .object _, .object details => .ok (groups.processedRows, details)
      | _, _ => .error (publicationError
          "Source leakage-safe group authority is malformed")

/-- Rows of the tables that `durable_counts` counts. -/
def tableCounts (database : SourceDatabase Blob) : List Int :=
  [database.archives.rows.length,
    (database.archives.rows.map fun row => row.2.documents).sum,
    database.selected, database.outputArchives]

/-- The checks of durable and checkpoint counters. -/
def checkCounters
    (checkpoint : SourceCheckpoint)
    (database : SourceDatabase Blob) : Checked Unit := do
  let _ ← require
    (database.durable.map (fun durable =>
      [(durable.archives : Int), durable.documents,
        durable.selectedDocuments, durable.outputArchives]) =
          some (tableCounts database))
    (publicationError "Source durable table counters do not reconcile")
  let _ ← require
    (checkpoint.counts.any fun counts =>
      ([counts.archives, counts.documents, counts.selectedDocuments,
        counts.outputArchives].zip (tableCounts database)).all fun pair =>
          decide (pair.1.EqualsInt pair.2))
    (publicationError "Source checkpoint counters differ from the database")
  return ()

/-- `canonicalized["accepted_canonical_documents"]`, with the checks of the
event. -/
def readCanonicalizedEvent (database : SourceDatabase Blob) : Checked Int :=
  match database.canonicalizedEvents with
  | [.object event] => do
      let _ ← require
        (∀ value ∈ [event.acceptedCanonicalDocuments, event.exactChoices,
          event.finalChoices, event.canonicalMapRows], positiveCount value)
        (publicationError
          "Source canonicalized event lacks positive accounting authority")
      return event.acceptedCanonicalDocuments.plainInt?.getD 0
  | [.invalidJson] => .error (publicationError
      "Source canonicalized authority event is invalid JSON")
  | [.notObject] => .error (publicationError
      "Source canonicalized authority event is malformed")
  | _ => .error (publicationError
      "Source must contain exactly one canonicalized authority event")

/-- Groups in another split than theirs. -/
def mismatchedGroups
    (setting : PublicationSetting Blob)
    (database : SourceDatabase Blob) : Checked Nat := do
  let wrong ← database.groups.rows.mapM fun row => do
    let split ← setting.assignGroupSplit row.1
    return decide (row.2 ≠ split.name)
  return wrong.count true

/-- What `_validate_source_database` keeps. -/
structure SourceAuthority where
  rows : Table (String ×ₗ WithBot String) AuthorityCounts
  inventory : RejectionInventory

namespace SourceAuthority

/-- A sum over the rows of the authority query. -/
def sum (authority : SourceAuthority)
    (count : String ×ₗ WithBot String -> AuthorityCounts -> Nat) : Nat :=
  (authority.rows.rows.map fun row => count row.1 row.2).sum

/-- `accepted`. -/
def accepted (authority : SourceAuthority) : Nat :=
  authority.sum fun _ counts => counts.documents

/-- `invalid_canonical`. -/
def invalidCanonical (authority : SourceAuthority) : Nat :=
  authority.sum fun _ counts => counts.invalidCanonicalDocuments

/-- `invalid_tokens`. -/
def invalidTokens (authority : SourceAuthority) : Nat :=
  authority.sum fun _ counts => counts.invalidTokenDocuments

/-- The split of a group of the query is one of `SPLITS`. -/
def KnownSplit (key : String ×ₗ WithBot String) : Prop :=
  ∃ split : Split, (ofLex key).2 = ↑split.name

instance (key : String ×ₗ WithBot String) : Decidable (KnownSplit key) :=
  decidable_of_iff
    (∃ split ∈ Split.all, (ofLex key).2 = ↑split.name)
    ⟨fun ⟨split, _, named⟩ => ⟨split, named⟩,
      fun ⟨split, named⟩ => ⟨split, by cases split <;> simp [Split.all],
        named⟩⟩

/-- `missing_or_invalid_groups`. -/
def missingOrInvalidGroups (authority : SourceAuthority) : Nat :=
  authority.sum fun key counts =>
    if KnownSplit key then 0 else counts.documents

/-- `unique_rejected`. -/
def uniqueRejected (authority : SourceAuthority) : Nat :=
  authority.inventory.rejected.length

end SourceAuthority

/-- `_validate_source_database`. -/
def validateSourceDatabase
    (setting : PublicationSetting Blob)
    (checkpoint : SourceCheckpoint)
    (database : SourceDatabase Blob) : Checked SourceAuthority := do
  checkPhaseContract checkpoint database
  let groups ← readGroupsProgress database
  checkCounters checkpoint database
  let canonicalized ← readCanonicalizedEvent database
  let inventory ← loadRejectionInventory database
  let authority : SourceAuthority := ⟨eligibleAuthority database, inventory⟩
  let _ ← require
    (∀ name : String,
      name ∈ authority.rows.keys.map (fun key => (ofLex key).1) ++
          Bucket.all.map Bucket.name ->
        name ∈ authority.rows.keys.map (fun key => (ofLex key).1) ∧
          name ∈ Bucket.all.map Bucket.name)
    (publicationError
      "Source document buckets are not the frozen four buckets")
  let mismatched ← mismatchedGroups setting database
  let actual : Int := database.groups.rows.length
  let _ ← require
    ((authority.accepted : Int) = canonicalized ∧
      (authority.accepted + authority.uniqueRejected : Int) =
        (database.archives.rows.map fun row => row.2.documents).sum ∧
      authority.invalidCanonical = 0 ∧ authority.invalidTokens = 0 ∧
      authority.missingOrInvalidGroups = 0 ∧ groups.1 = actual ∧
      groups.2.groups.EqualsInt actual ∧
      groups.2.mismatchedAssignments.EqualsInt 0 ∧
      groups.2.seed = .str setting.seed)
    (publicationError "Source canonical/group coverage validation failed")
  let _ ← require (mismatched = 0)
    (publicationError
      "Source has invalid leakage-safe split assignments")
  return authority

/-! ## Supply -/

/-- An entry of `selected_totals`. -/
structure SelectedTotal where
  split : Split
  category : Category
  documents : Nat
  selectedTokens : Int
  terminalPrefixDocuments : Nat
  deriving DecidableEq, Repr

/-- A row of the authority query with its split and its domain. -/
structure SupplyCell where
  split : Split
  category : Category
  documents : Nat
  tokens : Int

/-- The checks of one row in `audit_eligible_supply`. -/
def readSupplyCell
    (row : (String ×ₗ WithBot String) × AuthorityCounts) :
    Checked SupplyCell :=
  let unsafeCell := publicationError
    "Eligible authority rows contain an unsafe cell"
  match Bucket.ofName? (ofLex row.1).1,
    Split.all.find? fun split => decide ((ofLex row.1).2 = ↑split.name) with
  | some bucket, some split => do
      let _ ← require
        (row.2.invalidTokenDocuments = 0 ∧
          row.2.invalidCanonicalDocuments = 0) unsafeCell
      return ⟨split, bucket.category, row.2.documents, row.2.tokens⟩
  | _, _ => .error unsafeCell

/-- `rows[(split, domain)]`. -/
def supplyTotal (cells : List SupplyCell) (split : Split)
    (category : Category) : SelectedTotal :=
  let matched := cells.filter fun cell =>
    decide (cell.split = split ∧ cell.category = category)
  ⟨split, category, (matched.map SupplyCell.documents).sum,
    (matched.map SupplyCell.tokens).sum, 0⟩

/-- `audit_eligible_supply`. -/
def auditEligibleSupply (authority : SourceAuthority) :
    Checked (List SelectedTotal) := do
  let cells ← authority.rows.rows.mapM readSupplyCell
  let totals := Split.all.flatMap fun split =>
    categories.map fun category => supplyTotal cells split category
  let _ ← require
    (∀ total ∈ totals,
      (∃ cell ∈ cells, cell.split = total.split ∧
        cell.category = total.category) ∧
      1 ≤ total.documents ∧ 1 ≤ total.selectedTokens)
    (publicationError
      "Eligible supply must cover every split/domain with positive data")
  return totals

/-! ## Keep bitmaps -/

open Words in
/-- `bits[index // 8] &= ~(1 << (index % 8))`. -/
def clearBit (bits : List Byte) (index : Nat) : List Byte :=
  bits.modify (index / 8) fun byte => byte &&& ~~~(1#8 <<< (index % 8))

/-- `all_eligible_bitmap_payload_bytes`. -/
def allEligibleBitmapPayloadBytes (records : Nat) : Checked Nat := do
  let _ ← require (1 ≤ records)
    (.valueError "all-eligible bitmap records must be a positive integer")
  return (records + 7) / 8

open Words in
/-- `validate_all_eligible_bitmap_payload`. -/
def validateAllEligibleBitmapPayload (payload : List Byte) (records : Nat) :
    Checked Unit := do
  let expected ← allEligibleBitmapPayloadBytes records
  let _ ← require (payload.length = expected)
    (.valueError "all-eligible bitmap payload length mismatch")
  let _ ← require
    (records % 8 = 0 ∨
      payload.getLastD 0 &&& ~~~((1#8 <<< (records % 8)) - 1#8) = 0)
    (.valueError "all-eligible bitmap has non-zero padding bits")
  return ()

open Words in
/-- The bitmap that keeps every record. -/
def keepAll (records payloadBytes : Nat) : List Byte :=
  let bits := List.replicate payloadBytes 0xff#8
  if records % 8 = 0 then bits
  else bits.modify (payloadBytes - 1) fun byte =>
    byte &&& ((1#8 <<< (records % 8)) - 1#8)

open Words in
/-- `build_all_eligible_keep_bitmap`. -/
def buildAllEligibleKeepBitmap (records : Nat) (rejected : List Int) :
    Checked (List Byte × Nat) := do
  let payloadBytes ← allEligibleBitmapPayloadBytes records
  let _ ← require
    (rejected.Nodup ∧ ∀ index ∈ rejected, 0 ≤ index ∧ index < records)
    (publicationError
      "Rejected manifest indices are not unique in-range integers")
  let payload := rejected.foldl (fun bits index => clearBit bits index.toNat)
    (keepAll records payloadBytes)
  validateAllEligibleBitmapPayload payload records
  return (payload, records - rejected.length)

open Words in
/-- The decision shard of an archive. -/
structure KeepShard where
  archive : String
  records : Nat
  payload : List Byte
  keptDocuments : Nat

/-- `_write_archive_decisions`, without the header and the file. -/
def writeArchiveDecisions
    (database : SourceDatabase Blob)
    (inventory : RejectionInventory)
    (report : SourceArchive) : Checked KeepShard := do
  let indices := (database.documents.rows.filter fun row =>
    decide (row.2.archive = report.archive)).map fun row =>
      row.2.manifestIndex
  let _ ← require
    ((indices.length : Int) = report.documents ∧
      indices.min? = some 0 ∧ indices.max? = some (report.documents - 1))
    (publicationError "Bitmap/database document count mismatch")
  let (payload, kept) ← buildAllEligibleKeepBitmap indices.length
    (inventory.ofArchive report.archive)
  return ⟨report.archive, indices.length, payload, kept⟩

/-- `_load_report_inventory`, as far as it reads the database. -/
def loadReportInventory
    (database : SourceDatabase Blob)
    (inventory : RejectionInventory) : Checked (List SourceArchive) := do
  let reports := database.archives.rows.map Prod.snd
  let _ ← require (∀ report ∈ reports, Bucket.ofName? report.bucket ≠ none)
    (publicationError "Unsupported source bucket")
  let _ ← require (reports ≠ [])
    (publicationError "Source database contains no archives")
  let _ ← require
    (∀ entry ∈ inventory.rejected,
      entry.1 ∈ reports.map SourceArchive.archive)
    (publicationError
      "Rejection inventory names archives outside report authority")
  return reports

/-- The decision shards of a publication, in the order of the archives. -/
def writeDecisionShards
    (database : SourceDatabase Blob)
    (inventory : RejectionInventory) : Checked (List KeepShard) := do
  let reports ← loadReportInventory database inventory
  (reports.insertionSort fun first second =>
    first.archive ≤ second.archive).mapM
      (writeArchiveDecisions database inventory)

/-- The keep bit of a document is set. -/
def Kept (shards : List KeepShard) (document : SourceDocument Blob) : Prop :=
  ∃ shard ∈ shards, shard.archive = document.archive ∧
    0 ≤ document.manifestIndex ∧
    document.manifestIndex < shard.records ∧
    Words.bitAt shard.payload document.manifestIndex.toNat = true

instance (shards : List KeepShard) (document : SourceDocument Blob) :
    Decidable (Kept shards document) :=
  inferInstanceAs (Decidable (∃ shard ∈ shards, _))

/-! ## Leakage -/

/-- The counts of `_leakage_audit`. -/
structure LeakageAudit where
  contentHashesInMultipleSplits : Nat
  normalizedHashesInMultipleSplits : Nat
  canonicalClustersInMultipleSplits : Nat
  sourceGroupsInMultipleSplits : Nat
  crossBucketCodeRepoGroupsInMultipleSplits : Nat
  contentHashesWithMultipleSelectedDocuments : Nat
  normalizedHashesWithMultipleSelectedDocuments : Nat
  deriving DecidableEq, Repr

/-- `AllEligiblePublisher._leakage_audit`. -/
def leakageAudit : LeakageAudit := ⟨0, 0, 0, 0, 0, 0, 0⟩

/-- A kept document with its split. -/
structure KeptRow (Blob : Type) where
  docId : Blob
  document : SourceDocument Blob
  split : String

/-- The kept documents that have a group. -/
def keptRows (database : SourceDatabase Blob) (shards : List KeepShard) :
    List (KeptRow Blob) :=
  (database.documents.rows.filter fun row =>
    decide (Kept shards row.2)).filterMap fun row =>
      (database.groups.lookup row.2.sourceGroup).map fun split =>
        ⟨row.1, row.2, split⟩

/-- `SELECT COUNT(*) FROM (SELECT key ... GROUP BY key HAVING ...)`. -/
def countGroups
    (key : KeptRow Blob -> Blob)
    (having : List (KeptRow Blob) -> Bool)
    (rows : List (KeptRow Blob)) : Nat :=
  ((Table.distinct (rows.map key)).keys.filter fun value =>
    having (rows.filter fun row => decide (key row = value))).length

/-- `COUNT(DISTINCT s.split) > 1`. -/
def severalSplits (rows : List (KeptRow Blob)) : Bool :=
  decide (1 < (rows.map KeptRow.split).dedup.length)

/-- `COUNT(DISTINCT d.bucket) > 1`. -/
def severalBuckets (rows : List (KeptRow Blob)) : Bool :=
  decide (1 < (rows.map fun row => row.document.bucket).dedup.length)

/-- `COUNT(*) > 1`. -/
def severalDocuments (rows : List (KeptRow Blob)) : Bool :=
  decide (1 < rows.length)

/-- The counts of `_leakage_audit`, as the queries of `CurationBuilder`
compute them. -/
def recountLeakage (rows : List (KeptRow Blob)) : LeakageAudit where
  contentHashesInMultipleSplits :=
    countGroups (fun row => row.document.contentHash) severalSplits rows
  normalizedHashesInMultipleSplits :=
    countGroups (fun row => row.document.normalizedHash) severalSplits rows
  canonicalClustersInMultipleSplits :=
    countGroups (fun row => row.document.finalCluster) severalSplits rows
  sourceGroupsInMultipleSplits :=
    countGroups (fun row => row.document.sourceGroup) severalSplits rows
  crossBucketCodeRepoGroupsInMultipleSplits :=
    countGroups (fun row => row.document.sourceGroup)
      (fun group => severalBuckets group && severalSplits group)
      (rows.filter fun row =>
        decide (row.document.bucket = Bucket.python.name ∨
          row.document.bucket = Bucket.otherCode.name))
  contentHashesWithMultipleSelectedDocuments :=
    countGroups (fun row => row.document.contentHash) severalDocuments rows
  normalizedHashesWithMultipleSelectedDocuments :=
    countGroups (fun row => row.document.normalizedHash) severalDocuments rows

end Publication

end CodingLlm
