import CodingLlm.Scripts.CurationDatabase
import Mathlib.Data.Finset.Card

/-!
# Canonicalization

`CurationBuilder.canonicalize`: the near-duplicate clusters of English
documents are loaded and applied, nine keyset passes mark contaminated
clusters, choose one document for each content hash and one for each final
cluster and reject the others, and the result is counted again.
-/

namespace CodingLlm

open CrashLogic

/-! ## The frozen configuration -/

/-- A row of the near-duplicate mapping. -/
structure NearMapRow where
  docId : DigestField Digest
  clusterId : PyValue

/-- Exact token targets, which `load_final_quotas` has checked. -/
structure Quotas where
  target : Split -> Category -> Nat
  positive : ∀ split category, 0 < target split category

/-- What all runs of a builder share: the policy, the inputs and the digests.
`stableDigest` and `stableDigestBytes` are `stable_digest` of a text and of
bytes, and `documentIdentity` is the SHA-256 of an archive and a member path. -/
structure CurationSetting where
  stableDigest : String -> String -> Digest
  stableDigestBytes : String -> Digest -> Digest
  documentIdentity : String -> String -> Digest
  seed : String
  hardRejectFlags : List String
  hardRejectFlagsByBucket : Bucket -> List String
  softPenaltyWeights : String -> Nat
  fastCanonicalProfile : Bool
  fastAllEligibleHandoff : Bool
  allowMissingEnglishNearDedup : Bool
  englishNearClusters : Option (List NearMapRow)
  englishNearRecords : Option Nat
  publicationUnchanged : Bool
  quotas : Quotas

/-- `english_final_duplicate_reason`. -/
def CurationSetting.englishFinalDuplicateReason
    (setting : CurationSetting) : Reason :=
  if setting.fastCanonicalProfile then .englishNormalizedDuplicate
  else .englishNearDuplicate

/-! ## Near-duplicate clusters -/

/-- Documents of English buckets. -/
def englishDocuments (tables : CurationTables) : Nat :=
  (tables.documents.rows.filter fun row => !row.2.bucket.isCode).length

/-- The row that the mapping inserts. -/
def parseNearMapRow (setting : CurationSetting) (row : NearMapRow) :
    Checked (Digest × Digest) :=
  match row.docId, row.clusterId with
  | .sha256 docId, .str cluster => do
      let _ ← require (cluster ≠ "")
        (curationError "near-map cluster_id must be a non-empty string")
      return (docId, setting.stableDigest "english-near-cluster" cluster)
  | .sha256 _, _ => .error
      (curationError "near-map cluster_id must be a non-empty string")
  | _, _ => .error
      (curationError "near-map doc_id must be a lowercase SHA-256")

/-- `INSERT INTO near_map`. -/
def insertNearMap (tables : CurationTables) (row : Digest × Digest) :
    Checked CurationTables := do
  let nearMap ← insertRow tables.nearMap row
  return { tables with nearMap := nearMap }

/-- `canonicalize.near_map_load`. -/
def nearMapLoad (setting : CurationSetting) : StreamPass where
  Raw := NearMapRow
  Row := Digest × Digest
  subphase := .nearMapLoad
  parse := fun _ row => parseNearMapRow setting row
  writeBatch := fun tables rows => rows.foldlM insertNearMap tables
  count := fun durable _ => durable
  tokens := fun _ => 0
  bytes := fun _ => 0

/-- Mapped documents that are unknown or not English. -/
def unknownMapped (tables : CurationTables) : Nat :=
  (tables.nearMap.rows.filter fun row =>
    match tables.documents.lookup row.1 with
    | none => true
    | some document => document.bucket.isCode).length

/-- English documents that the mapping covers. -/
def mappedDocuments (tables : CurationTables) : Nat :=
  (tables.documents.rows.filter fun row =>
    decide (tables.nearMap.Uses row.1) && !row.2.bucket.isCode).length

/-- Load the mapping, unless it has been loaded. -/
def loadMapping (setting : CurationSetting) (batchSize : Nat)
    (mapping : List NearMapRow) (expected english : Nat) :
    CurationProgram Unit := do
  let progress ← startSubphase .nearMapLoad (.inputRows 0)
  checkThat (progress.cursor = .inputRows progress.processedRows)
      "English near-map cursor/counter mismatch"
  if progress.status = .complete then do
    let tables ← Program.query CurationDatabase.tables
    checkThat (tables.nearMap.rows.length = expected)
      "Completed English near-map table changed"
  else do
    let loop ← (nearMapLoad setting).rows batchSize progress.processedRows
      mapping ((nearMapLoad setting).enter progress)
    checkThat (loop.inputRows = expected)
      "English near-map rows; expected"
    let tables ← Program.query CurationDatabase.tables
    checkThat (unknownMapped tables = 0 ∧
        tables.nearMap.rows.length = expected ∧
        mappedDocuments tables = english)
      "English near-map coverage/accounting failed"
    completeSubphase .nearMapLoad

/-- `UPDATE documents SET final_cluster=? WHERE doc_id=?`. -/
def updateFinalCluster (tables : CurationTables) (row : Digest × Digest) :
    CurationTables :=
  { tables with
    documents := tables.documents.modify fun docId document =>
      if docId = row.1 then { document with finalCluster := row.2 }
      else document }

/-- `canonicalize.near_map_apply`. -/
def nearMapApply : KeysetPass where
  Row := Digest
  subphase := .nearMapApply
  cursorError := "Invalid English near-map apply cursor"
  orderError := none
  select := fun tables => tables.documents.filterMap fun docId document =>
    if document.bucket.isCode then none else tables.nearMap.lookup docId
  write := fun tables row => .ok (updateFinalCluster tables row)

/-- English documents without their mapped cluster. -/
def mismatchedDocuments (tables : CurationTables) : Nat :=
  (tables.documents.rows.filter fun row =>
    !row.2.bucket.isCode &&
      decide (tables.nearMap.lookup row.1 ≠ some row.2.finalCluster)).length

/-- Apply the mapping, unless it has been applied. -/
def applyMapping (batchSize english : Nat) : CurationProgram Unit := do
  let progress ← nearMapApply.run batchSize
  let tables ← Program.query CurationDatabase.tables
  if progress.status = .complete then
    checkThat (mismatchedDocuments tables = 0)
      "Completed English near-map application changed"
  else do
    checkThat (mismatchedDocuments tables = 0 ∧
        progress.processedRows = english)
      "English near-map application is incomplete"
    completeSubphase .nearMapApply

/-- `expected_records`, of a publication that has not changed. -/
def requireRecords (setting : CurationSetting) (english : Nat) :
    Checked Nat :=
  match setting.englishNearRecords with
  | none => .error
      (curationError "English near-dedup artifact identity was not frozen")
  | some records => do
      let _ ← require (setting.publicationUnchanged = true)
        (curationError
          "English near-dedup publication changed before mapping ingestion")
      let _ ← require (records = english)
        (curationError
          "English near-map manifest/document inventory count mismatch")
      return records

/-- `_load_near_clusters`. -/
def loadNearClusters (setting : CurationSetting) (batchSize : Nat) :
    CurationProgram Bool := do
  let english ← Program.query fun database => englishDocuments database.tables
  if setting.fastCanonicalProfile = true then do
    checkThat (setting.englishNearClusters.isNone = true ∧
        setting.englishNearRecords = none)
      "Fast canonical profile unexpectedly acquired a near artifact"
    return false
  else if english = 0 then return true
  else match setting.englishNearClusters with
    | none => do
        checkThat (setting.allowMissingEnglishNearDedup = true)
          ("English documents require a complete cross-source " ++
            "near-cluster mapping; " ++
            "run the separate English near-dedup stage first")
        return false
    | some mapping => do
        let expected ← Program.lift (requireRecords setting english)
        loadMapping setting batchSize mapping expected english
        applyMapping batchSize english
        return true

/-! ## The nine passes -/

/-- A canonicalization pass, with the texts of `_run_keyset_write_subphase`. -/
def canonicalPass (subphase : Subphase) (Row : Type)
    (select : CurationTables -> Table Digest Row)
    (write : CurationTables -> Digest × Row -> Checked CurationTables) :
    KeysetPass where
  Row := Row
  subphase := subphase
  cursorError := "Invalid keyset cursor"
  orderError := some "Non-monotonic keyset cursor"
  select := select
  write := write

/-- `INSERT OR IGNORE INTO reasons`. -/
def insertReason (tables : CurationTables) (row : Digest × Reason) :
    Checked CurationTables :=
  .ok { tables with reasons := insert row tables.reasons }

/-- A document has a `benchmark:*` reason. -/
def CurationTables.Benchmarked (tables : CurationTables) (docId : Digest) :
    Prop :=
  ∃ entry ∈ tables.reasons, entry.1 = docId ∧ entry.2.isBenchmark = true

instance (tables : CurationTables) (docId : Digest) :
    Decidable (tables.Benchmarked docId) :=
  inferInstanceAs (Decidable (∃ entry ∈ tables.reasons,
    entry.1 = docId ∧ entry.2.isBenchmark = true))

/-- `BENCHMARK_CONTENT_CLUSTER_SQL`. -/
def selectBenchmarkContent (tables : CurationTables) : Table Digest Unit :=
  Table.distinct ((tables.documents.rows.filter fun row =>
    tables.Benchmarked row.1).map fun row => row.2.contentHash)

/-- `BENCHMARK_FINAL_CLUSTER_SQL`. -/
def selectBenchmarkFinal (tables : CurationTables) : Table Digest Unit :=
  Table.distinct ((tables.documents.rows.filter fun row =>
    tables.Benchmarked row.1).map fun row => row.2.finalCluster)

/-- Insert a benchmark content hash. -/
def insertBenchmarkContent (tables : CurationTables) (row : Digest × Unit) :
    Checked CurationTables := do
  let clusters ← insertRow tables.benchmarkContentClusters row
  return { tables with benchmarkContentClusters := clusters }

/-- Insert a benchmark final cluster. -/
def insertBenchmarkFinal (tables : CurationTables) (row : Digest × Unit) :
    Checked CurationTables := do
  let clusters ← insertRow tables.benchmarkFinalClusters row
  return { tables with benchmarkFinalClusters := clusters }

/-- Documents whose content hash is a benchmark content cluster. -/
def selectBenchmarkExact (tables : CurationTables) : Table Digest Reason :=
  tables.documents.filterMap fun _ document =>
    if tables.benchmarkContentClusters.Uses document.contentHash then
      some .benchmarkClusterContamination
    else none

/-- Documents whose final cluster is a benchmark final cluster. -/
def selectBenchmarkClusters (tables : CurationTables) : Table Digest Reason :=
  tables.documents.filterMap fun _ document =>
    if tables.benchmarkFinalClusters.Uses document.finalCluster then
      some .benchmarkClusterContamination
    else none

/-- `MIN(canonical_rank)` of documents by a column, with the document in it. -/
def leastChoices (column : Document -> Digest)
    (rows : List (Digest × Document)) : Table Digest Choice :=
  (Table.groupMin (rows.map fun row =>
    (column row.2, row.2.canonicalRank))).filterMap fun _ rank =>
      some ⟨rank, CanonicalRank.docId rank⟩

/-- The least document without reasons for each content hash. -/
def selectExactChoice (tables : CurationTables) : Table Digest Choice :=
  leastChoices Document.contentHash
    (tables.documents.rows.filter fun row => tables.ReasonFree row.1)

/-- A document is the choice for its content hash. -/
def CurationTables.IsExactChoice (tables : CurationTables)
    (row : Digest × Document) : Prop :=
  (tables.exactChoice.lookup row.2.contentHash).map
    Choice.canonicalDocId = some row.1

instance (tables : CurationTables) (row : Digest × Document) :
    Decidable (tables.IsExactChoice row) :=
  inferInstanceAs (Decidable (_ = _))

/-- The least exact choice for each final cluster. -/
def selectFinalChoice (tables : CurationTables) : Table Digest Choice :=
  leastChoices Document.finalCluster
    (tables.documents.rows.filter fun row =>
      tables.IsExactChoice row ∧ tables.ReasonFree row.1)

/-- Insert a choice for a content hash. -/
def insertExactChoice (tables : CurationTables) (row : Digest × Choice) :
    Checked CurationTables := do
  let choices ← insertRow tables.exactChoice row
  return { tables with exactChoice := choices }

/-- Insert a choice for a final cluster. -/
def insertFinalChoice (tables : CurationTables) (row : Digest × Choice) :
    Checked CurationTables := do
  let choices ← insertRow tables.finalChoice row
  return { tables with finalChoice := choices }

/-- The choice for the final cluster of the choice for a content hash. -/
def CurationTables.finalOfContent (tables : CurationTables)
    (contentHash : Digest) : Option Choice :=
  (tables.exactChoice.lookup contentHash).bind fun exact =>
    (tables.documents.lookup exact.canonicalDocId).bind fun document =>
      tables.finalChoice.lookup document.finalCluster

/-- The canonical document of every document without reasons. -/
def selectCanonicalMap (tables : CurationTables) : Table Digest Digest :=
  tables.documents.filterMap fun docId document =>
    if tables.ReasonFree docId then
      (tables.finalOfContent document.contentHash).map Choice.canonicalDocId
    else none

/-- Insert a canonical document. -/
def insertCanonicalMap (tables : CurationTables) (row : Digest × Digest) :
    Checked CurationTables := do
  let canonicalMap ← insertRow tables.canonicalMap row
  return { tables with canonicalMap := canonicalMap }

/-- Mapped documents that are not the choice for their content hash. -/
def selectResidualExact (tables : CurationTables) : Table Digest Reason :=
  tables.documents.filterMap fun docId document =>
    (tables.exactChoice.lookup document.contentHash).bind fun exact =>
      if docId ≠ exact.canonicalDocId ∧ tables.canonicalMap.Uses docId then
        some .residualExactDuplicate
      else none

/-- The reason for a document that another one of its final cluster
replaces. -/
def residualFinalReason (setting : CurationSetting) (bucket : Bucket) :
    Reason :=
  if bucket.isCode then .residualNormalizedDuplicate
  else setting.englishFinalDuplicateReason

/-- Exact choices that are not the choice for their final cluster. -/
def selectResidualFinal (setting : CurationSetting)
    (tables : CurationTables) : Table Digest Reason :=
  tables.documents.filterMap fun docId document =>
    if tables.IsExactChoice (docId, document) then
      (tables.finalChoice.lookup document.finalCluster).bind fun final =>
        if docId ≠ final.canonicalDocId then
          some (residualFinalReason setting document.bucket)
        else none
    else none

/-- The passes before documents are chosen. -/
def benchmarkPasses : List KeysetPass :=
  [canonicalPass .benchmarkContentClusters Unit
      selectBenchmarkContent insertBenchmarkContent,
    canonicalPass .benchmarkFinalClusters Unit
      selectBenchmarkFinal insertBenchmarkFinal,
    canonicalPass .benchmarkExact Reason selectBenchmarkExact insertReason,
    canonicalPass .benchmarkFinal Reason selectBenchmarkClusters insertReason]

/-- The passes that choose documents. -/
def choicePasses : List KeysetPass :=
  [canonicalPass .exactChoice Choice selectExactChoice insertExactChoice,
    canonicalPass .finalChoice Choice selectFinalChoice insertFinalChoice,
    canonicalPass .canonicalMap Digest selectCanonicalMap insertCanonicalMap]

/-- The passes that reject the other documents. -/
def residualPasses (setting : CurationSetting) : List KeysetPass :=
  [canonicalPass .residualExact Reason selectResidualExact insertReason,
    canonicalPass .residualFinal Reason (selectResidualFinal setting)
      insertReason]

/-- `phases` of `canonicalize`. -/
def canonicalPasses (setting : CurationSetting) : List KeysetPass :=
  benchmarkPasses ++ (choicePasses ++ residualPasses setting)

/-! ## Validation -/

/-- `residual_reasons`. -/
def residualReasons (setting : CurationSetting) : List Reason :=
  [.residualExactDuplicate, .residualNormalizedDuplicate,
    setting.englishFinalDuplicateReason]

/-- `eligible_sql`: only residual reasons. -/
def CurationTables.Eligible (setting : CurationSetting)
    (tables : CurationTables) (docId : Digest) : Prop :=
  ∀ entry ∈ tables.reasons,
    entry.1 = docId -> entry.2 ∈ residualReasons setting

instance (setting : CurationSetting) (tables : CurationTables)
    (docId : Digest) : Decidable (tables.Eligible setting docId) :=
  inferInstanceAs (Decidable (∀ entry ∈ tables.reasons,
    entry.1 = docId -> entry.2 ∈ residualReasons setting))

/-- Rows of a table of choices that differ from the wanted ones. -/
def invalidChoices (choices wanted : Table Digest Choice) : Nat :=
  (choices.rows.filter fun row =>
    decide (wanted.lookup row.1 ≠ some row.2)).length

/-- An eligible document is mapped elsewhere than its final choice. -/
def wronglyMapped (tables : CurationTables) (docId : Digest)
    (document : Document) : Bool :=
  match tables.canonicalMap.lookup docId with
  | none => true
  | some canonical =>
      (tables.finalOfContent document.contentHash).any fun final =>
        decide (canonical ≠ final.canonicalDocId)

/-- The residual reasons of a document. -/
def residualCount (setting : CurationSetting) (tables : CurationTables)
    (docId : Digest) : Nat :=
  (tables.reasons.filter fun entry =>
    entry.1 = docId ∧ entry.2 ∈ residualReasons setting).card

/-- A document's residual reasons are not those of its choices. -/
def wronglyRejected (setting : CurationSetting) (tables : CurationTables)
    (docId : Digest) (document : Document) (exact final : Choice) : Prop :=
  residualCount setting tables docId ≠
      (if docId ≠ exact.canonicalDocId then 1
        else if docId ≠ final.canonicalDocId then 1 else 0) ∨
    (docId ≠ exact.canonicalDocId ∧
      (docId, Reason.residualExactDuplicate) ∉ tables.reasons) ∨
    (docId = exact.canonicalDocId ∧ docId ≠ final.canonicalDocId ∧
      (docId, residualFinalReason setting document.bucket) ∉ tables.reasons)

instance (setting : CurationSetting) (tables : CurationTables)
    (docId : Digest) (document : Document) (exact final : Choice) :
    Decidable (wronglyRejected setting tables docId document exact final) :=
  inferInstanceAs (Decidable (_ ∨ _))

/-- Mapped eligible documents whose residual reasons are wrong. -/
def invalidResidual (setting : CurationSetting) (tables : CurationTables) :
    Nat :=
  (tables.documents.rows.filter fun row =>
    decide (tables.Eligible setting row.1) &&
      decide (tables.canonicalMap.Uses row.1) &&
      ((tables.exactChoice.lookup row.2.contentHash).any fun exact =>
        (tables.finalOfContent row.2.contentHash).any fun final =>
          decide (wronglyRejected setting tables row.1 row.2 exact
            final))).length

/-- A document belongs to a benchmark content or final cluster. -/
def CurationTables.InBenchmarkCluster (tables : CurationTables)
    (document : Document) : Prop :=
  tables.benchmarkContentClusters.Uses document.contentHash ∨
    tables.benchmarkFinalClusters.Uses document.finalCluster

instance (tables : CurationTables) (document : Document) :
    Decidable (tables.InBenchmarkCluster document) :=
  inferInstanceAs (Decidable (_ ∨ _))

/-- Documents of benchmark clusters without the reason. -/
def benchmarkMissing (tables : CurationTables) : Nat :=
  (tables.documents.rows.filter fun row =>
    decide (tables.InBenchmarkCluster row.2) &&
      decide ((row.1, Reason.benchmarkClusterContamination) ∉
        tables.reasons)).length

/-- Documents with the reason outside benchmark clusters. -/
def benchmarkExtra (tables : CurationTables) : Nat :=
  (tables.documents.rows.filter fun row =>
    decide ((row.1, Reason.benchmarkClusterContamination) ∈ tables.reasons) &&
      !decide (tables.InBenchmarkCluster row.2)).length

/-- Documents that only residual reasons reject. -/
def eligibleRows (setting : CurationSetting) (tables : CurationTables) :
    List (Digest × Document) :=
  tables.documents.rows.filter fun row => tables.Eligible setting row.1

/-- Documents without reasons. -/
def acceptedRows (tables : CurationTables) : List (Digest × Document) :=
  tables.documents.rows.filter fun row => tables.ReasonFree row.1

/-- Documents that are the choice for their content hash. -/
def exactChoiceRows (tables : CurationTables) : List (Digest × Document) :=
  tables.documents.rows.filter fun row => tables.IsExactChoice row

/-- `_validate_canonicalization`. -/
def validateCanonicalization (setting : CurationSetting)
    (tables : CurationTables) : Checked Unit := do
  let eligible := eligibleRows setting tables
  let wantedExact := leastChoices Document.contentHash eligible
  let wantedFinal := leastChoices Document.finalCluster (exactChoiceRows tables)
  let _ ← require
    (tables.exactChoice.rows.length =
        (Table.distinct (eligible.map fun row =>
          row.2.contentHash)).rows.length ∧
      tables.finalChoice.rows.length =
        (Table.distinct ((exactChoiceRows tables).map fun row =>
          row.2.finalCluster)).rows.length ∧
      tables.canonicalMap.rows.length = eligible.length ∧
      (acceptedRows tables).length = tables.finalChoice.rows.length ∧
      invalidChoices tables.exactChoice wantedExact = 0 ∧
      invalidChoices tables.finalChoice wantedFinal = 0 ∧
      (eligible.filter fun row =>
        wronglyMapped tables row.1 row.2).length = 0 ∧
      invalidResidual setting tables = 0 ∧
      benchmarkMissing tables = 0 ∧ benchmarkExtra tables = 0)
    (curationError "Canonicalization coverage/accounting validation failed")
  return ()

/-! ## The phase -/

/-- The transaction that ends the phase. -/
def finishCanonicalization : CurationProgram Unit :=
  Program.effect fun (database : CurationDatabase) => do
    let _ ← require (database.phase = .inventoryComplete)
      (curationError "Canonicalization phase authority changed")
    return ({ database with phase := .canonicalized }, ())

/-- `canonicalize`. -/
def canonicalize (setting : CurationSetting) (batchSize : Nat) :
    CurationProgram Unit := do
  let phase ← Program.query CurationDatabase.phase
  if phase ≠ .inventoryComplete then return ()
  else do
    let _ ← loadNearClusters setting batchSize
    Program.forEach (canonicalPasses setting)
      (KeysetPass.runToCompletion batchSize)
    let tables ← Program.query CurationDatabase.tables
    Program.lift (validateCanonicalization setting tables)
    finishCanonicalization

end CodingLlm
