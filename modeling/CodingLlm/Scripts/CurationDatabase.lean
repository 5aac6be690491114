import CodingLlm.Library.Queries
import CodingLlm.Library.Transactions
import CodingLlm.Pretrain.Format
import CodingLlm.Scripts.CurationLease
import Mathlib.Data.Prod.Lex
import Mathlib.Data.Finset.Basic

/-!
# The curation database

The tables of `CurationBuilder`, the durable progress of its subphases, and
the two loops that most of them share: one that walks a query in the order of
its key, and one that walks the rows of a file by position.  Storage limits,
audit files and indexes are left out: a limit that raises between two
transactions is one of the kills, and nothing reads the files back.
-/

namespace CodingLlm

open CrashLogic

/-! ## Values -/

/-- A 32-byte blob, in the order in which blobs compare. -/
def Digest : Type := Fin (2 ^ 256)

instance : LinearOrder Digest := inferInstanceAs (LinearOrder (Fin (2 ^ 256)))

namespace Digest

/-- The blob of a number. -/
def ofNat (value : Nat) : Digest := Fin.ofNat (2 ^ 256) value

/-- `int.from_bytes(digest[:8], "big")`. -/
def leadingWord (digest : Digest) : Nat := digest.val / 2 ^ 192

end Digest

/-- The keys of `BUCKET_CATEGORY`. -/
inductive Bucket
  | python
  | otherCode
  | finewebEdu
  | wikipedia
  deriving DecidableEq, Repr

/-- The values of `BUCKET_CATEGORY`. -/
inductive Category
  | python
  | otherCode
  | english
  deriving DecidableEq, Repr

namespace Bucket

/-- The bucket as a string. -/
def name : Bucket -> String
  | .python => "python"
  | .otherCode => "other_code"
  | .finewebEdu => "fineweb_edu"
  | .wikipedia => "wikipedia"

/-- `BUCKET_CATEGORY`. -/
def category : Bucket -> Category
  | .python => .python
  | .otherCode => .otherCode
  | .finewebEdu => .english
  | .wikipedia => .english

/-- Membership in `CODE_BUCKETS`. -/
def isCode : Bucket -> Bool
  | .python => true
  | .otherCode => true
  | .finewebEdu => false
  | .wikipedia => false

end Bucket

/-- `canonical_rank`: the penalty in eight bytes and the document id, which
compare in this order. -/
abbrev CanonicalRank : Type := Nat ×ₗ Digest

/-- `substr(canonical_rank, 9, 32)`. -/
def CanonicalRank.docId (rank : CanonicalRank) : Digest := (ofLex rank).2

/-- A row of `documents` without its key. -/
structure Document where
  bucket : Bucket
  archive : String
  manifestIndex : Nat
  memberPath : String
  tokens : Nat
  contentHash : Digest
  normalizedHash : Digest
  finalCluster : Digest
  sourceGroup : Digest
  canonicalRank : CanonicalRank
  selectionRank : Digest

/-- The texts that the column `reason` holds. -/
inductive Reason
  | quality (flag : String)
  | benchmark (reason : String)
  | missingCodeRepoId
  | missingEnglishSourceIdentity
  | benchmarkClusterContamination
  | residualExactDuplicate
  | residualNormalizedDuplicate
  | englishNormalizedDuplicate
  | englishNearDuplicate
  deriving DecidableEq, Repr

namespace Reason

/-- `reason GLOB 'benchmark:*'`. -/
def isBenchmark : Reason -> Bool
  | .benchmark _ => true
  | _ => false

/-- The reasons that ingestion gives. -/
def isInitial : Reason -> Bool
  | .quality _ => true
  | .benchmark _ => true
  | .missingCodeRepoId => true
  | .missingEnglishSourceIdentity => true
  | _ => false

end Reason

/-- A row of `exact_choice` or `final_choice`. -/
structure Choice where
  canonicalRank : CanonicalRank
  canonicalDocId : Digest
  deriving DecidableEq

/-! ## Tables -/

/-- The tables that canonicalization and the split groups read and write. -/
structure CurationTables where
  documents : Table Digest Document
  reasons : Finset (Digest × Reason)
  nearMap : Table Digest Digest
  benchmarkContentClusters : Table Digest Unit
  benchmarkFinalClusters : Table Digest Unit
  exactChoice : Table Digest Choice
  finalChoice : Table Digest Choice
  canonicalMap : Table Digest Digest
  groups : Table Digest Split

namespace CurationTables

/-- `NOT EXISTS (SELECT 1 FROM reasons AS r WHERE r.doc_id=d.doc_id)`. -/
def ReasonFree (tables : CurationTables) (docId : Digest) : Prop :=
  ∀ entry ∈ tables.reasons, entry.1 ≠ docId

instance (tables : CurationTables) (docId : Digest) :
    Decidable (tables.ReasonFree docId) :=
  inferInstanceAs (Decidable (∀ entry ∈ tables.reasons, entry.1 ≠ docId))

end CurationTables

/-- `INSERT INTO` a table with a primary key. -/
def insertRow (table : Table Digest α) (row : Digest × α) :
    Checked (Table Digest α) := do
  let _ ← require (¬table.Uses row.1)
    (.integrityError "UNIQUE constraint failed")
  return table.upsert row.1 row.2

/-- A row of `archives`. -/
structure ArchiveRow where
  reportPath : String
  reportSha256 : String
  archive : String
  bucket : Bucket
  fingerprintFile : String
  fingerprintSha256 : String
  documents : Nat
  tokens : Nat
  deriving DecidableEq

/-- A row of `selected` without its key. -/
structure Selection where
  split : Split
  selectedTokens : Nat
  deriving DecidableEq, Repr

/-- A row of `output_archives`. -/
structure OutputArchive where
  archive : String
  decisionFile : String
  decisionSha256 : String
  records : Nat
  deriving DecidableEq, Repr

/-- `durable_counts`. -/
structure DurableCounts where
  archives : Nat
  documents : Nat
  selectedDocuments : Nat
  outputArchives : Nat
  deriving DecidableEq, Repr

/-! ## Durable progress -/

/-- The names of subphases. -/
inductive Subphase
  | inventoryArchive (bucket : Bucket) (index : Nat)
  | nearMapLoad
  | nearMapApply
  | benchmarkContentClusters
  | benchmarkFinalClusters
  | benchmarkExact
  | benchmarkFinal
  | exactChoice
  | finalChoice
  | canonicalMap
  | residualExact
  | residualFinal
  | selectionGroups
  | selectionQuota (split : Split) (category : Category)
  deriving DecidableEq, Repr

/-- `status` of a subphase. -/
inductive ProgressStatus
  | running
  | complete
  deriving DecidableEq, Repr

/-- `cursor_json`: a number of input rows, a key of a query, or a rank and a
document id; an empty string is `none`. -/
inductive ProgressCursor
  | inputRows (count : Nat)
  | key (last : Option Digest)
  | rank (last : Option (Digest ×ₗ Digest))
  deriving DecidableEq

/-- A row of `phase_progress`.  Of the details only `clean_bytes` is read
back. -/
structure Progress where
  status : ProgressStatus
  cursor : ProgressCursor
  processedRows : Nat
  processedTokens : Nat
  committedBatches : Nat
  cleanBytes : Nat
  deriving DecidableEq

/-- The row that `_start_subphase` inserts. -/
def Progress.start (cursor : ProgressCursor) : Progress :=
  ⟨.running, cursor, 0, 0, 0, 0⟩

/-- `phase` of the metadata. -/
inductive CurationPhase
  | inventory
  | inventoryComplete
  | canonicalized
  | selected
  | emitting
  | emitted
  | complete
  deriving DecidableEq, Repr

/-- The database. -/
structure CurationDatabase where
  phase : CurationPhase
  archives : List ArchiveRow
  tables : CurationTables
  selected : Table Digest Selection
  outputArchives : List OutputArchive
  durable : DurableCounts
  progress : Subphase -> Option Progress

/-- Programs over the database. -/
abbrev CurationProgram (α : Type) : Type := Program CurationDatabase PyError α

namespace CurationDatabase

/-- Write a row of `phase_progress`. -/
def setProgress (database : CurationDatabase) (subphase : Subphase)
    (progress : Progress) : CurationDatabase :=
  { database with
    progress := Function.update database.progress subphase (some progress) }

end CurationDatabase

/-- `if not condition: raise CurationError(text)`. -/
def checkThat (condition : Prop) [Decidable condition] (text : String) :
    CurationProgram Unit :=
  Program.lift (do
    let _ ← require condition (curationError text)
    return ())

/-- A check is verified by verifying both outcomes. -/
theorem wp_checkThat
    {condition : Prop} [Decidable condition] {text : String}
    {post : Unit -> CurationDatabase -> Prop}
    {fail : PyError -> CurationDatabase -> Prop}
    {crash : CurationDatabase -> Prop} {database : CurationDatabase}
    (passes : condition -> post () database)
    (fails : ¬condition -> fail (curationError text) database) :
    (checkThat condition text).wp post fail crash database := by
  unfold checkThat
  rw [Program.wp_lift]
  by_cases holds : condition
  · rw [require_bind holds]
    exact passes holds
  · rw [require_eq_error holds]
    exact fails holds

/-- `_start_subphase`. -/
def startSubphase (subphase : Subphase) (cursor : ProgressCursor) :
    CurationProgram Progress := do
  let progress ← Program.query fun database => database.progress subphase
  match progress with
  | some progress => return progress
  | none => do
      Program.commit fun database =>
        database.setProgress subphase (Progress.start cursor)
      return Progress.start cursor

/-- `_commit_bounded_batch` at the end of a transaction, with the progress
read back. -/
def commitBoundedBatch
    (subphase : Subphase) (cursor : ProgressCursor) (rows tokens : Nat)
    (cleanBytes : Option Nat) (database : CurationDatabase) :
    Checked (CurationDatabase × Progress) :=
  match database.progress subphase with
  | none => .error (curationError "Cannot commit inactive subphase")
  | some progress => do
      let _ ← require (progress.status = .running)
        (curationError "Cannot commit inactive subphase")
      let _ ← require (1 ≤ rows)
        (curationError "Invalid bounded batch counters")
      let next : Progress :=
        ⟨.running, cursor, progress.processedRows + rows,
          progress.processedTokens + tokens, progress.committedBatches + 1,
          cleanBytes.getD progress.cleanBytes⟩
      return (database.setProgress subphase next, next)

/-- The progress after one more batch. -/
def Progress.next (progress : Progress) (cursor : ProgressCursor)
    (rows tokens : Nat) (cleanBytes : Option Nat) : Progress :=
  ⟨.running, cursor, progress.processedRows + rows,
    progress.processedTokens + tokens, progress.committedBatches + 1,
    cleanBytes.getD progress.cleanBytes⟩

/-- A batch of a running subphase is committed. -/
theorem commitBoundedBatch_eq
    {subphase : Subphase} {cursor : ProgressCursor} {rows tokens : Nat}
    {cleanBytes : Option Nat} {database : CurationDatabase}
    {progress : Progress}
    (found : database.progress subphase = some progress)
    (running : progress.status = .running)
    (positive : 1 ≤ rows) :
    commitBoundedBatch subphase cursor rows tokens cleanBytes database =
      .ok (database.setProgress subphase
          (progress.next cursor rows tokens cleanBytes),
        progress.next cursor rows tokens cleanBytes) := by
  unfold commitBoundedBatch
  rw [found]
  simp only
  rw [require_bind running, require_bind positive]
  rfl

/-- `_complete_subphase`. -/
def completeSubphase (subphase : Subphase) : CurationProgram Unit :=
  Program.effect fun database =>
    match database.progress subphase with
    | none => .error (curationError "Unknown subphase")
    | some progress => .ok (database.setProgress subphase
        { progress with status := .complete }, ())

/-! ## Walking a query by its key -/

/-- A query in the order of its key, and what is written for each row. -/
structure KeysetPass where
  Row : Type
  subphase : Subphase
  cursorError : String
  orderError : Option String
  select : CurationTables -> Table Digest Row
  write : CurationTables -> Digest × Row -> Checked CurationTables

namespace KeysetPass

/-- The key after which the next batch starts. -/
def cursor (pass : KeysetPass) (progress : Progress) :
    Checked (Option Digest) :=
  match progress.cursor with
  | .key last => .ok last
  | _ => .error (curationError pass.cursorError)

/-- `if key <= cursor: raise`, where the loop has this check. -/
def checkOrder (pass : KeysetPass) (cursor : Option Digest) (key : Digest) :
    Checked Unit :=
  match pass.orderError with
  | none => .ok ()
  | some text => do
      let _ ← require (∀ last ∈ cursor, last < key) (curationError text)
      return ()

/-- The variables of the loop. -/
structure Loop where
  progress : Progress
  exhausted : Bool

/-- The body of the loop: one batch in one transaction. -/
def step (pass : KeysetPass) (batchSize : Nat) (loop : Loop) :
    CurationProgram Loop := do
  let cursor ← Program.lift (pass.cursor loop.progress)
  let rows ← Program.query fun database =>
    ((pass.select database.tables).fromCursor cursor).take batchSize
  match rows.getLast? with
  | none => return { loop with exhausted := true }
  | some last => do
      Program.lift (pass.checkOrder cursor last.1)
      let progress ← Program.effect fun database => do
        let tables ← rows.foldlM pass.write database.tables
        commitBoundedBatch pass.subphase (.key (some last.1)) rows.length 0
          none { database with tables := tables }
      return ⟨progress, false⟩

/-- `_run_keyset_write_subphase`; no more turns than rows are needed. -/
def run (pass : KeysetPass) (batchSize : Nat) : CurationProgram Progress := do
  let progress ← startSubphase pass.subphase (.key none)
  if progress.status = .complete then
    return progress
  else do
    let total ← Program.query fun database =>
      (pass.select database.tables).rows.length
    let loop ← Program.whileLoop
      (.assertionError "Keyset loop made no progress")
      (fun loop => !loop.exhausted) (pass.step batchSize) (total + 1)
      ⟨progress, false⟩
    return loop.progress

/-- A pass and its completion, unless it is complete. -/
def runToCompletion (batchSize : Nat) (pass : KeysetPass) :
    CurationProgram Unit := do
  let progress ← pass.run batchSize
  if progress.status = .complete then return ()
  else completeSubphase pass.subphase

end KeysetPass

/-! ## Walking a file by position -/

/-- Rows of a file, and what is written for a batch of them. -/
structure StreamPass where
  Raw : Type
  Row : Type
  subphase : Subphase
  parse : Nat -> Raw -> Checked Row
  writeBatch : CurationTables -> List Row -> Checked CurationTables
  count : DurableCounts -> Nat -> DurableCounts
  tokens : Row -> Nat
  bytes : Row -> Nat

namespace StreamPass

/-- The variables of the loop. -/
structure Loop (pass : StreamPass) where
  progress : Progress
  batch : List pass.Row
  inputRows : Nat
  documents : Nat
  tokens : Nat
  cleanBytes : Nat

/-- `flush`: the batch in one transaction. -/
def flush (pass : StreamPass) (loop : pass.Loop) :
    CurationProgram pass.Loop :=
  if loop.batch = [] then return loop
  else do
    let progress ← Program.effect fun database => do
      let tables ← pass.writeBatch database.tables loop.batch
      commitBoundedBatch pass.subphase (.inputRows loop.inputRows)
        loop.batch.length (loop.batch.map pass.tokens).sum
        (some loop.cleanBytes)
        { database with
          tables := tables
          durable := pass.count database.durable loop.batch.length }
    return { loop with progress := progress, batch := [] }

/-- A parsed row joins the batch. -/
def push (pass : StreamPass) (loop : pass.Loop) (row : pass.Row) : pass.Loop :=
  { loop with
    batch := loop.batch ++ [row]
    documents := loop.documents + 1
    tokens := loop.tokens + pass.tokens row
    cleanBytes := loop.cleanBytes + pass.bytes row }

/-- The body of the loop over the rows. -/
def step (pass : StreamPass) (batchSize committedRows : Nat)
    (loop : pass.Loop) (raw : pass.Raw) : CurationProgram pass.Loop :=
  let loop := { loop with inputRows := loop.inputRows + 1 }
  if loop.inputRows ≤ committedRows then return loop
  else do
    let row ← Program.lift (pass.parse (loop.inputRows - 1) raw)
    let loop := pass.push loop row
    if batchSize ≤ loop.batch.length then pass.flush loop else return loop

/-- The loop over the rows, with the last `flush`. -/
def rows (pass : StreamPass) (batchSize committedRows : Nat) :
    List pass.Raw -> pass.Loop -> CurationProgram pass.Loop
  | [], loop => pass.flush loop
  | raw :: rest, loop => do
      let loop ← pass.step batchSize committedRows loop raw
      pass.rows batchSize committedRows rest loop

/-- The variables before the loop, from the progress. -/
def enter (pass : StreamPass) (progress : Progress) : pass.Loop :=
  ⟨progress, [], 0, progress.processedRows, progress.processedTokens,
    progress.cleanBytes⟩

end StreamPass
end CodingLlm
