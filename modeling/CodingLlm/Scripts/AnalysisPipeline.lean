import CodingLlm.Library.Transactions
import CodingLlm.Pretrain.PackedManifest

/-!
# The analysis pipeline of an archive

`process_archive` reads documents from a tar stream, gathers them in batches,
hands the batches to workers and writes their analyses in archive order, within
a byte cap for a batch and one for everything that is in flight.  The workers
move on their own between any two steps.
-/

namespace CodingLlm
namespace RawStream

open CrashLogic Words

/-! ## Workers -/

/-- Where a submitted batch stands. -/
inductive WorkStatus
  | absent
  | queued
  | running
  | finished
  | cancelled
  deriving DecidableEq

/-- A batch that has been submitted and has neither finished nor been
cancelled. -/
def WorkStatus.Outstanding (status : WorkStatus) : Prop :=
  status = .queued ∨ status = .running

/-- A move of the worker pool on one submission. -/
inductive PoolMove
  | starts (submission : Nat)
  | finishes (submission : Nat)

/-- The status of every submission. -/
abbrev Pool : Type := Nat -> WorkStatus

/-- A move, where it is one. -/
def PoolMove.apply (pool : Pool) : PoolMove -> Pool
  | .starts submission =>
      if pool submission = .queued then
        Function.update pool submission .running
      else pool
  | .finishes submission =>
      if pool submission = .running then
        Function.update pool submission .finished
      else pool

/-! ## State -/

/-- A document: its member path and its content. -/
structure Document where
  memberPath : String
  content : List Byte

/-- `len(content)` of all documents of a batch. -/
def totalBytes (documents : List Document) : Nat :=
  (documents.map fun document => document.content.length).sum

/-- An entry of `pending`: the documents, `payload_bytes`, and the future by
its number and its result. -/
structure PendingBatch (Analysis : Type) where
  documents : List Document
  payloadBytes : Nat
  submission : Nat
  result : Checked (List Analysis)

/-- What a failing archive raises: the two errors on the accounting, or
anything else. -/
inductive Failure
  | accounting (text : String)
  | raised (error : PyError)

/-- What `join_manifest_and_metrics` reports and the quota record expects. -/
structure ArchiveTotals where
  documents : Nat
  cleanBytes : Nat
  exactTokens : Nat

/-- The variables of `process_archive`, the metric lines that are written and
the workers. -/
structure Pipeline (Analysis : Type) where
  batch : List Document
  batchBytes : Nat
  pending : List (PendingBatch Analysis)
  pendingBytes : Nat
  peakInflightBytes : Nat
  peakBatchBytes : Nat
  submittedBatches : Nat
  documentsRead : Nat
  metrics : List (String × Analysis)
  report : Option ArchiveTotals
  pool : Pool
  clock : Nat

/-- The state in which an archive is begun. -/
def Pipeline.empty : Pipeline Analysis where
  batch := []
  batchBytes := 0
  pending := []
  pendingBytes := 0
  peakInflightBytes := 0
  peakBatchBytes := 0
  submittedBatches := 0
  documentsRead := 0
  metrics := []
  report := none
  pool := fun _ => .absent
  clock := 0

/-- The arguments that bound an archive, as `process_archive` checks them. -/
structure PipelineLimits where
  analysisBatchSize : Nat
  maxDocumentBytes : Nat
  maxAnalysisBatchBytes : Nat
  maxInflightBytes : Nat
  maxManifestMemberBytes : Nat
  expectedDocuments : Nat
  analysisBatchSize_pos : 1 ≤ analysisBatchSize
  maxDocumentBytes_pos : 0 < maxDocumentBytes
  document_le_batch : maxDocumentBytes ≤ maxAnalysisBatchBytes
  batch_le_inflight : maxAnalysisBatchBytes ≤ maxInflightBytes

/-- A member of the tar stream: its declared size, whether it is a regular
file, and what reading it yields, if it can be extracted. -/
structure TarMember where
  name : String
  size : Int
  isFile : Bool
  extracted : Option (Checked (List Byte))

/-- What an archive depends on besides its limits.  `workers` is the number of
workers of the executor, if there is one; `moves` what the pool does before
each step; `faults` what a step that touches the disk or the executor raises;
`workerFaults` what a worker raises instead of its result. -/
structure PipelineEnvironment (Analysis : Type) where
  analyzeDocument : List Byte -> Checked Analysis
  workers : Option Nat
  moves : Nat -> List PoolMove
  faults : Nat -> Option PyError
  workerFaults : Nat -> Option PyError
  joinManifest :
    Checked (List Byte) -> List (String × Analysis) -> Checked ArchiveTotals
  members : List TarMember
  ending : Option PyError
  quota : ArchiveTotals

/-- A program over the state of an archive. -/
abbrev Archiving (Analysis α : Type) : Type :=
  Program (Pipeline Analysis) Failure α

variable {Analysis : Type}

/-- An error other than the two on the accounting. -/
def raise (error : PyError) : Archiving Analysis α := throw (.raised error)

namespace PipelineEnvironment

variable (environment : PipelineEnvironment Analysis)

/-- `max_pending`. -/
def maxPending : Nat :=
  match environment.workers with
  | none => 1
  | some workers => max 2 (workers * 2)

/-- The state after the pool has moved. -/
def advance (state : Pipeline Analysis) : Pipeline Analysis :=
  { state with
    pool := (environment.moves state.clock).foldl PoolMove.apply state.pool
    clock := state.clock + 1 }

/-- A step of the main thread, after whatever the pool does before it. -/
def step (change : Pipeline Analysis -> Pipeline Analysis) :
    Archiving Analysis Unit :=
  Program.commit fun state => change (environment.advance state)

/-- A step that may raise. -/
def mayRaise : Archiving Analysis Unit :=
  Program.inspect fun state =>
    match environment.faults state.clock with
    | some error => .error (.raised error)
    | none => .ok ()

/-- `analyze_document_batch`, as a worker runs it. -/
def analyzeDocumentBatch (submission : Nat) (documents : List Document) :
    Checked (List Analysis) :=
  match environment.workerFaults submission with
  | some error => .error error
  | none => documents.mapM fun document =>
      environment.analyzeDocument document.content

/-! ## The helpers -/

/-- `observe_memory`. -/
def observeMemory : Archiving Analysis Unit :=
  environment.step fun state => { state with
    peakBatchBytes := max state.peakBatchBytes state.batchBytes
    peakInflightBytes :=
      max state.peakInflightBytes (state.pendingBytes + state.batchBytes) }

/-- `future.result()` waits until the work has finished. -/
def await (submission : Nat) : Archiving Analysis Unit :=
  environment.step fun state =>
    { state with pool := Function.update state.pool submission .finished }

/-- `_write_metric_line`. -/
def writeMetricLine (line : String × Analysis) : Archiving Analysis Unit := do
  environment.mayRaise
  environment.step fun state =>
    { state with metrics := state.metrics ++ [line] }

/-- The part of `drain_one` after the payload is released. -/
def writeEntry (entry : PendingBatch Analysis) :
    Archiving Analysis Unit := do
  let analyses ← Program.lift (entry.result.mapError .raised)
  if entry.documents.length ≠ analyses.length then
    raise (.runtimeError "Analysis worker returned a different batch length")
  else do
    Program.forEach ((entry.documents.map Document.memberPath).zip analyses)
      environment.writeMetricLine
    environment.mayRaise

/-- `drain_one`. -/
def drainOne : Archiving Analysis Unit := do
  let pending ← Program.query Pipeline.pending
  match pending with
  | [] => raise (.indexError "pop from an empty deque")
  | first :: rest => do
      environment.step fun state => { state with pending := rest }
      environment.await first.submission
      environment.step fun state =>
        { state with pendingBytes := state.pendingBytes - first.payloadBytes }
      environment.writeEntry first

/-- Entries of `pending` for a loop that drains while something is too
large. -/
def remaining
    (tooLarge : Pipeline Analysis -> Bool) (state : Pipeline Analysis) : Nat :=
  if tooLarge state then state.pending.length else 0

/-- `while pending and tooLarge: drain_one(metrics_handle)`. -/
def drainWhile (tooLarge : Pipeline Analysis -> Bool) :
    Archiving Analysis Unit := do
  let start ← Program.query (remaining tooLarge)
  let _ ← Program.whileLoop (.raised (.runtimeError "unreachable"))
    (fun more => decide (0 < more))
    (fun _ => do
      environment.drainOne
      Program.query (remaining tooLarge)) start start
  return ()

/-- The batch is handed over as an entry of `pending`.  The assignments of the
source are one step: between them both counters name the same payload. -/
def handOver
    (entry : PendingBatch Analysis) (status : WorkStatus)
    (state : Pipeline Analysis) : Pipeline Analysis :=
  { state with
    pending := state.pending ++ [entry]
    pendingBytes := state.pendingBytes + entry.payloadBytes
    submittedBatches := state.submittedBatches + 1
    pool := Function.update state.pool entry.submission status
    batch := []
    batchBytes := 0 }

/-- The submission of a batch: without an executor it is analysed on the
spot. -/
def submit : Archiving Analysis Unit := do
  environment.mayRaise
  let state ← Program.query id
  let entry : PendingBatch Analysis := {
    documents := state.batch
    payloadBytes := state.batchBytes
    submission := state.submittedBatches
    result := environment.analyzeDocumentBatch state.submittedBatches
      state.batch }
  match environment.workers with
  | none => do
      let _ ← Program.lift (entry.result.mapError .raised)
      environment.step (handOver entry .finished)
  | some _ => environment.step (handOver entry .queued)

/-- `submit_batch`. -/
def submitBatch (limits : PipelineLimits) : Archiving Analysis Unit := do
  let state ← Program.query id
  if state.batch = [] then return ()
  else do
    environment.drainWhile fun state =>
      limits.maxInflightBytes < state.pendingBytes + state.batchBytes
    let state ← Program.query id
    if limits.maxInflightBytes < state.pendingBytes + state.batchBytes then
      throw (.accounting
        "Internal in-flight byte accounting exceeded its cap")
    else do
      environment.submit
      environment.observeMemory
      let state ← Program.query id
      if environment.maxPending ≤ state.pending.length then
        environment.drainOne
      else return ()

/-- `make_room_for_document`. -/
def makeRoomForDocument (limits : PipelineLimits) (documentBytes : Int) :
    Archiving Analysis Unit := do
  let state ← Program.query id
  if state.batch ≠ [] ∧ (limits.analysisBatchSize ≤ state.batch.length ∨
      (limits.maxAnalysisBatchBytes : Int) <
        state.batchBytes + documentBytes) then
    environment.submitBatch limits
  else pure ()
  environment.drainWhile fun state =>
    decide ((limits.maxInflightBytes : Int) <
      state.pendingBytes + state.batchBytes + documentBytes)
  let state ← Program.query id
  if (limits.maxAnalysisBatchBytes : Int) <
      state.batchBytes + documentBytes then
    throw (.accounting
      "Internal analysis batch byte accounting exceeded its cap")
  else if (limits.maxInflightBytes : Int) <
      state.pendingBytes + state.batchBytes + documentBytes then
    throw (.accounting
      "Internal in-flight byte accounting exceeded its cap")
  else return ()

/-- `future.cancel()`. -/
def cancel (entry : PendingBatch Analysis) : Archiving Analysis Unit :=
  environment.step fun state =>
    if state.pool entry.submission = .queued then
      { state with
        pool := Function.update state.pool entry.submission .cancelled }
    else state

/-- The wait for a batch that could not be cancelled. -/
def settle (entry : PendingBatch Analysis) : Archiving Analysis Unit := do
  let state ← Program.query id
  if state.pool entry.submission = .cancelled then return ()
  else environment.await entry.submission

/-- `settle_abandoned_work`. -/
def settleAbandonedWork : Archiving Analysis Unit := do
  let abandoned ← Program.query Pipeline.pending
  environment.step fun state => { state with pending := [], pendingBytes := 0 }
  Program.forEach abandoned environment.cancel
  Program.forEach abandoned environment.settle

/-! ## The loop over the members -/

/-- The turn of the loop for `_manifest.jsonl`. -/
def processManifest
    (limits : PipelineLimits) (extracted : Checked (List Byte)) :
    Archiving Analysis Unit := do
  let state ← Program.query id
  if state.report.isSome then
    raise (.valueError "Archive contains multiple internal manifests")
  else do
    environment.submitBatch limits
    environment.drainWhile fun _ => true
    environment.mayRaise
    let state ← Program.query id
    let report ← Program.lift
      ((environment.joinManifest extracted state.metrics).mapError .raised)
    environment.step fun state => { state with report := some report }

/-- `batch_member_paths.append(...)` and what follows. -/
def append (document : Document) : Archiving Analysis Unit :=
  environment.step fun state => { state with
    batch := state.batch ++ [document]
    batchBytes := state.batchBytes + document.content.length }

/-- The turn of the loop for a document. -/
def processDocument
    (limits : PipelineLimits) (member : TarMember)
    (extracted : Checked (List Byte)) : Archiving Analysis Unit := do
  let state ← Program.query id
  if state.report.isSome then
    raise (.valueError "Document member appears after internal manifest")
  else if limits.expectedDocuments ≤ state.documentsRead then
    raise (.valueError "document_rows exceed the manifest cap")
  else do
    environment.makeRoomForDocument limits member.size
    let payload ← Program.lift (extracted.mapError .raised)
    let content := payload.take (limits.maxDocumentBytes + 1)
    if limits.maxDocumentBytes < content.length then
      raise (.valueError "document exceeds the byte cap")
    else if (content.length : Int) ≠ member.size then
      raise (.valueError "Tar member size mismatch")
    else do
      environment.append ⟨member.name, content⟩
      environment.observeMemory
      environment.step fun state =>
        { state with documentsRead := state.documentsRead + 1 }
      let state ← Program.query id
      if limits.analysisBatchSize ≤ state.batch.length ∨
          limits.maxAnalysisBatchBytes ≤ state.batchBytes then
        environment.submitBatch limits
      else pure ()
      environment.mayRaise

/-- One turn of the loop over the members. -/
def processMember (limits : PipelineLimits) (member : TarMember) :
    Archiving Analysis Unit := do
  environment.mayRaise
  if member.isFile = false then
    raise (.valueError "Unexpected non-file tar member")
  else if member.name = "_manifest.jsonl" ∧
      (limits.maxManifestMemberBytes : Int) < member.size then
    raise (.valueError "member_bytes exceed the manifest cap")
  else if member.name ≠ "_manifest.jsonl" ∧
      (limits.maxDocumentBytes : Int) < member.size then
    raise (.valueError "document exceeds the byte cap")
  else
    match member.extracted with
    | none => raise (.valueError "Could not read tar member")
    | some extracted =>
        if member.name = "_manifest.jsonl" then
          environment.processManifest limits extracted
        else environment.processDocument limits member extracted

/-- The checks after the loop. -/
def checkReport (state : Pipeline Analysis) : Checked Unit := do
  let report ← requireObject state.report
    (.valueError "Archive is missing _manifest.jsonl")
  let _ ← require (report.documents = state.documentsRead)
    (.valueError "Document count mismatch")
  let _ ← require
    (report.documents = environment.quota.documents ∧
      report.cleanBytes = environment.quota.cleanBytes ∧
      report.exactTokens = environment.quota.exactTokens)
    (.valueError "Quota mismatch")
  return ()

/-- What `process_archive` does before it settles: the loop, the rest of the
stream, the checks and the publication. -/
def readArchive (limits : PipelineLimits) : Archiving Analysis Unit := do
  Program.forEach environment.members (environment.processMember limits)
  match environment.ending with
  | some error => raise error
  | none => pure ()
  environment.mayRaise
  Program.inspect fun state =>
    (environment.checkReport state).mapError .raised
  environment.mayRaise

/-- `process_archive`. -/
def processArchive (limits : PipelineLimits) : Archiving Analysis Unit := do
  tryCatch (environment.readArchive limits) fun failure => do
    environment.settleAbandonedWork
    throw failure
  environment.settleAbandonedWork

end PipelineEnvironment
end RawStream
end CodingLlm
