import CodingLlm.Library.HeapMerge
import CodingLlm.Scripts.Canonicalize

/-!
# Split groups and exact quotas

`CurationBuilder.assign_splits_and_quotas`: every source group with an accepted
document gets a split from its digest, and the documents of every split and
category are selected in the order of their ranks up to the exact quota.
-/

namespace CodingLlm

open CrashLogic

/-! ## Splits of groups -/

/-- The categories of quotas. -/
def categories : List Category := [.python, .otherCode, .english]

/-- The splits, in `split_order`. -/
def splitOrder : List Split := [.test, .validation, .train]

namespace Quotas

/-- The target tokens of a split. -/
def total (quotas : Quotas) (split : Split) : Nat :=
  (categories.map (quotas.target split)).sum

/-- The target tokens of all splits. -/
def grand (quotas : Quotas) : Nat :=
  (splitOrder.map quotas.total).sum

end Quotas

/-- `split_thresholds`. -/
def splitThresholds (quotas : Quotas) : List (Split × Nat) :=
  let maximum := 2 ^ 64
  let testEnd := maximum * quotas.total .test / quotas.grand
  let validationEnd :=
    testEnd + maximum * quotas.total .validation / quotas.grand
  [(.test, testEnd), (.validation, validationEnd), (.train, maximum)]

/-- The loop of `assign_group_split`. -/
def splitOfValue (value : Nat) : List (Split × Nat) -> Checked Split
  | [] => .error (.assertionError "final split threshold must cover uint64")
  | (split, limit) :: rest =>
      if value < limit then .ok split else splitOfValue value rest

/-! ## Candidates of a quota -/

/-- `(selection_rank, doc_id)`. -/
abbrev QuotaKey : Type := Digest ×ₗ Digest

/-- The buckets of a category, in the order of their names. -/
def Category.buckets (category : Category) : List Bucket :=
  [Bucket.finewebEdu, .otherCode, .python, .wikipedia].filter fun bucket =>
    bucket.category = category

/-- A document is a candidate for a split. -/
def CurationTables.IsCandidate (tables : CurationTables) (split : Split)
    (row : Digest × Document) : Prop :=
  tables.groups.lookup row.2.sourceGroup = some split ∧
    tables.ReasonFree row.1

instance (tables : CurationTables) (split : Split)
    (row : Digest × Document) : Decidable (tables.IsCandidate split row) :=
  inferInstanceAs (Decidable (_ ∧ _))

/-- The key and the tokens of a document. -/
def quotaRow (row : Digest × Document) : QuotaKey × Nat :=
  (toLex (row.2.selectionRank, row.1), row.2.tokens)

/-- `QUOTA_CANDIDATE_SQL` without its cursor. -/
def quotaCandidates (tables : CurationTables) (split : Split)
    (bucket : Bucket) : Table QuotaKey Nat :=
  Table.indexBy ((tables.documents.rows.filter fun row =>
    decide (row.2.bucket = bucket) &&
      decide (tables.IsCandidate split row)).map quotaRow)

/-- `iter_merged_quota_candidate_rows`, for the buckets of a category. -/
def mergedQuotaCandidates (tables : CurationTables) (split : Split)
    (category : Category) (after : Option QuotaKey) : List (QuotaKey × Nat) :=
  HeapMerge.merge (category.buckets.map fun bucket =>
    (quotaCandidates tables split bucket).fromCursor after)

/-! ## Selecting a quota -/

/-- A batch of selected documents. -/
structure QuotaBatch where
  rows : List (Digest × Nat)
  tokens : Nat
  last : Option QuotaKey

/-- The loop over the candidates of a batch. -/
def fillBatch (batchSize remaining : Nat) :
    List (QuotaKey × Nat) -> QuotaBatch -> QuotaBatch
  | [], batch => batch
  | (key, tokens) :: rest, batch =>
      let count := min tokens (remaining - batch.tokens)
      if count = 0 then batch
      else
        let next : QuotaBatch :=
          ⟨batch.rows ++ [((ofLex key).2, count)], batch.tokens + count,
            some key⟩
        if batchSize ≤ next.rows.length ∨ next.tokens = remaining then next
        else fillBatch batchSize remaining rest next

/-- `SUM(processed_rows)` of the quotas. -/
def quotaProgressRows (progress : Subphase -> Option Progress) : Nat :=
  (splitOrder.flatMap fun split => categories.map fun category =>
    ((progress (.selectionQuota split category)).map
      Progress.processedRows).getD 0).sum

/-- `INSERT INTO selected`. -/
def insertSelected (split : Split) (selected : Table Digest Selection)
    (row : Digest × Nat) : Checked (Table Digest Selection) :=
  insertRow selected (row.1, ⟨split, row.2⟩)

/-- The key after which the next batch of a quota starts. -/
def quotaCursor (progress : Progress) : Checked (Option QuotaKey) :=
  match progress.cursor with
  | .rank last => .ok last
  | _ => .error (curationError "Invalid quota cursor")

/-- The variables of the loop over a quota. -/
structure QuotaLoop where
  progress : Progress
  remaining : Nat

/-- The transaction of a batch. -/
def commitQuotaBatch (split : Split) (category : Category)
    (batch : QuotaBatch) (last : QuotaKey) : CurationProgram Progress :=
  Program.effect fun database => do
    let selected ← batch.rows.foldlM (insertSelected split) database.selected
    commitBoundedBatch (.selectionQuota split category) (.rank (some last))
      batch.rows.length batch.tokens none
      { database with
        selected := selected
        durable := { database.durable with
          selectedDocuments :=
            database.durable.selectedDocuments + batch.rows.length } }

/-- The error of a quota without enough candidates. -/
def shortError : PyError :=
  curationError "Split is short by tokens after filtering/grouping"

/-- The body of the loop over a quota. -/
def quotaStep (batchSize : Nat) (split : Split) (category : Category)
    (loop : QuotaLoop) : CurationProgram QuotaLoop := do
  let cursor ← Program.lift (quotaCursor loop.progress)
  let candidates ← Program.query fun database =>
    mergedQuotaCandidates database.tables split category cursor
  let batch := fillBatch batchSize loop.remaining candidates ⟨[], 0, none⟩
  match batch.last with
  | none => Program.raise shortError
  | some last => do
      let progress ← commitQuotaBatch split category batch last
      return ⟨progress, loop.remaining - batch.tokens⟩

/-! ## Validation of a quota -/

/-- `d.selection_rank < ? OR (d.selection_rank = ? AND d.doc_id <= ?)`. -/
def inPrefix (cursor key : QuotaKey) : Bool :=
  decide ((ofLex key).1 < (ofLex cursor).1) ||
    (decide ((ofLex key).1 = (ofLex cursor).1) &&
      decide ((ofLex key).2 ≤ (ofLex cursor).2))

/-- `d.selection_rank < ? OR d.doc_id < ?`. -/
def beforeTerminal (cursor key : QuotaKey) : Bool :=
  decide ((ofLex key).1 < (ofLex cursor).1) ||
    decide ((ofLex key).2 < (ofLex cursor).2)

/-- The candidates of a bucket up to a cursor. -/
def prefixRows (tables : CurationTables) (split : Split) (cursor : QuotaKey)
    (bucket : Bucket) : List (QuotaKey × Nat) :=
  (quotaCandidates tables split bucket).rows.filter fun row =>
    inPrefix cursor row.1

/-- The selected tokens of the terminal document, and its tokens. -/
def terminalTokens (database : CurationDatabase) (split : Split)
    (docId : Digest) : Option (Nat × Nat) :=
  (database.selected.lookup docId).bind fun selection =>
    (database.tables.documents.lookup docId).bind fun document =>
      if selection.split = split then
        some (selection.selectedTokens, document.tokens)
      else none

/-- `_validate_quota_prefix`. -/
def validateQuotaPrefix (setting : CurationSetting) (split : Split)
    (category : Category) (progress : Progress)
    (database : CurationDatabase) : Checked Unit :=
  match progress.cursor with
  | .rank (some cursor) => do
      let rows := category.buckets.flatMap
        (prefixRows database.tables split cursor)
      let before := ((rows.filter fun row =>
        beforeTerminal cursor row.1).map Prod.snd).sum
      let missing := (rows.filter fun row =>
        !decide (database.selected.Uses (ofLex row.1).2)).length
      let _ ← require (rows.length = progress.processedRows ∧ missing = 0 ∧
          ∃ terminal ∈ terminalTokens database split (ofLex cursor).2,
            terminal.1 + before = setting.quotas.target split category ∧
              1 ≤ terminal.1 ∧ terminal.1 ≤ terminal.2)
        (curationError "Deterministic quota-prefix validation failed")
      return ()
  | _ => .error (curationError "Completed quota cursor is invalid")

/-- `_validate_quota_prefix` on the database. -/
def checkQuotaPrefix (setting : CurationSetting) (split : Split)
    (category : Category) (progress : Progress) : CurationProgram Unit :=
  Program.inspect (validateQuotaPrefix setting split category progress)

/-- The loop over a quota and its completion. -/
def fillQuota (setting : CurationSetting) (batchSize : Nat) (split : Split)
    (category : Category) (progress : Progress) : CurationProgram Unit := do
  let target := setting.quotas.target split category
  checkThat (progress.processedTokens ≤ target)
    "Quota progress exceeds target"
  let loop ← Program.whileLoop
    (.assertionError "Quota loop made no progress")
    (fun loop => decide (loop.remaining ≠ 0))
    (quotaStep batchSize split category)
    (target - progress.processedTokens)
    ⟨progress, target - progress.processedTokens⟩
  checkThat (loop.progress.processedTokens = target)
    "Final quota accounting mismatch"
  completeSubphase (.selectionQuota split category)
  checkQuotaPrefix setting split category loop.progress

/-- `_select_quota_bounded`. -/
def selectQuota (setting : CurationSetting) (batchSize : Nat) (split : Split)
    (category : Category) : CurationProgram Unit := do
  let progress ← startSubphase (.selectionQuota split category) (.rank none)
  let counters ← Program.query fun database =>
    (database.durable.selectedDocuments, quotaProgressRows database.progress)
  checkThat (counters.1 = counters.2)
    "Durable/global quota row counters disagree"
  if progress.status = .complete then do
    checkThat (progress.processedTokens =
        setting.quotas.target split category)
      "Completed quota changed"
    checkQuotaPrefix setting split category progress
  else fillQuota setting batchSize split category progress

/-! ## The groups -/

/-- `assign_group_split`. -/
def CurationSetting.assignGroupSplit (setting : CurationSetting)
    (groupId : Digest) : Checked Split :=
  splitOfValue (setting.stableDigestBytes ("split:" ++ setting.seed)
    groupId).leadingWord (splitThresholds setting.quotas)

/-- `SELECT DISTINCT d.source_group` of the documents without reasons, with
the split of each; no digest is beyond the last threshold. -/
def assignedGroups (setting : CurationSetting) (tables : CurationTables) :
    Table Digest Split :=
  (Table.distinct ((acceptedRows tables).map fun row =>
    row.2.sourceGroup)).filterMap fun groupId _ =>
      (setting.assignGroupSplit groupId).toOption

/-- The loop that inserts the groups. -/
def groupsPass (setting : CurationSetting) : KeysetPass where
  Row := Split
  subphase := .selectionGroups
  cursorError := "Invalid split-group keyset cursor"
  orderError := none
  select := assignedGroups setting
  write := fun tables row => do
    let groups ← insertRow tables.groups row
    return { tables with groups }

/-- No group is missing, extra or in another split. -/
def checkGroups (setting : CurationSetting) (processedRows : Nat)
    (text : String) : CurationProgram Unit := do
  let tables ← Program.query CurationDatabase.tables
  let groups := tables.groups.rows
  checkThat ((assignedGroups setting tables).rows.length = groups.length ∧
    (∀ row ∈ groups, row ∈ (assignedGroups setting tables).rows) ∧
    processedRows = groups.length) text

/-- The first phase of `assign_splits_and_quotas`. -/
def assignGroups (setting : CurationSetting) (batchSize : Nat) :
    CurationProgram Unit := do
  let phase ← Program.query CurationDatabase.phase
  if phase ≠ .canonicalized then return ()
  else do
    let progress ← (groupsPass setting).run batchSize
    if progress.status = .complete then
      checkGroups setting progress.processedRows
        "Completed split-group table changed"
    else do
      checkGroups setting progress.processedRows
        "Split-group coverage/accounting validation failed"
      completeSubphase .selectionGroups

end CodingLlm
