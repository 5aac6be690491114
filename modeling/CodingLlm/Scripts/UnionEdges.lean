import CodingLlm.Library.Table
import CodingLlm.Library.Transactions
import CodingLlm.Pretrain.Values
import Mathlib.Data.Finset.Sort

/-!
# The union phase of near-duplicate clustering

`EnglishNearDedupBuilder.union_edges` merges the documents that edges connect.
The parents table is authoritative; an array in memory mirrors it while edges
are consumed and parents flattened, and is rebuilt from it after a restart.
Ordinals index the array, so it is a function here.  A resource limit that
stops a run between two transactions is one of the kills.
-/

namespace CodingLlm

open CrashLogic

/-! ## The database -/

/-- `phase` of the metadata. -/
inductive NearPhase
  | inventory
  | signatures
  | candidates
  | cache
  | refine
  | union
  | emit
  | complete
  deriving DecidableEq, Repr

/-- A row of `edges`, without its kind. -/
structure Edge where
  leftDocument : Nat
  rightDocument : Nat
  deriving DecidableEq, Repr

/-- `union_flatten_cursor`. -/
structure FlattenCursor where
  document : Nat
  processedDocuments : Nat
  parentDocumentsTotal : Nat
  deriving DecidableEq, Repr

/-- `union_document_cursor`. -/
structure DocumentCursor where
  ordinal : Nat
  processedDocuments : Nat
  documentsTotal : Nat
  deriving DecidableEq, Repr

/-- The event of the finished phase. -/
structure UnionAudit where
  edges : Nat
  successfulComponentUnions : Nat
  parentDocuments : Nat
  rootedDocuments : Nat
  deriving DecidableEq, Repr

/-- The tables and metadata of the phase: `cluster_root` by ordinal, edges by
edge id, parents by document. -/
structure UnionDatabase where
  phase : NearPhase
  documents : Table Nat (Option Nat)
  edges : Table Nat Edge
  parents : Table Nat Nat
  unionEdgeCursor : Option Nat
  unionMerges : Option Nat
  unionFlattenCursor : Option FlattenCursor
  unionDocumentCursor : Option DocumentCursor
  events : List UnionAudit

/-- Programs of the phase. -/
abbrev UnionProgram (α : Type) : Type := Program UnionDatabase PyError α

/-- `EnglishNearDedupError`. -/
def nearDedupError (text : String) : PyError := .runtimeError text

/-- `COALESCE(MAX(key),0)`. -/
def maximumKey (table : Table Nat α) : Nat := table.keys.getLastD 0

/-! ## Limits -/

/-- What one call may do. -/
structure UnionLimits where
  batchSize : Nat
  maxNewEdges : Option Nat
  maxNewFinalizationDocuments : Option Nat

/-- A supplied limit must be positive. -/
def requireLimit (name : String) (limit : Option Nat) : Checked Unit := do
  let _ ← require (∀ value ∈ limit, 1 ≤ value)
    (nearDedupError (name ++ " must be positive when supplied"))
  return ()

/-- Nothing is left of a limit. -/
def limitReached (limit : Option Nat) (processed : Nat) : Bool :=
  limit.any fun value => value ≤ processed

/-- The size of the next batch. -/
def nextLimit (batchSize : Nat) (limit : Option Nat) (processed : Nat) : Nat :=
  match limit with
  | none => batchSize
  | some value => min batchSize (value - processed)

/-! ## Union and find -/

/-- `parent_array`. -/
abbrev ParentArray : Type := Nat -> Nat

/-- The array that the table fills. -/
def loadParents (parents : Table Nat Nat) : ParentArray :=
  fun document => (parents.lookup document).getD document

/-- The loop of `find`, for a number of steps. -/
def chase (parents : ParentArray) : Nat -> Nat -> Checked Nat
  | 0, current =>
      if parents current = current then .ok current
      else .error (.assertionError "Union parents form a cycle")
  | steps + 1, current =>
      if parents current = current then .ok current
      else chase parents steps (parents current)

/-- The array, if this call has loaded one. -/
def requireParents (parents : Option ParentArray) : Checked ParentArray :=
  match parents with
  | none => .error (.assertionError "Union parent array is unavailable")
  | some parents => .ok parents

/-- `find`: the root of a document, which becomes its parent. -/
def find (parents : ParentArray) (document : Nat) :
    Checked (Nat × ParentArray) := do
  let root ← chase parents document document
  return (root, Function.update parents document root)

/-- What a batch of edges has changed in memory. -/
structure UnionMemory where
  parents : ParentArray
  changed : Finset Nat
  merges : Nat
  cursor : Nat

/-- `union` of two roots: the larger becomes a child of the smaller. -/
def linkRoots (parents : ParentArray) (leftRoot rightRoot : Nat) :
    ParentArray :=
  Function.update parents (max leftRoot rightRoot) (min leftRoot rightRoot)

/-- The body of the loop over the rows of a batch, with `union`. -/
def unionRow (memory : UnionMemory) (row : Nat × Edge) :
    Checked UnionMemory := do
  let (leftRoot, parents) ← find memory.parents row.2.leftDocument
  let (rightRoot, parents) ← find parents row.2.rightDocument
  let changed := memory.changed ∪
    {row.2.leftDocument, row.2.rightDocument, leftRoot, rightRoot}
  if leftRoot = rightRoot then
    return ⟨parents, changed, memory.merges, row.1⟩
  else
    return ⟨linkRoots parents leftRoot rightRoot,
      insert (max leftRoot rightRoot) changed, memory.merges + 1, row.1⟩

/-! ## Consuming edges -/

/-- The variables of the loop over the edges. -/
structure EdgeLoop where
  parents : Option ParentArray
  cursor : Nat
  merges : Nat
  processed : Nat
  stopped : Bool

/-- Write the parents of some documents. -/
def writeParents (table : Table Nat Nat) (parents : ParentArray)
    (documents : List Nat) : Table Nat Nat :=
  documents.foldl (fun table document =>
    table.upsert document (parents document)) table

/-- One batch of edges in one transaction. -/
def unionBatch (loop : EdgeLoop) (rows : List (Nat × Edge)) :
    UnionProgram EdgeLoop := do
  let _ ← Program.lift (require (rows ≠ [])
    (nearDedupError
      "Union edge keyset ended before its frozen maximum edge id"))
  let parents ← Program.lift (requireParents loop.parents)
  let memory ← Program.lift
    (rows.foldlM unionRow ⟨parents, ∅, loop.merges, loop.cursor⟩)
  Program.commit fun database => { database with
    parents := writeParents database.parents memory.parents
      (memory.changed.sort (· ≤ ·))
    unionEdgeCursor := some memory.cursor
    unionMerges := some memory.merges }
  return ⟨some memory.parents, memory.cursor, memory.merges,
    loop.processed + rows.length, false⟩

/-- The body of the loop over the edges. -/
def edgeStep (limits : UnionLimits) (loop : EdgeLoop) :
    UnionProgram EdgeLoop :=
  if limitReached limits.maxNewEdges loop.processed then
    return { loop with stopped := true }
  else do
    let rows ← Program.query fun database =>
      (database.edges.after loop.cursor).take
        (nextLimit limits.batchSize limits.maxNewEdges loop.processed)
    unionBatch loop rows

/-- The loop over the edges; no more iterations than edges are needed. -/
def consumeEdges (limits : UnionLimits) (maximumEdgeId totalEdges : Nat)
    (loop : EdgeLoop) : UnionProgram EdgeLoop :=
  Program.whileLoop (.assertionError "Union edge loop made no progress")
    (fun loop => !loop.stopped && decide (loop.cursor < maximumEdgeId))
    (edgeStep limits) (totalEdges + 1) loop

/-! ## Flattening parents -/

/-- The variables of the loop that flattens parents. -/
structure FlattenLoop where
  parents : Option ParentArray
  cursor : Nat
  flattened : Nat
  finalizationUnits : Nat
  stopped : Bool

/-- The roots of a batch of documents, compressing each. -/
def findAll : Option ParentArray -> List Nat ->
    Checked (List (Nat × Nat) × Option ParentArray)
  | parents, [] => .ok ([], parents)
  | parents, document :: rest => do
      let array ← requireParents parents
      let (root, array) ← find array document
      let (updates, parents) ← findAll (some array) rest
      return ((document, root) :: updates, parents)

/-- `UPDATE parents SET parent=? WHERE document=?` for every update. -/
def updateParents (table : Table Nat Nat) (updates : List (Nat × Nat)) :
    Table Nat Nat :=
  updates.foldl (fun table update => table.modify fun document parent =>
    if document = update.1 then update.2 else parent) table

/-- One batch of parents in one transaction. -/
def flattenBatch (total : Nat) (loop : FlattenLoop) (rows : List Nat) :
    UnionProgram FlattenLoop := do
  let _ ← Program.lift (require (rows ≠ [])
    (nearDedupError "Union parent keyset ended before its frozen row count"))
  let (updates, parents) ← Program.lift (findAll loop.parents rows)
  let cursor := rows.getLastD loop.cursor
  let flattened := loop.flattened + updates.length
  Program.commit fun database => { database with
    parents := updateParents database.parents updates
    unionFlattenCursor := some ⟨cursor, flattened, total⟩ }
  return ⟨parents, cursor, flattened,
    loop.finalizationUnits + updates.length, false⟩

/-- The body of the loop that flattens parents. -/
def flattenStep (limits : UnionLimits) (total : Nat) (loop : FlattenLoop) :
    UnionProgram FlattenLoop :=
  if limitReached limits.maxNewFinalizationDocuments
      loop.finalizationUnits then
    return { loop with stopped := true }
  else do
    let rows ← Program.query fun database =>
      ((database.parents.after loop.cursor).take
        (nextLimit limits.batchSize limits.maxNewFinalizationDocuments
          loop.finalizationUnits)).map Prod.fst
    flattenBatch total loop rows

/-- The loop that flattens parents. -/
def flattenParents (limits : UnionLimits) (total : Nat) (loop : FlattenLoop) :
    UnionProgram FlattenLoop :=
  Program.whileLoop (.assertionError "Union flatten loop made no progress")
    (fun loop => !loop.stopped && decide (loop.flattened < total))
    (flattenStep limits total) (total + 1) loop

/-- Where flattening starts. -/
def openFlatten (parents : Option ParentArray)
    (flattenRow : Option FlattenCursor) (total : Nat) :
    Checked FlattenLoop :=
  match flattenRow with
  | none => .ok ⟨parents, 0, 0, 0, false⟩
  | some payload => do
      let _ ← require (payload.parentDocumentsTotal = total)
        (nearDedupError
          "Union parent inventory changed after flattening began")
      return ⟨parents, payload.document, payload.processedDocuments, 0, false⟩

/-- No child of a row of `parents` hangs below another child. -/
def parentsFlat (parents : Table Nat Nat) : Bool :=
  parents.rows.all fun child =>
    match parents.lookup child.2 with
    | none => true
    | some parent => parent = child.2

/-! ## Assigning roots -/

/-- The variables of the loop that assigns roots. -/
structure RootLoop where
  cursor : Nat
  rooted : Nat
  finalizationUnits : Nat
  stopped : Bool

/-- `UPDATE documents SET cluster_root=...` of the ordinals in a range. -/
def assignRoots (database : UnionDatabase) (lower upper : Nat) :
    Table Nat (Option Nat) :=
  database.documents.modify fun ordinal root =>
    if lower < ordinal ∧ ordinal ≤ upper then
      some ((database.parents.lookup ordinal).getD ordinal)
    else root

/-- One batch of documents in one transaction. -/
def rootBatch (documentCount : Nat) (loop : RootLoop) (rows : List Nat) :
    UnionProgram RootLoop := do
  let _ ← Program.lift (require (rows ≠ [])
    (nearDedupError "Union document keyset ended before its frozen row count"))
  let cursor := rows.getLastD loop.cursor
  let rooted := loop.rooted + rows.length
  Program.commit fun database => { database with
    documents := assignRoots database loop.cursor cursor
    unionDocumentCursor := some ⟨cursor, rooted, documentCount⟩ }
  return ⟨cursor, rooted, loop.finalizationUnits + rows.length, false⟩

/-- The body of the loop that assigns roots. -/
def rootStep (limits : UnionLimits) (documentCount : Nat) (loop : RootLoop) :
    UnionProgram RootLoop :=
  if limitReached limits.maxNewFinalizationDocuments
      loop.finalizationUnits then
    return { loop with stopped := true }
  else do
    let rows ← Program.query fun database =>
      ((database.documents.after loop.cursor).take
        (nextLimit limits.batchSize limits.maxNewFinalizationDocuments
          loop.finalizationUnits)).map Prod.fst
    rootBatch documentCount loop rows

/-- The loop that assigns roots. -/
def rootDocuments (limits : UnionLimits) (documentCount : Nat)
    (loop : RootLoop) : UnionProgram RootLoop :=
  Program.whileLoop (.assertionError "Union document loop made no progress")
    (fun loop => !loop.stopped && decide (loop.rooted < documentCount))
    (rootStep limits documentCount) (documentCount + 1) loop

/-- Where the assignment of roots starts. -/
def openRoots (documentRow : Option DocumentCursor)
    (documentCount finalizationUnits : Nat) : Checked RootLoop :=
  match documentRow with
  | none => .ok ⟨0, 0, finalizationUnits, false⟩
  | some payload => do
      let _ ← require (payload.documentsTotal = documentCount)
        (nearDedupError
          "Union document inventory changed after root assignment began")
      return ⟨payload.ordinal, payload.processedDocuments, finalizationUnits,
        false⟩

/-! ## The phase -/

/-- What a call reads before it starts. -/
structure UnionOpening where
  documentCount : Nat
  maximumOrdinal : Nat
  totalEdges : Nat
  maximumEdgeId : Nat
  cursor : Nat
  merges : Nat
  flattenRow : Option FlattenCursor
  documentRow : Option DocumentCursor
  parents : Option ParentArray

/-- The array is needed while edges are left or parents are not flat. -/
def needsParentArray (database : UnionDatabase) (cursor maximumEdgeId : Nat) :
    Bool :=
  decide (cursor < maximumEdgeId) ||
    match database.unionFlattenCursor with
    | none => decide (0 < database.parents.rows.length)
    | some probe =>
        decide (probe.processedDocuments < probe.parentDocumentsTotal)

/-- The checks and reads up to the first loop. -/
def openUnion (database : UnionDatabase) : Checked UnionOpening := do
  let documentCount := database.documents.rows.length
  let maximumOrdinal := maximumKey database.documents
  let _ ← require (documentCount = maximumOrdinal)
    (nearDedupError ("Frozen inventory ordinals are not dense; " ++
      "cannot use durable union accelerator"))
  let maximumEdgeId := maximumKey database.edges
  let cursor := database.unionEdgeCursor.getD 0
  let _ ← require (cursor ≤ maximumEdgeId)
    (nearDedupError "Union edge cursor exceeds the frozen edge inventory")
  return {
    documentCount, maximumOrdinal, maximumEdgeId, cursor
    totalEdges := database.edges.rows.length
    merges := database.unionMerges.getD 0
    flattenRow := database.unionFlattenCursor
    documentRow := database.unionDocumentCursor
    parents := if needsParentArray database cursor maximumEdgeId then
      some (loadParents database.parents) else none
  }

/-- `_advance("union", "emit", ...)`. -/
def advanceUnion (audit : UnionAudit) : UnionProgram Bool := do
  let phase ← Program.query UnionDatabase.phase
  let _ ← Program.lift (require (phase = .union)
    (nearDedupError "Cannot advance"))
  Program.commit fun database => { database with
    phase := .emit
    events := database.events ++ [audit] }
  return true

/-- From the last root on. -/
def closeRoots (opening : UnionOpening) (merges parentDocuments : Nat)
    (loop : RootLoop) : UnionProgram Bool :=
  if loop.stopped then return false
  else do
    let _ ← Program.lift (require (loop.cursor = opening.maximumOrdinal)
      (nearDedupError
        "Union document cursor does not cover the frozen inventory"))
    let rooted ← Program.query fun database =>
      database.documents.rows.all fun document => document.2.isSome
    let _ ← Program.lift (require (rooted = true)
      (nearDedupError "Missing final cluster roots"))
    advanceUnion ⟨opening.totalEdges, merges, parentDocuments, loop.rooted⟩

/-- The row of an empty parent inventory, which no batch writes. -/
def recordEmptyFlatten (flattenRow : Option FlattenCursor) (total : Nat) :
    UnionProgram Unit :=
  if total = 0 ∧ flattenRow = none then
    Program.commit fun database =>
      { database with unionFlattenCursor := some ⟨0, 0, 0⟩ }
  else return ()

/-- From the last flattened parent on. -/
def closeFlatten (limits : UnionLimits) (opening : UnionOpening)
    (merges total maximumParent : Nat) (loop : FlattenLoop) :
    UnionProgram Bool :=
  if loop.stopped then return false
  else do
    recordEmptyFlatten opening.flattenRow total
    let _ ← Program.lift (require (loop.cursor = maximumParent)
      (nearDedupError
        "Union parent flatten cursor does not cover the parent inventory"))
    let flat ← Program.query fun database => parentsFlat database.parents
    let _ ← Program.lift (require (flat = true)
      (nearDedupError "Union parent flattening is incomplete"))
    let start ← Program.lift (openRoots opening.documentRow
      opening.documentCount loop.finalizationUnits)
    let roots ← rootDocuments limits opening.documentCount start
    closeRoots opening merges total roots

/-- From the last edge on. -/
def closeEdges (limits : UnionLimits) (opening : UnionOpening)
    (loop : EdgeLoop) : UnionProgram Bool :=
  if loop.stopped then return false
  else do
    let _ ← Program.lift (require (loop.cursor = opening.maximumEdgeId)
      (nearDedupError "Union edge coverage mismatch"))
    let total ← Program.query fun database => database.parents.rows.length
    let maximumParent ← Program.query fun database =>
      maximumKey database.parents
    let start ← Program.lift
      (openFlatten loop.parents opening.flattenRow total)
    let flat ← flattenParents limits total start
    closeFlatten limits opening loop.merges total maximumParent flat

/-- `union_edges` in its phase. -/
def runUnion (limits : UnionLimits) : UnionProgram Bool := do
  Program.lift (requireLimit "max_new_edges" limits.maxNewEdges)
  Program.lift (requireLimit "max_new_finalization_documents"
    limits.maxNewFinalizationDocuments)
  let opening ← Program.inspect openUnion
  let edges ← consumeEdges limits opening.maximumEdgeId opening.totalEdges
    ⟨opening.parents, opening.cursor, opening.merges, 0, false⟩
  closeEdges limits opening edges

/-- `union_edges`: whether the phase is over. -/
def unionEdges (limits : UnionLimits) : UnionProgram Bool := do
  let phase ← Program.query UnionDatabase.phase
  if phase = .union then runUnion limits else return true

end CodingLlm
