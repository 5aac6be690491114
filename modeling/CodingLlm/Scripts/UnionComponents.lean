import CodingLlm.Scripts.UnionForest
import Mathlib.Data.Set.Card

/-!
# The union phase computes connected components

A forest goes with every database that a killed run can leave: the parents
table holds its parents, its trees are the components of the consumed edges,
and the cursors of the later stages say how much of it is flat and how many
documents have their roots.
-/

namespace CodingLlm

open CrashLogic
open UnionFind

/-! ## The inventory -/

/-- The root of a cluster: the least document connected to one. -/
def IsClusterRoot (edges : Table Nat Edge) (document root : Nat) : Prop :=
  IsLeast {other | Relation.EqvGen (Pairs edges.rows) other document} root

/-- The number of documents. -/
def UnionDatabase.documentCount (database : UnionDatabase) : Nat :=
  database.documents.rows.length

/-- The last consumed edge. -/
def UnionDatabase.edgeCursor (database : UnionDatabase) : Nat :=
  database.unionEdgeCursor.getD 0

/-- The successful unions so far. -/
def UnionDatabase.merges (database : UnionDatabase) : Nat :=
  database.unionMerges.getD 0

/-- The database as refinement leaves it: ordinals without gaps, edges between
them, no parents. -/
structure UnionInventory (database : UnionDatabase) : Prop where
  phase : database.phase = .union
  dense : ∀ ordinal, ordinal ∈ database.documents.keys ↔
    ordinal ∈ Finset.Icc 1 database.documentCount
  edgeIds : ∀ edgeId ∈ database.edges.keys, 0 < edgeId
  endpoints : Inside database.documentCount database.edges.rows
  parents : database.parents = Table.empty
  edgeCursor : database.unionEdgeCursor = none
  merges : database.unionMerges = none
  flattenCursor : database.unionFlattenCursor = none
  documentCursor : database.unionDocumentCursor = none

/-! ## What every committed database satisfies -/

/-- The parents table holds a forest of the edges consumed so far. -/
structure UnionStored (origin database : UnionDatabase) (forest : Forest) :
    Prop where
  documents : database.documents.keys = origin.documents.keys
  edges : database.edges = origin.edges
  reached : origin.edges.Passed 0 database.edgeCursor
    (origin.edges.upTo database.edgeCursor).length
  consumed : Consumed origin.documentCount
    (origin.edges.upTo database.edgeCursor) database.merges forest
  loaded : loadParents database.parents = forest.parent
  parents : ∀ document ∈ database.parents.keys,
    document ∈ Finset.Icc 1 origin.documentCount

/-- Every edge has been consumed. -/
def UnionDatabase.EdgesConsumed (database : UnionDatabase) : Prop :=
  database.edgeCursor = maximumKey database.edges

/-- The parents up to a cursor are roots. -/
structure Flattened (database : UnionDatabase) (forest : Forest)
    (cursor processed : Nat) : Prop where
  passed : database.parents.Passed 0 cursor processed
  flat : ∀ document ∈ database.parents.keys, document ≤ cursor ->
    forest.parent document = forest.root document

/-- Every parent is a root. -/
def UnionDatabase.FlattenFinished (database : UnionDatabase) : Prop :=
  ∃ payload ∈ database.unionFlattenCursor,
    payload.processedDocuments = payload.parentDocumentsTotal

/-- The documents up to a cursor have their roots. -/
structure Rooted (database : UnionDatabase) (forest : Forest)
    (cursor processed : Nat) : Prop where
  passed : database.documents.Passed 0 cursor processed
  roots : ∀ document ∈ database.documents.keys, document ≤ cursor ->
    database.documents.lookup document = some (some (forest.root document))

/-- The phase is over: every document has its root. -/
structure UnionFinished (origin database : UnionDatabase) (forest : Forest) :
    Prop where
  phase : database.phase = .emit
  consumed : database.EdgesConsumed
  roots : ∀ document ∈ database.documents.keys,
    database.documents.lookup document = some (some (forest.root document))
  events : database.events = origin.events ++ [⟨origin.edges.rows.length,
    database.merges, database.parents.rows.length, origin.documentCount⟩]

/-- What a kill can leave behind. -/
structure UnionState (origin database : UnionDatabase) (forest : Forest) :
    Prop where
  stored : UnionStored origin database forest
  flattened : ∀ payload ∈ database.unionFlattenCursor,
    database.EdgesConsumed ∧
    payload.parentDocumentsTotal = database.parents.rows.length ∧
    Flattened database forest payload.document payload.processedDocuments
  rooted : ∀ payload ∈ database.unionDocumentCursor,
    database.FlattenFinished ∧
    payload.documentsTotal = origin.documentCount ∧
    Rooted database forest payload.ordinal payload.processedDocuments
  phase : database.phase = .union ∧ database.events = origin.events ∨
    UnionFinished origin database forest

/-- A database with some forest. -/
def Recoverable (origin database : UnionDatabase) : Prop :=
  ∃ forest, UnionState origin database forest

section Inventory

variable {origin : UnionDatabase}

theorem UnionInventory.upTo_zero (inventory : UnionInventory origin) :
    origin.edges.upTo 0 = [] := by
  have start := Table.passed_start inventory.edgeIds
  exact List.length_eq_zero_iff.mp start.counted

/-- The phase starts with single documents. -/
theorem UnionInventory.recoverable (inventory : UnionInventory origin) :
    Recoverable origin origin := by
  have cursor : origin.edgeCursor = 0 := by
    rw [UnionDatabase.edgeCursor, inventory.edgeCursor]
    rfl
  have merges : origin.merges = 0 := by
    rw [UnionDatabase.merges, inventory.merges]
    rfl
  refine ⟨Forest.discrete, ⟨rfl, rfl, ?_, ?_, ?_, ?_⟩, ?_, ?_,
    .inl ⟨inventory.phase, rfl⟩⟩
  · rw [cursor, inventory.upTo_zero]
    exact Table.passed_start inventory.edgeIds
  · rw [cursor, merges, inventory.upTo_zero]
    exact consumed_nil _
  · rw [inventory.parents]
    rfl
  · intro document member
    rw [inventory.parents] at member
    exact absurd member List.not_mem_nil
  · intro payload member
    rw [inventory.flattenCursor] at member
    cases member
  · intro payload member
    rw [inventory.documentCursor] at member
    cases member

/-- Ordinals without gaps are as many as the largest of them. -/
theorem UnionInventory.maximumOrdinal
    (inventory : UnionInventory origin)
    {database : UnionDatabase}
    (sameKeys : database.documents.keys = origin.documents.keys) :
    database.documentCount = origin.documentCount ∧
      maximumKey database.documents = origin.documentCount := by
  have lengths := congrArg List.length sameKeys
  simp only [Table.keys, List.length_map] at lengths
  refine ⟨lengths, ?_⟩
  have members (ordinal : Nat) : ordinal ∈ database.documents.keys ↔
      ordinal ∈ Finset.Icc 1 origin.documentCount := by
    rw [sameKeys]
    exact inventory.dense ordinal
  by_cases isEmpty : database.documents.keys = []
  · have noRows : origin.documentCount = 0 :=
      List.length_eq_zero_iff.mpr
        (List.map_eq_nil_iff.mp (sameKeys.symm.trans isEmpty))
    rw [maximumKey, isEmpty, noRows]
    rfl
  · have upper := (members _).mp (maximumKey_mem isEmpty)
    rw [Finset.mem_Icc] at upper
    refine le_antisymm upper.2 (le_maximumKey ((members _).mpr ?_))
    rw [Finset.mem_Icc]
    exact ⟨upper.1.trans upper.2, le_rfl⟩

end Inventory

section Stored

variable {origin database : UnionDatabase} {forest : Forest}

theorem UnionStored.parent_positive
    (stored : UnionStored origin database forest) :
    ∀ document ∈ database.parents.keys, 0 < document := by
  intro document member
  exact (Finset.mem_Icc.mp (stored.parents document member)).1

/-- A document without a row is its own parent. -/
theorem UnionStored.parent_of_not_mem
    (stored : UnionStored origin database forest)
    {document : Nat} (absent : document ∉ database.parents.keys) :
    forest.parent document = document := by
  rw [← stored.loaded, loadParents,
    database.parents.lookup_eq_none_iff.mpr absent]
  rfl

theorem UnionStored.cursor_le
    (stored : UnionStored origin database forest) :
    database.edgeCursor ≤ maximumKey origin.edges := by
  rcases stored.reached.reached with atStart | isKey
  · rw [atStart]
    exact Nat.zero_le _
  · exact le_maximumKey isKey

/-- With every edge consumed, the trees are the clusters. -/
theorem UnionStored.isClusterRoot
    (stored : UnionStored origin database forest)
    (consumed : database.EdgesConsumed) (document : Nat) :
    IsClusterRoot origin.edges document (forest.root document) := by
  have all : origin.edges.upTo database.edgeCursor = origin.edges.rows := by
    have whole := origin.edges.upTo_append_after database.edgeCursor
    have noMore : origin.edges.after database.edgeCursor = [] := by
      rw [Table.after_eq_nil_iff]
      intro key member
      rw [consumed, stored.edges]
      exact le_maximumKey member
    rw [noMore, List.append_nil] at whole
    exact whole
  have least := stored.consumed.represents.isLeast document
  rw [all] at least
  exact least

/-- After the last batch every parent is a root. -/
theorem UnionStored.flat
    (stored : UnionStored origin database forest)
    {cursor processed : Nat}
    (flattened : Flattened database forest cursor processed)
    (finished : database.parents.rows.length ≤ processed) (document : Nat) :
    forest.parent document = forest.root document := by
  by_cases member : document ∈ database.parents.keys
  · exact flattened.flat document member
      (flattened.passed.key_le finished member)
  · have fixed := stored.parent_of_not_mem member
    rw [fixed, forest.root_of_fixed fixed]

end Stored

end CodingLlm
