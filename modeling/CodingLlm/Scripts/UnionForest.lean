import CodingLlm.Library.UnionFind
import CodingLlm.Scripts.UnionEdges

/-!
# The parent array as a forest

What `find`, `union` and the writes of the union phase compute, in terms of a
forest whose parents are the array.
-/

namespace CodingLlm

open UnionFind

/-! ## Keys -/

section MaximumKey

variable {table : Table Nat α}

theorem maximumKey_eq_getLast (nonempty : table.keys ≠ []) :
    maximumKey table = table.keys.getLast nonempty := by
  unfold maximumKey
  rw [List.getLastD_eq_getLast?, List.getLast?_eq_some_getLast nonempty]
  rfl

theorem maximumKey_mem (nonempty : table.keys ≠ []) :
    maximumKey table ∈ table.keys := by
  rw [maximumKey_eq_getLast nonempty]
  exact List.getLast_mem nonempty

theorem le_maximumKey {key : Nat} (member : key ∈ table.keys) :
    key ≤ maximumKey table := by
  have nonempty : table.keys ≠ [] := List.ne_nil_of_mem member
  have sorted := table.keys_sorted
  rw [maximumKey_eq_getLast nonempty]
  rw [← List.dropLast_append_getLast nonempty, List.pairwise_append] at sorted
  rw [← List.dropLast_append_getLast nonempty, List.mem_append,
    List.mem_singleton] at member
  rcases member with before | isLast
  · exact (sorted.2.2 key before _ (List.mem_singleton_self _)).le
  · exact isLast.le

/-- The cursor of a finished pass is the largest key. -/
theorem eq_maximumKey
    {cursor count : Nat}
    (passed : table.Passed 0 cursor count)
    (finished : table.rows.length ≤ count) : cursor = maximumKey table := by
  by_cases isEmpty : table.keys = []
  · have atStart : cursor = 0 := passed.reached.resolve_right (by
      rw [isEmpty]
      exact List.not_mem_nil)
    rw [atStart, maximumKey, isEmpty]
    rfl
  · have upper := passed.key_le finished (maximumKey_mem isEmpty)
    rcases passed.reached with atStart | isKey
    · omega
    · exact le_antisymm (le_maximumKey isKey) upper

/-- The last key of a batch. -/
theorem getLastD_keys
    {rows : List (Nat × α)} {last : Nat × α}
    (isLast : rows.getLast? = some last) (default : Nat) :
    (rows.map Prod.fst).getLastD default = last.1 := by
  rw [List.getLastD_eq_getLast?, List.getLast?_map, isLast]
  rfl

end MaximumKey

/-! ## Find -/

/-- As many steps as the document has ordinals below it reach the root. -/
theorem chase_parent
    (forest : Forest) {steps node : Nat} (enough : node ≤ steps) :
    chase forest.parent steps node = .ok (forest.root node) := by
  induction steps generalizing node with
  | zero =>
      have below := forest.parent_le node
      have fixed : forest.parent node = node := by omega
      rw [chase, if_pos fixed, forest.root_of_fixed fixed]
  | succ steps inductionHypothesis =>
      by_cases fixed : forest.parent node = node
      · rw [chase, if_pos fixed, forest.root_of_fixed fixed]
      · have below := Nat.lt_of_le_of_ne (forest.parent_le node) fixed
        rw [chase, if_neg fixed, inductionHypothesis (by omega),
          forest.root_parent]

/-- `find` returns the root and compresses the document. -/
theorem find_parent (forest : Forest) (document : Nat) :
    find forest.parent document =
      .ok (forest.root document, (forest.compress document).parent) := by
  unfold find
  rw [chase_parent forest le_rfl]
  rfl

/-- What a list of documents is found to be. -/
theorem findAll_parent (forest : Forest) (documents : List Nat) :
    findAll (some forest.parent) documents =
      .ok (documents.map fun document => (document, forest.root document),
        some (forest.compressAll documents).parent) := by
  induction documents generalizing forest with
  | nil => rfl
  | cons document rest inductionHypothesis =>
      have later := inductionHypothesis (forest.compress document)
      rw [Forest.root_compress] at later
      unfold findAll requireParents
      simp only [checked_ok_bind, find_parent, later]
      rfl

/-! ## One edge -/

/-- The documents that an edge touches. -/
def touched (forest : Forest) (edge : Edge) : Finset Nat :=
  {edge.leftDocument, edge.rightDocument, forest.root edge.leftDocument,
    forest.root edge.rightDocument}

/-- Whether an edge joins two trees. -/
def joins (forest : Forest) (edge : Edge) : Nat :=
  if forest.root edge.leftDocument = forest.root edge.rightDocument then 0
  else 1

theorem max_mem_touched (forest : Forest) (edge : Edge) :
    max (forest.root edge.leftDocument) (forest.root edge.rightDocument) ∈
      touched forest edge := by
  unfold touched
  rcases max_choice (forest.root edge.leftDocument)
    (forest.root edge.rightDocument) with isLeft | isRight
  · rw [isLeft]
    simp
  · rw [isRight]
    simp

/-- A row of a batch is a union of the forest. -/
theorem unionRow_parent
    (forest : Forest) {memory : UnionMemory}
    (same : memory.parents = forest.parent) (row : Nat × Edge) :
    unionRow memory row = .ok ⟨
      (forest.union row.2.leftDocument row.2.rightDocument).parent,
      memory.changed ∪ touched forest row.2,
      memory.merges + joins forest row.2, row.1⟩ := by
  have second := find_parent (forest.compress row.2.leftDocument)
    row.2.rightDocument
  rw [Forest.root_compress] at second
  unfold unionRow
  rw [same]
  simp only [find_parent, second, checked_ok_bind]
  by_cases sameRoot : forest.root row.2.leftDocument =
      forest.root row.2.rightDocument
  · rw [if_pos sameRoot]
    simp only [Forest.union, joins, sameRoot, if_true]
    unfold touched
    rw [sameRoot]
    rfl
  · rw [if_neg sameRoot]
    simp only [Forest.union, joins, sameRoot, if_false]
    have included := Finset.mem_union_right memory.changed
      (max_mem_touched forest row.2)
    have absorbed := Finset.insert_eq_of_mem included
    unfold touched at absorbed ⊢
    rw [absorbed]
    rfl

/-! ## A batch of edges -/

/-- The forest that the rows of a batch make. -/
def unionAll (forest : Forest) (rows : List (Nat × Edge)) : Forest :=
  rows.foldl (fun forest row =>
    forest.union row.2.leftDocument row.2.rightDocument) forest

/-- The pairs of a list of rows. -/
def Pairs (rows : List (Nat × Edge)) (first second : Nat) : Prop :=
  ∃ row ∈ rows, row.2.leftDocument = first ∧ row.2.rightDocument = second

theorem pairs_append (front back : List (Nat × Edge)) (first second : Nat) :
    Pairs (front ++ back) first second ↔
      Pairs front first second ∨ Pairs back first second := by
  unfold Pairs
  simp only [List.mem_append, or_and_right, exists_or]

theorem pairs_singleton (row : Nat × Edge) (first second : Nat) :
    Pairs [row] first second ↔
      first = row.2.leftDocument ∧ second = row.2.rightDocument := by
  unfold Pairs
  simp only [List.mem_singleton, exists_eq_left]
  exact and_congr eq_comm eq_comm

/-- Both documents of every row are ordinals up to a count. -/
def Inside (count : Nat) (rows : List (Nat × Edge)) : Prop :=
  ∀ row ∈ rows, row.2.leftDocument ∈ Finset.Icc 1 count ∧
    row.2.rightDocument ∈ Finset.Icc 1 count

/-- A forest that has consumed some edges with a number of merges. -/
structure Consumed (count : Nat) (edges : List (Nat × Edge)) (merges : Nat)
    (forest : Forest) : Prop where
  inside : Inside count edges
  represents : forest.Represents (Pairs edges)
  counted : merges + (forest.roots count).card = count

section Consumed

variable {count merges : Nat} {edges : List (Nat × Edge)} {forest : Forest}

/-- No edge consumed, no merge. -/
theorem consumed_nil (count : Nat) :
    Consumed count [] 0 Forest.discrete where
  inside := List.forall_mem_nil _
  represents := by
    refine Forest.represents_discrete.congr fun first second => ?_
    simp [Pairs]
  counted := by
    rw [Forest.roots_discrete, Nat.card_Icc]
    omega

/-- Documents of the inventory have roots in it. -/
theorem Consumed.root_mem
    (consumed : Consumed count edges merges forest)
    {document : Nat} (member : document ∈ Finset.Icc 1 count) :
    forest.root document ∈ Finset.Icc 1 count := by
  have linked : Relation.EqvGen (Pairs edges) (forest.root document)
      document := (consumed.represents.isLeast document).1
  have kept {first second : Nat}
      (generated : Relation.EqvGen (Pairs edges) first second) :
      first ∈ Finset.Icc 1 count ↔ second ∈ Finset.Icc 1 count := by
    induction generated with
    | rel first second pair =>
        obtain ⟨row, inEdges, rfl, rfl⟩ := pair
        exact iff_of_true (consumed.inside row inEdges).1
          (consumed.inside row inEdges).2
    | refl => exact Iff.rfl
    | symm _ _ _ inductionHypothesis => exact inductionHypothesis.symm
    | trans _ _ _ _ _ first second => exact first.trans second
  exact (kept linked).mpr member

/-- One more edge. -/
theorem Consumed.union
    (consumed : Consumed count edges merges forest)
    (row : Nat × Edge) (rowInside : Inside count [row]) :
    Consumed count (edges ++ [row]) (merges + joins forest row.2)
      (forest.union row.2.leftDocument row.2.rightDocument) where
  inside := by
    intro other member
    rcases List.mem_append.mp member with earlier | isRow
    · exact consumed.inside other earlier
    · exact rowInside other isRow
  represents := by
    refine (consumed.represents.union _ _).congr fun first second => ?_
    rw [pairs_append, pairs_singleton]
  counted := by
    have endpoints := rowInside row (List.mem_singleton_self row)
    have before := consumed.counted
    unfold joins
    by_cases same : forest.root row.2.leftDocument =
        forest.root row.2.rightDocument
    · rw [if_pos same, Forest.roots_union_of_eq _ _ same]
      exact before
    · have fewer := forest.card_roots_union same
        (Finset.mem_Icc.mp (consumed.root_mem endpoints.1)).1
        (Finset.mem_Icc.mp endpoints.1).2 (Finset.mem_Icc.mp endpoints.2).2
      rw [if_neg same]
      omega

/-- Only the roots of the forest count. -/
theorem Consumed.of_root
    (consumed : Consumed count edges merges forest)
    {other : Forest} (sameRoots : other.root = forest.root) :
    Consumed count edges merges other where
  inside := consumed.inside
  represents := consumed.represents.of_root sameRoots
  counted := by
    rw [Forest.roots_of_root sameRoots]
    exact consumed.counted

theorem Consumed.touched_subset
    (consumed : Consumed count edges merges forest)
    {row : Nat × Edge} (rowInside : Inside count [row]) :
    touched forest row.2 ⊆ Finset.Icc 1 count := by
  have endpoints := rowInside row (List.mem_singleton_self row)
  intro document member
  simp only [touched, Finset.mem_insert, Finset.mem_singleton] at member
  rcases member with rfl | rfl | rfl | rfl
  · exact endpoints.1
  · exact endpoints.2
  · exact consumed.root_mem endpoints.1
  · exact consumed.root_mem endpoints.2

end Consumed

/-- What holds of the memory of a batch after some of its rows: every document
whose parent differs from the table's is among the changed ones. -/
structure Batched (count : Nat) (stored : ParentArray)
    (edges : List (Nat × Edge)) (cursor : Nat) (forest : Forest)
    (memory : UnionMemory) : Prop where
  consumed : Consumed count edges memory.merges forest
  parents : memory.parents = forest.parent
  unchanged : ∀ document ∉ memory.changed,
    forest.parent document = stored document
  changed_subset : memory.changed ⊆ Finset.Icc 1 count
  cursor_eq : memory.cursor = cursor

theorem batched_row
    {count : Nat} {stored : ParentArray} {edges : List (Nat × Edge)}
    {cursor : Nat} {forest : Forest} {memory : UnionMemory}
    (batched : Batched count stored edges cursor forest memory)
    {row : Nat × Edge} (rowInside : Inside count [row]) :
    ∃ next, unionRow memory row = .ok next ∧
      Batched count stored (edges ++ [row]) row.1
        (forest.union row.2.leftDocument row.2.rightDocument) next := by
  refine ⟨_, unionRow_parent forest batched.parents row, ?_⟩
  refine ⟨batched.consumed.union row rowInside, rfl, ?_, ?_, rfl⟩
  · intro document absent
    rw [Finset.mem_union, not_or] at absent
    obtain ⟨notChanged, notTouched⟩ := absent
    have notLower : document ≠ max (forest.root row.2.leftDocument)
        (forest.root row.2.rightDocument) := fun same =>
      notTouched (same ▸ max_mem_touched forest row.2)
    simp only [touched, Finset.mem_insert, Finset.mem_singleton, not_or]
      at notTouched
    rw [forest.parent_union_of_ne notTouched.1 notTouched.2.1 notLower]
    exact batched.unchanged document notChanged
  · exact Finset.union_subset batched.changed_subset
      (batched.consumed.touched_subset rowInside)

/-- All rows of a batch. -/
theorem batched_rows
    {count : Nat} {stored : ParentArray} {edges : List (Nat × Edge)}
    {cursor : Nat} {forest : Forest} {memory : UnionMemory}
    (batched : Batched count stored edges cursor forest memory)
    {rows : List (Nat × Edge)} (rowsInside : Inside count rows) :
    ∃ final, rows.foldlM unionRow memory = .ok final ∧
      Batched count stored (edges ++ rows)
        ((rows.map Prod.fst).getLastD cursor) (unionAll forest rows)
        final := by
  induction rows generalizing edges cursor forest memory with
  | nil =>
      rw [List.append_nil]
      exact ⟨memory, rfl, batched⟩
  | cons row rest inductionHypothesis =>
      have rowInside : Inside count [row] := fun other member => by
        rw [List.mem_singleton.mp member]
        exact rowsInside row (List.mem_cons_self ..)
      obtain ⟨next, ran, holds⟩ := batched_row batched rowInside
      obtain ⟨final, continued, atEnd⟩ := inductionHypothesis holds
        fun other member => rowsInside other (List.mem_cons_of_mem _ member)
      refine ⟨final, ?_, ?_⟩
      · rw [List.foldlM_cons, ran]
        exact continued
      · rw [List.append_assoc, List.singleton_append] at atEnd
        rw [List.map_cons, List.getLastD_cons]
        exact atEnd

/-! ## Writes -/

theorem lookup_writeParents
    (table : Table Nat Nat) (parents : ParentArray) (documents : List Nat)
    (document : Nat) :
    (writeParents table parents documents).lookup document =
      if document ∈ documents then some (parents document)
      else table.lookup document := by
  induction documents generalizing table with
  | nil => rfl
  | cons first rest inductionHypothesis =>
      have later := inductionHypothesis (table.upsert first (parents first))
      rw [Table.lookup_upsert] at later
      change (writeParents (table.upsert first (parents first)) parents
        rest).lookup document = _
      rw [later]
      by_cases inRest : document ∈ rest
      · rw [if_pos inRest, if_pos (List.mem_cons_of_mem _ inRest)]
      · rw [if_neg inRest]
        by_cases same : document = first
        · subst same
          rw [if_pos rfl, if_pos (List.mem_cons_self ..)]
        · have absent : document ∉ first :: rest :=
            List.not_mem_cons_of_ne_of_not_mem same inRest
          rw [if_neg same, if_neg absent]

theorem mem_keys_writeParents
    (table : Table Nat Nat) (parents : ParentArray) (documents : List Nat)
    (document : Nat) :
    document ∈ (writeParents table parents documents).keys ↔
      document ∈ documents ∨ document ∈ table.keys := by
  rw [Table.mem_keys_iff, lookup_writeParents]
  by_cases written : document ∈ documents
  · rw [if_pos written]
    exact iff_of_true ⟨_, rfl⟩ (.inl written)
  · rw [if_neg written, ← Table.mem_keys_iff]
    exact (or_iff_right written).symm

/-- The written table holds the array in memory. -/
theorem loadParents_writeParents
    {table : Table Nat Nat} {parents : ParentArray} {changed : Finset Nat}
    (unchanged : ∀ document ∉ changed,
      parents document = loadParents table document) :
    loadParents (writeParents table parents (changed.sort (· ≤ ·))) =
      parents := by
  funext document
  unfold loadParents
  rw [lookup_writeParents]
  by_cases written : document ∈ changed
  · rw [if_pos ((Finset.mem_sort _).mpr written)]
    rfl
  · rw [if_neg fun member => written ((Finset.mem_sort _).mp member)]
    exact (unchanged document written).symm

theorem lookup_updateParents
    (table : Table Nat Nat) (value : Nat -> Nat) (documents : List Nat)
    (document : Nat) :
    (updateParents table
      (documents.map fun document => (document, value document))).lookup
        document =
      (table.lookup document).map fun parent =>
        if document ∈ documents then value document else parent := by
  induction documents generalizing table with
  | nil =>
      change table.lookup document = _
      cases table.lookup document <;> rfl
  | cons first rest inductionHypothesis =>
      rw [List.map_cons]
      change (updateParents (table.modify fun document parent =>
        if document = first then value first else parent) _).lookup
          document = _
      rw [inductionHypothesis, Table.lookup_modify, Option.map_map]
      congr 1
      funext parent
      rw [Function.comp_apply]
      by_cases inRest : document ∈ rest
      · rw [if_pos inRest, if_pos (List.mem_cons_of_mem _ inRest)]
      · rw [if_neg inRest]
        by_cases same : document = first
        · subst same
          rw [if_pos rfl, if_pos (List.mem_cons_self ..)]
        · have absent : document ∉ first :: rest :=
            List.not_mem_cons_of_ne_of_not_mem same inRest
          rw [if_neg same, if_neg absent]

theorem keys_updateParents
    (table : Table Nat Nat) (updates : List (Nat × Nat)) :
    (updateParents table updates).keys = table.keys := by
  induction updates generalizing table with
  | nil => rfl
  | cons update rest inductionHypothesis =>
      exact (inductionHypothesis _).trans (table.keys_modify _)

/-- The updated table holds the compressed forest. -/
theorem loadParents_updateParents
    {table : Table Nat Nat} {forest : Forest}
    (loaded : loadParents table = forest.parent)
    {documents : List Nat} (known : ∀ document ∈ documents,
      document ∈ table.keys) :
    loadParents (updateParents table
      (documents.map fun document => (document, forest.root document))) =
        (forest.compressAll documents).parent := by
  funext document
  have before := congrFun loaded document
  rw [Forest.parent_compressAll]
  unfold loadParents at before ⊢
  rw [lookup_updateParents, ← before]
  cases found : table.lookup document with
  | some parent => split <;> rfl
  | none =>
      have absent : document ∉ documents := fun member =>
        table.lookup_eq_none_iff.mp found (known document member)
      rw [if_neg absent]
      rfl

end CodingLlm
