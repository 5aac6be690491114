import CodingLlm.Scripts.AssignSplits
import CodingLlm.Scripts.CanonicalSurvivors

/-!
# The prefix that a quota selects

The candidates of a category in the order of their keys, the tokens that a
target allots to them, and what one batch takes.
-/

namespace CodingLlm

/-! ## Allotting tokens -/

section Allotment

variable {κ : Type}

/-- The tokens that a target leaves for rows in order. -/
def allot (target : Nat) : List (κ × Nat) -> List (κ × Nat)
  | [] => []
  | (key, tokens) :: rest =>
      if target = 0 then []
      else (key, min tokens target) :: allot (target - min tokens target) rest

/-- The tokens of rows. -/
def tokensOf (rows : List (κ × Nat)) : Nat := (rows.map Prod.snd).sum

@[simp] theorem tokensOf_nil : tokensOf ([] : List (κ × Nat)) = 0 := rfl

@[simp] theorem tokensOf_cons (row : κ × Nat) (rest : List (κ × Nat)) :
    tokensOf (row :: rest) = row.2 + tokensOf rest := rfl

@[simp] theorem tokensOf_append (front back : List (κ × Nat)) :
    tokensOf (front ++ back) = tokensOf front + tokensOf back := by
  rw [tokensOf, List.map_append, List.sum_append]
  rfl

@[simp] theorem allot_zero (rows : List (κ × Nat)) : allot 0 rows = [] := by
  cases rows <;> rfl

/-- The target is reached, or all tokens are allotted. -/
theorem tokensOf_allot (target : Nat) (rows : List (κ × Nat)) :
    tokensOf (allot target rows) = min target (tokensOf rows) := by
  induction rows generalizing target with
  | nil => simp [allot]
  | cons row rest inductionHypothesis =>
      unfold allot
      split
      · rename_i isZero
        simp [isZero]
      · rw [tokensOf_cons, inductionHypothesis, tokensOf_cons]
        simp only
        omega

/-- Allotted rows are the first rows. -/
theorem keys_allot (target : Nat) (rows : List (κ × Nat)) :
    (allot target rows).map Prod.fst =
      (rows.map Prod.fst).take (allot target rows).length := by
  induction rows generalizing target with
  | nil => simp [allot]
  | cons row rest inductionHypothesis =>
      unfold allot
      split
      · rfl
      · rw [List.map_cons, inductionHypothesis, List.length_cons,
          List.map_cons, List.take_succ_cons]

/-- What is left of a target is allotted to the rows that are left. -/
theorem allot_drop
    (target count : Nat) (rows : List (κ × Nat)) :
    (allot target rows).drop count =
      allot (target - tokensOf ((allot target rows).take count))
        (rows.drop count) := by
  induction rows generalizing target count with
  | nil => simp [allot]
  | cons row rest inductionHypothesis =>
      cases count with
      | zero => simp
      | succ count =>
          by_cases isZero : target = 0
          · simp [isZero]
          · have step : allot target (row :: rest) = (row.1,
                min row.2 target) :: allot (target - min row.2 target)
                  rest := by
              rw [allot, if_neg isZero]
            rw [step, List.drop_succ_cons, List.take_succ_cons,
              List.drop_succ_cons, inductionHypothesis, tokensOf_cons,
              Nat.sub_add_eq]

/-- A selection is the shortest prefix whose tokens reach a target: all rows
at full length but the last one, which gets the remainder. -/
structure ShortestPrefix (rows : List (κ × Nat)) (target : Nat)
    (chosen front rest : List (κ × Nat)) (last : κ × Nat)
    (remainder : Nat) : Prop where
  rows_eq : rows = front ++ last :: rest
  chosen_eq : chosen = front ++ [(last.1, remainder)]
  reached : tokensOf front + remainder = target
  positive : 1 ≤ remainder
  bounded : remainder ≤ last.2

/-- A target within the tokens allots the shortest prefix. -/
theorem exists_shortestPrefix
    {target : Nat} {rows : List (κ × Nat)}
    (positive : 0 < target) (enough : target ≤ tokensOf rows) :
    ∃ front rest last remainder,
      ShortestPrefix rows target (allot target rows) front rest last
        remainder := by
  induction rows generalizing target with
  | nil =>
      rw [tokensOf_nil] at enough
      omega
  | cons row rest inductionHypothesis =>
      rw [tokensOf_cons] at enough
      have step : allot target (row :: rest) =
          (row.1, min row.2 target) :: allot (target - min row.2 target)
            rest := by
        rw [allot, if_neg positive.ne']
      by_cases reaches : target ≤ row.2
      · refine ⟨[], rest, row, target, rfl, ?_, ?_, positive, reaches⟩
        · rw [step, min_eq_right reaches, Nat.sub_self, allot_zero]
          rfl
        · simp
      · rw [min_eq_left (by omega)] at step
        have left : 0 < target - row.2 := by omega
        obtain ⟨front, others, last, remainder, isPrefix⟩ :=
          inductionHypothesis left (by omega)
        refine ⟨row :: front, others, last, remainder, ?_, ?_, ?_,
          isPrefix.positive, isPrefix.bounded⟩
        · rw [isPrefix.rows_eq, List.cons_append]
        · rw [step, isPrefix.chosen_eq, List.cons_append]
        · have := isPrefix.reached
          rw [tokensOf_cons]
          omega

end Allotment

/-! ## One batch -/

/-- Allotted rows as rows of `selected`. -/
def selectionsOf (rows : List (QuotaKey × Nat)) : List (Digest × Nat) :=
  rows.map fun row => ((ofLex row.1).2, row.2)

/-- A batch takes the next allotted rows. -/
theorem fillBatch_eq
    {batchSize remaining : Nat} {rows : List (QuotaKey × Nat)}
    {batch : QuotaBatch}
    (tokenized : ∀ row ∈ rows, 1 ≤ row.2)
    (open' : batch.rows.length < batchSize)
    (more : batch.tokens < remaining) :
    fillBatch batchSize remaining rows batch =
      let next := (allot (remaining - batch.tokens) rows).take
        (batchSize - batch.rows.length)
      ⟨batch.rows ++ selectionsOf next, batch.tokens + tokensOf next,
        (next.getLast?.map Prod.fst).or batch.last⟩ := by
  induction rows generalizing batch with
  | nil => simp [fillBatch, allot, selectionsOf]
  | cons row rest inductionHypothesis =>
      rw [List.forall_mem_cons] at tokenized
      obtain ⟨rowPositive, restPositive⟩ := tokenized
      have left : remaining - batch.tokens ≠ 0 := by omega
      have room : batchSize - batch.rows.length =
          batchSize - (batch.rows.length + 1) + 1 := by omega
      have step : allot (remaining - batch.tokens) (row :: rest) =
          (row.1, min row.2 (remaining - batch.tokens)) ::
            allot (remaining - batch.tokens -
              min row.2 (remaining - batch.tokens)) rest := by
        rw [allot, if_neg left]
      have counted : min row.2 (remaining - batch.tokens) ≠ 0 := by omega
      unfold fillBatch
      simp only [if_neg counted]
      rw [step, room, List.take_succ_cons]
      generalize count_eq : min row.2 (remaining - batch.tokens) = count
        at counted
      by_cases full : batchSize ≤ (batch.rows ++
          [((ofLex row.1).2, count)]).length ∨
        batch.tokens + count = remaining
      · rw [if_pos full]
        have nothing : (allot (remaining - batch.tokens - count) rest).take
            (batchSize - (batch.rows.length + 1)) = [] := by
          rw [List.length_append, List.length_singleton] at full
          rcases full with isFull | isReached
          · rw [Nat.sub_eq_zero_of_le isFull, List.take_zero]
          · have : remaining - batch.tokens - count = 0 := by omega
            rw [this, allot_zero, List.take_nil]
        rw [nothing]
        simp [selectionsOf, tokensOf]
      · rw [if_neg full]
        rw [List.length_append, List.length_singleton, not_or] at full
        have more' : batch.tokens + count < remaining := by omega
        rw [inductionHypothesis restPositive _ more']
        rotate_left
        · rw [List.length_append, List.length_singleton]
          omega
        simp only [List.length_append, List.length_singleton,
          Nat.sub_add_eq, selectionsOf, List.map_cons, List.append_assoc,
          List.cons_append, List.nil_append, tokensOf_cons, Nat.add_assoc]
        congr 1
        rw [List.getLast?_cons]
        cases ((allot (remaining - batch.tokens - count) rest).take
          (batchSize - batch.rows.length - 1)).getLast? <;> simp

/-! ## The candidates of a category -/

/-- The candidates of a category for a split, in the order of their keys. -/
def cellCandidates (tables : CurationTables) (split : Split)
    (category : Category) : Table QuotaKey Nat :=
  Table.indexBy ((tables.documents.rows.filter fun row =>
    decide (row.2.bucket.category = category) &&
      decide (tables.IsCandidate split row)).map quotaRow)

section Candidates

variable {tables : CurationTables} {split : Split} {category : Category}

/-- The keys of documents are different. -/
theorem nodup_quotaRows (keep : Digest × Document -> Bool) :
    (((tables.documents.rows.filter keep).map quotaRow).map
      Prod.fst).Nodup := by
  have ids : ((tables.documents.rows.filter keep).map Prod.fst).Nodup :=
    nodup_filter_keys _ _
  apply List.Nodup.of_map fun key : QuotaKey => (ofLex key).2
  rw [List.map_map, List.map_map]
  exact ids

/-- A row of the candidates of a category is a document that qualifies. -/
theorem mem_cellCandidates_iff {row : QuotaKey × Nat} :
    row ∈ (cellCandidates tables split category).rows ↔
      ∃ document ∈ tables.documents.rows,
        document.2.bucket.category = category ∧
          tables.IsCandidate split document ∧ quotaRow document = row := by
  rw [cellCandidates, Table.mem_indexBy_iff (nodup_quotaRows _),
    List.mem_map]
  simp only [List.mem_filter, Bool.and_eq_true, decide_eq_true_eq]
  exact ⟨fun ⟨document, ⟨member, category, candidate⟩, same⟩ =>
      ⟨document, member, category, candidate, same⟩,
    fun ⟨document, member, category, candidate, same⟩ =>
      ⟨document, ⟨member, category, candidate⟩, same⟩⟩

theorem mem_quotaCandidates_iff {bucket : Bucket} {row : QuotaKey × Nat} :
    row ∈ (quotaCandidates tables split bucket).rows ↔
      ∃ document ∈ tables.documents.rows, document.2.bucket = bucket ∧
        tables.IsCandidate split document ∧ quotaRow document = row := by
  rw [quotaCandidates, Table.mem_indexBy_iff (nodup_quotaRows _),
    List.mem_map]
  simp only [List.mem_filter, Bool.and_eq_true, decide_eq_true_eq]
  exact ⟨fun ⟨document, ⟨member, bucket, candidate⟩, same⟩ =>
      ⟨document, member, bucket, candidate, same⟩,
    fun ⟨document, member, bucket, candidate, same⟩ =>
      ⟨document, ⟨member, bucket, candidate⟩, same⟩⟩

theorem mem_buckets_iff {bucket : Bucket} :
    bucket ∈ category.buckets ↔ bucket.category = category := by
  unfold Category.buckets
  rw [List.mem_filter, decide_eq_true_eq]
  constructor
  · exact And.right
  · intro same
    refine ⟨?_, same⟩
    cases bucket <;> simp

theorem nodup_buckets : category.buckets.Nodup := by
  cases category <;> decide

/-- Rows of different buckets are different. -/
theorem disjoint_quotaCandidates
    {first second : Bucket} (different : first ≠ second)
    {row : QuotaKey × Nat}
    (inFirst : row ∈ (quotaCandidates tables split first).rows) :
    row ∉ (quotaCandidates tables split second).rows := by
  intro inSecond
  obtain ⟨document, member, isFirst, -, rfl⟩ :=
    mem_quotaCandidates_iff.mp inFirst
  obtain ⟨other, otherMember, isSecond, -, same⟩ :=
    mem_quotaCandidates_iff.mp inSecond
  have key := congrArg Prod.fst same
  have sameId : other.1 = document.1 :=
    congrArg (fun key : QuotaKey => (ofLex key).2) key
  have equal := row_eq_of_id otherMember member sameId
  exact different (isFirst.symm.trans (equal ▸ isSecond))

/-- The buckets of a category share out its candidates. -/
theorem perm_flatMap_buckets (keep : QuotaKey × Nat -> Bool) :
    (category.buckets.flatMap fun bucket =>
        (quotaCandidates tables split bucket).rows.filter keep).Perm
      ((cellCandidates tables split category).rows.filter keep) := by
  have rowsNodup (table : Table QuotaKey Nat) : table.rows.Nodup :=
    table.sorted.imp fun below equal => below.ne (congrArg Prod.fst equal)
  apply (List.perm_ext_iff_of_nodup _ ((rowsNodup _).filter keep)).mpr
  · intro row
    rw [List.mem_flatMap, List.mem_filter, mem_cellCandidates_iff]
    simp only [List.mem_filter, mem_quotaCandidates_iff, mem_buckets_iff]
    constructor
    · rintro ⟨bucket, rfl, ⟨document, member, rfl, candidate, same⟩, kept⟩
      exact ⟨⟨document, member, rfl, candidate, same⟩, kept⟩
    · rintro ⟨⟨document, member, rfl, candidate, same⟩, kept⟩
      exact ⟨_, rfl, ⟨document, member, rfl, candidate, same⟩, kept⟩
  · rw [List.nodup_flatMap]
    refine ⟨fun bucket _ => (rowsNodup _).filter keep, ?_⟩
    apply nodup_buckets.imp
    intro first second different row inFirst inSecond
    exact disjoint_quotaCandidates different
      (List.mem_of_mem_filter inFirst) (List.mem_of_mem_filter inSecond)

/-- The merged scan of the buckets is the scan of the category. -/
theorem mergedQuotaCandidates_eq (after : Option QuotaKey) :
    mergedQuotaCandidates tables split category after =
      (cellCandidates tables split category).fromCursor after := by
  have scan (table : Table QuotaKey Nat) : table.fromCursor after =
      table.rows.filter fun row =>
        after.all fun last => decide (last < row.1) := by
    cases after with
    | none => simp [Table.fromCursor]
    | some last => simp [Table.fromCursor, Table.after]
  apply HeapMerge.merge_eq _ (Table.fromCursor_sorted _ _)
  · rw [← List.flatMap_def]
    simp only [scan]
    exact perm_flatMap_buckets _
  · intro stream member
    obtain ⟨bucket, -, rfl⟩ := List.mem_map.mp member
    exact Table.fromCursor_sorted _ _

end Candidates

end CodingLlm
