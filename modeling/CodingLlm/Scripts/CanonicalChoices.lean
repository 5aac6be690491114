import CodingLlm.Scripts.CanonicalPasses

/-!
# Contamination, choices and survivors

What the three functions of canonicalization do to each document: which ones
are contaminated, which one is chosen for a content hash and for a final
cluster, and that exactly the chosen ones end without reasons.
-/

namespace CodingLlm

/-! ## Least documents -/

/-- The row of least rank among those with a value in a column. -/
structure IsLeastRow (column : Document -> Digest)
    (rows : List (Digest × Document)) (key : Digest)
    (row : Digest × Document) : Prop where
  member : row ∈ rows
  column_eq : column row.2 = key
  least : ∀ other ∈ rows, column other.2 = key ->
    row.2.canonicalRank ≤ other.2.canonicalRank

/-- The choice of a row. -/
def choiceOf (row : Digest × Document) : Choice :=
  ⟨row.2.canonicalRank, row.1⟩

section Least

variable {column : Document -> Digest} {rows : List (Digest × Document)}
variable {key : Digest}

/-- The choice for a value is that of the least row. -/
theorem lookup_leastChoices_iff
    (ranked : ∀ row ∈ rows,
      CanonicalRank.docId row.2.canonicalRank = row.1)
    {choice : Choice} :
    (leastChoices column rows).lookup key = some choice ↔
      ∃ row, IsLeastRow column rows key row ∧ choice = choiceOf row := by
  rw [leastChoices, Table.lookup_filterMap, Option.bind_eq_some_iff]
  simp only [Table.lookup_groupMin_iff, Option.some.injEq]
  constructor
  · rintro ⟨rank, ⟨isMember, isLeast⟩, rfl⟩
    obtain ⟨row, member, equal⟩ := List.mem_map.mp isMember
    obtain ⟨rfl, rfl⟩ := Prod.mk.inj equal
    refine ⟨row, ⟨member, rfl, fun other otherMember same => ?_⟩, ?_⟩
    · apply isLeast
      exact List.mem_map.mpr ⟨other, otherMember, by rw [same]⟩
    · rw [choiceOf, ranked row member]
  · rintro ⟨row, isLeast, rfl⟩
    refine ⟨row.2.canonicalRank, ⟨?_, ?_⟩, ?_⟩
    · exact List.mem_map.mpr ⟨row, isLeast.member, by rw [isLeast.column_eq]⟩
    · rintro rank isRank
      obtain ⟨other, member, equal⟩ := List.mem_map.mp isRank
      obtain ⟨same, rfl⟩ := Prod.mk.inj equal
      exact isLeast.least other member same
    · rw [choiceOf, ranked row isLeast.member]

/-- The values with a choice are those of the rows. -/
theorem mem_keys_leastChoices_iff :
    key ∈ (leastChoices column rows).keys ↔
      key ∈ rows.map fun row => column row.2 := by
  have grouped : key ∈ (leastChoices column rows).keys ↔
      key ∈ (Table.groupMin (rows.map fun row =>
        (column row.2, row.2.canonicalRank))).keys := by
    rw [leastChoices, Table.mem_keys_iff, Table.mem_keys_iff,
      Table.lookup_filterMap]
    simp only [Option.bind_eq_some_iff, Option.some.injEq]
    constructor
    · rintro ⟨_, rank, found, -⟩
      exact ⟨rank, found⟩
    · rintro ⟨rank, found⟩
      exact ⟨_, rank, found, rfl⟩
  rw [grouped, Table.groupMin, Table.mem_keys_groupRows, List.map_map]
  rfl

variable (column) in
/-- Every row has a least one with its value. -/
theorem exists_isLeastRow
    (ranked : ∀ row ∈ rows,
      CanonicalRank.docId row.2.canonicalRank = row.1)
    {row : Digest × Document} (member : row ∈ rows) :
    ∃ least, IsLeastRow column rows (column row.2) least := by
  have isKey : column row.2 ∈ (leastChoices column rows).keys :=
    mem_keys_leastChoices_iff.mpr (List.mem_map.mpr ⟨row, member, rfl⟩)
  obtain ⟨choice, found⟩ := (Table.mem_keys_iff _).mp isKey
  obtain ⟨least, isLeast, -⟩ := (lookup_leastChoices_iff ranked).mp found
  exact ⟨least, isLeast⟩

end Least

/-! ## Contaminated documents -/

section Contamination

variable {base : CurationTables}

/-- A document belongs to a benchmark cluster through one of its documents. -/
theorem inBenchmarkCluster_contaminate_iff (document : Document) :
    (contaminate base).InBenchmarkCluster document ↔
      ∃ row ∈ base.documents.rows, base.Benchmarked row.1 ∧
        (row.2.contentHash = document.contentHash ∨
          row.2.finalCluster = document.finalCluster) := by
  have content : (contaminate base).benchmarkContentClusters =
      selectBenchmarkContent base := rfl
  have final : (contaminate base).benchmarkFinalClusters =
      selectBenchmarkFinal base := rfl
  rw [CurationTables.InBenchmarkCluster, content, final,
    Table.uses_iff_mem, Table.uses_iff_mem, selectBenchmarkContent,
    selectBenchmarkFinal, Table.mem_keys_distinct, Table.mem_keys_distinct,
    List.mem_map, List.mem_map]
  simp only [List.mem_filter, decide_eq_true_eq]
  constructor
  · rintro (⟨row, ⟨member, marked⟩, same⟩ | ⟨row, ⟨member, marked⟩, same⟩)
    · exact ⟨row, member, marked, .inl same⟩
    · exact ⟨row, member, marked, .inr same⟩
  · rintro ⟨row, member, marked, same | same⟩
    · exact .inl ⟨row, ⟨member, marked⟩, same⟩
    · exact .inr ⟨row, ⟨member, marked⟩, same⟩

/-- The reasons after the benchmark passes. -/
theorem mem_reasons_contaminate_iff {entry : Digest × Reason} :
    entry ∈ (contaminate base).reasons ↔
      entry ∈ base.reasons ∨
        entry.2 = .benchmarkClusterContamination ∧
          ∃ document, base.documents.lookup entry.1 = some document ∧
            (contaminate base).InBenchmarkCluster document := by
  obtain ⟨docId, reason⟩ := entry
  have selected (cluster : Document -> Prop) [DecidablePred cluster] :
      (docId, reason) ∈ (base.documents.filterMap fun _ document =>
          if cluster document then
            some Reason.benchmarkClusterContamination
          else none).rows ↔
        reason = .benchmarkClusterContamination ∧
          ∃ document, base.documents.lookup docId = some document ∧
            cluster document := by
    rw [Table.mem_filterMap_iff]
    simp only [← Table.lookup_eq_some_iff, Option.ite_none_right_eq_some,
      Option.some.injEq]
    constructor
    · rintro ⟨document, found, inCluster, rfl⟩
      exact ⟨rfl, document, found, inCluster⟩
    · rintro ⟨rfl, document, found, inCluster⟩
      exact ⟨document, found, inCluster, rfl⟩
  have added : (docId, reason) ∈ (contaminate base).reasons ↔
      (docId, reason) ∈ (selectBenchmarkClusters
          (withBenchmarkClusters base)).rows ∨
        (docId, reason) ∈ (selectBenchmarkExact
            (withBenchmarkClusters base)).rows ∨
          (docId, reason) ∈ base.reasons := by
    rw [contaminate, mem_addReasons, mem_addReasons]
    rfl
  have exact := selected fun document =>
    (contaminate base).benchmarkContentClusters.Uses document.contentHash
  have final := selected fun document =>
    (contaminate base).benchmarkFinalClusters.Uses document.finalCluster
  rw [added]
  constructor
  · rintro (inFinal | inExact | inBase)
    · obtain ⟨rfl, document, found, inCluster⟩ := final.mp inFinal
      exact .inr ⟨rfl, document, found, .inr inCluster⟩
    · obtain ⟨rfl, document, found, inCluster⟩ := exact.mp inExact
      exact .inr ⟨rfl, document, found, .inl inCluster⟩
    · exact .inl inBase
  · rintro (inBase | ⟨rfl, document, found, inCluster | inCluster⟩)
    · exact .inr (.inr inBase)
    · exact .inr (.inl (exact.mpr ⟨rfl, document, found, inCluster⟩))
    · exact .inl (final.mpr ⟨rfl, document, found, inCluster⟩)

end Contamination

/-! ## Choices -/

section Choices

variable {base : CurationTables}

/-- The rank of a document names it. -/
abbrev Ranked (tables : CurationTables) : Prop :=
  ∀ row ∈ tables.documents.rows,
    CanonicalRank.docId row.2.canonicalRank = row.1

theorem ranked_acceptedRows (ranked : Ranked base) :
    ∀ row ∈ acceptedRows base,
      CanonicalRank.docId row.2.canonicalRank = row.1 :=
  fun row member => ranked row (List.mem_of_mem_filter member)

theorem ranked_exactChoiceRows (ranked : Ranked base) :
    ∀ row ∈ exactChoiceRows (choose base),
      CanonicalRank.docId row.2.canonicalRank = row.1 :=
  fun row member => ranked row (List.mem_of_mem_filter member)

theorem mem_acceptedRows {row : Digest × Document} :
    row ∈ acceptedRows base ↔
      row ∈ base.documents.rows ∧ base.ReasonFree row.1 := by
  rw [acceptedRows, List.mem_filter, decide_eq_true_eq]

theorem mem_exactChoiceRows {row : Digest × Document} :
    row ∈ exactChoiceRows base ↔
      row ∈ base.documents.rows ∧ base.IsExactChoice row := by
  rw [exactChoiceRows, List.mem_filter, decide_eq_true_eq]

/-- A row of the documents is determined by its id. -/
theorem row_eq_of_id
    {first second : Digest × Document}
    (firstMember : first ∈ base.documents.rows)
    (secondMember : second ∈ base.documents.rows)
    (same : first.1 = second.1) : first = second := by
  have firstFound := base.documents.lookup_eq_some_iff.mpr firstMember
  have secondFound := base.documents.lookup_eq_some_iff.mpr secondMember
  rw [same, secondFound] at firstFound
  exact Prod.ext same (Option.some.inj firstFound).symm

/-- The choice for a content hash is the least document without reasons. -/
theorem exactChoice_choose_iff (ranked : Ranked base)
    {hash : Digest} {choice : Choice} :
    (choose base).exactChoice.lookup hash = some choice ↔
      ∃ row, IsLeastRow Document.contentHash (acceptedRows base) hash row ∧
        choice = choiceOf row :=
  lookup_leastChoices_iff (ranked_acceptedRows ranked)

/-- Exact choices are the least documents of their content hashes. -/
theorem isExactChoice_choose_iff (ranked : Ranked base)
    {row : Digest × Document} (member : row ∈ base.documents.rows) :
    (choose base).IsExactChoice row ↔
      IsLeastRow Document.contentHash (acceptedRows base)
        row.2.contentHash row := by
  rw [CurationTables.IsExactChoice, Option.map_eq_some_iff]
  constructor
  · rintro ⟨choice, found, same⟩
    obtain ⟨least, isLeast, rfl⟩ := (exactChoice_choose_iff ranked).mp found
    have equal : least = row :=
      row_eq_of_id (mem_acceptedRows.mp isLeast.member).1 member same
    exact equal ▸ isLeast
  · intro isLeast
    exact ⟨choiceOf row,
      (exactChoice_choose_iff ranked).mpr ⟨row, isLeast, rfl⟩, rfl⟩

theorem mem_exactChoiceRows_choose_iff (ranked : Ranked base)
    {row : Digest × Document} :
    row ∈ exactChoiceRows (choose base) ↔
      IsLeastRow Document.contentHash (acceptedRows base)
        row.2.contentHash row := by
  rw [mem_exactChoiceRows]
  constructor
  · rintro ⟨member, isChoice⟩
    exact (isExactChoice_choose_iff ranked member).mp isChoice
  · intro isLeast
    have member := (mem_acceptedRows.mp isLeast.member).1
    exact ⟨member, (isExactChoice_choose_iff ranked member).mpr isLeast⟩

/-- The rows of the final choices are the exact choices. -/
theorem finalChoice_choose (ranked : Ranked base) :
    (choose base).finalChoice =
      leastChoices Document.finalCluster (exactChoiceRows (choose base)) := by
  have same : exactChoiceRows (choose base) =
      (chooseExact base).documents.rows.filter fun row =>
        (chooseExact base).IsExactChoice row ∧
          (chooseExact base).ReasonFree row.1 := by
    apply List.filter_congr
    intro row member
    apply decide_eq_decide.mpr
    constructor
    · intro isChoice
      have isLeast := (isExactChoice_choose_iff ranked member).mp isChoice
      exact ⟨isChoice, (mem_acceptedRows.mp isLeast.member).2⟩
    · exact And.left
  rw [same]
  rfl

/-- The choice for a final cluster is the least exact choice. -/
theorem finalChoice_choose_iff (ranked : Ranked base)
    {cluster : Digest} {choice : Choice} :
    (choose base).finalChoice.lookup cluster = some choice ↔
      ∃ row, IsLeastRow Document.finalCluster (exactChoiceRows (choose base))
          cluster row ∧ choice = choiceOf row := by
  rw [finalChoice_choose ranked]
  exact lookup_leastChoices_iff (ranked_exactChoiceRows ranked)

/-- A document is the choice for its final cluster. -/
def CurationTables.IsFinalChoice (tables : CurationTables)
    (row : Digest × Document) : Prop :=
  (tables.finalChoice.lookup row.2.finalCluster).map
    Choice.canonicalDocId = some row.1

theorem isFinalChoice_choose_iff (ranked : Ranked base)
    {row : Digest × Document} (member : row ∈ base.documents.rows) :
    (choose base).IsFinalChoice row ↔
      IsLeastRow Document.finalCluster (exactChoiceRows (choose base))
        row.2.finalCluster row := by
  rw [CurationTables.IsFinalChoice, Option.map_eq_some_iff]
  constructor
  · rintro ⟨choice, found, same⟩
    obtain ⟨least, isLeast, rfl⟩ := (finalChoice_choose_iff ranked).mp found
    have equal : least = row :=
      row_eq_of_id (mem_exactChoiceRows.mp isLeast.member).1 member same
    exact equal ▸ isLeast
  · intro isLeast
    exact ⟨choiceOf row,
      (finalChoice_choose_iff ranked).mpr ⟨row, isLeast, rfl⟩, rfl⟩

/-- The final choice of a document without reasons: the choice for the cluster
of the choice for its content hash. -/
structure IsFinalOf (base : CurationTables)
    (row exact final : Digest × Document) : Prop where
  exactLeast : IsLeastRow Document.contentHash (acceptedRows base)
    row.2.contentHash exact
  finalLeast : IsLeastRow Document.finalCluster (exactChoiceRows (choose base))
    exact.2.finalCluster final

theorem exists_isFinalOf (ranked : Ranked base)
    {row : Digest × Document} (accepted : row ∈ acceptedRows base) :
    ∃ exact final, IsFinalOf base row exact final := by
  obtain ⟨exact, isExact⟩ := exists_isLeastRow
    Document.contentHash (ranked_acceptedRows ranked) accepted
  have chosen : exact ∈ exactChoiceRows (choose base) := by
    apply (mem_exactChoiceRows_choose_iff ranked).mpr
    rw [isExact.column_eq]
    exact isExact
  obtain ⟨final, isFinal⟩ := exists_isLeastRow
    Document.finalCluster (ranked_exactChoiceRows ranked) chosen
  exact ⟨exact, final, isExact, isFinal⟩

/-- The final choice is what the join of the tables finds. -/
theorem IsFinalOf.finalOfContent_eq (ranked : Ranked base)
    {row exact final : Digest × Document}
    (isFinal : IsFinalOf base row exact final) :
    (choose base).finalOfContent row.2.contentHash =
      some (choiceOf final) := by
  have exactFound := (exactChoice_choose_iff ranked).mpr
    ⟨exact, isFinal.exactLeast, rfl⟩
  have document := base.documents.lookup_eq_some_iff.mpr
    (mem_acceptedRows.mp isFinal.exactLeast.member).1
  have finalFound := (finalChoice_choose_iff ranked).mpr
    ⟨final, isFinal.finalLeast, rfl⟩
  have sameDocuments : (choose base).documents = base.documents := rfl
  rw [CurationTables.finalOfContent, exactFound, Option.bind_some, choiceOf,
    sameDocuments, document, Option.bind_some, finalFound]

/-- A final choice is itself the choice for its content hash and for its
final cluster. -/
theorem IsFinalOf.chosen (ranked : Ranked base)
    {row exact final : Digest × Document}
    (isFinal : IsFinalOf base row exact final) :
    final ∈ base.documents.rows ∧ (choose base).IsExactChoice final ∧
      (choose base).IsFinalChoice final := by
  obtain ⟨member, isExact⟩ := mem_exactChoiceRows.mp isFinal.finalLeast.member
  refine ⟨member, isExact, (isFinalChoice_choose_iff ranked member).mpr ?_⟩
  rw [isFinal.finalLeast.column_eq]
  exact isFinal.finalLeast

/-- The documents without reasons are mapped, to their final choices. -/
theorem canonicalMap_choose_iff (ranked : Ranked base)
    {docId canonical : Digest} :
    (choose base).canonicalMap.lookup docId = some canonical ↔
      ∃ row exact final, row ∈ acceptedRows base ∧ row.1 = docId ∧
        IsFinalOf base row exact final ∧ canonical = final.1 := by
  have mapped : (choose base).canonicalMap =
      base.documents.filterMap fun docId document =>
        if base.ReasonFree docId then
          ((choose base).finalOfContent document.contentHash).map
            Choice.canonicalDocId
        else none := rfl
  rw [mapped, Table.lookup_filterMap, Option.bind_eq_some_iff]
  simp only [Option.ite_none_right_eq_some]
  constructor
  · rintro ⟨document, found, free, isCanonical⟩
    have accepted : (docId, document) ∈ acceptedRows base :=
      mem_acceptedRows.mpr ⟨base.documents.lookup_eq_some_iff.mp found, free⟩
    obtain ⟨exact, final, isFinal⟩ := exists_isFinalOf ranked accepted
    rw [isFinal.finalOfContent_eq ranked, Option.map_some,
      Option.some.injEq] at isCanonical
    exact ⟨_, exact, final, accepted, rfl, isFinal, isCanonical.symm⟩
  · rintro ⟨row, exact, final, accepted, rfl, isFinal, rfl⟩
    obtain ⟨member, free⟩ := mem_acceptedRows.mp accepted
    refine ⟨row.2, base.documents.lookup_eq_some_iff.mpr member, free, ?_⟩
    rw [isFinal.finalOfContent_eq ranked]
    rfl

theorem uses_canonicalMap_choose_iff (ranked : Ranked base)
    {row : Digest × Document} (member : row ∈ base.documents.rows) :
    (choose base).canonicalMap.Uses row.1 ↔ base.ReasonFree row.1 := by
  rw [Table.uses_iff_mem, Table.mem_keys_iff]
  simp only [canonicalMap_choose_iff ranked]
  constructor
  · rintro ⟨canonical, other, exact, final, accepted, same, -, -⟩
    exact same ▸ (mem_acceptedRows.mp accepted).2
  · intro free
    have accepted := mem_acceptedRows.mpr ⟨member, free⟩
    obtain ⟨exact, final, isFinal⟩ := exists_isFinalOf ranked accepted
    exact ⟨final.1, row, exact, final, accepted, rfl, isFinal, rfl⟩

end Choices

end CodingLlm
