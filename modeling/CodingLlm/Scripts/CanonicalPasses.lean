import CodingLlm.Scripts.Canonicalize
import CodingLlm.Scripts.KeysetPasses

/-!
# What the nine passes write

Each pass writes a table, or reasons, that its own query does not read, so
that the passes compose to three functions on tables: contaminated documents
are marked, documents are chosen, and the others rejected.
-/

namespace CodingLlm

open CrashLogic

/-! ## Passes that fill a table -/

/-- A table among the tables. -/
structure TableField (α : Type) where
  get : CurationTables -> Table Digest α
  set : CurationTables -> Table Digest α -> CurationTables
  get_set : ∀ tables table, get (set tables table) = table
  set_set : ∀ tables first second,
    set (set tables first) second = set tables second
  set_get : ∀ tables, set tables (get tables) = tables

namespace TableField

/-- `INSERT INTO` the table. -/
def insert (field : TableField α) (tables : CurationTables)
    (row : Digest × α) : Checked CurationTables := do
  let table ← insertRow (field.get tables) row
  return field.set tables table

/-- The first rows of a table go into an empty one. -/
theorem foldlM_insert_take
    (field : TableField α) {base : CurationTables}
    (isEmpty : field.get base = Table.empty)
    (source : Table Digest α) (count : Nat) :
    (source.rows.take count).foldlM field.insert base =
      .ok (field.set base (source.prefixTable count)) := by
  induction count with
  | zero =>
      rw [Table.prefixTable_zero, ← isEmpty, field.set_get]
      rfl
  | succ count inductionHypothesis =>
      by_cases inRange : count < source.rows.length
      · obtain ⟨isNew, next⟩ := source.upsert_prefixTable inRange
        rw [List.take_add_one, List.getElem?_eq_getElem inRange,
          List.foldlM_append, inductionHypothesis, checked_ok_bind,
          Option.toList_some, List.foldlM_cons, insert, field.get_set,
          insertRow, require_bind isNew, next]
        simp only [pure_bind, field.set_set]
        rfl
      · have sameRows : source.rows.take (count + 1) =
            source.rows.take count := by
          rw [List.take_of_length_le (by omega),
            List.take_of_length_le (by omega)]
        have samePrefix : source.prefixTable (count + 1) =
            source.prefixTable count := by
          simp only [Table.prefixTable, sameRows]
        rw [sameRows, samePrefix, inductionHypothesis]

end TableField

/-! ## Passes that add reasons -/

/-- Reasons for some documents. -/
def addReasons (tables : CurationTables) (rows : List (Digest × Reason)) :
    CurationTables :=
  { tables with reasons := rows.toFinset ∪ tables.reasons }

theorem mem_addReasons
    {tables : CurationTables} {rows : List (Digest × Reason)}
    {entry : Digest × Reason} :
    entry ∈ (addReasons tables rows).reasons ↔
      entry ∈ rows ∨ entry ∈ tables.reasons := by
  rw [addReasons, Finset.mem_union, List.mem_toFinset]

theorem foldlM_insertReason
    (tables : CurationTables) (rows : List (Digest × Reason)) :
    rows.foldlM insertReason tables = .ok (addReasons tables rows) := by
  induction rows generalizing tables with
  | nil =>
      rw [addReasons, List.toFinset_nil, Finset.empty_union]
      rfl
  | cons row rest inductionHypothesis =>
      rw [List.foldlM_cons, insertReason, checked_ok_bind,
        inductionHypothesis]
      simp only [addReasons, List.toFinset_cons, Finset.union_insert,
        Finset.insert_union]

namespace KeysetPass

/-- A pass that is sound and what it writes. -/
structure Writes (pass : KeysetPass) (base final : CurationTables) : Prop where
  sound : pass.Sound base
  whole : pass.whole base = .ok final

/-- Passes that are sound and what they write. -/
structure WritesAll (passes : List KeysetPass)
    (base final : CurationTables) : Prop where
  sound : SoundAll passes base
  whole : wholeAll passes base = .ok final

theorem WritesAll.nil (base : CurationTables) : WritesAll [] base base :=
  ⟨trivial, rfl⟩

theorem WritesAll.cons
    {pass : KeysetPass} {rest : List KeysetPass}
    {base middle final : CurationTables}
    (first : pass.Writes base middle) (others : WritesAll rest middle final) :
    WritesAll (pass :: rest) base final where
  sound := by
    refine ⟨first.sound, fun tables whole => ?_⟩
    rw [first.whole] at whole
    cases whole
    exact others.sound
  whole := by
    rw [wholeAll, List.foldlM_cons, first.whole, checked_ok_bind]
    exact others.whole

theorem WritesAll.append
    {front back : List KeysetPass} {base middle final : CurationTables}
    (first : WritesAll front base middle)
    (second : WritesAll back middle final) :
    WritesAll (front ++ back) base final where
  sound := by
    induction front generalizing base with
    | nil =>
        cases first.whole
        exact second.sound
    | cons pass rest inductionHypothesis =>
        refine ⟨first.sound.1, fun next whole => ?_⟩
        apply inductionHypothesis
        refine ⟨first.sound.2 next whole, ?_⟩
        have all := first.whole
        rw [wholeAll, List.foldlM_cons, whole, checked_ok_bind] at all
        exact all
  whole := by
    rw [wholeAll, List.foldlM_append]
    have all := first.whole
    rw [wholeAll] at all
    rw [all, checked_ok_bind]
    exact second.whole

/-- A pass that fills an empty table its query does not read. -/
theorem writes_of_insert
    {subphase : Subphase} (field : TableField α)
    {select : CurationTables -> Table Digest α} {base : CurationTables}
    (isEmpty : field.get base = Table.empty)
    (unread : ∀ table, select (field.set base table) = select base) :
    (canonicalPass subphase α select field.insert).Writes base
      (field.set base (select base)) := by
  have written (count : Nat) :
      (canonicalPass subphase α select field.insert).written base count =
        .ok (field.set base ((select base).prefixTable count)) :=
    field.foldlM_insert_take isEmpty (select base) count
  have whole : (canonicalPass subphase α select field.insert).whole base =
      .ok (field.set base (select base)) := by
    have all := written (select base).rows.length
    rw [KeysetPass.written, Table.prefixTable_length] at all
    rw [KeysetPass.whole, ← all, List.take_of_length_le]
    exact le_rfl
  refine ⟨⟨fun count tables atCount => ?_, ⟨_, whole⟩⟩, whole⟩
  rw [written] at atCount
  cases atCount
  exact unread _

/-- A pass that adds reasons its query does not read. -/
theorem writes_of_reasons
    {subphase : Subphase} {select : CurationTables -> Table Digest Reason}
    {base : CurationTables}
    (unread : ∀ reasons, select { base with reasons := reasons } =
      select base) :
    (canonicalPass subphase Reason select insertReason).Writes base
      (addReasons base (select base).rows) := by
  refine ⟨⟨fun count tables atCount => ?_, _, foldlM_insertReason _ _⟩,
    foldlM_insertReason _ _⟩
  have written : (canonicalPass subphase Reason select
      insertReason).written base count =
        .ok (addReasons base ((select base).rows.take count)) :=
    foldlM_insertReason _ _
  rw [written] at atCount
  cases atCount
  exact unread _

end KeysetPass

/-! ## The passes as functions on tables -/

/-- `benchmark_content_clusters`. -/
def benchmarkContentField : TableField Unit where
  get := CurationTables.benchmarkContentClusters
  set := fun tables table => { tables with benchmarkContentClusters := table }
  get_set := fun _ _ => rfl
  set_set := fun _ _ _ => rfl
  set_get := fun _ => rfl

/-- `benchmark_final_clusters`. -/
def benchmarkFinalField : TableField Unit where
  get := CurationTables.benchmarkFinalClusters
  set := fun tables table => { tables with benchmarkFinalClusters := table }
  get_set := fun _ _ => rfl
  set_set := fun _ _ _ => rfl
  set_get := fun _ => rfl

/-- `exact_choice`. -/
def exactChoiceField : TableField Choice where
  get := CurationTables.exactChoice
  set := fun tables table => { tables with exactChoice := table }
  get_set := fun _ _ => rfl
  set_set := fun _ _ _ => rfl
  set_get := fun _ => rfl

/-- `final_choice`. -/
def finalChoiceField : TableField Choice where
  get := CurationTables.finalChoice
  set := fun tables table => { tables with finalChoice := table }
  get_set := fun _ _ => rfl
  set_set := fun _ _ _ => rfl
  set_get := fun _ => rfl

/-- `canonical_map`. -/
def canonicalMapField : TableField Digest where
  get := CurationTables.canonicalMap
  set := fun tables table => { tables with canonicalMap := table }
  get_set := fun _ _ => rfl
  set_set := fun _ _ _ => rfl
  set_get := fun _ => rfl

/-- `groups`. -/
def groupsField : TableField Split where
  get := CurationTables.groups
  set := fun tables table => { tables with groups := table }
  get_set := fun _ _ => rfl
  set_set := fun _ _ _ => rfl
  set_get := fun _ => rfl

/-- The tables of benchmark clusters are filled. -/
def withBenchmarkClusters (base : CurationTables) : CurationTables :=
  { base with
    benchmarkContentClusters := selectBenchmarkContent base
    benchmarkFinalClusters := selectBenchmarkFinal base }

/-- Documents of benchmark clusters are marked. -/
def contaminate (base : CurationTables) : CurationTables :=
  let clustered := withBenchmarkClusters base
  addReasons (addReasons clustered (selectBenchmarkExact clustered).rows)
    (selectBenchmarkClusters clustered).rows

/-- Documents are chosen for their content hashes. -/
def chooseExact (base : CurationTables) : CurationTables :=
  { base with exactChoice := selectExactChoice base }

/-- Exact choices are chosen for their final clusters. -/
def chooseFinal (base : CurationTables) : CurationTables :=
  { base with finalChoice := selectFinalChoice base }

/-- Documents are chosen, and every document without reasons is mapped. -/
def choose (base : CurationTables) : CurationTables :=
  let chosen := chooseFinal (chooseExact base)
  { chosen with canonicalMap := selectCanonicalMap chosen }

/-- The documents that were not chosen are rejected. -/
def rejectOthers (setting : CurationSetting) (base : CurationTables) :
    CurationTables :=
  addReasons (addReasons base (selectResidualExact base).rows)
    (selectResidualFinal setting base).rows

/-- The tables that the passes start from: the rank of a document names it,
ingestion gave the reasons, and the passes have not written anything. -/
structure Prepared (tables : CurationTables) : Prop where
  ranked : ∀ row ∈ tables.documents.rows,
    CanonicalRank.docId row.2.canonicalRank = row.1
  initial : ∀ entry ∈ tables.reasons, entry.2.isInitial = true
  benchmarkContentClusters : tables.benchmarkContentClusters = Table.empty
  benchmarkFinalClusters : tables.benchmarkFinalClusters = Table.empty
  exactChoice : tables.exactChoice = Table.empty
  finalChoice : tables.finalChoice = Table.empty
  canonicalMap : tables.canonicalMap = Table.empty

section Passes

variable {base : CurationTables}

theorem benchmarkPasses_write (prepared : Prepared base) :
    KeysetPass.WritesAll benchmarkPasses base (contaminate base) := by
  refine .cons (KeysetPass.writes_of_insert benchmarkContentField ?_
    fun _ => rfl) ?_
  · exact prepared.benchmarkContentClusters
  refine .cons (KeysetPass.writes_of_insert benchmarkFinalField ?_
    fun _ => rfl) ?_
  · exact prepared.benchmarkFinalClusters
  apply KeysetPass.WritesAll.cons (KeysetPass.writes_of_reasons fun _ => rfl)
  apply KeysetPass.WritesAll.cons (KeysetPass.writes_of_reasons fun _ => rfl)
  exact .nil _

theorem choicePasses_write
    (exactChoice : base.exactChoice = Table.empty)
    (finalChoice : base.finalChoice = Table.empty)
    (canonicalMap : base.canonicalMap = Table.empty) :
    KeysetPass.WritesAll choicePasses base (choose base) := by
  refine .cons (KeysetPass.writes_of_insert exactChoiceField ?_
    fun _ => rfl) ?_
  · exact exactChoice
  refine .cons (KeysetPass.writes_of_insert finalChoiceField ?_
    fun _ => rfl) ?_
  · exact finalChoice
  refine .cons (KeysetPass.writes_of_insert canonicalMapField ?_
    fun _ => rfl) ?_
  · exact canonicalMap
  exact .nil _

theorem residualPasses_write (setting : CurationSetting) :
    KeysetPass.WritesAll (residualPasses setting) base
      (rejectOthers setting base) := by
  apply KeysetPass.WritesAll.cons (KeysetPass.writes_of_reasons fun _ => rfl)
  apply KeysetPass.WritesAll.cons (KeysetPass.writes_of_reasons fun _ => rfl)
  exact .nil _

/-- The nine passes are sound and compose to the three functions. -/
theorem canonicalPasses_write
    (setting : CurationSetting) (prepared : Prepared base) :
    KeysetPass.WritesAll (canonicalPasses setting) base
      (rejectOthers setting (choose (contaminate base))) := by
  apply (benchmarkPasses_write prepared).append
  apply KeysetPass.WritesAll.append _ (residualPasses_write setting)
  exact choicePasses_write prepared.exactChoice prepared.finalChoice
    prepared.canonicalMap

/-- The nine passes have subphases of their own. -/
theorem canonicalPasses_distinct (setting : CurationSetting) :
    ((canonicalPasses setting).map KeysetPass.subphase).Nodup := by
  have subphases : (canonicalPasses setting).map KeysetPass.subphase =
      [.benchmarkContentClusters, .benchmarkFinalClusters, .benchmarkExact,
        .benchmarkFinal, .exactChoice, .finalChoice, .canonicalMap,
        .residualExact, .residualFinal] := rfl
  rw [subphases]
  decide

end Passes

end CodingLlm
