import CodingLlm.Scripts.CanonicalizeRuns

/-!
# One survivor for each duplicate cluster

Whatever documents were ingested, whatever the batch sizes are and wherever
runs are killed, a finished canonicalization has rejected all but one document
of every duplicate cluster, and its own validation accepts it.
-/

namespace CodingLlm

open CrashLogic

/-- What a canonicalization leaves, from the ingested tables and those from
which the passes started. -/
structure Canonicalized (setting : CurationSetting)
    (origin settled final : CurationTables) : Prop where
  documents : Reclustered origin.documents final.documents
  started : settled.documents = final.documents ∧
    settled.reasons = origin.reasons
  ingestedReasons : ∀ docId reason, reason.isInitial = true ->
    ((docId, reason) ∈ final.reasons ↔ (docId, reason) ∈ origin.reasons)
  contaminated : ∀ row ∈ final.documents.rows,
    (row.1, Reason.benchmarkClusterContamination) ∈ final.reasons ↔
      ∃ other ∈ final.documents.rows, final.Benchmarked other.1 ∧
        (other.2.contentHash = row.2.contentHash ∨
          other.2.finalCluster = row.2.finalCluster)
  chosenFrom : ∃ marked,
    KeysetPass.wholeAll benchmarkPasses settled = .ok marked ∧
      acceptedRows marked = eligibleRows setting final
  exactChoice : ∀ hash choice,
    final.exactChoice.lookup hash = some choice ↔
      ∃ row, IsLeastRow Document.contentHash (eligibleRows setting final)
        hash row ∧ choice = choiceOf row
  oneSurvivor : ∀ row ∈ exactChoiceRows final, ∃ survivor,
    IsLeastRow Document.finalCluster (exactChoiceRows final) row.2.finalCluster
        survivor ∧
      ∀ other ∈ exactChoiceRows final,
        other.2.finalCluster = row.2.finalCluster ->
          (final.ReasonFree other.1 ↔ other = survivor)
  mapped : ∀ row ∈ eligibleRows setting final, ∃ survivor,
    final.canonicalMap.lookup row.1 = some survivor.1 ∧
      survivor ∈ acceptedRows final
  distinct : ∀ first ∈ acceptedRows final, ∀ second ∈ acceptedRows final,
    first.2.contentHash = second.2.contentHash ∨
        first.2.finalCluster = second.2.finalCluster ->
      first = second

section Tables

variable {setting : CurationSetting} {base : CurationTables}

theorem initial_notResidual {reason : Reason}
    (initial : reason.isInitial = true) :
    reason ∉ residualReasons setting := by
  intro residual
  rw [(residualReason_not_initial residual).1] at initial
  cases initial

/-- The passes neither add nor remove the reasons of ingestion. -/
theorem Prepared.mem_initial_iff (prepared : Prepared base)
    {docId : Digest} {reason : Reason} (initial : reason.isInitial = true) :
    (docId, reason) ∈ (canonicalTables setting base).reasons ↔
      (docId, reason) ∈ base.reasons := by
  rw [prepared.mem_canonical_reasons_iff (initial_notResidual initial),
    mem_reasons_contaminate_iff]
  constructor
  · rintro (inBase | ⟨rfl, -⟩)
    · exact inBase
    · cases initial
  · exact .inl

theorem Reason.isInitial_of_isBenchmark {reason : Reason}
    (benchmark : reason.isBenchmark = true) : reason.isInitial = true := by
  cases reason <;> first | rfl | cases benchmark

theorem Prepared.benchmarked_iff (prepared : Prepared base)
    {docId : Digest} :
    (canonicalTables setting base).Benchmarked docId ↔
      base.Benchmarked docId := by
  constructor
  · rintro ⟨⟨_, reason⟩, member, rfl, benchmark⟩
    have initial := Reason.isInitial_of_isBenchmark benchmark
    exact ⟨_, (prepared.mem_initial_iff initial).mp member, rfl, benchmark⟩
  · rintro ⟨⟨_, reason⟩, member, rfl, benchmark⟩
    have initial := Reason.isInitial_of_isBenchmark benchmark
    exact ⟨_, (prepared.mem_initial_iff initial).mpr member, rfl, benchmark⟩

/-- What the nine passes leave. -/
theorem Prepared.canonicalized (prepared : Prepared base)
    {origin : CurationTables}
    (documents : Reclustered origin.documents base.documents)
    (reasons : base.reasons = origin.reasons) :
    Canonicalized setting origin base (canonicalTables setting base) := by
  have ranked := prepared.ranked_contaminate
  have eligible : eligibleRows setting (canonicalTables setting base) =
      acceptedRows (contaminate base) :=
    eligibleRows_rejectOthers ranked prepared.noResidual
  have exact : exactChoiceRows (canonicalTables setting base) =
      exactChoiceRows (choose (contaminate base)) := rfl
  constructor
  · exact documents
  · exact ⟨rfl, reasons⟩
  · intro docId reason initial
    rw [prepared.mem_initial_iff initial, reasons]
  · intro row member
    rw [prepared.contaminated_iff member, inBenchmarkCluster_contaminate_iff]
    simp only [prepared.benchmarked_iff]
    rfl
  · exact ⟨_, (benchmarkPasses_write prepared).whole, eligible.symm⟩
  · intro hash choice
    rw [eligible]
    exact exactChoice_choose_iff ranked
  · intro row member
    rw [exact] at member ⊢
    obtain ⟨survivor, isLeast⟩ := exists_isLeastRow
      Document.finalCluster (ranked_exactChoiceRows ranked) member
    refine ⟨survivor, isLeast, fun other otherMember same => ?_⟩
    obtain ⟨inDocuments, isExact⟩ := mem_exactChoiceRows.mp otherMember
    have survivorIn := (mem_exactChoiceRows.mp isLeast.member).1
    have accepted : (canonicalTables setting base).ReasonFree other.1 ↔ _ :=
      reasonFree_rejectOthers_iff ranked inDocuments
    have chosen : (choose (contaminate base)).finalChoice.lookup
        row.2.finalCluster = some (choiceOf survivor) :=
      (finalChoice_choose_iff ranked).mpr ⟨survivor, isLeast, rfl⟩
    rw [accepted, CurationTables.IsFinalChoice, same, chosen,
      Option.map_some, Option.some.injEq]
    constructor
    · rintro ⟨-, sameId⟩
      exact row_eq_of_id inDocuments survivorIn sameId.symm
    · rintro rfl
      exact ⟨isExact, rfl⟩
  · intro row member
    rw [eligible] at member
    obtain ⟨exactRow, final, isFinal⟩ := exists_isFinalOf ranked member
    refine ⟨final, ?_, mem_acceptedRows.mpr
      ⟨(isFinal.chosen ranked).1, isFinal.reasonFree ranked⟩⟩
    exact (canonicalMap_choose_iff ranked).mpr
      ⟨row, exactRow, final, member, rfl, isFinal, rfl⟩
  · intro first firstMember second secondMember shared
    obtain ⟨firstIn, firstFree⟩ := mem_acceptedRows.mp firstMember
    obtain ⟨secondIn, secondFree⟩ := mem_acceptedRows.mp secondMember
    exact survivor_unique ranked firstIn secondIn firstFree secondFree shared

end Tables

/-! ## Runs with kills -/

/-- Calls of `canonicalize`, each with a batch size of its own. -/
def Canonicalizations (setting : CurationSetting)
    (program : CurationProgram Unit) : Prop :=
  ∃ batchSize, 1 ≤ batchSize ∧ program = canonicalize setting batchSize

section Runs

variable {setting : CurationSetting} {origin database : CurationDatabase}

/-- The phase has not started. -/
theorem CanonicalReached.start (origin : CurationDatabase) :
    CanonicalReached setting origin origin := by
  by_cases mapped : ∃ mapping, Mapped setting origin mapping
  · obtain ⟨mapping, isMapped⟩ := mapped
    exact .near (.loading isMapped (.inl rfl))
  · exact .passes (.unmapped (not_exists.mp mapped)) .start

/-- Any number of killed runs leaves a state from which the next continues. -/
theorem canonicalReached_of_survives
    (ingested : Ingested origin)
    (survives : Program.Survives (Canonicalizations setting) Eq origin
      database) : CanonicalReached setting origin database := by
  refine survives.invariant (CanonicalReached setting origin) (.start origin)
    ?_ ?_
  · rintro program before ⟨batchSize, batches, rfl⟩ reached
    exact ⟨_, _, canonicalize_wp ingested batches reached⟩
  · rintro before after reached rfl
    exact reached

theorem CanonicalFinished.canonicalized
    (ingested : Ingested origin)
    (finished : CanonicalFinished setting origin database) :
    ∃ settled, Canonicalized setting origin.tables settled
      database.tables := by
  obtain ⟨isSettled, all⟩ := finished
  obtain ⟨documents, reasons⟩ := isSettled.reclustered
  have canonical : Canonicalized setting origin.tables _ _ :=
    (isSettled.prepared ingested).canonicalized documents reasons
  rw [← tables_of_allCompleted ingested isSettled all] at canonical
  exact ⟨_, canonical⟩

/-- Only a finished phase is a later one. -/
theorem CanonicalReached.finished_of_phase
    (ingested : Ingested origin)
    (reached : CanonicalReached setting origin database)
    (phase : database.phase = .canonicalized) :
    CanonicalFinished setting origin database := by
  cases reached with
  | near near =>
      rw [near.phase_eq ingested] at phase
      cases phase
  | passes isSettled passes =>
      rw [(isSettled.sameOutside.trans passes.sameOutside).phase,
        ingested.phase] at phase
      cases phase
  | finished finished => exact finished

/-- Canonicalization leaves one clean survivor for each duplicate cluster:
from any ingested database, after any killed runs, a canonicalized database is
as described, and the next run either ends with one or raises an error that is
not the one of the validation. -/
theorem canonicalize_leaves_survivors
    (ingested : Ingested origin)
    (survives : Program.Survives (Canonicalizations setting) Eq origin
      database) :
    (database.phase = .canonicalized -> ∃ settled,
      Canonicalized setting origin.tables settled database.tables) ∧
    ∀ batchSize, 1 ≤ batchSize ->
      (canonicalize setting batchSize).wp
        (fun _ final => final.phase = .canonicalized ∧ ∃ settled,
          Canonicalized setting origin.tables settled final.tables)
        (fun error _ => error ≠ validationError)
        (fun _ => True) database := by
  have reached := canonicalReached_of_survives ingested survives
  constructor
  · intro phase
    exact (reached.finished_of_phase ingested phase).canonicalized ingested
  · intro batchSize batches
    refine (canonicalize_wp ingested batches reached).mono ?_
      (fun _ _ => id) (fun _ _ => trivial)
    intro _ final finished
    refine ⟨?_, finished.canonicalized ingested⟩
    obtain ⟨isSettled, all⟩ := finished
    rfl

end Runs

/-! ## A small inventory -/

/-- A builder without near-duplicate clusters. -/
def plainSetting : CurationSetting where
  stableDigest := fun _ text => Digest.ofNat text.length
  stableDigestBytes := fun _ digest => digest
  documentIdentity := fun archive memberPath =>
    Digest.ofNat (archive.length + memberPath.length)
  seed := "seed"
  hardRejectFlags := []
  hardRejectFlagsByBucket := fun _ => []
  softPenaltyWeights := fun _ => 0
  fastCanonicalProfile := true
  fastAllEligibleHandoff := false
  allowMissingEnglishNearDedup := false
  englishNearClusters := none
  englishNearRecords := none
  publicationUnchanged := true
  quotas := ⟨fun _ _ => 1, fun _ _ => Nat.one_pos⟩

/-- A document of one token with a penalty. -/
def plainDocument (index content penalty : Nat) : Document where
  bucket := .python
  archive := "archive"
  manifestIndex := index
  memberPath := "member"
  tokens := 1
  contentHash := Digest.ofNat content
  normalizedHash := Digest.ofNat content
  finalCluster := Digest.ofNat content
  sourceGroup := Digest.ofNat 7
  canonicalRank := toLex (penalty, Digest.ofNat index)
  selectionRank := Digest.ofNat index

/-- Two documents with one content, and another one. -/
def plainTables : CurationTables where
  documents := ((Table.empty.upsert (Digest.ofNat 1)
    (plainDocument 1 5 1)).upsert (Digest.ofNat 2)
      (plainDocument 2 5 0)).upsert (Digest.ofNat 3) (plainDocument 3 6 0)
  reasons := ∅
  nearMap := Table.empty
  benchmarkContentClusters := Table.empty
  benchmarkFinalClusters := Table.empty
  exactChoice := Table.empty
  finalChoice := Table.empty
  canonicalMap := Table.empty
  groups := Table.empty

/-- The database after their ingestion. -/
def plainDatabase : CurationDatabase where
  phase := .inventoryComplete
  archives := []
  tables := plainTables
  selected := Table.empty
  outputArchives := []
  durable := ⟨0, 3, 0, 0⟩
  progress := fun _ => none

theorem plainDatabase_ingested : Ingested plainDatabase where
  phase := rfl
  prepared := ⟨by decide, by decide, rfl, rfl, rfl, rfl, rfl⟩
  loadUnstarted := rfl
  applyUnstarted := rfl
  passesUnstarted := fun _ _ _ => rfl

theorem canonicalize_leaves_survivors_small :
    ((canonicalize plainSetting 1).run plainDatabase).final.phase =
        .canonicalized ∧
      ∃ settled, Canonicalized plainSetting plainDatabase.tables settled
        ((canonicalize plainSetting 1).run plainDatabase).final.tables :=
  ((canonicalize_leaves_survivors plainDatabase_ingested .start).2 1
    le_rfl).ok rfl

end CodingLlm
