import CodingLlm.Scripts.CanonicalSurvivors
import CodingLlm.Scripts.StreamPasses

/-!
# Near-duplicate clusters before canonicalization

Where a kill can leave the loading and the application of the near-duplicate
mapping, and that a later run continues from there.  Only the final clusters of
documents change.
-/

namespace CodingLlm

open CrashLogic

/-! ## Documents with other clusters -/

/-- The documents of a table, with other final clusters. -/
def Reclustered (before after : Table Digest Document) : Prop :=
  ∃ cluster : Digest -> Document -> Digest,
    after = before.modify fun docId document =>
      { document with finalCluster := cluster docId document }

theorem Reclustered.refl (documents : Table Digest Document) :
    Reclustered documents documents := by
  refine ⟨fun _ document => document.finalCluster, ?_⟩
  apply Table.ext_lookup
  intro docId
  rw [Table.lookup_modify]
  cases documents.lookup docId <;> rfl

theorem Reclustered.trans
    {first second third : Table Digest Document}
    (firstSecond : Reclustered first second)
    (secondThird : Reclustered second third) : Reclustered first third := by
  obtain ⟨inner, rfl⟩ := firstSecond
  obtain ⟨outer, rfl⟩ := secondThird
  refine ⟨fun docId document => outer docId
    { document with finalCluster := inner docId document }, ?_⟩
  apply Table.ext_lookup
  intro docId
  simp only [Table.lookup_modify, Option.map_map]
  rfl

/-- Other clusters leave ids and ranks as they are. -/
theorem Reclustered.ranked
    {before after : CurationTables}
    (reclustered : Reclustered before.documents after.documents)
    (ranked : Ranked before) : Ranked after := by
  obtain ⟨cluster, equal⟩ := reclustered
  intro row member
  rw [equal, Table.modify, List.mem_map] at member
  obtain ⟨old, oldMember, rfl⟩ := member
  exact ranked old oldMember

/-! ## Loading the mapping -/

section Load

variable {setting : CurationSetting}

theorem insertRow_error
    {table : Table Digest α} {row : Digest × α} {error : PyError}
    (fails : insertRow table row = .error error) :
    error = .integrityError "UNIQUE constraint failed" := by
  unfold insertRow at fails
  by_cases unused : ¬table.Uses row.1
  · rw [require_eq_ok unused] at fails
    cases fails
  · rw [require_eq_error unused] at fails
    cases fails
    rfl

theorem insertNearMap_ok
    {tables next : CurationTables} {row : Digest × Digest}
    (inserted : insertNearMap tables row = .ok next) :
    next = { tables with nearMap := next.nearMap } := by
  unfold insertNearMap at inserted
  obtain ⟨nearMap, -, equal⟩ := checked_bind_eq_ok.mp inserted
  rw [checked_pure_eq_ok] at equal
  rw [← equal]

/-- Loading changes the mapping only. -/
theorem foldlM_insertNearMap_ok
    {rows : List (Digest × Digest)} {tables final : CurationTables}
    (inserted : rows.foldlM insertNearMap tables = .ok final) :
    final = { tables with nearMap := final.nearMap } := by
  induction rows generalizing tables with
  | nil =>
      cases inserted
      rfl
  | cons row rest inductionHypothesis =>
      rw [List.foldlM_cons, checked_bind_eq_ok] at inserted
      obtain ⟨next, first, others⟩ := inserted
      rw [inductionHypothesis others, insertNearMap_ok first]

theorem foldlM_insertNearMap_error
    {rows : List (Digest × Digest)} {tables : CurationTables}
    {error : PyError}
    (fails : rows.foldlM insertNearMap tables = .error error) :
    error = .integrityError "UNIQUE constraint failed" := by
  induction rows generalizing tables with
  | nil => cases fails
  | cons row rest inductionHypothesis =>
      rw [List.foldlM_cons] at fails
      cases first : insertNearMap tables row with
      | ok next =>
          rw [first, checked_ok_bind] at fails
          exact inductionHypothesis fails
      | error raised =>
          rw [first] at fails
          cases fails
          unfold insertNearMap at first
          cases inserted : insertRow tables.nearMap row with
          | ok nearMap =>
              rw [inserted] at first
              cases first
          | error raised =>
              rw [inserted] at first
              cases first
              exact insertRow_error inserted

theorem nearMapLoad_lawful : (nearMapLoad setting).Lawful where
  writeNone := fun _ => rfl
  writeAppend := fun _ _ _ => List.foldlM_append
  countNone := fun _ => rfl
  countAdd := fun _ _ _ => rfl

end Load

/-! ## Applying the mapping -/

/-- Applying a row keeps everything but final clusters. -/
theorem nearMapApply_keeps
    {view : CurationTables -> α}
    (unread : ∀ tables row, view (updateFinalCluster tables row) =
      view tables) : nearMapApply.Keeps view := by
  intro tables row next written
  have equal : updateFinalCluster tables row = next := Except.ok.inj written
  rw [← equal]
  exact unread tables row

theorem reclustered_updateFinalCluster
    (tables : CurationTables) (row : Digest × Digest) :
    Reclustered tables.documents (updateFinalCluster tables row).documents := by
  refine ⟨fun docId document =>
    if docId = row.1 then row.2 else document.finalCluster, ?_⟩
  apply Table.ext_lookup
  intro docId
  rw [updateFinalCluster, Table.lookup_modify, Table.lookup_modify]
  congr 1
  funext document
  by_cases isRow : docId = row.1
  · simp only [isRow, if_true]
  · simp only [isRow, if_false]

theorem select_updateFinalCluster
    (tables : CurationTables) (row : Digest × Digest) :
    nearMapApply.select (updateFinalCluster tables row) =
      nearMapApply.select tables := by
  apply Table.ext_lookup
  intro docId
  unfold nearMapApply updateFinalCluster
  simp only [Table.lookup_filterMap, Table.lookup_modify]
  cases tables.documents.lookup docId with
  | none => rfl
  | some document =>
      simp only [Option.map_some, Option.bind_some]
      split <;> rfl

theorem nearMapApply_sound (base : CurationTables) :
    nearMapApply.Sound base :=
  KeysetPass.sound_of_keeps (nearMapApply_keeps select_updateFinalCluster)
    (fun tables row => ⟨updateFinalCluster tables row, rfl⟩) base

/-- Applying the mapping reclusters the documents. -/
theorem reclustered_foldlM
    {rows : List (Digest × nearMapApply.Row)} {base final : CurationTables}
    (written : rows.foldlM nearMapApply.write base = .ok final) :
    Reclustered base.documents final.documents := by
  induction rows generalizing base with
  | nil =>
      cases written
      exact .refl _
  | cons row rest inductionHypothesis =>
      rw [List.foldlM_cons, checked_bind_eq_ok] at written
      obtain ⟨next, first, others⟩ := written
      have equal : updateFinalCluster base row = next :=
        Except.ok.inj first
      rw [← equal] at others
      exact (reclustered_updateFinalCluster base row).trans
        (inductionHypothesis others)

/-! ## Where a kill can leave the mapping -/

/-- The phase that follows ingestion. -/
structure Ingested (database : CurationDatabase) : Prop where
  phase : database.phase = .inventoryComplete
  prepared : Prepared database.tables
  loadUnstarted : database.progress .nearMapLoad = none
  applyUnstarted : database.progress .nearMapApply = none
  passesUnstarted : ∀ setting, ∀ pass ∈ canonicalPasses setting,
    database.progress pass.subphase = none

/-- The run uses a mapping. -/
structure Mapped (setting : CurationSetting) (origin : CurationDatabase)
    (mapping : List NearMapRow) : Prop where
  profile : setting.fastCanonicalProfile = false
  english : englishDocuments origin.tables ≠ 0
  mapping_eq : setting.englishNearClusters = some mapping

/-- The mapping has been loaded. -/
structure Loaded (setting : CurationSetting) (origin : CurationDatabase)
    (mapping : List NearMapRow) (database : CurationDatabase) : Prop where
  mapped : Mapped setting origin mapping
  complete : ∃ rows progress, (nearMapLoad setting).Point mapping origin
    .complete rows progress database
  counted : database.tables.nearMap.rows.length =
    englishDocuments origin.tables

/-- The mapping has been loaded and applied. -/
structure Applied (setting : CurationSetting) (origin : CurationDatabase)
    (mapping : List NearMapRow) (loaded database : CurationDatabase) :
    Prop where
  load : Loaded setting origin mapping loaded
  complete : nearMapApply.Completed loaded database
  matched : mismatchedDocuments database.tables = 0

/-- The final clusters that canonicalization uses are in place. -/
inductive NearSettled (setting : CurationSetting)
    (origin : CurationDatabase) : CurationDatabase -> Prop
  | unmapped : (∀ mapping, ¬Mapped setting origin mapping) ->
      NearSettled setting origin origin
  | applied {mapping loaded database} :
      Applied setting origin mapping loaded database ->
        NearSettled setting origin database

/-- A kill before the final clusters are in place. -/
inductive NearReached (setting : CurationSetting)
    (origin : CurationDatabase) : CurationDatabase -> Prop
  | loading {mapping database} : Mapped setting origin mapping ->
      (nearMapLoad setting).Started mapping origin database ->
        NearReached setting origin database
  | applying {mapping loaded database} :
      Loaded setting origin mapping loaded ->
        nearMapApply.Started loaded database ->
          NearReached setting origin database

section States

variable {setting : CurationSetting} {origin loaded database : CurationDatabase}
variable {mapping : List NearMapRow}

theorem StreamPass.Point.sameOutside
    {rows : List (Digest × Digest)} {status : ProgressStatus}
    {progress : Progress}
    (point : (nearMapLoad setting).Point mapping origin status rows progress
      database) : KeysetPass.SameOutside origin database := by
  obtain ⟨batches, -, equal⟩ := point.reached
  rw [equal]
  exact ⟨rfl, rfl, rfl, rfl, rfl⟩

theorem StreamPass.Point.tables_eq
    {rows : List (Digest × Digest)} {status : ProgressStatus}
    {progress : Progress}
    (point : (nearMapLoad setting).Point mapping origin status rows progress
      database) :
    database.tables =
      { origin.tables with nearMap := database.tables.nearMap } :=
  foldlM_insertNearMap_ok point.written

theorem Loaded.sameOutside
    (load : Loaded setting origin mapping loaded) :
    KeysetPass.SameOutside origin loaded := by
  obtain ⟨rows, progress, point⟩ := load.complete
  exact point.sameOutside

theorem Loaded.tables_eq
    (load : Loaded setting origin mapping loaded) :
    loaded.tables = { origin.tables with nearMap := loaded.tables.nearMap } := by
  obtain ⟨rows, progress, point⟩ := load.complete
  exact point.tables_eq

theorem NearReached.phase_eq (ingested : Ingested origin)
    (reached : NearReached setting origin database) :
    database.phase = .inventoryComplete := by
  rw [← ingested.phase]
  cases reached with
  | loading mapped started =>
      rcases started with rfl | ⟨rows, progress, point⟩
      · rfl
      · exact point.sameOutside.phase
  | applying load started =>
      exact (load.sameOutside.trans started.sameOutside).phase

theorem NearSettled.sameOutside
    (settled : NearSettled setting origin database) :
    KeysetPass.SameOutside origin database := by
  cases settled with
  | unmapped => exact .refl _
  | applied done => exact done.load.sameOutside.trans done.complete.sameOutside

/-- Applying leaves all tables but the documents. -/
theorem Applied.tables_eq
    (done : Applied setting origin mapping loaded database) :
    database.tables =
      { origin.tables with
        nearMap := database.tables.nearMap
        documents := database.tables.documents } := by
  have keeps : nearMapApply.Keeps fun tables =>
      { tables with documents := origin.tables.documents } :=
    nearMapApply_keeps fun _ _ => rfl
  have same := keeps.completed done.complete
  have nearMap := congrArg CurationTables.nearMap same
  simp only at nearMap
  have applied : database.tables =
      { loaded.tables with documents := database.tables.documents } :=
    congrArg (fun tables : CurationTables =>
      { tables with documents := database.tables.documents }) same
  have load := congrArg (fun tables : CurationTables =>
    { tables with documents := database.tables.documents }) done.load.tables_eq
  rw [nearMap]
  exact applied.trans load

theorem Applied.reclustered
    (done : Applied setting origin mapping loaded database) :
    Reclustered origin.tables.documents database.tables.documents := by
  obtain ⟨progress, point⟩ := done.complete
  have documents : loaded.tables.documents = origin.tables.documents := by
    rw [done.load.tables_eq]
  rw [← documents]
  exact reclustered_foldlM point.written

/-- Canonicalization starts from the ingested documents, reclustered. -/
theorem NearSettled.reclustered
    (settled : NearSettled setting origin database) :
    Reclustered origin.tables.documents database.tables.documents ∧
      database.tables.reasons = origin.tables.reasons := by
  cases settled with
  | unmapped => exact ⟨.refl _, rfl⟩
  | applied done =>
      refine ⟨done.reclustered, ?_⟩
      rw [done.tables_eq]

theorem NearSettled.prepared (ingested : Ingested origin)
    (settled : NearSettled setting origin database) :
    Prepared database.tables := by
  cases settled with
  | unmapped => exact ingested.prepared
  | applied done =>
      have prepared := ingested.prepared
      refine ⟨done.reclustered.ranked prepared.ranked, ?_, ?_, ?_, ?_, ?_, ?_⟩
      · rw [done.tables_eq]
        exact prepared.initial
      · rw [done.tables_eq]
        exact prepared.benchmarkContentClusters
      · rw [done.tables_eq]
        exact prepared.benchmarkFinalClusters
      · rw [done.tables_eq]
        exact prepared.exactChoice
      · rw [done.tables_eq]
        exact prepared.finalChoice
      · rw [done.tables_eq]
        exact prepared.canonicalMap

end States

end CodingLlm
