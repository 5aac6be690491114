import CodingLlm.Scripts.NearClusters

/-!
# Canonicalization with kills

`canonicalize` continues wherever a kill has left it and ends with the tables
that the nine passes make of the ingested documents: one survivor for each
duplicate cluster.
-/

namespace CodingLlm

open CrashLogic

/-! ## States -/

/-- A canonicalization that ended. -/
inductive CanonicalFinished (setting : CurationSetting)
    (origin : CurationDatabase) : CurationDatabase -> Prop
  | intro {settled last} : NearSettled setting origin settled ->
      KeysetPass.AllCompleted (canonicalPasses setting) settled last ->
        CanonicalFinished setting origin { last with phase := .canonicalized }

/-- Where a kill can leave a canonicalization. -/
inductive CanonicalReached (setting : CurationSetting)
    (origin : CurationDatabase) : CurationDatabase -> Prop
  | near {database} : NearReached setting origin database ->
      CanonicalReached setting origin database
  | passes {settled database} : NearSettled setting origin settled ->
      KeysetPass.Reached (canonicalPasses setting) settled database ->
        CanonicalReached setting origin database
  | finished {database} : CanonicalFinished setting origin database ->
      CanonicalReached setting origin database

/-- The error of the validation. -/
def validationError : PyError :=
  curationError "Canonicalization coverage/accounting validation failed"

/-! ## Near-duplicate clusters -/

section Near

variable {setting : CurationSetting} {origin loaded database : CurationDatabase}
variable {mapping : List NearMapRow} {batchSize : Nat}
variable {crash : CurationDatabase -> Prop}

/-- Errors of the mapping are not those of the validation. -/
theorem nearMapLoad_raises_ne {error : PyError}
    (raises : (nearMapLoad setting).Raises error) :
    error ≠ validationError := by
  rintro rfl
  rcases raises with ⟨index, row, parsed⟩ | ⟨tables, rows, written⟩
  · obtain ⟨docId, clusterId⟩ := row
    have parse : parseNearMapRow setting ⟨docId, clusterId⟩ =
        .error validationError := parsed
    unfold parseNearMapRow at parse
    split at parse
    · next cluster _ _ =>
        by_cases nonempty : cluster ≠ ""
        · rw [require_bind nonempty] at parse
          cases parse
        · rw [require_eq_error nonempty] at parse
          exact absurd (Except.error.inj parse) (by decide)
    · exact absurd (Except.error.inj parse) (by decide)
    · exact absurd (Except.error.inj parse) (by decide)
  · exact absurd (foldlM_insertNearMap_error written) (by decide)

/-- The mapping is loaded from where a kill has left it. -/
theorem loadMapping_wp
    (ingested : Ingested origin)
    (mapped : Mapped setting origin mapping)
    (crashes : ∀ database, NearReached setting origin database ->
      crash database)
    (started : (nearMapLoad setting).Started mapping origin database) :
    (loadMapping setting batchSize mapping (englishDocuments origin.tables)
        (englishDocuments origin.tables)).wp
      (fun _ final => Loaded setting origin mapping final)
      (fun error _ => error ≠ validationError) crash database := by
  have crashesAt (rows : List (Digest × Digest)) (progress : Progress)
      (current : CurationDatabase)
      (point : (nearMapLoad setting).Point mapping origin .running rows
        progress current) : crash current :=
    crashes _ (.loading mapped (.inr ⟨_, _, point⟩))
  unfold loadMapping
  rw [Program.wp_bind]
  refine (StreamPass.startSubphase_wp nearMapLoad_lawful
    crashesAt ingested.loadUnstarted started).mono ?_
    (fun _ _ impossible => impossible.elim) (fun _ => id)
  rintro progress current ⟨rows, point⟩
  rw [Program.wp_bind]
  apply wp_checkThat
  · intro _
    have running : ¬progress.status = .complete := by
      rw [point.status_eq]
      exact fun impossible => by cases impossible
    rw [if_neg running, Program.wp_bind]
    refine (StreamPass.rows_wp nearMapLoad_lawful crashesAt point).mono ?_
      (fun _ _ raised => nearMapLoad_raises_ne raised.1) (fun _ => id)
    rintro last final ⟨all, allPoint, atEnd, -⟩
    rw [Program.wp_bind]
    apply wp_checkThat
    · intro _
      apply Program.wp_query_bind
      rw [Program.wp_bind]
      apply wp_checkThat
      · rintro ⟨-, counted, -⟩
        obtain ⟨batches, isProgress, isDatabase⟩ := allPoint.reached
        have complete : (nearMapLoad setting).Point mapping origin .complete
            all { last.progress with status := .complete }
            (final.setProgress .nearMapLoad
              { last.progress with status := .complete }) := by
          refine ⟨allPoint.inRange, allPoint.parsed, allPoint.written,
            batches, ?_, ?_⟩
          · rw [isProgress]
            rfl
          · rw [isDatabase, isProgress]
            simp only [StreamPass.databaseAt, CurationDatabase.setProgress]
            congr 1
            exact Function.update_idem ..
        have found : final.progress .nearMapLoad = some last.progress :=
          allPoint.progress_eq
        have loaded : Loaded setting origin mapping
            (final.setProgress .nearMapLoad
              { last.progress with status := .complete }) :=
          ⟨mapped, ⟨_, _, complete⟩, counted⟩
        rw [completeSubphase, Program.wp_effect, found]
        exact ⟨crashes _ (.applying loaded (.inl rfl)), loaded⟩
      · exact fun _ => by decide
    · exact fun _ => by decide
  · exact fun _ => by decide

/-- A loaded mapping is not loaded again. -/
theorem loadMapping_wp_of_loaded
    (load : Loaded setting origin mapping loaded)
    (progress : database.progress .nearMapLoad =
      loaded.progress .nearMapLoad)
    (counted : database.tables.nearMap.rows.length =
      englishDocuments origin.tables)
    {fail : PyError -> CurationDatabase -> Prop} :
    (loadMapping setting batchSize mapping (englishDocuments origin.tables)
        (englishDocuments origin.tables)).wp
      (fun _ final => final = database) fail crash database := by
  obtain ⟨rows, stored, point⟩ := load.complete
  have found : database.progress .nearMapLoad = some stored :=
    progress.trans point.progress_eq
  unfold loadMapping startSubphase
  rw [Program.wp_bind]
  apply Program.wp_query_bind
  rw [found]
  simp only [Program.wp_pure]
  rw [Program.wp_bind]
  apply wp_checkThat
  · intro _
    rw [if_pos point.status_eq]
    apply Program.wp_query_bind
    apply wp_checkThat
    · exact fun _ => rfl
    · exact fun other => absurd counted other
  · exact fun other => absurd point.cursor_eq other

/-- The mapping is applied from where a kill has left it. -/
theorem applyMapping_wp
    (ingested : Ingested origin) (batches : 1 ≤ batchSize)
    (load : Loaded setting origin mapping loaded)
    (crashes : ∀ database, NearReached setting origin database ->
      crash database)
    (settles : ∀ database, NearSettled setting origin database ->
      crash database)
    (started : nearMapApply.Started loaded database) :
    (applyMapping batchSize (englishDocuments origin.tables)).wp
      (fun _ final => Applied setting origin mapping loaded final)
      (fun error _ => error ≠ validationError) crash database := by
  have unstarted : loaded.progress nearMapApply.subphase = none := by
    obtain ⟨rows, progress, point⟩ := load.complete
    rw [point.progress_ne fun impossible => by cases impossible]
    exact ingested.applyUnstarted
  unfold applyMapping
  rw [Program.wp_bind]
  refine (KeysetPass.run_wp batches (nearMapApply_sound _)
    (fun _ _ _ point => crashes _ (.applying load (.inr ⟨_, _, point⟩)))
    unstarted started).mono ?_ (fun _ _ impossible => impossible.elim)
    (fun _ => id)
  intro progress final point
  apply Program.wp_query_bind
  have running : ¬progress.status = .complete := by
    rw [point.status_eq]
    exact fun impossible => by cases impossible
  rw [if_neg running, Program.wp_bind]
  apply wp_checkThat
  · rintro ⟨matched, -⟩
    have found : final.progress .nearMapApply = some progress :=
      point.progress_eq
    have applied : Applied setting origin mapping loaded
        (final.setProgress .nearMapApply
          { progress with status := .complete }) :=
      ⟨load, ⟨_, point.complete⟩, matched⟩
    rw [completeSubphase, Program.wp_effect, found]
    exact ⟨settles _ (.applied applied), applied⟩
  · exact fun _ => by decide

/-- An applied mapping is not applied again. -/
theorem applyMapping_wp_of_applied
    {applied : CurationDatabase}
    (done : Applied setting origin mapping loaded applied)
    (progress : database.progress .nearMapApply =
      applied.progress .nearMapApply)
    (documents : database.tables.documents = applied.tables.documents)
    (nearMap : database.tables.nearMap = applied.tables.nearMap)
    {fail : PyError -> CurationDatabase -> Prop} :
    (applyMapping batchSize (englishDocuments origin.tables)).wp
      (fun _ final => final = database) fail crash database := by
  obtain ⟨stored, point⟩ := done.complete
  have found : database.progress nearMapApply.subphase = some stored :=
    progress.trans point.progress_eq
  have matched : mismatchedDocuments database.tables = 0 := by
    have same : mismatchedDocuments database.tables =
        mismatchedDocuments applied.tables := by
      unfold mismatchedDocuments
      rw [documents, nearMap]
    rw [same, done.matched]
  unfold applyMapping KeysetPass.run startSubphase
  rw [Program.wp_bind, Program.wp_bind]
  apply Program.wp_query_bind
  rw [found]
  simp only [Program.wp_pure]
  rw [if_pos point.status_eq, Program.wp_pure]
  apply Program.wp_query_bind
  rw [if_pos point.status_eq]
  apply wp_checkThat
  · exact fun _ => rfl
  · exact fun other => absurd matched other

end Near

/-! ## What the passes keep -/

theorem TableField.insert_keeps
    {field : TableField α} {subphase : Subphase}
    {select : CurationTables -> Table Digest α}
    {view : CurationTables -> β}
    (unread : ∀ tables table, view (field.set tables table) = view tables) :
    (canonicalPass subphase α select field.insert).Keeps view := by
  intro tables row next written
  have inserted : field.insert tables row = .ok next := written
  unfold TableField.insert at inserted
  obtain ⟨table, -, equal⟩ := checked_bind_eq_ok.mp inserted
  rw [checked_pure_eq_ok] at equal
  rw [← equal]
  exact unread tables table

theorem insertReason_keeps
    {subphase : Subphase} {select : CurationTables -> Table Digest Reason}
    {view : CurationTables -> β}
    (unread : ∀ (tables : CurationTables) reasons,
      view { tables with reasons := reasons } = view tables) :
    (canonicalPass subphase Reason select insertReason).Keeps view := by
  intro tables row next written
  have equal : { tables with reasons := insert row tables.reasons } = next :=
    Except.ok.inj written
  rw [← equal]
  exact unread tables _

/-- The nine passes leave documents and the mapping alone. -/
theorem canonicalPasses_keep
    {setting : CurationSetting} {pass : KeysetPass}
    (member : pass ∈ canonicalPasses setting) :
    pass.Keeps fun tables => (tables.documents, tables.nearMap) := by
  unfold canonicalPasses benchmarkPasses choicePasses residualPasses at member
  simp only [List.cons_append, List.nil_append, List.mem_cons,
    List.not_mem_nil, or_false] at member
  rcases member with rfl | rfl | rfl | rfl | rfl | rfl | rfl | rfl | rfl
  · exact benchmarkContentField.insert_keeps fun _ _ => rfl
  · exact benchmarkFinalField.insert_keeps fun _ _ => rfl
  · exact insertReason_keeps fun _ _ => rfl
  · exact insertReason_keeps fun _ _ => rfl
  · exact exactChoiceField.insert_keeps fun _ _ => rfl
  · exact finalChoiceField.insert_keeps fun _ _ => rfl
  · exact canonicalMapField.insert_keeps fun _ _ => rfl
  · exact insertReason_keeps fun _ _ => rfl
  · exact insertReason_keeps fun _ _ => rfl

theorem englishDocuments_updateFinalCluster
    (tables : CurationTables) (row : Digest × Digest) :
    englishDocuments (updateFinalCluster tables row) =
      englishDocuments tables := by
  unfold englishDocuments updateFinalCluster Table.modify
  simp only
  rw [List.filter_map, List.length_map]
  congr 1
  apply List.filter_congr
  intro other _
  simp only [Function.comp_apply]
  split <;> rfl

/-! ## Runs -/

section Runs

variable {setting : CurationSetting} {origin settled database : CurationDatabase}
variable {batchSize : Nat}

/-- The subphases of the mapping are not those of the passes. -/
theorem NearSettled.progress_eq
    (isSettled : NearSettled setting origin settled) {subphase : Subphase}
    (notLoad : subphase ≠ .nearMapLoad) (notApply : subphase ≠ .nearMapApply) :
    settled.progress subphase = origin.progress subphase := by
  cases isSettled with
  | unmapped => rfl
  | applied done =>
      obtain ⟨progress, point⟩ := done.complete
      obtain ⟨rows, stored, loadPoint⟩ := done.load.complete
      rw [point.progress_ne notApply, loadPoint.progress_ne notLoad]

theorem NearSettled.unstarted
    (ingested : Ingested origin)
    (isSettled : NearSettled setting origin settled) :
    KeysetPass.Unstarted (canonicalPasses setting) settled where
  distinct := canonicalPasses_distinct setting
  fresh := by
    intro pass member
    have own (other : Subphase)
        (notPass : other ∉ (canonicalPasses setting).map
          KeysetPass.subphase) : pass.subphase ≠ other := by
      rintro rfl
      exact notPass (List.mem_map_of_mem member)
    rw [isSettled.progress_eq (own _ (by simp [canonicalPasses,
        benchmarkPasses, choicePasses, residualPasses, canonicalPass]))
      (own _ (by simp [canonicalPasses, benchmarkPasses, choicePasses,
        residualPasses, canonicalPass]))]
    exact ingested.passesUnstarted setting pass member

theorem NearReached.englishDocuments_eq
    (reached : NearReached setting origin database) :
    englishDocuments database.tables = englishDocuments origin.tables := by
  cases reached with
  | loading _ started =>
      rcases started with rfl | ⟨rows, progress, point⟩
      · rfl
      · rw [point.tables_eq]
        rfl
  | applying load started =>
      have keeps := nearMapApply_keeps englishDocuments_updateFinalCluster
      rw [keeps.started started, load.tables_eq]
      rfl

theorem NearSettled.englishDocuments_eq
    (isSettled : NearSettled setting origin settled) :
    englishDocuments settled.tables = englishDocuments origin.tables := by
  cases isSettled with
  | unmapped => rfl
  | applied done =>
      have keeps := nearMapApply_keeps englishDocuments_updateFinalCluster
      rw [keeps.completed done.complete, done.load.tables_eq]
      rfl

theorem requireRecords_ok {english expected : Nat}
    (required : requireRecords setting english = .ok expected) :
    expected = english := by
  unfold requireRecords at required
  split at required
  · cases required
  · simp only [checked_bind_eq_ok, exists_require, checked_pure_eq_ok]
      at required
    obtain ⟨-, same, rfl⟩ := required
    exact same

theorem requireRecords_error {english : Nat} {error : PyError}
    (required : requireRecords setting english = .error error) :
    error ≠ validationError := by
  rintro rfl
  unfold requireRecords at required
  split at required
  · exact absurd (Except.error.inj required) (by decide)
  · by_cases unchanged : setting.publicationUnchanged = true
    · rw [require_bind unchanged] at required
      rename_i records _
      by_cases same : records = english
      · rw [require_bind same] at required
        cases required
      · rw [require_eq_error same] at required
        exact absurd (Except.error.inj required) (by decide)
    · rw [require_eq_error unchanged] at required
      exact absurd (Except.error.inj required) (by decide)

/-- The state in which the passes can run. -/
def PassesReached (setting : CurationSetting)
    (origin database : CurationDatabase) : Prop :=
  ∃ settled, NearSettled setting origin settled ∧
    KeysetPass.Reached (canonicalPasses setting) settled database

/-- The documents and the mapping are those that the passes started from. -/
theorem passes_keep
    (reached : KeysetPass.Reached (canonicalPasses setting) settled database) :
    database.tables.documents = settled.tables.documents ∧
      database.tables.nearMap = settled.tables.nearMap := by
  have same := reached.view_eq fun _ member => canonicalPasses_keep member
  exact Prod.mk.inj same

theorem passes_progress
    (reached : KeysetPass.Reached (canonicalPasses setting) settled database) :
    database.progress .nearMapLoad = settled.progress .nearMapLoad ∧
      database.progress .nearMapApply = settled.progress .nearMapApply :=
  ⟨reached.progress_of_notMem (by simp [canonicalPasses, benchmarkPasses,
      choicePasses, residualPasses, canonicalPass]),
    reached.progress_of_notMem (by simp [canonicalPasses, benchmarkPasses,
      choicePasses, residualPasses, canonicalPass])⟩

/-- A run that has no mapping to load. -/
theorem passesReached_of_unmapped
    (unmapped : ∀ mapping, ¬Mapped setting origin mapping)
    (reached : NearReached setting origin database ∨
      PassesReached setting origin database) :
    PassesReached setting origin database := by
  rcases reached with near | passes
  · cases near with
    | loading mapped _ => exact absurd mapped (unmapped _)
    | applying load _ => exact absurd load.mapped (unmapped _)
  · exact passes

/-- A run that loads and applies its mapping. -/
theorem mapping_wp
    {mapping : List NearMapRow}
    (ingested : Ingested origin) (batches : 1 ≤ batchSize)
    (mapped : Mapped setting origin mapping)
    (reached : NearReached setting origin database ∨
      PassesReached setting origin database) :
    (loadMapping setting batchSize mapping (englishDocuments origin.tables)
        (englishDocuments origin.tables) >>= fun _ =>
      applyMapping batchSize (englishDocuments origin.tables) >>= fun _ =>
        pure true).wp
      (fun _ final => PassesReached setting origin final)
      (fun error _ => error ≠ validationError)
      (CanonicalReached setting origin) database := by
  have crashes (current : CurationDatabase)
      (near : NearReached setting origin current) :
      CanonicalReached setting origin current := .near near
  have settles (current : CurationDatabase)
      (isSettled : NearSettled setting origin current) :
      CanonicalReached setting origin current := .passes isSettled .start
  have sameMapping {other : List NearMapRow}
      (otherMapped : Mapped setting origin other) : other = mapping :=
    Option.some.inj (otherMapped.mapping_eq.symm.trans mapped.mapping_eq)
  have applies {loaded current : CurationDatabase}
      (load : Loaded setting origin mapping loaded)
      (started : nearMapApply.Started loaded current) :
      (applyMapping batchSize (englishDocuments origin.tables) >>= fun _ =>
        pure true).wp
        (fun _ final => PassesReached setting origin final)
        (fun error _ => error ≠ validationError)
        (CanonicalReached setting origin) current := by
    rw [Program.wp_bind]
    refine (applyMapping_wp ingested batches load crashes settles
      started).weaken ?_
    intro _ final applied
    rw [Program.wp_pure]
    exact ⟨final, .applied applied, .start⟩
  rw [Program.wp_bind]
  rcases reached with near | ⟨settled, isSettled, passes⟩
  · cases near with
    | loading otherMapped started =>
        rw [sameMapping otherMapped] at started
        refine (loadMapping_wp ingested mapped crashes started).weaken ?_
        exact fun _ final load => applies load (.inl rfl)
    | applying load started =>
        rw [sameMapping load.mapped] at load
        have progress : database.progress .nearMapLoad = _ :=
          started.progress_ne fun impossible => by cases impossible
        have counted : database.tables.nearMap.rows.length =
            englishDocuments origin.tables := by
          have keeps : nearMapApply.Keeps CurationTables.nearMap :=
            nearMapApply_keeps fun _ _ => rfl
          rw [keeps.started started, load.counted]
        refine (loadMapping_wp_of_loaded load progress counted).weaken ?_
        rintro _ final rfl
        exact applies load started
  · cases isSettled with
    | unmapped unmapped => exact absurd mapped (unmapped mapping)
    | applied done =>
        rw [sameMapping done.load.mapped] at done
        have load := done.load
        obtain ⟨documents, nearMap⟩ := passes_keep passes
        obtain ⟨loadProgress, applyProgress⟩ := passes_progress passes
        have keeps : nearMapApply.Keeps CurationTables.nearMap :=
          nearMapApply_keeps fun _ _ => rfl
        have counted : database.tables.nearMap.rows.length =
            englishDocuments origin.tables := by
          rw [nearMap, keeps.completed done.complete, load.counted]
        have progress : database.progress .nearMapLoad = _ :=
          loadProgress.trans (done.complete.progress_ne
            fun impossible => by cases impossible)
        refine (loadMapping_wp_of_loaded load progress counted).weaken ?_
        rintro _ final rfl
        rw [Program.wp_bind]
        refine (applyMapping_wp_of_applied done applyProgress documents
          nearMap).weaken ?_
        rintro _ final rfl
        rw [Program.wp_pure]
        exact ⟨_, .applied done, passes⟩

/-- The near-duplicate clusters are brought in place. -/
theorem loadNearClusters_wp
    (ingested : Ingested origin) (batches : 1 ≤ batchSize)
    (reached : NearReached setting origin database ∨
      PassesReached setting origin database) :
    (loadNearClusters setting batchSize).wp
      (fun _ final => PassesReached setting origin final)
      (fun error _ => error ≠ validationError)
      (CanonicalReached setting origin) database := by
  have english : englishDocuments database.tables =
      englishDocuments origin.tables := by
    rcases reached with near | ⟨settled, isSettled, passes⟩
    · exact near.englishDocuments_eq
    · have documents := (passes_keep passes).1
      rw [← isSettled.englishDocuments_eq]
      unfold englishDocuments
      rw [documents]
  unfold loadNearClusters
  apply Program.wp_query_bind
  rw [english]
  by_cases profile : setting.fastCanonicalProfile = true
  · have unmapped := passesReached_of_unmapped
      (fun _ mapped => by simp [mapped.profile] at profile) reached
    rw [if_pos profile, Program.wp_bind]
    apply wp_checkThat
    · intro _
      rw [Program.wp_pure]
      exact unmapped
    · exact fun _ => by decide
  rw [if_neg profile]
  by_cases noEnglish : englishDocuments origin.tables = 0
  · rw [if_pos noEnglish, Program.wp_pure]
    exact passesReached_of_unmapped
      (fun _ mapped => mapped.english noEnglish) reached
  rw [if_neg noEnglish]
  cases clusters : setting.englishNearClusters with
  | none =>
      have unmapped := passesReached_of_unmapped
        (fun _ mapped => by simp [mapped.mapping_eq] at clusters) reached
      rw [Program.wp_bind]
      apply wp_checkThat
      · intro _
        rw [Program.wp_pure]
        exact unmapped
      · exact fun _ => by decide
  | some mapping =>
      have isMapped : Mapped setting origin mapping :=
        ⟨by simpa using profile, noEnglish, clusters⟩
      simp only
      cases records : requireRecords setting
          (englishDocuments origin.tables) with
      | error error =>
          rw [Program.wp_bind, Program.wp_lift_error]
          exact requireRecords_error records
      | ok expected =>
          rw [requireRecords_ok records]
          rw [Program.wp_bind, Program.wp_lift_ok]
          exact mapping_wp ingested batches isMapped reached

/-- The tables after the nine passes. -/
theorem tables_of_allCompleted
    (ingested : Ingested origin)
    (isSettled : NearSettled setting origin settled)
    {last : CurationDatabase}
    (all : KeysetPass.AllCompleted (canonicalPasses setting) settled last) :
    last.tables = canonicalTables setting settled.tables := by
  have writes := canonicalPasses_write setting (isSettled.prepared ingested)
  have equal := all.wholeAll_eq
  rw [writes.whole] at equal
  exact (Except.ok.inj equal).symm

/-- A run continues wherever a kill has left the phase, and ends it. -/
theorem canonicalize_wp
    (ingested : Ingested origin) (batches : 1 ≤ batchSize)
    (reached : CanonicalReached setting origin database) :
    (canonicalize setting batchSize).wp
      (fun _ final => CanonicalFinished setting origin final)
      (fun error _ => error ≠ validationError)
      (CanonicalReached setting origin) database := by
  unfold canonicalize
  apply Program.wp_query_bind
  have passesPhase {settled current : CurationDatabase}
      (isSettled : NearSettled setting origin settled)
      (passes : KeysetPass.Reached (canonicalPasses setting) settled
        current) : current.phase = .inventoryComplete := by
    rw [(isSettled.sameOutside.trans passes.sameOutside).phase]
    exact ingested.phase
  have running (open' : NearReached setting origin database ∨
      PassesReached setting origin database)
      (phase : database.phase = .inventoryComplete) :
      (if database.phase ≠ .inventoryComplete then pure () else do
        let _ ← loadNearClusters setting batchSize
        Program.forEach (canonicalPasses setting)
          (KeysetPass.runToCompletion batchSize)
        let tables ← Program.query CurationDatabase.tables
        Program.lift (validateCanonicalization setting tables)
        finishCanonicalization : CurationProgram Unit).wp
        (fun _ final => CanonicalFinished setting origin final)
        (fun error _ => error ≠ validationError)
        (CanonicalReached setting origin) database := by
    rw [if_neg (not_not.mpr phase), Program.wp_bind]
    refine (loadNearClusters_wp ingested batches open').weaken ?_
    rintro _ current ⟨settled, isSettled, passes⟩
    have writes := canonicalPasses_write setting (isSettled.prepared ingested)
    rw [Program.wp_bind]
    refine (KeysetPass.forEach_wp batches writes.sound
      (isSettled.unstarted ingested)
      (fun _ later => .passes isSettled later) passes).mono ?_
      (fun _ _ impossible => impossible.elim) (fun _ => id)
    intro _ last all
    apply Program.wp_query_bind
    have accepted : validateCanonicalization setting last.tables = .ok () := by
      rw [tables_of_allCompleted ingested isSettled all]
      exact (isSettled.prepared ingested).validate_eq_ok
    apply Program.wp_lift_bind accepted
    have finished : CanonicalFinished setting origin
        { last with phase := .canonicalized } := .intro isSettled all
    unfold finishCanonicalization
    rw [Program.wp_effect, require_bind (passesPhase isSettled all.reached)]
    exact ⟨.finished finished, finished⟩
  cases reached with
  | near near => exact running (.inl near) (near.phase_eq ingested)
  | passes isSettled passes =>
      exact running (.inr ⟨_, isSettled, passes⟩)
        (passesPhase isSettled passes)
  | finished finished =>
      obtain ⟨isSettled, all⟩ := finished
      rw [if_pos fun impossible => (by cases impossible), Program.wp_pure]
      exact .intro isSettled all

end Runs

end CodingLlm
