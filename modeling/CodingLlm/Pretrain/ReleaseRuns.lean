import CodingLlm.Pretrain.ReleaseWrites

/-!
# Runs of a release

Which writes a release performs, and what they leave staged.
-/

namespace CodingLlm

open CrashLogic JsonTree

variable {Bytes : Type} (codec : ReleaseCodec Bytes)

/-! ## The writes -/

/-- The writes that happen: up to the first one that raises, and what that one
leaves. -/
def performedWrites (faults : ReleaseFaults Bytes) :
    List (String × Bytes) -> List (String × Bytes)
  | [] => []
  | (name, bytes) :: writes =>
      match faults.partialWrite name with
      | some written => [(name, written)]
      | none => (name, bytes) :: performedWrites faults writes

/-- The writes from the card to the attributes. -/
def ReleaseCodec.policyWrites (plan : ReleasePlan Bytes) :
    List (String × Bytes) :=
  [(modelCardName, codec.encodeText plan.card),
    (generationConfigName, codec.encodeJson plan.generation),
    (hubAttributesName, plan.attributes)]

/-- The writes before the manifest, for a checkpoint. -/
def ReleaseCodec.recordedWrites
    (plan : ReleasePlan Bytes) (checkpoint : String) :
    List (String × Bytes) :=
  codec.policyWrites plan ++ [(releaseProvenanceName,
    codec.encodeJson (plan.verified.provenance checkpoint))]

/-- The manifest of a release whose files are staged. -/
def ReleaseCodec.manifestOf
    (plan : ReleasePlan Bytes) (checkpoint : String)
    (staging : Staging Bytes) : JsonTree :=
  plan.verified.releaseManifest (codec.publicationBlockers plan.card)
    (codec.fileRecords
      (staging.putAll (codec.recordedWrites plan checkpoint)))

/-- The writes of the manifest and its sidecar. -/
def ReleaseCodec.manifestWrites (manifest : JsonTree) :
    List (String × Bytes) :=
  [(releaseManifestName, codec.encodeJson manifest),
    (releaseManifestSidecarName, codec.encodeText (sidecarText
      (codec.sha256 (codec.encodeJson manifest)) releaseManifestName))]

/-- All writes of a release over what is staged. -/
def ReleaseCodec.releaseWrites
    (plan : ReleasePlan Bytes) (staging : Staging Bytes) :
    List (String × Bytes) :=
  match sourceCheckpoint? plan.verified.manifest with
  | none => codec.policyWrites plan
  | some checkpoint =>
      codec.recordedWrites plan checkpoint ++
        codec.manifestWrites (codec.manifestOf plan checkpoint staging)

/-- The generated files. -/
def releaseNames : List String :=
  [modelCardName, generationConfigName, hubAttributesName,
    releaseProvenanceName, releaseManifestName, releaseManifestSidecarName]

/-- Nothing raises from the first write to the rename. -/
structure ReleaseCompletes
    (faults : ReleaseFaults Bytes) (plan : ReleasePlan Bytes) : Prop where
  writes : ∀ name ∈ releaseNames, faults.partialWrite name = none
  checkpoint : (sourceCheckpoint? plan.verified.manifest).isSome
  syncs : faults.syncFails = false

/-! ## Runs -/

section Runs

variable {codec} {faults : ReleaseFaults Bytes} {plan : ReleasePlan Bytes}
variable {staging : Staging Bytes} {α : Type}
variable {writes later : List (String × Bytes)}

/-- None of the writes raises. -/
def Writes
    (faults : ReleaseFaults Bytes) (writes : List (String × Bytes)) : Prop :=
  ∀ write ∈ writes, faults.partialWrite write.1 = none

theorem performedWrites_eq (all : Writes faults writes) :
    performedWrites faults writes = writes := by
  induction writes with
  | nil => rfl
  | cons write writes inductionHypothesis =>
      rw [performedWrites, all write (List.mem_cons_self ..)]
      exact congrArg (write :: ·) (inductionHypothesis fun other member =>
        all other (List.mem_cons_of_mem _ member))

theorem map_fst_performedWrites :
    (performedWrites faults writes).map Prod.fst <+:
      writes.map Prod.fst := by
  induction writes with
  | nil => exact List.nil_prefix
  | cons write writes inductionHypothesis =>
      rw [performedWrites]
      cases faults.partialWrite write.1 with
      | some written => exact ⟨writes.map Prod.fst, rfl⟩
      | none =>
          obtain ⟨rest, equal⟩ := inductionHypothesis
          exact ⟨rest, congrArg (write.1 :: ·) equal⟩

/-- Writes, and what follows them. -/
def writesThen
    (faults : ReleaseFaults Bytes) (writes : List (String × Bytes))
    (next : Program (Staging Bytes) PyError α) :
    Program (Staging Bytes) PyError α :=
  writes.foldr (fun write rest =>
    writeStaged faults write.1 write.2 >>= fun _ => rest) next

/-- A program ends with the writes that happen, and returns a value exactly
when all of them do and a further condition holds. -/
structure Ends
    (faults : ReleaseFaults Bytes)
    (program : Program (Staging Bytes) PyError α)
    (staging : Staging Bytes)
    (writes : List (String × Bytes)) (completes : Prop) (value : α) :
    Prop where
  result_iff : ∀ other, (program.run staging).result = .ok other ↔
    (Writes faults writes ∧ completes) ∧ other = value
  final_eq : (program.run staging).final =
    staging.putAll (performedWrites faults writes)

theorem ends_raise (error : PyError) (value : α) :
    Ends faults (Program.raise error) staging [] False value :=
  ⟨fun _ => ⟨nofun, fun both => both.1.2.elim⟩, rfl⟩

theorem ends_pure (value : α) :
    Ends faults (pure value) staging [] True value :=
  ⟨fun _ => ⟨fun same => ⟨⟨nofun, trivial⟩, (Except.ok.inj same).symm⟩,
    fun both => congrArg Except.ok both.2.symm⟩, rfl⟩

theorem Ends.of_iff
    {program : Program (Staging Bytes) PyError α} {completes other : Prop}
    {value : α}
    (ends : Ends faults program staging writes completes value)
    (same : completes ↔ other) :
    Ends faults program staging writes other value :=
  propext same ▸ ends

/-- What is read before the next step. -/
theorem Ends.inspect
    {read : Staging Bytes -> Checked β} {found : β} {completes : Prop}
    {value : α} {next : β -> Program (Staging Bytes) PyError α}
    (reads : read staging = .ok found)
    (rest : Ends faults (next found) staging writes completes value) :
    Ends faults (Program.inspect read >>= next) staging writes completes
      value := by
  have step : (Program.inspect read >>= next).run staging =
      (next found).run staging := by
    change Program.andThen _ _ staging = _
    simp [Program.andThen, Program.inspect, Program.run, reads]
  exact ⟨fun other => step ▸ rest.result_iff other, step ▸ rest.final_eq⟩

/-- What is raised before the next step. -/
theorem ends_inspect_error
    {read : Staging Bytes -> Checked β} {error : PyError} (value : α)
    {next : β -> Program (Staging Bytes) PyError α}
    (raises : read staging = .error error) :
    Ends faults (Program.inspect read >>= next) staging [] False value := by
  have step : (Program.inspect read >>= next).run staging =
      (Program.raise error : Program (Staging Bytes) PyError α).run
        staging := by
    change Program.andThen _ _ staging = _
    simp [Program.andThen, Program.inspect, Program.run, Program.raise,
      raises]
  exact ⟨fun other => step ▸ (@ends_raise _ faults staging _ error
    value).result_iff other, step ▸ rfl⟩

theorem Ends.lift
    {computation : Checked β} {found : β} {completes : Prop} {value : α}
    {next : β -> Program (Staging Bytes) PyError α}
    (computes : computation = .ok found)
    (rest : Ends faults (next found) staging writes completes value) :
    Ends faults (Program.lift computation >>= next) staging writes completes
      value :=
  have reads : (fun _ : Staging Bytes => computation) staging = .ok found :=
    computes
  .inspect reads rest

theorem ends_lift_error
    {computation : Checked β} {error : PyError} (value : α)
    {next : β -> Program (Staging Bytes) PyError α}
    (raises : computation = .error error) :
    Ends faults (Program.lift computation >>= next) staging [] False value :=
  have reads : (fun _ : Staging Bytes => computation) staging =
    .error error := raises
  ends_inspect_error value reads

/-- Writes before a program are writes before its own. -/
theorem Ends.after_writes
    {next : Program (Staging Bytes) PyError α} {completes : Prop} {value : α}
    (rest : Ends faults next (staging.putAll writes) later completes value) :
    Ends faults (writesThen faults writes next) staging (writes ++ later)
      completes value := by
  induction writes generalizing staging with
  | nil => exact rest
  | cons write writes inductionHypothesis =>
      have first : writesThen faults (write :: writes) next =
          (writeStaged faults write.1 write.2 >>= fun _ =>
            writesThen faults writes next) := rfl
      have some (raised : faults.partialWrite write.1 ≠ none) :
          ¬Writes faults (write :: writes ++ later) := fun all =>
        raised (all write (List.mem_cons_self ..))
      rw [first, writeStaged]
      cases raised : faults.partialWrite write.1 with
      | some written =>
          constructor
          case result_iff =>
            exact fun other => ⟨nofun, fun both =>
              absurd both.1.1 (some (by rw [raised]; nofun))⟩
          case final_eq =>
            rw [List.cons_append, performedWrites, raised]
            rfl
      | none =>
          have all : Writes faults (write :: writes ++ later) ↔
              Writes faults (writes ++ later) := by
            simp [Writes, raised]
          obtain ⟨results, final⟩ := inductionHypothesis rest
          constructor
          case result_iff =>
            simp only [all]
            exact results
          case final_eq =>
            rw [List.cons_append, performedWrites, raised]
            exact final

/-- A release as its writes and what happens between them. -/
theorem writeRelease_eq :
    codec.writeRelease faults plan =
      writesThen faults (codec.policyWrites plan) (do
        let checkpoint ← Program.lift (requireObject
          (sourceCheckpoint? plan.verified.manifest)
          (releaseError
            "Native export does not authenticate its source checkpoint"))
        writesThen faults [(releaseProvenanceName,
            codec.encodeJson (plan.verified.provenance checkpoint))] (do
          let records ← Program.inspect fun staging =>
            .ok (codec.fileRecords staging)
          let manifest := plan.verified.releaseManifest
            (codec.publicationBlockers plan.card) records
          writesThen faults
              [(releaseManifestName, codec.encodeJson manifest)] (do
            let sha256 ← Program.inspect fun staging =>
              codec.sha256 <$> staging.directory.read releaseManifestName
            writesThen faults [(releaseManifestSidecarName, codec.encodeText
                (sidecarText sha256 releaseManifestName))] (do
              let _ ← Program.lift (require (¬faults.syncFails)
                (.ioError "fsync failed"))
              return manifest)))) := rfl

/-- The fsync of the staged tree comes last. -/
theorem ends_syncTree (manifest : JsonTree) :
    Ends faults (do
      let _ ← Program.lift (require (¬faults.syncFails)
        (.ioError "fsync failed"))
      return manifest) staging [] (faults.syncFails = false) manifest := by
  cases fails : faults.syncFails with
  | true =>
      have raises : require (¬true = true) (.ioError "fsync failed") =
          .error (.ioError "fsync failed") := require_eq_error (by simp)
      exact (ends_lift_error manifest raises).of_iff (by simp)
  | false =>
      have passes : require (¬false = true) (.ioError "fsync failed") =
          .ok ⟨by simp⟩ := require_eq_ok (by simp)
      exact (Ends.lift passes (ends_pure manifest)).of_iff (by simp)

/-- What is written is read back at once. -/
theorem read_put (name : String) (bytes : Bytes) :
    (staging.put name bytes).directory.read name = .ok bytes := by
  rw [FlatDirectory.read, Staging.lookup_directory, Staging.content?_put,
    if_pos rfl]
  rfl

/-- How a release ends. -/
theorem writeRelease_ends :
    ∃ manifest, Ends faults (codec.writeRelease faults plan) staging
      (codec.releaseWrites plan staging)
      ((sourceCheckpoint? plan.verified.manifest).isSome ∧
        faults.syncFails = false) manifest ∧
      ∀ checkpoint, sourceCheckpoint? plan.verified.manifest =
          some checkpoint ->
        manifest = codec.manifestOf plan checkpoint staging := by
  rw [writeRelease_eq]
  cases found : sourceCheckpoint? plan.verified.manifest with
  | none =>
      have missing : requireObject (none : Option String) (releaseError
          "Native export does not authenticate its source checkpoint") =
          .error (releaseError
            "Native export does not authenticate its source checkpoint") := rfl
      have listed : codec.releaseWrites plan staging =
          codec.policyWrites plan ++ [] := by
        rw [ReleaseCodec.releaseWrites, found, List.append_nil]
      refine ⟨null, ?_, nofun⟩
      rw [listed]
      exact Ends.after_writes ((ends_lift_error null missing).of_iff
        (by simp))
  | some checkpoint =>
      have listed : codec.releaseWrites plan staging =
          codec.policyWrites plan ++ ([(releaseProvenanceName,
              codec.encodeJson (plan.verified.provenance checkpoint))] ++
            codec.manifestWrites
              (codec.manifestOf plan checkpoint staging)) := by
        rw [ReleaseCodec.releaseWrites, found, ← List.append_assoc]
        rfl
      have present : requireObject (some checkpoint) (releaseError
          "Native export does not authenticate its source checkpoint") =
          .ok checkpoint := rfl
      refine ⟨codec.manifestOf plan checkpoint staging, ?_, ?_⟩
      · rw [listed]
        refine Ends.after_writes (Ends.lift present (Ends.after_writes ?_))
        have recorded : (.ok (codec.fileRecords
            ((staging.putAll (codec.policyWrites plan)).putAll
              [(releaseProvenanceName, codec.encodeJson
                (plan.verified.provenance checkpoint))])) :
              Checked (List JsonTree)) =
            .ok (codec.fileRecords (staging.putAll
              (codec.recordedWrites plan checkpoint))) := by
          rw [ReleaseCodec.recordedWrites, Staging.putAll_append]
        refine Ends.inspect recorded (Ends.after_writes (Ends.inspect ?_
          (Ends.after_writes ((ends_syncTree _).of_iff (by simp)))))
        rw [Staging.putAll_cons, Staging.putAll_nil, read_put]
        rfl
      · intro other same
        cases same
        rfl

end Runs

end CodingLlm
