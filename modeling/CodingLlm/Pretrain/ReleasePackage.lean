import CodingLlm.Pretrain.ReleaseRuns
import CodingLlm.Pretrain.ReleaseValidation

/-!
# What a release leaves behind

`prepare_release_package` keeps the sealed export and either leaves no output
or publishes a complete release exactly when no public file stands where it
writes something else, or where no release may have a file.
-/

namespace CodingLlm

open CrashLogic JsonTree

variable {Bytes : Type} {codec : ReleaseCodec Bytes}
variable {faults : ReleaseFaults Bytes} {mode : FileMode}
variable {source : FlatDirectory Bytes} {names : List String}

/-! ## Staged public files -/

theorem copyPublicFile_scrubbed
    {name : String} {file : StagedFile Bytes}
    (scrubbed : name ∈ scrubbedNames)
    (copied : codec.copyPublicFile faults mode source name = .ok file) :
    ∃ payload, codec.loadJson source name = .ok payload ∧
      file = .own (codec.encodeJson (scrubLocalPathMetadata payload)) := by
  rw [ReleaseCodec.copyPublicFile, if_pos scrubbed] at copied
  simp only [checked_bind_eq_ok, exists_require, checked_pure_eq_ok]
    at copied
  obtain ⟨payload, loaded, -, -, rfl⟩ := copied
  exact ⟨payload, loaded, rfl⟩

theorem copyPublicFile_exact
    {name : String} {file : StagedFile Bytes}
    (exact : name ∉ scrubbedNames)
    (copied : codec.copyPublicFile faults mode source name = .ok file) :
    ∃ bytes, source.files.lookup name = some bytes ∧
      file = mode.stage bytes := by
  rw [ReleaseCodec.copyPublicFile, if_neg exact] at copied
  simp only [checked_bind_eq_ok, exists_require, checked_pure_eq_ok,
    requireObject_eq_ok] at copied
  obtain ⟨bytes, found, -, rfl⟩ := copied
  exact ⟨bytes, found, rfl⟩

theorem lookup_copyPublicFiles
    {start files : Table String (StagedFile Bytes)}
    (copied : names.foldlM (fun files name => do
      let file ← codec.copyPublicFile faults mode source name
      return files.upsert name file) start = .ok files)
    (name : String) :
    (name ∈ names ∧ ∃ file,
      codec.copyPublicFile faults mode source name = .ok file ∧
        files.lookup name = some file) ∨
      (name ∉ names ∧ files.lookup name = start.lookup name) := by
  induction names generalizing start with
  | nil =>
      cases copied
      exact .inr ⟨nofun, rfl⟩
  | cons first names inductionHypothesis =>
      simp only [List.foldlM_cons, checked_bind_eq_ok, checked_pure_eq_ok]
        at copied
      obtain ⟨_, ⟨file, stages, rfl⟩, rest⟩ := copied
      rcases inductionHypothesis rest with ⟨member, found⟩ | ⟨absent, found⟩
      · exact .inl ⟨List.mem_cons_of_mem _ member, found⟩
      · rw [Table.lookup_upsert] at found
        by_cases same : name = first
        · subst same
          rw [if_pos rfl] at found
          exact .inl ⟨List.mem_cons_self .., file, stages, found⟩
        · rw [if_neg same] at found
          refine .inr ⟨fun member => ?_, found⟩
          rcases List.mem_cons.mp member with equal | later
          · exact same equal
          · exact absent later

/-- The public files are staged and nothing else. -/
structure StagesPublic
    (codec : ReleaseCodec Bytes) (mode : FileMode) (names : List String)
    (staging : Staging Bytes) : Prop where
  linked_iff : ∀ name, staging.IsLinked name ↔
    mode = .hardlink ∧ name ∈ names ∧ name ∉ scrubbedNames
  exact : ∀ name ∈ names, name ∉ scrubbedNames ->
    ∃ bytes, staging.source.files.lookup name = some bytes ∧
      staging.content? name = some bytes
  scrubbed : ∀ name ∈ names, name ∈ scrubbedNames ->
    ∃ payload, codec.loadJson staging.source name = .ok payload ∧
      staging.content? name =
        some (codec.encodeJson (scrubLocalPathMetadata payload))
  absent : ∀ name, name ∉ names -> staging.content? name = none

theorem stagesPublic_of_copyPublicFiles
    {files : Table String (StagedFile Bytes)}
    (copied : codec.copyPublicFiles faults mode source names = .ok files) :
    StagesPublic codec mode names ⟨source, files⟩ := by
  have each := lookup_copyPublicFiles copied
  constructor
  case linked_iff =>
    intro name
    rcases each name with ⟨member, file, stages, found⟩ | ⟨absent, found⟩
    · by_cases scrubbed : name ∈ scrubbedNames
      · obtain ⟨_, -, rfl⟩ := copyPublicFile_scrubbed scrubbed stages
        refine iff_of_false (fun linked => ?_) fun all => all.2.2 scrubbed
        cases found.symm.trans linked
      · obtain ⟨_, -, rfl⟩ := copyPublicFile_exact scrubbed stages
        cases mode with
        | hardlink => exact iff_of_true found ⟨rfl, member, scrubbed⟩
        | copy =>
            refine iff_of_false (fun linked => ?_) fun all => nomatch all.1
            cases found.symm.trans linked
    · refine iff_of_false (fun linked => ?_) fun all => absent all.2.1
      cases found.symm.trans linked
  case exact =>
    intro name member exact
    rcases each name with ⟨-, file, stages, found⟩ | ⟨absent, -⟩
    · obtain ⟨bytes, stored, rfl⟩ := copyPublicFile_exact exact stages
      refine ⟨bytes, stored, ?_⟩
      unfold Staging.content?
      cases mode with
      | hardlink => rw [found]; exact stored
      | copy => rw [found]; rfl
    · exact absurd member absent
  case scrubbed =>
    intro name member scrubbed
    rcases each name with ⟨-, file, stages, found⟩ | ⟨absent, -⟩
    · obtain ⟨payload, loaded, rfl⟩ := copyPublicFile_scrubbed scrubbed stages
      refine ⟨payload, loaded, ?_⟩
      unfold Staging.content?
      rw [found]
    · exact absurd member absent
  case absent =>
    intro name absent
    rcases each name with ⟨member, -⟩ | ⟨-, found⟩
    · exact absurd member absent
    · have nothing : files.lookup name = none := found
      unfold Staging.content?
      rw [nothing]

/-! ## What is promised -/

/-- A published release: it is accepted without further names, has every public
file byte for byte or without the metadata of local paths, and no internal
file. -/
structure Published
    (codec : ReleaseCodec Bytes) (source : FlatDirectory Bytes)
    (publicFiles : List String) (directory : FlatDirectory Bytes) :
    Prop where
  validated : ∃ manifest,
    codec.validateReleasePackage directory false [] = .ok manifest
  exact : ∀ name ∈ publicFiles, name ∉ scrubbedNames ->
    directory.files.lookup name = source.files.lookup name
  scrubbed : ∀ name ∈ publicFiles, name ∈ scrubbedNames ->
    ∃ original published, codec.loadJson source name = .ok original ∧
      codec.loadJson directory name = .ok published ∧
      ∀ path, (published.at? path).map node =
        if path.any (Step.isRemoved isPathMetadata) then none
        else (original.at? path).map node
  internal : ∀ name ∈ internalOnlyNames, name ∉ directory.files.keys
  others : directory.others = []

/-- The export keeps its bytes and is still accepted, and the call either
raises and leaves no output, or publishes a release. -/
structure ReleaseSafe
    (codec : ReleaseCodec Bytes) (before : ReleaseWorld Bytes)
    (outcome : ReleaseOutcome Bytes) : Prop where
  files_eq : outcome.final.source.files = before.source.files
  accepted : ∀ verified,
    codec.verifySourceExport before.source = .ok verified ->
      codec.verifySourceExport outcome.final.source = .ok verified
  ended : match outcome.result with
    | .error _ => outcome.final.output = before.output
    | .ok _ => ∃ verified directory,
        codec.verifySourceExport before.source = .ok verified ∧
          outcome.final.output = some directory ∧
            Published codec before.source verified.publicFiles directory

/-- What is written under public names is what the public files hold. -/
def Harmless
    (source : FlatDirectory Bytes) (publicFiles : List String)
    (writes : List (String × Bytes)) : Prop :=
  ∀ write ∈ writes, write.1 ∈ publicFiles ->
    source.files.lookup write.1 = some write.2

/-- What a call needs whose writes all happen. -/
structure Publishable
    (codec : ReleaseCodec Bytes) (faults : ReleaseFaults Bytes)
    (location : OutputLocation) (source : FlatDirectory Bytes)
    (plan : ReleasePlan Bytes) (staging : Staging Bytes) : Prop where
  synced : faults.parentSyncFails = false
  outside : location = .outside
  names : ∀ name ∈ plan.verified.publicFiles,
    name ∉ [releaseManifestName, releaseManifestSidecarName] ∧
      name ∉ internalOnlyNames
  harmless : Harmless source plan.verified.publicFiles
    (codec.releaseWrites plan staging)

/-- When a call that stages the public files keeps what is promised. -/
def StagedSafely
    (codec : ReleaseCodec Bytes) (faults : ReleaseFaults Bytes)
    (request : ReleaseRequest Bytes) (source : FlatDirectory Bytes)
    (plan : ReleasePlan Bytes) (staging : Staging Bytes) : Prop :=
  (request.mode = .hardlink ->
    Harmless source plan.verified.publicFiles
      (performedWrites faults (codec.releaseWrites plan staging))) ∧
  (ReleaseCompletes faults plan ->
    Publishable codec faults request.location source plan staging)

/-- When a call keeps what is promised: it is rejected before anything is
staged, or its output does not lie deep in the export and what is written over
the staged files does no harm. -/
def ReleaseHolds [DecidableEq Bytes]
    (codec : ReleaseCodec Bytes) (faults : ReleaseFaults Bytes)
    (request : ReleaseRequest Bytes) (world : ReleaseWorld Bytes) : Prop :=
  ∀ plan, codec.planRelease request world = .ok plan ->
    match request.location with
    | .belowSource name => name ∈ world.source.files.keys
    | _ => ∀ files,
        codec.copyPublicFiles faults request.mode world.source
          plan.verified.publicFiles = .ok files ->
        StagedSafely codec faults request world.source plan
          ⟨world.source, files⟩

/-! ## The staged release -/

section Staged

variable {plan : ReleasePlan Bytes} {staging : Staging Bytes}
variable {checkpoint : String}

theorem releaseWrites_names :
    (codec.releaseWrites plan staging).map Prod.fst <+: releaseNames := by
  unfold ReleaseCodec.releaseWrites
  cases sourceCheckpoint? plan.verified.manifest with
  | none => exact ⟨releaseNames.drop 3, rfl⟩
  | some checkpoint => exact ⟨[], rfl⟩

theorem performedWrites_names :
    (performedWrites faults (codec.releaseWrites plan staging)).map
      Prod.fst <+: releaseNames :=
  map_fst_performedWrites.trans releaseWrites_names

theorem nodup_of_releaseNames
    {writes : List (String × Bytes)}
    (listed : writes.map Prod.fst <+: releaseNames) :
    (writes.map Prod.fst).Nodup :=
  listed.sublist.nodup (by decide)

/-- In hard-link mode the writes keep the export exactly when they are
harmless, and in copy mode always. -/
theorem source_kept_iff
    {writes : List (String × Bytes)}
    (staged : StagesPublic codec mode names staging)
    (listed : writes.map Prod.fst <+: releaseNames) :
    (staging.putAll writes).source = staging.source ↔
      (mode = .hardlink -> Harmless staging.source names writes) := by
  rw [Staging.source_putAll_eq_iff (nodup_of_releaseNames listed)]
  have exact (write : String × Bytes) (member : write ∈ writes) :
      write.1 ∉ scrubbedNames := by
    have generated := listed.subset (List.mem_map_of_mem member)
    intro scrubbed
    have apart : ∀ name ∈ releaseNames, name ∉ scrubbedNames := by decide
    exact apart _ generated scrubbed
  constructor
  · intro kept linked write member isPublic
    exact kept write member
      ((staged.linked_iff _).mpr ⟨linked, isPublic, exact write member⟩)
  · intro harmless write member linked
    obtain ⟨isLink, isPublic, -⟩ := (staged.linked_iff _).mp linked
    exact harmless isLink write member isPublic

/-- The names that the manifest records. -/
theorem content?_recorded_isSome
    (staged : StagesPublic codec mode names staging)
    (name : String) :
    ((staging.putAll (codec.recordedWrites plan checkpoint)).content?
        name).isSome ↔
      name ∈ names ∨
        name ∈ (codec.recordedWrites plan checkpoint).map Prod.fst := by
  have listed : (codec.recordedWrites plan checkpoint).map Prod.fst <+:
      releaseNames := ⟨releaseNames.drop 4, rfl⟩
  by_cases written :
      name ∈ (codec.recordedWrites plan checkpoint).map Prod.fst
  · obtain ⟨write, member, rfl⟩ := List.mem_map.mp written
    rw [Staging.content?_putAll (nodup_of_releaseNames listed) member]
    exact iff_of_true rfl (.inr written)
  · rw [Staging.content?_putAll_of_notMem _ written]
    by_cases isPublic : name ∈ names
    · refine iff_of_true ?_ (.inl isPublic)
      by_cases scrubbed : name ∈ scrubbedNames
      · obtain ⟨_, -, found⟩ := staged.scrubbed name isPublic scrubbed
        rw [found]
        rfl
      · obtain ⟨_, -, found⟩ := staged.exact name isPublic scrubbed
        rw [found]
        rfl
    · rw [staged.absent name isPublic]
      exact iff_of_false (by simp)
        fun either => either.elim isPublic written

/-- The files that the manifest records. -/
def recordedRows
    (codec : ReleaseCodec Bytes) (plan : ReleasePlan Bytes)
    (checkpoint : String) (staging : Staging Bytes) :
    List (String × Bytes) :=
  (staging.putAll
    (codec.recordedWrites plan checkpoint)).directory.files.rows

theorem mem_recordedRows_names
    (staged : StagesPublic codec mode names staging)
    (name : String) :
    name ∈ (recordedRows codec plan checkpoint staging).map Prod.fst ↔
      name ∈ names ∨
        name ∈ (codec.recordedWrites plan checkpoint).map Prod.fst :=
  (Staging.mem_keys_directory _ name).trans
    (content?_recorded_isSome staged name)

theorem releaseWrites_of_checkpoint
    (found : sourceCheckpoint? plan.verified.manifest = some checkpoint) :
    codec.releaseWrites plan staging =
      codec.recordedWrites plan checkpoint ++
        codec.manifestWrites (codec.manifestOf plan checkpoint staging) := by
  rw [ReleaseCodec.releaseWrites, found]

/-- The manifest of a staged release is read back. -/
theorem lookup_directory_of_write
    {name : String} {bytes : Bytes}
    (member : (name, bytes) ∈ codec.releaseWrites plan staging) :
    (staging.putAll (codec.releaseWrites plan staging)).directory.files.lookup
      name = some bytes := by
  rw [Staging.lookup_directory]
  exact Staging.content?_putAll (nodup_of_releaseNames releaseWrites_names)
    member

/-- Names that the manifest does not describe itself keep what it records. -/
theorem content?_releaseWrites
    {name : String}
    (found : sourceCheckpoint? plan.verified.manifest = some checkpoint)
    (recorded : name ∉ [releaseManifestName, releaseManifestSidecarName]) :
    (staging.putAll (codec.releaseWrites plan staging)).content? name =
      (staging.putAll (codec.recordedWrites plan checkpoint)).content?
        name := by
  rw [releaseWrites_of_checkpoint found, Staging.putAll_append]
  exact Staging.content?_putAll_of_notMem _ recorded

/-- A staged release whose public names are free is one. -/
theorem isRelease_of_names
    {root : FlatDirectory Bytes}
    (verified : IsVerified root plan.verified)
    (staged : StagesPublic codec mode plan.verified.publicFiles staging)
    (found : sourceCheckpoint? plan.verified.manifest = some checkpoint)
    (newlines : '\r' ∉ plan.card.toList)
    (free : ∀ name ∈ plan.verified.publicFiles,
      name ∉ [releaseManifestName, releaseManifestSidecarName] ∧
        name ∉ internalOnlyNames) :
    IsRelease codec
      (staging.putAll (codec.releaseWrites plan staging)).directory
      (codec.manifestOf plan checkpoint staging)
      (recordedRows codec plan checkpoint staging) plan.card := by
  have listed : codec.releaseWrites plan staging =
      codec.recordedWrites plan checkpoint ++
        codec.manifestWrites (codec.manifestOf plan checkpoint staging) :=
    releaseWrites_of_checkpoint found
  have generated : (codec.recordedWrites plan checkpoint).map Prod.fst =
      [modelCardName, generationConfigName, hubAttributesName,
        releaseProvenanceName] := rfl
  have apart : ∀ name ∈ [modelCardName, generationConfigName,
      hubAttributesName, releaseProvenanceName],
      IsFlatName name ∧
        name ∉ [releaseManifestName, releaseManifestSidecarName] ∧
          name ∉ internalOnlyNames := by
    decide
  have each (name : String)
      (member : name ∈ (recordedRows codec plan checkpoint staging).map
        Prod.fst) :
      IsFlatName name ∧
        name ∉ [releaseManifestName, releaseManifestSidecarName] ∧
          name ∉ internalOnlyNames := by
    rcases (mem_recordedRows_names staged name).mp member with
      isPublic | written
    · exact ⟨verified.flat name isPublic, free name isPublic⟩
    · exact apart name (generated ▸ written)
  have written {write : String × Bytes}
      (member : write ∈ codec.recordedWrites plan checkpoint ++
        codec.manifestWrites (codec.manifestOf plan checkpoint staging)) :
      (staging.putAll
        (codec.releaseWrites plan staging)).directory.files.lookup write.1 =
          some write.2 :=
    lookup_directory_of_write (listed ▸ member)
  constructor
  case manifest =>
    exact written (List.mem_append_right _ (List.mem_cons_self ..))
  case sidecar =>
    exact written (List.mem_append_right _ (List.mem_cons_of_mem _
      (List.mem_cons_self ..)))
  case cardFile =>
    exact written (List.mem_append_left _ (List.mem_cons_self ..))
  case newlines => exact newlines
  case format => rfl
  case version => rfl
  case state => rfl
  case blockers => rfl
  case listed => rfl
  case distinct => exact Table.keys_nodup _
  case stored =>
    intro row member
    obtain ⟨flat, recorded, isPublic⟩ :=
      each row.1 (List.mem_map_of_mem member)
    refine ⟨flat, ?_, recorded, isPublic⟩
    rw [Staging.lookup_directory, content?_releaseWrites found recorded,
      ← Staging.lookup_directory]
    exact (Table.lookup_eq_some_iff _).mpr member
  case required =>
    intro name member
    refine (mem_recordedRows_names staged name).mpr ?_
    rw [generated]
    by_cases config : name = "config.json"
    · exact .inl (config ▸ verified.config)
    · refine .inr ?_
      simp only [requiredReleaseNames, List.mem_cons, List.not_mem_nil,
        or_false] at member ⊢
      tauto
  case weights =>
    obtain ⟨name, isPublic, ending⟩ := verified.weights
    exact ⟨name, (mem_recordedRows_names staged name).mpr (.inl isPublic),
      ending⟩
  case keys =>
    intro name
    rw [Staging.mem_keys_directory, mem_recordedRows_names staged name,
      ← content?_recorded_isSome staged name]
    by_cases described :
        name ∈ [releaseManifestName, releaseManifestSidecarName]
    · refine iff_of_true ?_ (.inl described)
      have inList : name ∈ (codec.manifestWrites
          (codec.manifestOf plan checkpoint staging)).map Prod.fst := described
      obtain ⟨write, member, rfl⟩ := List.mem_map.mp inList
      rw [← Staging.lookup_directory, written
        (List.mem_append_right _ member)]
      rfl
    · rw [content?_releaseWrites found described]
      exact (or_iff_right described).symm
  case others => rfl

/-- Such a release is published whole. -/
theorem published_of_names
    {root : FlatDirectory Bytes}
    (verified : IsVerified root plan.verified)
    (staged : StagesPublic codec mode plan.verified.publicFiles staging)
    (found : sourceCheckpoint? plan.verified.manifest = some checkpoint)
    (newlines : '\r' ∉ plan.card.toList)
    (free : ∀ name ∈ plan.verified.publicFiles,
      name ∉ [releaseManifestName, releaseManifestSidecarName] ∧
        name ∉ internalOnlyNames)
    (harmless : Harmless staging.source plan.verified.publicFiles
      (codec.releaseWrites plan staging)) :
    Published codec staging.source plan.verified.publicFiles
      (staging.putAll (codec.releaseWrites plan staging)).directory := by
  have release := isRelease_of_names verified staged found newlines free
  constructor
  case validated => exact release.validates
  case exact =>
    intro name isPublic exact
    by_cases generated :
        name ∈ (codec.releaseWrites plan staging).map Prod.fst
    · obtain ⟨write, member, rfl⟩ := List.mem_map.mp generated
      exact (lookup_directory_of_write member).trans
        (harmless write member isPublic).symm
    · obtain ⟨bytes, stored, content⟩ := staged.exact name isPublic exact
      rw [Staging.lookup_directory,
        Staging.content?_putAll_of_notMem _ generated, content, stored]
  case scrubbed =>
    intro name isPublic scrubbed
    obtain ⟨payload, loaded, content⟩ :=
      staged.scrubbed name isPublic scrubbed
    have unwritten :
        name ∉ (codec.releaseWrites plan staging).map Prod.fst := by
      intro generated
      have apart : ∀ name ∈ releaseNames, name ∉ scrubbedNames := by decide
      exact apart name (releaseWrites_names.subset generated) scrubbed
    obtain ⟨decoded, reads, same⟩ :=
      codec.decode_encode (scrubLocalPathMetadata payload)
    have mapping : decoded.IsMapping := by
      obtain ⟨-, -, -, isObject⟩ := loadJson_eq_ok.mp loaded
      cases payload with
      | scalar value => cases isObject
      | array items => cases isObject
      | object fields =>
          obtain ⟨others, rfl⟩ := same.exists_fields
          rfl
    refine ⟨payload, decoded, loaded, loadJson_eq_ok.mpr ⟨_, ?_, reads,
      mapping⟩, fun path => ?_⟩
    · rw [Staging.lookup_directory,
        Staging.content?_putAll_of_notMem _ unwritten, content]
    · exact (same path).trans (at?_without isPathMetadata payload path)
  case internal =>
    intro name isInternal present
    rcases (release.keys name).mp present with described | recorded
    · have apart : ∀ name ∈ internalOnlyNames,
          name ∉ [releaseManifestName, releaseManifestSidecarName] := by
        decide
      exact apart name isInternal described
    · obtain ⟨row, member, rfl⟩ := List.mem_map.mp recorded
      exact (release.stored row member).2.2.2 isInternal
  case others => rfl

end Staged

/-! ## How a call ends -/

section Calls

variable {plan : ReleasePlan Bytes} {staging : Staging Bytes}
variable {location : OutputLocation}

/-- How the part after staging ends. -/
theorem publishStaged_ends (output : Option (FlatDirectory Bytes)) :
    (¬ReleaseCompletes faults plan ∧ ∃ error,
      codec.publishStaged faults location plan output staging =
        ⟨.error error, ⟨(staging.putAll (performedWrites faults
          (codec.releaseWrites plan staging))).source, output⟩⟩) ∨
    (ReleaseCompletes faults plan ∧ ∃ checkpoint,
      sourceCheckpoint? plan.verified.manifest = some checkpoint ∧
      codec.publishStaged faults location plan output staging =
        ⟨do
          let _ ← require (¬faults.parentSyncFails) (.ioError "fsync failed")
          let _ ← codec.validateReleasePackage (staging.putAll
            (codec.releaseWrites plan staging)).directory false []
          return codec.manifestOf plan checkpoint staging,
        ⟨placeOutput location
            (staging.putAll (codec.releaseWrites plan staging)).source,
          some (staging.putAll
            (codec.releaseWrites plan staging)).directory⟩⟩) := by
  obtain ⟨manifest, ends, known⟩ :=
    @writeRelease_ends Bytes codec faults plan staging
  by_cases completes : ReleaseCompletes faults plan
  · obtain ⟨checkpoint, found⟩ :=
      Option.isSome_iff_exists.mp completes.checkpoint
    have all : Writes faults (codec.releaseWrites plan staging) := by
      intro write member
      exact completes.writes _
        (releaseWrites_names.subset (List.mem_map_of_mem member))
    have result := (ends.result_iff manifest).mpr
      ⟨⟨all, completes.checkpoint, completes.syncs⟩, rfl⟩
    have final := ends.final_eq
    rw [performedWrites_eq all] at final
    refine .inr ⟨completes, checkpoint, found, ?_⟩
    simp only [ReleaseCodec.publishStaged, result, final]
    rw [known checkpoint found]
  · refine .inl ⟨completes, ?_⟩
    cases result : ((codec.writeRelease faults plan).run staging).result with
    | error error =>
        refine ⟨error, ?_⟩
        simp only [ReleaseCodec.publishStaged, result, ends.final_eq]
    | ok value =>
        obtain ⟨⟨all, checkpoint, syncs⟩, -⟩ := (ends.result_iff value).mp
          result
        refine absurd ⟨?_, checkpoint, syncs⟩ completes
        obtain ⟨digest, found⟩ := Option.isSome_iff_exists.mp checkpoint
        rw [releaseWrites_of_checkpoint found] at all
        intro name member
        have listed : name ∈ (codec.recordedWrites plan digest ++
            codec.manifestWrites
              (codec.manifestOf plan digest staging)).map Prod.fst := member
        obtain ⟨write, there, rfl⟩ := List.mem_map.mp listed
        exact all write there

variable [DecidableEq Bytes]
variable {request : ReleaseRequest Bytes} {world : ReleaseWorld Bytes}

/-- What the checks on the arguments have established. -/
theorem planRelease_eq_ok
    (planned : codec.planRelease request world = .ok plan) :
    codec.verifySourceExport world.source = .ok plan.verified ∧
      world.output = none ∧ '\r' ∉ plan.card.toList := by
  simp only [ReleaseCodec.planRelease, checked_bind_eq_ok, exists_require,
    checked_pure_eq_ok, requireObject_eq_ok] at planned
  obtain ⟨verified, accepts, fresh, _, -, _, -, _, -, card, reads, -, _, -, -,
    -, -, rfl⟩ := planned
  refine ⟨accepts, ?_, codec.read_newlines _ _ reads⟩
  cases found : world.output with
  | none => rfl
  | some directory =>
      exact absurd (.inl (by rw [found]; rfl)) fresh

omit [DecidableEq Bytes] in
/-- An export with a directory in it is not accepted. -/
theorem not_safe_of_directory
    {verified : VerifiedSourceExport} {outcome : ReleaseOutcome Bytes}
    (accepts : codec.verifySourceExport world.source = .ok verified)
    (directory : outcome.final.source.others ≠ []) :
    ¬ReleaseSafe codec world outcome := fun safe =>
  directory (isVerified_of_verifySourceExport
    (safe.accepted verified accepts)).others

omit [DecidableEq Bytes] in
/-- A call that changes nothing but raises keeps what is promised. -/
theorem safe_of_unchanged (error : PyError) :
    ReleaseSafe codec world ⟨.error error, world⟩ :=
  ⟨rfl, fun _ => id, rfl⟩

/-- What is left in the output is what a safe call has published. -/
theorem ReleaseSafe.published
    {directory : FlatDirectory Bytes} {outcome : ReleaseOutcome Bytes}
    (safe : ReleaseSafe codec world outcome)
    (planned : codec.planRelease request world = .ok plan)
    (placed : outcome.final.output = some directory) :
    (∃ manifest, outcome.result = .ok manifest) ∧
      Published codec world.source plan.verified.publicFiles directory := by
  obtain ⟨accepts, missing, -⟩ := planRelease_eq_ok planned
  have ended := safe.ended
  cases result : outcome.result with
  | error error =>
      rw [result] at ended
      rw [show outcome.final.output = world.output from ended, missing]
        at placed
      cases placed
  | ok manifest =>
      rw [result] at ended
      obtain ⟨verified, other, same, output, published⟩ := ended
      obtain rfl := Except.ok.inj (accepts.symm.trans same)
      obtain rfl := Option.some.inj (placed.symm.trans output)
      exact ⟨⟨manifest, rfl⟩, published⟩

/-- Once something is in the output, the call is safe exactly when the whole
release is in order. -/
theorem completed_safe_iff
    {checkpoint : String}
    (planned : codec.planRelease request world = .ok plan)
    (staged : StagesPublic codec request.mode plan.verified.publicFiles
      staging)
    (kept : staging.source = world.source)
    (above : ∀ name, request.location ≠ .belowSource name)
    (found : sourceCheckpoint? plan.verified.manifest = some checkpoint)
    {outcome : ReleaseOutcome Bytes}
    (result : outcome.result = do
      let _ ← require (¬faults.parentSyncFails) (.ioError "fsync failed")
      let _ ← codec.validateReleasePackage (staging.putAll
        (codec.releaseWrites plan staging)).directory false []
      return codec.manifestOf plan checkpoint staging)
    (final : outcome.final = ⟨placeOutput request.location
        (staging.putAll (codec.releaseWrites plan staging)).source,
      some (staging.putAll (codec.releaseWrites plan staging)).directory⟩) :
    ReleaseSafe codec world outcome ↔
      Publishable codec faults request.location world.source plan
        staging := by
  obtain ⟨accepts, -, newlines⟩ := planRelease_eq_ok planned
  have verified := isVerified_of_verifySourceExport accepts
  constructor
  · intro safe
    obtain ⟨⟨manifest, returned⟩, published⟩ :=
      safe.published planned (by rw [final])
    simp only [result, checked_bind_eq_ok, exists_require] at returned
    obtain ⟨synced, _, validated, -⟩ := returned
    constructor
    case synced => simpa using synced
    case outside =>
      cases location : request.location with
      | outside => rfl
      | belowSource name => exact absurd location (above name)
      | inSource name =>
          refine absurd safe (not_safe_of_directory accepts ?_)
          rw [final, location]
          exact List.cons_ne_nil _ _
    case names =>
      intro name isPublic
      obtain ⟨row, member, rfl⟩ := List.mem_map.mp
        ((mem_recordedRows_names staged name).mpr (.inl isPublic))
      have described : (releaseManifestName, codec.encodeJson
          (codec.manifestOf plan checkpoint staging)) ∈
            codec.releaseWrites plan staging := by
        rw [releaseWrites_of_checkpoint found]
        exact List.mem_append_right _ (List.mem_cons_self ..)
      exact names_of_validateReleasePackage validated
        (lookup_directory_of_write described) rfl row member
    case harmless =>
      intro write member isPublic
      have apart : ∀ name ∈ releaseNames, name ∉ scrubbedNames := by decide
      rw [← published.exact write.1 isPublic (apart _
        (releaseWrites_names.subset (List.mem_map_of_mem member)))]
      exact lookup_directory_of_write member
  · intro publishable
    have harmless := publishable.harmless
    rw [← kept] at harmless
    have published := published_of_names verified staged found newlines
      publishable.names harmless
    have same := (source_kept_iff staged releaseWrites_names).mpr
      fun _ => harmless
    rw [kept] at same published
    have placed : outcome.final.source = world.source := by
      rw [final, publishable.outside]
      exact same
    obtain ⟨manifest, validated⟩ := published.validated
    have returned : outcome.result =
        .ok (codec.manifestOf plan checkpoint staging) := by
      rw [result, require_bind (by simp [publishable.synced]), validated]
      rfl
    constructor
    case files_eq => rw [placed]
    case accepted =>
      intro other accepted
      rw [placed]
      exact accepted
    case ended =>
      rw [returned]
      exact ⟨plan.verified, _, accepts, by rw [final], published⟩

/-- After staging a call keeps what is promised exactly when its writes do. -/
theorem publishStaged_safe_iff
    (planned : codec.planRelease request world = .ok plan)
    (staged : StagesPublic codec request.mode plan.verified.publicFiles
      staging)
    (kept : staging.source = world.source)
    (above : ∀ name, request.location ≠ .belowSource name) :
    ReleaseSafe codec world
        (codec.publishStaged faults request.location plan world.output
          staging) ↔
      StagedSafely codec faults request world.source plan staging := by
  rcases @publishStaged_ends Bytes codec faults plan staging request.location
      world.output with
    ⟨incomplete, error, ends⟩ | ⟨completes, checkpoint, found, ends⟩
  · have keeps := source_kept_iff staged
      (@performedWrites_names Bytes codec faults plan staging)
    rw [kept] at keeps
    rw [ends, StagedSafely, ← keeps]
    constructor
    · intro safe
      have others := @Staging.others_putAll Bytes staging (performedWrites
        faults (codec.releaseWrites plan staging))
      rw [kept] at others
      exact ⟨FlatDirectory.ext safe.files_eq others,
        fun completes => absurd completes incomplete⟩
    · rintro ⟨same, -⟩
      constructor
      case files_eq => exact congrArg FlatDirectory.files same
      case accepted =>
        intro other accepted
        exact same.symm ▸ accepted
      case ended => rfl
  · have all : Writes faults (codec.releaseWrites plan staging) := by
      intro write member
      exact completes.writes _
        (releaseWrites_names.subset (List.mem_map_of_mem member))
    rw [completed_safe_iff planned staged kept above found
      (congrArg ReleaseOutcome.result ends)
      (congrArg ReleaseOutcome.final ends), StagedSafely,
      performedWrites_eq all]
    constructor
    · intro publishable
      exact ⟨fun _ => publishable.harmless, fun _ => publishable⟩
    · rintro ⟨-, publishable⟩
      exact publishable completes

/-- Below a name in the export a call is safe exactly when the name is taken,
so that the parents of the output cannot be made. -/
theorem belowSource_safe_iff
    {name : String}
    (planned : codec.planRelease request world = .ok plan)
    (location : request.location = .belowSource name) :
    ReleaseSafe codec world
        (codec.prepareReleasePackage faults request world) ↔
      name ∈ world.source.files.keys := by
  obtain ⟨accepts, -, -⟩ := planRelease_eq_ok planned
  by_cases taken : name ∈ world.source.files.keys
  · have raises : makeParents request.location world.source =
        .error (.fileExistsError "File exists") := by
      rw [location, makeParents, if_pos taken]
    refine iff_of_true ?_ taken
    simp only [ReleaseCodec.prepareReleasePackage, planned, raises]
    exact safe_of_unchanged _
  · have made : makeParents request.location world.source =
        .ok (world.source.withDirectory name) := by
      rw [location, makeParents, if_neg taken]
    refine iff_of_false (not_safe_of_directory accepts ?_) taken
    simp only [ReleaseCodec.prepareReleasePackage, planned, made]
    cases copied : codec.copyPublicFiles faults request.mode
        (world.source.withDirectory name) plan.verified.publicFiles with
    | error error => exact List.cons_ne_nil _ _
    | ok files =>
        rcases @publishStaged_ends Bytes codec faults plan
            ⟨world.source.withDirectory name, files⟩ request.location
            world.output with ⟨-, error, ends⟩ | ⟨-, checkpoint, -, ends⟩
        · dsimp only
          rw [ends]
          dsimp only
          rw [Staging.others_putAll]
          exact List.cons_ne_nil _ _
        · dsimp only
          rw [ends, location]
          dsimp only [placeOutput]
          rw [Staging.others_putAll]
          exact List.cons_ne_nil _ _

end Calls

/-! ## A card among the tokenizer files -/

/-- The content of a file: a JSON document or a text. -/
inductive SampleContent
  | json (tree : JsonTree)
  | text (text : String)
  deriving DecidableEq

/-- Digests that tell the texts of the example apart. -/
def sampleDigest : SampleContent -> String
  | .text "weights" => "1111111111111111111111111111111111111111111111111111111111111111"
  | .text "notes" => "2222222222222222222222222222222222222222222222222222222222222222"
  | .text "merges" => "3333333333333333333333333333333333333333333333333333333333333333"
  | _ => "0000000000000000000000000000000000000000000000000000000000000000"

theorem isSha256_sampleDigest (content : SampleContent) :
    IsSha256 (sampleDigest content) := by
  unfold sampleDigest
  split <;> decide +kernel

/-- Files are read as they were written. -/
def sampleCodec : ReleaseCodec SampleContent where
  size
    | .json _ => 2
    | .text text => text.length
  sha256 := sampleDigest
  encodeJson := .json
  decodeJson
    | .json tree => .ok tree
    | .text _ => .error (releaseError "Cannot read")
  encodeText := .text
  readText
    | .json _ => .error (releaseError "Cannot read")
    | .text text =>
        if '\r' ∈ text.toList then .error (releaseError "Cannot read")
        else .ok text
  publicationBlockers _ := []
  namesPrivatePath _ := false
  isSha256 := isSha256_sampleDigest
  decode_encode := fun tree => ⟨tree, rfl, .refl tree⟩
  read_newlines := by
    intro content text read
    cases content with
    | json tree => cases read
    | text written =>
        dsimp only at read
        by_cases returns : '\r' ∈ written.toList
        · rw [if_pos returns] at read
          cases read
        · rw [if_neg returns] at read
          cases read
          exact returns
  read_encode := fun _ absent => if_neg absent

/-- The record of a file in a manifest, with further fields. -/
def sampleRecord
    (name : String) (content : SampleContent)
    (fields : List (String × JsonTree)) : JsonTree :=
  .object ([("path", .str name),
    ("bytes", .int (sampleCodec.size content)),
    ("sha256", .str (sampleDigest content))] ++ fields)

/-- `config.json` of the export. -/
def sampleModelConfig : JsonTree :=
  .object [("_name_or_path", .str "/root/private"),
    ("model_type", .str "llama"),
    ("architectures", .array [.str "LlamaForCausalLM"]),
    ("vocab_size", .int 49152), ("max_position_embeddings", .int 4096),
    ("bos_token_id", .int 0), ("eos_token_id", .int 0)]

/-- The manifest of a tokenizer that has notes in `README.md`. -/
def sampleTokenizerManifest : JsonTree :=
  .object [
    ("format", .str "transformers-tokenizer-export"),
    ("files", .object [
      (modelCardName, sampleRecord modelCardName (.text "notes") []),
      ("tokenizer.json",
        sampleRecord "tokenizer.json" (.text "merges") [])])]

/-- The files of the export that its manifest lists besides the weights. -/
def sampleListed : List (String × SampleContent) :=
  [("config.json", .json sampleModelConfig),
    (tokenizerManifestName, .json sampleTokenizerManifest),
    (sourceTokenizerManifestName, .json (.object [])),
    (modelCardName, .text "notes"),
    ("tokenizer.json", .text "merges")]

/-- The manifest of the export. -/
def sampleExportManifest : JsonTree :=
  .object [
    ("format", .str "native-pytorch-to-hf-llama"),
    ("manifest_version", .int 1),
    ("architecture", .str "LlamaForCausalLM"),
    ("source", .object [("sha256", .str (sampleDigest (.text "weights")))]),
    ("tokenizer", .object []),
    ("weights", .object [("format", .str "safetensors"),
      ("is_sharded", .bool false),
      ("files", .array [sampleRecord "model.safetensors" (.text "weights")
        [("tensors", .array [.str "lm_head.weight"])]])]),
    ("files", .array (sampleListed.map fun file =>
      sampleRecord file.1 file.2 []))]

/-- The sealed export. -/
def sampleExport : FlatDirectory SampleContent where
  files :=
    { rows := [(exportManifestName, .json sampleExportManifest),
        (exportManifestSidecarName, .text (sidecarText
          (sampleDigest (.json sampleExportManifest)) exportManifestName)),
        (modelCardName, .text "notes"),
        (sourceTokenizerManifestName, .json (.object [])),
        (tokenizerManifestName, .json sampleTokenizerManifest),
        ("config.json", .json sampleModelConfig),
        ("model.safetensors", .text "weights"),
        ("tokenizer.json", .text "merges")]
      sorted := by decide +kernel }
  others := []

/-- A request for a release of it with hard links. -/
def sampleReleaseRequest : ReleaseRequest SampleContent where
  location := .outside
  modelCard := some (.text "---\nlicense: custom\n---\n# Model\n")
  generationConfig := some (.json (expectedGeneration sampleModelConfig))
  hubAttributes := some (.text hubAttributesText)
  mode := .hardlink

/-- File operations that do not raise. -/
def noReleaseFaults : ReleaseFaults Bytes :=
  ⟨fun _ => false, fun _ => none, false, false⟩

end CodingLlm
