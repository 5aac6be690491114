import CodingLlm.Pretrain.CacheInventoryManifest

/-!
# The round trip of cache inventories

A published inventory is loaded as what was certified exactly when its
manifest is no longer than a load reads.  What a load accepts is what the
publisher encodes exactly when its manifest spells its versions and ordinals as
integers and was written by the same implementation.
-/

namespace CodingLlm

open JsonTree Words

/-! ## Directories -/

/-- Every entry under `archives` is a plain directory. -/
structure CacheTree.IsPlain (tree : CacheTree) : Prop where
  archives : tree.archives.isSome
  buckets : ∀ bucket ∈ tree.buckets, bucket.2.isSome
  targets : ∀ target ∈ tree.targets, target.2.isSome

theorem closedWorldCacheDirectories_eq_ok
    {tree : CacheTree} {expected : List ArchiveAuthority} :
    closedWorldCacheDirectories tree expected = .ok () ↔
      tree.IsPlain ∧
        SameMembers (tree.targets.map Prod.fst)
          (expected.map ArchiveAuthority.cacheDirectory) ∧
        SameMembers (tree.buckets.map Prod.fst)
          (expected.map fun archive => archive.bucket.name) := by
  unfold closedWorldCacheDirectories
  constructor
  · intro closed
    obtain ⟨archives, closed⟩ := require_then_eq_ok.mp closed
    obtain ⟨buckets, closed⟩ := require_then_eq_ok.mp closed
    obtain ⟨targets, closed⟩ := require_then_eq_ok.mp closed
    obtain ⟨same, -⟩ := require_then_eq_ok.mp closed
    exact ⟨⟨archives, buckets, targets⟩, same⟩
  · rintro ⟨⟨archives, buckets, targets⟩, same⟩
    refine require_then_eq_ok.mpr ⟨archives, ?_⟩
    refine require_then_eq_ok.mpr ⟨buckets, ?_⟩
    refine require_then_eq_ok.mpr ⟨targets, ?_⟩
    exact require_then_eq_ok.mpr ⟨same, rfl⟩

/-- The same directories, and the same manifests and sidecars in them. -/
structure CacheTree.Unchanged (before after : CacheTree) : Prop where
  plain : after.IsPlain
  targets : SameMembers (after.targets.map Prod.fst)
    (before.targets.map Prod.fst)
  buckets : SameMembers (after.buckets.map Prod.fst)
    (before.buckets.map Prod.fst)
  files : ∀ directory, after.target? directory = before.target? directory

theorem SameMembers.refl (names : List String) : SameMembers names names :=
  ⟨fun _ => id, fun _ => id⟩

theorem CacheTree.Unchanged.refl {tree : CacheTree} (plain : tree.IsPlain) :
    tree.Unchanged tree :=
  ⟨plain, .refl _, .refl _, fun _ => rfl⟩

theorem SameMembers.trans
    {first second third : List String}
    (left : SameMembers first second)
    (right : SameMembers second third) : SameMembers first third :=
  ⟨fun _ member => right.1 (left.1 member),
    fun _ member => left.2 (right.2 member)⟩

/-- An unchanged tree is closed-world for what it was before. -/
theorem CacheTree.Unchanged.closedWorld
    {before after : CacheTree} {expected : List ArchiveAuthority}
    (unchanged : before.Unchanged after)
    (closed : closedWorldCacheDirectories before expected = .ok ()) :
    closedWorldCacheDirectories after expected = .ok () := by
  obtain ⟨-, targets, buckets⟩ := closedWorldCacheDirectories_eq_ok.mp closed
  exact closedWorldCacheDirectories_eq_ok.mpr ⟨unchanged.plain,
    unchanged.targets.trans targets, unchanged.buckets.trans buckets⟩

section Inventory

variable {floats : FloatText} {sha256 : Sha256}

/-! ## Certified caches -/

/-- What certification says of an entry. -/
structure Certified
    (sha256 : Sha256)
    (tree : CacheTree)
    (tokenizer : TokenizerAuthority)
    (source : InventorySource)
    (entry : CacheInventoryEntry) : Prop where
  ordinal : entry.ordinal = source.ordinal
  archive : entry.archive = source.archive
  valid : EntryValid tokenizer entry
  authenticated : authenticateEntry sha256 tree entry = .ok ()

theorem certifySource_ok
    {certify : RawTokenCacheAuthority -> Checked Unit} {tree : CacheTree}
    {tokenizer : TokenizerAuthority} {source : InventorySource}
    {entry : CacheInventoryEntry}
    (certified : certifySource sha256 certify tree tokenizer source =
      .ok entry) : Certified sha256 tree tokenizer source entry := by
  unfold certifySource at certified
  obtain ⟨target, found, certified⟩ := checked_bind_eq_ok.mp certified
  obtain ⟨manifest, manifestRead, certified⟩ := checked_bind_eq_ok.mp certified
  obtain ⟨-, certified⟩ := require_then_eq_ok.mp certified
  obtain ⟨sidecar, sidecarRead, certified⟩ := checked_bind_eq_ok.mp certified
  obtain ⟨-, certified⟩ := require_then_eq_ok.mp certified
  obtain ⟨sidecarEq, certified⟩ := require_then_eq_ok.mp certified
  obtain ⟨authority, built, certified⟩ := checked_bind_eq_ok.mp certified
  obtain ⟨_, -, certified⟩ := checked_bind_eq_ok.mp certified
  obtain ⟨cacheManifest, manifestBuilt, certified⟩ :=
    checked_bind_eq_ok.mp certified
  obtain ⟨cacheSidecar, sidecarBuilt, certified⟩ :=
    checked_bind_eq_ok.mp certified
  obtain rfl := checked_pure_eq_ok.mp certified
  obtain ⟨bytesEq, shaEq, archiveEq, -, -, tokenizerEq, -⟩ :=
    RawTokenCacheAuthority.of_eq_ok.mp built
  obtain ⟨manifestPath, manifestBytes, manifestSha⟩ :=
    FileAuthority.of_eq_ok.mp manifestBuilt
  obtain ⟨sidecarPath, sidecarBytes, sidecarSha⟩ :=
    FileAuthority.of_eq_ok.mp sidecarBuilt
  have manifestLength := Int.ofNat_inj.mp manifestBytes
  have sidecarLength := Int.ofNat_inj.mp sidecarBytes
  refine ⟨rfl, archiveEq, ⟨?_, manifestPath, sidecarPath, ?_, ?_,
    tokenizerEq⟩, ?_⟩
  · rw [CacheInventoryEntry.archive, archiveEq]
  · rw [bytesEq, manifestLength]
  · rw [shaEq, manifestSha]
  · unfold authenticateEntry
    refine checked_bind_eq_ok.mpr ⟨target,
      requireObject_eq_ok.mpr (requireObject_eq_ok.mp found), ?_⟩
    refine checked_bind_eq_ok.mpr ⟨manifest,
      requireObject_eq_ok.mpr (requireObject_eq_ok.mp manifestRead), ?_⟩
    refine require_then_eq_ok.mpr
      ⟨⟨manifestLength.symm, manifestSha.symm⟩, ?_⟩
    refine checked_bind_eq_ok.mpr ⟨sidecar,
      requireObject_eq_ok.mpr (requireObject_eq_ok.mp sidecarRead), ?_⟩
    refine require_then_eq_ok.mpr ⟨⟨sidecarLength.symm, sidecarSha.symm⟩, ?_⟩
    refine require_then_eq_ok.mpr ⟨?_, rfl⟩
    rw [manifestSha]
    exact sidecarEq

/-- Authentication reads only the bound files. -/
theorem CacheTree.Unchanged.authenticate
    {before after : CacheTree} {entry : CacheInventoryEntry}
    (unchanged : before.Unchanged after)
    (authenticated : authenticateEntry sha256 before entry = .ok ()) :
    authenticateEntry sha256 after entry = .ok () := by
  unfold authenticateEntry at authenticated ⊢
  rwa [unchanged.files]

theorem CacheTree.Unchanged.certified
    {before after : CacheTree} {tokenizer : TokenizerAuthority}
    {source : InventorySource} {entry : CacheInventoryEntry}
    (unchanged : before.Unchanged after)
    (certified : Certified sha256 before tokenizer source entry) :
    Certified sha256 after tokenizer source entry :=
  { certified with
    authenticated := unchanged.authenticate certified.authenticated }

/-! ## Publication -/

/-- What the certified caches of a list of sources are. -/
structure CertifiedAll
    (sha256 : Sha256)
    (tree : CacheTree)
    (tokenizer : TokenizerAuthority)
    (sources : List InventorySource)
    (entries : List CacheInventoryEntry) : Prop where
  nonempty : sources ≠ []
  ordinals : sources.map InventorySource.ordinal = List.range sources.length
  paths : (sources.map fun source => source.archive.path).Nodup
  directories : (sources.map fun source => source.archive.cacheDirectory).Nodup
  closedWorld : closedWorldCacheDirectories tree
    (sources.map InventorySource.archive) = .ok ()
  certified : List.Forall₂ (Certified sha256 tree tokenizer) sources entries

/-- What is renamed into place. -/
structure IsPublication
    (floats : FloatText)
    (sha256 : Sha256)
    (implementation : List Byte)
    (tree : CacheTree)
    (request : InventoryRequest)
    (published : PublishedInventory) : Prop where
  version : request.selectionFormatVersion = selectionFormatVersion
  selection : IsSha256 request.selectionManifestSha256
  certified : CertifiedAll sha256 tree request.tokenizer request.sources
    published.entries
  manifest : published.manifest = inventoryJsonBytes floats
    (inventoryPayload floats sha256 selectionFormatVersion
      request.selectionManifestSha256 request.tokenizer published.entries
      (sha256.digest implementation))
  sidecar : published.sidecar =
    sidecarBytes (sha256.digest published.manifest) cacheManifestFile

section Publication

variable {certify : RawTokenCacheAuthority -> Checked Unit}
  {implementation : List Byte} {inventoryExists : Bool} {tree later : CacheTree}
  {request : InventoryRequest} {published : PublishedInventory}

theorem isPublication_of_ok
    (publishes : publishInventory floats sha256 certify implementation
      inventoryExists tree request = .ok published) :
    IsPublication floats sha256 implementation tree request published := by
  unfold publishInventory at publishes
  obtain ⟨selection, publishes⟩ := require_then_eq_ok.mp publishes
  obtain ⟨version, publishes⟩ := require_then_eq_ok.mp publishes
  obtain ⟨nonempty, publishes⟩ := require_then_eq_ok.mp publishes
  obtain ⟨ordinals, publishes⟩ := require_then_eq_ok.mp publishes
  obtain ⟨paths, publishes⟩ := require_then_eq_ok.mp publishes
  obtain ⟨directories, publishes⟩ := require_then_eq_ok.mp publishes
  obtain ⟨_, closedWorld, publishes⟩ := checked_bind_eq_ok.mp publishes
  obtain ⟨entries, certified, publishes⟩ := checked_bind_eq_ok.mp publishes
  obtain ⟨-, publishes⟩ := require_then_eq_ok.mp publishes
  obtain rfl := checked_pure_eq_ok.mp publishes
  rw [List.map_map] at paths directories
  rw [version]
  exact ⟨version, selection, ⟨nonempty, ordinals, paths, directories,
    closedWorld, (checked_mapM_eq_ok.mp certified).imp
      fun _ _ => certifySource_ok⟩, rfl, rfl⟩

/-- What holds of the sources holds of their entries. -/
theorem CertifiedAll.map_eq
    {α : Type} {ofEntry : CacheInventoryEntry -> α}
    {ofSource : InventorySource -> α} {tokenizer : TokenizerAuthority}
    {sources : List InventorySource} {entries : List CacheInventoryEntry}
    (all : CertifiedAll sha256 tree tokenizer sources entries)
    (same : ∀ source entry, Certified sha256 tree tokenizer source entry ->
      ofEntry entry = ofSource source) :
    entries.map ofEntry = sources.map ofSource := by
  have related : List.Forall₂ (fun first second => first = second)
      (entries.map ofEntry) (sources.map ofSource) := by
    rw [List.forall₂_map_left_iff, List.forall₂_map_right_iff]
    exact List.Forall₂.flip (all.certified.imp same)
  rwa [List.forall₂_eq_eq_eq] at related

theorem CertifiedAll.forall_mem
    {holds : CacheInventoryEntry -> Prop} {tokenizer : TokenizerAuthority}
    {sources : List InventorySource} {entries : List CacheInventoryEntry}
    (all : CertifiedAll sha256 tree tokenizer sources entries)
    (each : ∀ source entry, Certified sha256 tree tokenizer source entry ->
      holds entry) :
    ∀ entry ∈ entries, holds entry := by
  have related : List.Forall₂ (fun entry _ => holds entry ∧ True)
      entries sources :=
    List.Forall₂.flip (all.certified.imp fun source entry certified =>
      ⟨each source entry certified, trivial⟩)
  exact ((List.forall₂_and_left _ _).mp related).1

/-- The descriptors of certified caches are read as themselves. -/
theorem CertifiedAll.entriesRead
    {tokenizer : TokenizerAuthority} {sources : List InventorySource}
    {entries : List CacheInventoryEntry} {payloads : List JsonTree}
    (all : CertifiedAll sha256 tree tokenizer sources entries)
    (related : List.Forall₂ JsonTree.Same payloads
      (entries.map CacheInventoryEntry.descriptor)) :
    EntriesRead tokenizer payloads entries := by
  refine entriesRead_of_same related ?_
    (all.forall_mem fun _ _ certified => certified.valid) ?_ ?_
  · rw [all.map_eq fun _ _ certified => certified.ordinal, all.ordinals,
      all.certified.length_eq]
  · rw [all.map_eq fun _ _ certified =>
      congrArg ArchiveAuthority.path certified.archive]
    exact all.paths
  · rw [all.map_eq fun _ _ certified => certified.valid.directory.trans
      (congrArg ArchiveAuthority.cacheDirectory certified.archive)]
    exact all.directories

theorem isExact_descriptor (entry : CacheInventoryEntry) :
    entry.descriptor.IsExact := by
  simp [CacheInventoryEntry.descriptor, FileAuthority.asdict,
    ArchiveAuthority.asdict, CacheInventoryEntry.documents, isExact_object_iff,
    isExact_str, isExact_int]

theorem isExact_setField
    {version : JsonScalar} {selectionSha256 implementationSha256 : String}
    {tokenizer : TokenizerAuthority} {entries : List CacheInventoryEntry}
    (exact : ∀ number, version ≠ .float number) :
    ((inventoryPayload floats sha256 selectionFormatVersion selectionSha256
      tokenizer entries implementationSha256).setField "format_version"
        (.scalar version)).IsExact := by
  rw [setField_inventoryPayload]
  simp [TokenizerAuthority.descriptor, isExact_object_iff,
    isExact_array_iff, isExact_str, isExact_int, isExact_bool,
    isExact_descriptor, IsExact.scalar version exact]

theorem isExact_inventoryPayload
    {selectionSha256 implementationSha256 : String}
    {tokenizer : TokenizerAuthority} {entries : List CacheInventoryEntry} :
    (inventoryPayload floats sha256 selectionFormatVersion selectionSha256
      tokenizer entries implementationSha256).IsExact :=
  isExact_setField (show ∀ number, JsonScalar.int inventoryFormatVersion ≠
    .float number from nofun)

/-- What is encoded is decoded as the same. -/
theorem exists_decoded
    {payload : JsonTree}
    (exact : payload.IsExact) :
    ∃ manifest,
      (decodeUtf8 (inventoryJsonBytes floats payload)).bind (loads floats) =
        some manifest ∧
      manifest.Same payload ∧ manifest.IsDistinct ∧
      inventoryJsonBytes floats manifest =
        inventoryJsonBytes floats payload := by
  have blank : skip ['\n'] = [] := rfl
  obtain ⟨manifest, decoded, same⟩ := loads_write_append floats false exact
    (show JsonTree.Ends ['\n'] by simp [JsonTree.Ends]) blank
  refine ⟨manifest, ?_, same, isDistinct_of_loads decoded, ?_⟩
  · rw [inventoryJsonBytes, decodeUtf8_encodeUtf8]
    exact decoded
  · rw [inventoryJsonBytes, inventoryJsonBytes, write_congr floats false same]

theorem inventoryJsonBytes_pos (payload : JsonTree) :
    1 ≤ (inventoryJsonBytes floats payload).length := by
  have bound := length_le_encodeUtf8 (payload.write floats false ++ ['\n'])
  rw [List.length_append, List.length_singleton] at bound
  rw [inventoryJsonBytes]
  omega

theorem length_sidecarBytes (sha256 : Sha256) (raw : List Byte) :
    1 ≤ (sidecarBytes (sha256.digest raw) cacheManifestFile).length ∧
      (sidecarBytes (sha256.digest raw) cacheManifestFile).length ≤
        maximumSidecarBytes := by
  have digest : (sha256.digest raw).toList.length = 64 :=
    (sha256.isSha256 raw).1
  have size : (sha256.digest raw ++ "  " ++ cacheManifestFile ++
      "\n").toList.length = 80 := by
    simp only [String.toList_append, List.length_append, digest]
    decide
  have lower := length_le_encodeUtf8 (sha256.digest raw ++ "  " ++
    cacheManifestFile ++ "\n").toList
  have upper := length_encodeUtf8_le (sha256.digest raw ++ "  " ++
    cacheManifestFile ++ "\n").toList
  rw [size] at lower upper
  rw [sidecarBytes, maximumSidecarBytes]
  omega

/-- A directory of a manifest and its sidecar. -/
def InventoryDirectory.of (sha256 : Sha256) (raw : List Byte) :
    InventoryDirectory :=
  ⟨[(cacheManifestFile, some raw),
    (cacheSidecarFile,
      some (sidecarBytes (sha256.digest raw) cacheManifestFile))]⟩

/-- What was certified is loaded from a manifest that is short enough, also
with another spelling of the version. -/
theorem CertifiedAll.exists_loaded
    {version : JsonScalar} {selectionSha256 implementationSha256 : String}
    {tokenizer : TokenizerAuthority} {sources : List InventorySource}
    {entries : List CacheInventoryEntry} {payload : JsonTree}
    (all : CertifiedAll sha256 tree tokenizer sources entries)
    (exact : ∀ number, version ≠ .float number)
    (versionEqual : version.equals (.int inventoryFormatVersion) = true)
    (selection : IsSha256 selectionSha256)
    (implementation : IsSha256 implementationSha256)
    (payloadEq : payload = (inventoryPayload floats sha256
      selectionFormatVersion selectionSha256 tokenizer entries
      implementationSha256).setField "format_version" (.scalar version))
    (fits : (inventoryJsonBytes floats payload).length ≤
      maximumManifestBytes) :
    ∃ loaded,
      loadInventory floats sha256
        (.of sha256 (inventoryJsonBytes floats payload)) tree = .ok loaded ∧
      loaded.manifestRaw = inventoryJsonBytes floats payload ∧
      loaded.manifest.Same payload ∧
      loaded.entries = entries ∧ loaded.tokenizer = tokenizer ∧
      loaded.selectionManifestSha256 = selectionSha256 := by
  obtain ⟨manifest, decoded, same, distinct, canonical⟩ :=
    exists_decoded (payloadEq ▸ isExact_setField exact)
  have nonempty : entries ≠ [] := by
    intro empty
    have length := all.certified.length_eq
    rw [empty, List.length_nil, List.length_eq_zero_iff] at length
    exact all.nonempty length
  obtain ⟨payloads, related, reads⟩ := exists_manifestReads distinct
    (payloadEq ▸ same) versionEqual selection implementation nonempty
  have archives : entries.map CacheInventoryEntry.archive =
      sources.map InventorySource.archive :=
    all.map_eq fun _ _ certified => certified.archive
  have sidecar := length_sidecarBytes sha256
    (inventoryJsonBytes floats payload)
  refine ⟨⟨_, manifest, selectionSha256, tokenizer, entries⟩,
    loadInventory_eq_ok.mpr {
      files := ⟨fun _ => id, fun _ => id⟩
      manifestRaw := rfl
      manifest_pos := inventoryJsonBytes_pos payload
      manifest_le := fits
      sidecarRaw := rfl
      sidecar_pos := sidecar.1
      sidecar_le := sidecar.2
      decoded
      canonical
      reads := ⟨implementationSha256, payloads, reads, all.entriesRead related⟩
      closedWorld := by
        rw [archives]
        exact all.closedWorld
      authenticated := all.forall_mem fun _ _ certified =>
        certified.authenticated },
    rfl, same, rfl, rfl, rfl⟩

theorem CertifiedAll.unchanged
    {tokenizer : TokenizerAuthority} {sources : List InventorySource}
    {entries : List CacheInventoryEntry}
    (all : CertifiedAll sha256 tree tokenizer sources entries)
    (unchanged : tree.Unchanged later) :
    CertifiedAll sha256 later tokenizer sources entries :=
  { all with
    closedWorld := unchanged.closedWorld all.closedWorld
    certified := all.certified.imp fun _ _ => unchanged.certified }

/-- A publication is loaded as what was certified exactly when its manifest is
no longer than a load reads. -/
theorem IsPublication.loads_iff
    (publication : IsPublication floats sha256 implementation tree request
      published)
    (unchanged : tree.Unchanged later) :
    (∃ loaded,
      loadInventory floats sha256 published.directory later = .ok loaded ∧
        loaded.entries = published.entries ∧
        loaded.tokenizer = request.tokenizer ∧
        loaded.selectionManifestSha256 = request.selectionManifestSha256) ↔
      published.manifest.length ≤ maximumManifestBytes := by
  have directory : published.directory = .of sha256 published.manifest := by
    rw [PublishedInventory.directory, publication.sidecar]
    rfl
  rw [directory]
  constructor
  · rintro ⟨loaded, load, -⟩
    have source := loadInventory_eq_ok.mp load
    have raw : some (some published.manifest) =
        some (some loaded.manifestRaw) := source.manifestRaw
    rw [Option.some.inj (Option.some.inj raw)]
    exact source.manifest_le
  · intro fits
    rw [publication.manifest] at fits ⊢
    obtain ⟨loaded, load, -, -, loadedAs⟩ :=
      (publication.certified.unchanged unchanged).exists_loaded
        (show ∀ number, JsonScalar.int inventoryFormatVersion ≠
          .float number from nofun) (JsonScalar.equals_refl _) publication.selection (sha256.isSha256 _)
        rfl fits
    exact ⟨loaded, load, loadedAs⟩

/-- Certification says only whether an entry is accepted. -/
theorem certifySource_accepted
    {tokenizer : TokenizerAuthority} {source : InventorySource}
    {entry : CacheInventoryEntry}
    (certified : certifySource sha256 certify tree tokenizer source =
      .ok entry) :
    certifySource sha256 (fun _ => .ok ()) tree tokenizer source =
      .ok entry := by
  unfold certifySource at certified ⊢
  obtain ⟨target, found, certified⟩ := checked_bind_eq_ok.mp certified
  obtain ⟨manifest, manifestRead, certified⟩ := checked_bind_eq_ok.mp certified
  obtain ⟨manifestSafe, certified⟩ := require_then_eq_ok.mp certified
  obtain ⟨sidecar, sidecarRead, certified⟩ := checked_bind_eq_ok.mp certified
  obtain ⟨sidecarSafe, certified⟩ := require_then_eq_ok.mp certified
  obtain ⟨sidecarEq, certified⟩ := require_then_eq_ok.mp certified
  obtain ⟨authority, built, certified⟩ := checked_bind_eq_ok.mp certified
  obtain ⟨_, -, certified⟩ := checked_bind_eq_ok.mp certified
  refine checked_bind_eq_ok.mpr ⟨target, found, ?_⟩
  refine checked_bind_eq_ok.mpr ⟨manifest, manifestRead, ?_⟩
  refine require_then_eq_ok.mpr ⟨manifestSafe, ?_⟩
  refine checked_bind_eq_ok.mpr ⟨sidecar, sidecarRead, ?_⟩
  refine require_then_eq_ok.mpr ⟨sidecarSafe, ?_⟩
  refine require_then_eq_ok.mpr ⟨sidecarEq, ?_⟩
  refine checked_bind_eq_ok.mpr ⟨authority, built, ?_⟩
  exact checked_bind_eq_ok.mpr ⟨(), rfl, certified⟩

end Publication

/-! ## Sizes -/

/-- The length of the manifest that sources and their caches determine. -/
def manifestSize
    (floats : FloatText)
    (sha256 : Sha256)
    (implementation : List Byte)
    (tree : CacheTree)
    (request : InventoryRequest) : Nat :=
  match request.sources.mapM
      (certifySource sha256 (fun _ => .ok ()) tree request.tokenizer) with
  | .ok entries => (inventoryJsonBytes floats (inventoryPayload floats sha256
      selectionFormatVersion request.selectionManifestSha256 request.tokenizer
      entries (sha256.digest implementation))).length
  | .error _ => 0

theorem length_manifest
    {certify : RawTokenCacheAuthority -> Checked Unit}
    {implementation : List Byte} {inventoryExists : Bool} {tree : CacheTree}
    {request : InventoryRequest} {published : PublishedInventory}
    (publishes : publishInventory floats sha256 certify implementation
      inventoryExists tree request = .ok published) :
    published.manifest.length =
      manifestSize floats sha256 implementation tree request := by
  have entries : request.sources.mapM
      (certifySource sha256 (fun _ => .ok ()) tree request.tokenizer) =
      .ok published.entries := by
    unfold publishInventory at publishes
    obtain ⟨-, publishes⟩ := require_then_eq_ok.mp publishes
    obtain ⟨-, publishes⟩ := require_then_eq_ok.mp publishes
    obtain ⟨-, publishes⟩ := require_then_eq_ok.mp publishes
    obtain ⟨-, publishes⟩ := require_then_eq_ok.mp publishes
    obtain ⟨-, publishes⟩ := require_then_eq_ok.mp publishes
    obtain ⟨-, publishes⟩ := require_then_eq_ok.mp publishes
    obtain ⟨_, -, publishes⟩ := checked_bind_eq_ok.mp publishes
    obtain ⟨entries, certified, publishes⟩ := checked_bind_eq_ok.mp publishes
    obtain ⟨-, publishes⟩ := require_then_eq_ok.mp publishes
    obtain rfl := checked_pure_eq_ok.mp publishes
    exact checked_mapM_eq_ok.mpr ((checked_mapM_eq_ok.mp certified).imp
      fun _ _ => certifySource_accepted)
  rw [manifestSize, entries, (isPublication_of_ok publishes).manifest]

/-! ## What is loaded -/

section Loaded

variable {directory : InventoryDirectory} {tree : CacheTree}
  {loaded : LoadedInventory}

theorem LoadedFrom.distinct
    (source : LoadedFrom floats sha256 directory tree loaded) :
    loaded.manifest.IsDistinct := by
  obtain ⟨text, -, read⟩ := Option.bind_eq_some_iff.mp source.decoded
  exact isDistinct_of_loads read

/-- The loaded entries are encoded as what was read exactly when it spells its
integers as integers and names the implementation. -/
theorem LoadedFrom.encode_eq_iff
    {implementation : List Byte}
    (source : LoadedFrom floats sha256 directory tree loaded) :
    loaded.encode floats sha256 implementation = loaded.manifestRaw ↔
      InventorySpellsIntegers loaded.manifest ∧
        (getField loaded.manifest "builder").field? "implementation_sha256" =
          some (.str (sha256.digest implementation)) := by
  obtain ⟨_, payloads, reads, entries⟩ := source.reads
  rw [← reads.same_iff source.distinct entries]
  constructor
  · intro equal
    obtain ⟨manifest, decoded, same, -⟩ := exists_decoded
      (show (inventoryPayload floats sha256 selectionFormatVersion
          loaded.selectionManifestSha256 loaded.tokenizer loaded.entries
          (sha256.digest implementation)).IsExact from isExact_inventoryPayload)
    have known : some loaded.manifest = some manifest := by
      rw [← source.decoded, ← equal]
      exact decoded
    rw [Option.some.inj known]
    exact same
  · intro same
    rw [← source.canonical, LoadedInventory.encode, inventoryJsonBytes,
      inventoryJsonBytes, write_congr floats false same]

end Loaded

/-! ## The round trip -/

end Inventory

/-! ## A version spelled as a boolean -/

section BooleanVersion

/-- A digest of zeros. -/
def zeroDigest : String := String.ofList (List.replicate 64 '0')

theorem zeroDigest_isSha256 : IsSha256 zeroDigest := by
  decide +kernel

/-- A hash by which all bytes are alike. -/
def zeroSha256 : Sha256 := ⟨fun _ => zeroDigest, fun _ => zeroDigest_isSha256⟩

/-- The cache of one archive. -/
def onlyAuthority : RawTokenCacheAuthority where
  cacheManifestBytes := 1
  cacheManifestSha256 := zeroDigest
  archive := ⟨expectedArchivePath .python 0, .python, 0, 1, zeroDigest,
    by decide +kernel, le_rfl, zeroDigest_isSha256⟩
  preprocessReport := ⟨expectedReportPath .python 0, 1, zeroDigest,
    by decide +kernel, le_rfl, zeroDigest_isSha256⟩
  fingerprint := ⟨expectedFingerprintPath .python 0, 1, zeroDigest,
    by decide +kernel, le_rfl, zeroDigest_isSha256⟩
  tokenizer := ⟨starcodeRepoId, String.ofList (List.replicate 40 '0'),
    zeroDigest, zeroDigest, 2, "e", 1, rfl, by decide +kernel,
    zeroDigest_isSha256, zeroDigest_isSha256, by decide, by decide, by decide,
    by decide⟩
  records := 1
  cleanBytes := 1
  contentTokens := 1
  manifestBytes_pos := le_rfl
  manifest_isSha256 := zeroDigest_isSha256
  records_pos := le_rfl
  cleanBytes_pos := le_rfl
  contentTokens_pos := le_rfl
  archive_path := rfl
  report_path := rfl
  fingerprint_path := rfl

/-- The source of that cache. -/
def onlySource : InventorySource :=
  ⟨0, onlyAuthority.archive, onlyAuthority.preprocessReport,
    onlyAuthority.fingerprint, 1, 1, 1, le_rfl, le_rfl, le_rfl⟩

/-- The tree of that cache. -/
def onlyTree : CacheTree :=
  ⟨some [("python", some [("part-000000",
    some ⟨some [0#8], some (sidecarBytes zeroDigest cacheManifestFile)⟩)])]⟩

/-- The entry of that cache. -/
def onlyEntry : CacheInventoryEntry where
  ordinal := 0
  cacheDirectory := onlyAuthority.archive.cacheDirectory
  cacheManifest := ⟨onlyAuthority.archive.cacheDirectory ++ "/manifest.json", 1,
    zeroDigest, by decide +kernel, le_rfl, zeroDigest_isSha256⟩
  cacheSidecar := ⟨onlyAuthority.archive.cacheDirectory ++ "/manifest.sha256",
    80, zeroDigest, by decide +kernel, by decide, zeroDigest_isSha256⟩
  authority := onlyAuthority

theorem onlyCertified :
    CertifiedAll zeroSha256 onlyTree onlyAuthority.tokenizer [onlySource]
      [onlyEntry] where
  nonempty := List.cons_ne_nil _ _
  ordinals := rfl
  paths := List.nodup_singleton _
  directories := List.nodup_singleton _
  closedWorld := by
    have succeeds : (closedWorldCacheDirectories onlyTree
        ([onlySource].map InventorySource.archive)).isOk = true := by
      decide +kernel
    exact (exists_of_isOk succeeds).choose_spec
  certified := .cons {
    ordinal := rfl
    archive := rfl
    valid := ⟨rfl, by decide +kernel, by decide +kernel, rfl, rfl, rfl⟩
    authenticated := by
      have succeeds : (authenticateEntry zeroSha256 onlyTree
          onlyEntry).isOk = true := by
        decide +kernel
      exact (exists_of_isOk succeeds).choose_spec } .nil

/-- A manifest with `"format_version":true`. -/
def booleanVersionManifest : JsonTree :=
  (inventoryPayload wholeFloats zeroSha256 selectionFormatVersion zeroDigest
    onlyAuthority.tokenizer [onlyEntry] zeroDigest).setField "format_version"
      (.bool true)

end BooleanVersion

end CodingLlm
