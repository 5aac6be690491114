import CodingLlm.Pretrain.CacheInventoryEntries

/-!
# The manifest of a cache inventory

What a load accepts of a manifest, and when that is what the publisher writes
for the loaded entries.
-/

namespace CodingLlm

open JsonTree Words

/-! ## Values -/

/-- What equals an object has exactly its names. -/
theorem hasExactly_of_equals
    {tree : JsonTree} {fields : List (String × JsonTree)}
    (equal : tree.equals (.object fields) = true) :
    tree.HasExactly (fields.map Prod.fst) := by
  match tree with
  | .scalar _ => cases equal
  | .array _ => cases equal
  | .object others =>
      rw [equals, Bool.and_eq_true, equalsFields_iff, List.all_eq_true] at equal
      refine ⟨rfl, fun name member => ?_, fun name member => ?_⟩
      · obtain ⟨field, listed, rfl⟩ := List.mem_map.mp member
        obtain ⟨other, found, -⟩ := equal.1 field listed
        exact List.mem_map.mpr ⟨_, mem_of_lookup found, rfl⟩
      · obtain ⟨field, listed, rfl⟩ := List.mem_map.mp member
        exact mem_names_iff.mpr (equal.2 field listed)

/-- Only an array of strings equals itself. -/
theorem equals_strings_iff {item : JsonTree} {texts : List String} :
    item.equals (.array (texts.map JsonTree.str)) = true ↔
      item = .array (texts.map JsonTree.str) := by
  match item with
  | .scalar _ => simp [equals]
  | .object _ => simp [equals]
  | .array items =>
      rw [equals, equalsItems_iff, List.forall₂_map_right_iff]
      simp only [equals_str_iff, JsonTree.array.injEq]
      rw [← List.forall₂_map_right_iff, List.forall₂_eq_eq_eq]

theorem any_isTrue {tree : JsonTree} {key : String} :
    (tree.field? key).any JsonTree.isTrue = true ↔
      tree.field? key = some (.scalar (.bool true)) := by
  rw [Option.any_eq_true]
  constructor
  · rintro ⟨item, found, isTrue⟩
    match item, isTrue with
    | .scalar (.bool true), _ => exact found
  · exact fun found => ⟨_, found, rfl⟩

theorem fieldEquals_str_iff {tree : JsonTree} {key text : String} :
    tree.fieldEquals key (.str text) = true ↔
      tree.field? key = some (.str text) := by
  rw [fieldEquals, Option.any_eq_true]
  simp only [equals_str_iff]
  constructor
  · rintro ⟨item, found, rfl⟩
    exact found
  · exact fun found => ⟨_, found, rfl⟩

theorem fieldEquals_int_iff {tree : JsonTree} {key : String} {value : Int} :
    tree.fieldEquals key (.int value) = true ∧
        (∃ number, tree.field? key = some (.int number)) ↔
      tree.field? key = some (.int value) := by
  rw [fieldEquals, Option.any_eq_true]
  constructor
  · rintro ⟨⟨item, found, equal⟩, number, known⟩
    rw [found, Option.some.injEq] at known
    subst known
    rw [found, equals_int_int.mp equal]
  · intro found
    exact ⟨⟨_, found, equals_int_int.mpr rfl⟩, _, found⟩

theorem distinct_field
    {tree item : JsonTree} {key : String}
    (distinct : tree.IsDistinct)
    (found : tree.field? key = some item) : item.IsDistinct := by
  cases distinct with
  | scalar _ => simp at found
  | array _ _ => simp at found
  | object fields _ distinct =>
      rw [field?_object] at found
      exact distinct _ (mem_of_lookup found)

/-- A field that is the same as a value equals it. -/
theorem fieldEquals_of_same
    {tree value : JsonTree} {key : String}
    (distinct : tree.IsDistinct)
    (found : ∃ item, tree.field? key = some item ∧ item.Same value) :
    tree.fieldEquals key value = true := by
  obtain ⟨item, known, same⟩ := found
  rw [fieldEquals, known]
  exact (distinct_field distinct known).equals same

/-! ## What a load reads -/

/-- What a manifest says of a selection, a tokenizer and its builder, and the
descriptors that it lists. -/
structure ManifestReads
    (floats : FloatText)
    (sha256 : Sha256)
    (manifest : JsonTree)
    (selectionSha256 : String)
    (tokenizer : TokenizerAuthority)
    (implementationSha256 : String)
    (payloads : List JsonTree) : Prop where
  names : manifest.HasExactly inventoryKeys
  contract : inventoryContract manifest
  selectionNames : (getField manifest "selection").HasExactly
    ["identity_format_version", "manifest_sha256"]
  selectionVersion : (getField manifest "selection").fieldEquals
    "identity_format_version" (.int selectionFormatVersion) = true
  selection : (getField manifest "selection").field? "manifest_sha256" =
    some (.str selectionSha256)
  selection_isSha256 : IsSha256 selectionSha256
  tokenizer : (getField manifest "tokenizer").Same tokenizer.descriptor
  builderNames : (getField manifest "builder").HasExactly
    ["implementation", "implementation_sha256"]
  builder : (getField manifest "builder").field? "implementation" =
    some (.str inventoryImplementation)
  implementation : (getField manifest "builder").field?
    "implementation_sha256" = some (.str implementationSha256)
  implementation_isSha256 : IsSha256 implementationSha256
  count : manifest.field? "archive_count" = some (.int payloads.length)
  count_pos : 1 ≤ payloads.length
  archives : manifest.field? "archives" = some (.array payloads)
  recorded : manifest.field? "archive_inventory_sha256" =
    some (.str (archiveInventorySha256 floats sha256 payloads))

/-- The entries that descriptors are read as. -/
structure EntriesRead
    (tokenizer : TokenizerAuthority)
    (payloads : List JsonTree)
    (entries : List CacheInventoryEntry) : Prop where
  reads : List.Forall₂ EntryReads payloads entries
  ordinals : entries.map CacheInventoryEntry.ordinal =
    List.range payloads.length
  valid : ∀ entry ∈ entries, EntryValid tokenizer entry
  archives : (entries.map fun entry => entry.archive.path).Nodup
  directories : (entries.map CacheInventoryEntry.cacheDirectory).Nodup

theorem readEntries_eq_ok_iff
    {tokenizer : TokenizerAuthority} {payloads : List JsonTree}
    {entries : List CacheInventoryEntry} :
    readEntries tokenizer 0 [] [] payloads = .ok entries ↔
      EntriesRead tokenizer payloads entries := by
  rw [readEntries_eq_ok, ← List.range_eq_range']
  constructor
  · rintro ⟨reads, ordinals, valid, archives, -, directories, -⟩
    exact ⟨reads, ordinals, valid, archives, directories⟩
  · rintro ⟨reads, ordinals, valid, archives, directories⟩
    exact ⟨reads, ordinals, valid, archives, fun _ _ => List.not_mem_nil,
      directories, fun _ _ => List.not_mem_nil⟩

theorem stableFileBytes_eq_ok
    {directory : InventoryDirectory} {name : String} {maximumBytes : Nat}
    {raw : List Byte} :
    stableFileBytes directory name maximumBytes = .ok raw ↔
      directory.files.lookup name = some (some raw) ∧ 1 ≤ raw.length ∧
        raw.length ≤ maximumBytes := by
  unfold stableFileBytes
  constructor
  · intro read
    obtain ⟨found, known, read⟩ := checked_bind_eq_ok.mp read
    obtain ⟨size, read⟩ := require_then_eq_ok.mp read
    obtain rfl := checked_pure_eq_ok.mp read
    rw [requireObject_eq_ok, Option.bind_eq_some_iff] at known
    obtain ⟨file, listed, same⟩ := known
    cases same
    exact ⟨listed, size⟩
  · rintro ⟨listed, size⟩
    refine checked_bind_eq_ok.mpr ⟨raw, requireObject_eq_ok.mpr ?_, ?_⟩
    · rw [listed]
      rfl
    · exact require_then_eq_ok.mpr ⟨size, rfl⟩

/-- What a load accepts and returns. -/
structure LoadedFrom
    (floats : FloatText)
    (sha256 : Sha256)
    (directory : InventoryDirectory)
    (tree : CacheTree)
    (loaded : LoadedInventory) : Prop where
  files : SameMembers (directory.files.map Prod.fst)
    [cacheManifestFile, cacheSidecarFile]
  manifestRaw : directory.files.lookup cacheManifestFile =
    some (some loaded.manifestRaw)
  manifest_pos : 1 ≤ loaded.manifestRaw.length
  manifest_le : loaded.manifestRaw.length ≤ maximumManifestBytes
  sidecarRaw : directory.files.lookup cacheSidecarFile = some (some
    (sidecarBytes (sha256.digest loaded.manifestRaw) cacheManifestFile))
  sidecar_pos : 1 ≤ (sidecarBytes (sha256.digest loaded.manifestRaw)
    cacheManifestFile).length
  sidecar_le : (sidecarBytes (sha256.digest loaded.manifestRaw)
    cacheManifestFile).length ≤ maximumSidecarBytes
  decoded : (decodeUtf8 loaded.manifestRaw).bind (loads floats) =
    some loaded.manifest
  canonical : inventoryJsonBytes floats loaded.manifest = loaded.manifestRaw
  reads : ∃ implementationSha256 payloads,
    ManifestReads floats sha256 loaded.manifest loaded.selectionManifestSha256
      loaded.tokenizer implementationSha256 payloads ∧
    EntriesRead loaded.tokenizer payloads loaded.entries
  closedWorld : closedWorldCacheDirectories tree
    (loaded.entries.map CacheInventoryEntry.archive) = .ok ()
  authenticated : ∀ entry ∈ loaded.entries,
    authenticateEntry sha256 tree entry = .ok ()

theorem getField_items?_eq_some
    {tree : JsonTree} {key : String} {items : List JsonTree} :
    (getField tree key).items? = some items ↔
      tree.field? key = some (.array items) := by
  rw [getField]
  cases tree.field? key with
  | none => simp [null, items?]
  | some item => cases item <;> simp [items?]

section Load

variable {floats : FloatText} {sha256 : Sha256}
  {directory : InventoryDirectory} {tree : CacheTree}
  {loaded : LoadedInventory}

theorem loadInventory_eq_ok :
    loadInventory floats sha256 directory tree = .ok loaded ↔
      LoadedFrom floats sha256 directory tree loaded := by
  unfold loadInventory
  constructor
  · intro read
    obtain ⟨files, read⟩ := require_then_eq_ok.mp read
    obtain ⟨manifestRaw, manifestRead, read⟩ := checked_bind_eq_ok.mp read
    obtain ⟨sidecarRaw, sidecarRead, read⟩ := checked_bind_eq_ok.mp read
    obtain ⟨sidecarEq, read⟩ := require_then_eq_ok.mp read
    obtain ⟨manifest, decoded, read⟩ := checked_bind_eq_ok.mp read
    obtain ⟨⟨-, canonical⟩, read⟩ := require_then_eq_ok.mp read
    obtain ⟨names, read⟩ := require_then_eq_ok.mp read
    obtain ⟨contract, read⟩ := require_then_eq_ok.mp read
    obtain ⟨selectionNames, read⟩ := require_then_eq_ok.mp read
    obtain ⟨selectionVersion, read⟩ := require_then_eq_ok.mp read
    obtain ⟨selectionSha256, selection, read⟩ := checked_bind_eq_ok.mp read
    obtain ⟨tokenizer, tokenizerRead, read⟩ := checked_bind_eq_ok.mp read
    obtain ⟨⟨builderNames, builder⟩, read⟩ := require_then_eq_ok.mp read
    obtain ⟨implementationSha256, implementation, read⟩ :=
      checked_bind_eq_ok.mp read
    obtain ⟨count, counted, read⟩ := checked_bind_eq_ok.mp read
    obtain ⟨payloads, archives, read⟩ := checked_bind_eq_ok.mp read
    obtain ⟨length, read⟩ := require_then_eq_ok.mp read
    obtain ⟨recorded, recordedRead, read⟩ := checked_bind_eq_ok.mp read
    obtain ⟨recordedEq, read⟩ := require_then_eq_ok.mp read
    obtain ⟨entries, entriesRead, read⟩ := checked_bind_eq_ok.mp read
    obtain ⟨_, closedWorld, read⟩ := checked_bind_eq_ok.mp read
    obtain ⟨results, authenticated, read⟩ := checked_bind_eq_ok.mp read
    obtain rfl := checked_pure_eq_ok.mp read
    rw [stableFileBytes_eq_ok] at manifestRead sidecarRead
    rw [sidecarEq] at sidecarRead
    rw [requireObject_eq_ok] at decoded archives
    rw [getField_items?_eq_some] at archives
    rw [requireSha256Field_eq_ok] at selection implementation recordedRead
    rw [requirePositiveField_eq_ok, ← length] at counted
    rw [← recordedEq] at recordedRead
    exact {
      files
      manifestRaw := manifestRead.1
      manifest_pos := manifestRead.2.1
      manifest_le := manifestRead.2.2
      sidecarRaw := sidecarRead.1
      sidecar_pos := sidecarRead.2.1
      sidecar_le := sidecarRead.2.2
      decoded
      canonical
      reads := ⟨implementationSha256, payloads, {
        names
        contract
        selectionNames
        selectionVersion
        selection := selection.1
        selection_isSha256 := selection.2
        tokenizer := tokenizerAuthority_eq_ok.mp tokenizerRead
        builderNames
        builder := fieldEquals_str_iff.mp builder
        implementation := implementation.1
        implementation_isSha256 := implementation.2
        count := counted.1
        count_pos := counted.2
        archives
        recorded := recordedRead.1 }, readEntries_eq_ok_iff.mp entriesRead⟩
      closedWorld
      authenticated := fun entry listed => by
        obtain ⟨_, -, accepted⟩ := exists_result_of_mapM authenticated listed
        exact accepted }
  · intro source
    obtain ⟨implementationSha256, payloads, reads, entries⟩ := source.reads
    refine require_then_eq_ok.mpr ⟨source.files, ?_⟩
    refine checked_bind_eq_ok.mpr ⟨_, stableFileBytes_eq_ok.mpr
      ⟨source.manifestRaw, source.manifest_pos, source.manifest_le⟩, ?_⟩
    refine checked_bind_eq_ok.mpr ⟨_, stableFileBytes_eq_ok.mpr
      ⟨source.sidecarRaw, source.sidecar_pos, source.sidecar_le⟩, ?_⟩
    refine require_then_eq_ok.mpr ⟨rfl, ?_⟩
    refine checked_bind_eq_ok.mpr ⟨_, requireObject_eq_ok.mpr source.decoded,
      ?_⟩
    refine require_then_eq_ok.mpr ⟨⟨reads.names.1, source.canonical⟩, ?_⟩
    refine require_then_eq_ok.mpr ⟨reads.names, ?_⟩
    refine require_then_eq_ok.mpr ⟨reads.contract, ?_⟩
    refine require_then_eq_ok.mpr ⟨reads.selectionNames, ?_⟩
    refine require_then_eq_ok.mpr ⟨reads.selectionVersion, ?_⟩
    refine checked_bind_eq_ok.mpr ⟨_, requireSha256Field_eq_ok.mpr
      ⟨reads.selection, reads.selection_isSha256⟩, ?_⟩
    refine checked_bind_eq_ok.mpr ⟨_,
      tokenizerAuthority_eq_ok.mpr reads.tokenizer, ?_⟩
    refine require_then_eq_ok.mpr ⟨⟨reads.builderNames,
      fieldEquals_str_iff.mpr reads.builder⟩, ?_⟩
    refine checked_bind_eq_ok.mpr ⟨_, requireSha256Field_eq_ok.mpr
      ⟨reads.implementation, reads.implementation_isSha256⟩, ?_⟩
    refine checked_bind_eq_ok.mpr ⟨_, requirePositiveField_eq_ok.mpr
      ⟨reads.count, reads.count_pos⟩, ?_⟩
    refine checked_bind_eq_ok.mpr ⟨_, requireObject_eq_ok.mpr
      (getField_items?_eq_some.mpr reads.archives), ?_⟩
    refine require_then_eq_ok.mpr ⟨rfl, ?_⟩
    refine checked_bind_eq_ok.mpr ⟨_, requireSha256Field_eq_ok.mpr
      ⟨reads.recorded, sha256.isSha256 _⟩, ?_⟩
    refine require_then_eq_ok.mpr ⟨rfl, ?_⟩
    refine checked_bind_eq_ok.mpr ⟨_, readEntries_eq_ok_iff.mpr entries, ?_⟩
    refine checked_bind_eq_ok.mpr ⟨(), source.closedWorld, ?_⟩
    exact checked_bind_eq_ok.mpr ⟨_,
      checked_mapM_of_forall source.authenticated, rfl⟩

end Load

/-! ## What the publisher writes -/

/-- A field is spelled as a JSON integer. -/
def SpellsInteger (tree : JsonTree) (key : String) : Prop :=
  ((tree.field? key).bind int?).isSome

theorem spellsInteger_iff {tree : JsonTree} {key : String} :
    SpellsInteger tree key ↔ ∃ value, tree.field? key = some (.int value) := by
  rw [SpellsInteger, Option.isSome_iff_exists]
  simp only [bind_int?_eq_some]

/-- The versions of a manifest and the ordinals of its archives are spelled as
JSON integers, not as other numbers that equal them. -/
structure InventorySpellsIntegers (manifest : JsonTree) : Prop where
  version : SpellsInteger manifest "format_version"
  selection : SpellsInteger (getField manifest "selection")
    "identity_format_version"
  cache : SpellsInteger (getField manifest "cache") "format_version"
  ordinals : ∀ payload ∈ (getField manifest "archives").items?.getD [],
    SpellsInteger payload "ordinal"

section Written

variable {floats : FloatText} {sha256 : Sha256} {manifest : JsonTree}
  {selectionSha256 implementationSha256 : String}
  {tokenizer : TokenizerAuthority} {entries : List CacheInventoryEntry}

/-- The payload of a manifest, with its version spelled in another way. -/
theorem setField_inventoryPayload {version : JsonTree} :
    (inventoryPayload floats sha256 selectionFormatVersion selectionSha256
      tokenizer entries implementationSha256).setField "format_version"
        version = .object [
      ("format", .str inventoryFormat),
      ("format_version", version),
      ("inventory_complete", .bool true),
      ("training_ready", .bool false),
      ("selection", .object [
        ("identity_format_version", .int selectionFormatVersion),
        ("manifest_sha256", .str selectionSha256)]),
      ("cache", .object [
        ("format", .str cacheFormat),
        ("format_version", .int cacheFormatVersion),
        ("profile", .str cacheProfile)]),
      ("tokenizer", tokenizer.descriptor),
      ("archive_count", .int entries.length),
      ("archive_inventory_sha256", .str (archiveInventorySha256 floats sha256
        (entries.map CacheInventoryEntry.descriptor))),
      ("archives", .array (entries.map CacheInventoryEntry.descriptor)),
      ("non_authorities", .array (nonAuthorities.map JsonTree.str)),
      ("builder", .object [
        ("implementation", .str inventoryImplementation),
        ("implementation_sha256", .str implementationSha256)])] := rfl

/-- What is written is read, also with another spelling of the version. -/
theorem exists_manifestReads
    {version : JsonScalar}
    (distinct : manifest.IsDistinct)
    (same : manifest.Same ((inventoryPayload floats sha256
      selectionFormatVersion selectionSha256 tokenizer entries
      implementationSha256).setField "format_version" (.scalar version)))
    (versionEqual : version.equals (.int inventoryFormatVersion) = true)
    (selection : IsSha256 selectionSha256)
    (implementation : IsSha256 implementationSha256)
    (nonempty : entries ≠ []) :
    ∃ payloads,
      List.Forall₂ JsonTree.Same payloads
        (entries.map CacheInventoryEntry.descriptor) ∧
      ManifestReads floats sha256 manifest selectionSha256 tokenizer
        implementationSha256 payloads := by
  rw [setField_inventoryPayload, same_object_iff (by simp)] at same
  simp only [List.forall_mem_cons, exists_same_scalar, int, str,
    JsonTree.bool] at same
  obtain ⟨names, format, formatVersion, complete, ready, selectionSame,
    cacheSame, tokenizerSame, count, recorded, archives, nonAuthority,
    builderSame, -⟩ := same
  obtain ⟨item, found, archivesSame⟩ := archives
  obtain ⟨payloads, rfl, related⟩ := archivesSame.exists_items
  obtain ⟨item, nonAuthorityFound, nonAuthoritySame⟩ := nonAuthority
  have length := related.length_eq
  rw [List.length_map] at length
  have selectionRead := getField_same_object.mpr selectionSame
  rw [same_object_iff (by simp)] at selectionRead
  simp only [List.forall_mem_cons, exists_same_scalar] at selectionRead
  have builderRead := getField_same_object.mpr builderSame
  rw [same_object_iff (by simp)] at builderRead
  simp only [List.forall_mem_cons, exists_same_scalar] at builderRead
  refine ⟨payloads, related, {
    names
    contract := ⟨fieldEquals_str_iff.mpr format, ?_, any_isTrue.mpr complete,
      any_isFalse.mpr ready, fieldEquals_of_same distinct cacheSame, ?_⟩
    selectionNames := selectionRead.1
    selectionVersion := ?_
    selection := selectionRead.2.2.1
    selection_isSha256 := selection
    tokenizer := getField_same_object.mpr tokenizerSame
    builderNames := builderRead.1
    builder := builderRead.2.1
    implementation := builderRead.2.2.1
    implementation_isSha256 := implementation
    count := by rw [length]; exact count
    count_pos := by
      rw [length]
      exact List.length_pos_iff.mpr nonempty
    archives := found
    recorded := ?_ }⟩
  · rw [fieldEquals, formatVersion, Option.any_some]
    exact versionEqual
  · rw [fieldEquals, nonAuthorityFound, Option.any_some]
    exact equals_strings_iff.mpr nonAuthoritySame.eq_strings
  · rw [fieldEquals, selectionRead.2.1, Option.any_some]
    exact equals_int_int.mpr rfl
  · rw [archiveInventorySha256, inventoryJsonBytes,
      write_congr floats false (same_of_items related)]
    exact recorded

/-- Descriptors are those of the entries that are read exactly when their
ordinals are integers. -/
theorem same_descriptors_iff {payloads : List JsonTree} :
    List.Forall₂ JsonTree.Same payloads
        (entries.map CacheInventoryEntry.descriptor) ↔
      (∀ payload ∈ payloads, SpellsInteger payload "ordinal") ∧
        List.Forall₂ EntryReads payloads entries := by
  rw [List.forall₂_map_right_iff, ← List.forall₂_and_left]
  simp only [same_descriptor_iff, spellsInteger_iff, and_comm]

theorem entriesRead_of_same
    {payloads : List JsonTree}
    (related : List.Forall₂ JsonTree.Same payloads
      (entries.map CacheInventoryEntry.descriptor))
    (ordinals : entries.map CacheInventoryEntry.ordinal =
      List.range entries.length)
    (valid : ∀ entry ∈ entries, EntryValid tokenizer entry)
    (archives : (entries.map fun entry => entry.archive.path).Nodup)
    (directories :
      (entries.map CacheInventoryEntry.cacheDirectory).Nodup) :
    EntriesRead tokenizer payloads entries := by
  have length := related.length_eq
  rw [List.length_map] at length
  exact ⟨(same_descriptors_iff.mp related).2, by rw [ordinals, length], valid,
    archives, directories⟩

/-- `cache` equals its contract and spells its version as an integer exactly
when it is the same. -/
theorem same_cache_iff {profile : String} {version : Int} :
    manifest.fieldEquals "cache" (.object [
        ("format", .str cacheFormat),
        ("format_version", .int version),
        ("profile", .str profile)]) = true ∧
      SpellsInteger (getField manifest "cache") "format_version" ∧
      manifest.IsDistinct ↔
    (getField manifest "cache").Same (.object [
        ("format", .str cacheFormat),
        ("format_version", .int version),
        ("profile", .str profile)]) ∧ manifest.IsDistinct := by
  constructor
  · rintro ⟨equal, spelled, distinct⟩
    refine ⟨?_, distinct⟩
    rw [fieldEquals, Option.any_eq_true] at equal
    obtain ⟨item, found, equal⟩ := equal
    rw [getField, found, Option.getD_some] at spelled ⊢
    obtain ⟨text, format, formatEqual⟩ :=
      exists_of_equals equal (show List.lookup "format" _ = some _ from rfl)
    obtain ⟨number, formatVersion, versionEqual⟩ :=
      exists_of_equals equal (show List.lookup "format_version" _ = some _ from rfl)
    obtain ⟨name, profileFound, profileEqual⟩ :=
      exists_of_equals equal (show List.lookup "profile" _ = some _ from rfl)
    obtain ⟨value, known⟩ := spellsInteger_iff.mp spelled
    rw [formatVersion, Option.some.injEq] at known
    subst known
    obtain rfl := equals_int_int.mp versionEqual
    obtain rfl := equals_str_iff.mp formatEqual
    obtain rfl := equals_str_iff.mp profileEqual
    rw [same_object_iff (by simp)]
    simp only [List.forall_mem_cons, exists_same_scalar, int, str]
    exact ⟨hasExactly_of_equals equal, format, formatVersion, profileFound,
      List.forall_mem_nil _⟩
  · rintro ⟨same, distinct⟩
    refine ⟨fieldEquals_of_same distinct (getField_same_object.mp same), ?_,
      distinct⟩
    exact spellsInteger_iff.mpr ⟨version, same.field?_eq_scalar rfl⟩

/-- A manifest that is read is what the publisher writes for what was read
exactly when it spells its integers as integers. -/
theorem ManifestReads.same_iff
    {payloads : List JsonTree} {recordedSha256 : String}
    (reads : ManifestReads floats sha256 manifest selectionSha256 tokenizer
      recordedSha256 payloads)
    (distinct : manifest.IsDistinct)
    (entriesRead : EntriesRead tokenizer payloads entries) :
    manifest.Same (inventoryPayload floats sha256 selectionFormatVersion
        selectionSha256 tokenizer entries implementationSha256) ↔
      InventorySpellsIntegers manifest ∧
        (getField manifest "builder").field? "implementation_sha256" =
          some (.str implementationSha256) := by
  have items : (getField manifest "archives").items?.getD [] = payloads := by
    rw [getField_items?_eq_some.mpr reads.archives, Option.getD_some]
  have length := entriesRead.reads.length_eq
  obtain ⟨format, version, complete, ready, cache, nonAuthority⟩ :=
    reads.contract
  rw [inventoryPayload, same_object_iff (by simp)]
  constructor
  · rintro ⟨-, fields⟩
    simp only [List.forall_mem_cons, exists_same_scalar, int, str,
      JsonTree.bool, ← getField_same_object] at fields
    obtain ⟨-, versionFound, -, -, selectionSame, cacheSame, -, -, -,
      ⟨item, found, archivesSame⟩, -, builderSame, -⟩ := fields
    refine ⟨⟨spellsInteger_iff.mpr ⟨_, versionFound⟩, ?_, ?_, ?_⟩, ?_⟩
    · exact spellsInteger_iff.mpr ⟨_, selectionSame.field?_eq_scalar rfl⟩
    · exact (same_cache_iff.mpr ⟨cacheSame, distinct⟩).2.1
    · rw [reads.archives, Option.some.injEq] at found
      subst found
      obtain ⟨others, equal, related⟩ := archivesSame.exists_items
      cases equal
      rw [items]
      exact (same_descriptors_iff.mp related).1
    · exact builderSame.field?_eq_scalar rfl
  · rintro ⟨spelled, implementation⟩
    refine ⟨reads.names, ?_⟩
    simp only [List.forall_mem_cons, exists_same_scalar, int, str,
      JsonTree.bool, ← getField_same_object]
    have related := same_descriptors_iff.mpr
      ⟨items ▸ spelled.ordinals, entriesRead.reads⟩
    have sameArchives := same_of_items related
    obtain ⟨versionValue, versionFound⟩ := spellsInteger_iff.mp spelled.version
    obtain ⟨selectionValue, selectionFound⟩ :=
      spellsInteger_iff.mp spelled.selection
    have recorded := reads.recorded
    rw [archiveInventorySha256, inventoryJsonBytes,
      write_congr floats false sameArchives] at recorded
    refine ⟨fieldEquals_str_iff.mp format,
      fieldEquals_int_iff.mp ⟨version, _, versionFound⟩,
      any_isTrue.mp complete, any_isFalse.mp ready, ?_,
      (same_cache_iff.mp ⟨cache, spelled.cache, distinct⟩).1,
      getField_same_object.mp reads.tokenizer, length ▸ reads.count, recorded,
      ⟨_, reads.archives, sameArchives⟩, ?_, ?_, List.forall_mem_nil _⟩
    · rw [same_object_iff (by simp)]
      simp only [List.forall_mem_cons, exists_same_scalar]
      exact ⟨reads.selectionNames, fieldEquals_int_iff.mp
        ⟨reads.selectionVersion, _, selectionFound⟩, reads.selection,
        List.forall_mem_nil _⟩
    · rw [fieldEquals, Option.any_eq_true] at nonAuthority
      obtain ⟨item, found, equal⟩ := nonAuthority
      rw [equals_strings_iff.mp equal] at found
      exact ⟨_, found, .refl _⟩
    · rw [same_object_iff (by simp)]
      simp only [List.forall_mem_cons, exists_same_scalar]
      exact ⟨reads.builderNames, reads.builder, implementation,
        List.forall_mem_nil _⟩

end Written

end CodingLlm
