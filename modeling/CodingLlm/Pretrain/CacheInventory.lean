import CodingLlm.Library.JsonRoundTrip
import CodingLlm.Pretrain.CacheAuthorities

/-!
# Raw-token-cache inventories

`publish_raw_token_cache_inventory` up to its rename, and
`load_raw_token_cache_inventory`.  The certification of a cache by its reader
and SHA-256 are parameters.
-/

namespace CodingLlm

open JsonTree Words

/-- `RawTokenCacheInventoryError`. -/
def inventoryError (text : String) : PyError := .runtimeError text

/-- A hash whose digests are 64 lowercase hexadecimal digits. -/
structure Sha256 where
  digest : List Byte -> String
  isSha256 : ∀ raw, IsSha256 (digest raw)

/-! ## Names -/

/-- `CACHE_FORMAT`. -/
def cacheFormat : String := "raw-document-token-cache"

/-- `CACHE_FORMAT_VERSION`. -/
def cacheFormatVersion : Int := 1

/-- `CACHE_PROFILE`. -/
def cacheProfile : String := "all-raw-documents-content-only-v1"

/-- `CACHE_MANIFEST_FILE` and `INVENTORY_MANIFEST_FILE`. -/
def cacheManifestFile : String := "manifest.json"

/-- `CACHE_SIDECAR_FILE` and `INVENTORY_SIDECAR_FILE`. -/
def cacheSidecarFile : String := "manifest.sha256"

/-- `INVENTORY_FORMAT`. -/
def inventoryFormat : String := "raw-token-cache-inventory"

/-- `INVENTORY_FORMAT_VERSION`. -/
def inventoryFormatVersion : Int := 1

/-- `SELECTION_FORMAT_VERSION`. -/
def selectionFormatVersion : Int := 7

/-- `NON_AUTHORITIES`. -/
def nonAuthorities : List String :=
  ["curation", "document_selection", "eos_insertion", "packing",
    "shuffle_order", "split_assignment"]

/-- The name of the module in `builder`. -/
def inventoryImplementation : String := "pretrain.raw_token_cache_inventory"

/-! ## Sources and entries -/

/-- Independent authority for the cache of one archive. -/
structure InventorySource where
  ordinal : Nat
  archive : ArchiveAuthority
  preprocessReport : FileAuthority
  fingerprint : FileAuthority
  records : Nat
  cleanBytes : Nat
  contentTokens : Nat
  records_pos : 1 ≤ records
  cleanBytes_pos : 1 ≤ cleanBytes
  contentTokens_pos : 1 ≤ contentTokens

/-- A certified cache of an inventory. -/
structure CacheInventoryEntry where
  ordinal : Nat
  cacheDirectory : String
  cacheManifest : FileAuthority
  cacheSidecar : FileAuthority
  authority : RawTokenCacheAuthority
  deriving DecidableEq

namespace CacheInventoryEntry

def archive (entry : CacheInventoryEntry) : ArchiveAuthority :=
  entry.authority.archive

/-- `documents` of `descriptor`. -/
def documents (entry : CacheInventoryEntry) : JsonTree :=
  .object [
    ("records", .int entry.authority.records),
    ("clean_bytes", .int entry.authority.cleanBytes),
    ("content_tokens", .int entry.authority.contentTokens)]

/-- `CacheInventoryEntry.descriptor`. -/
def descriptor (entry : CacheInventoryEntry) : JsonTree :=
  .object [
    ("ordinal", .int entry.ordinal),
    ("cache_directory", .str entry.cacheDirectory),
    ("cache_manifest", entry.cacheManifest.asdict),
    ("cache_sidecar", entry.cacheSidecar.asdict),
    ("archive", entry.archive.asdict),
    ("preprocess_report", entry.authority.preprocessReport.asdict),
    ("fingerprint", entry.authority.fingerprint.asdict),
    ("documents", entry.documents)]

end CacheInventoryEntry

/-! ## Directories -/

/-- The two files of a cache that an inventory binds; `none` for what is no
regular file. -/
structure CacheTarget where
  manifest : Option (List Byte)
  sidecar : Option (List Byte)
  deriving DecidableEq

/-- `archives` under a cache root: buckets of targets; `none` for what is no
plain directory. -/
structure CacheTree where
  archives : Option (List (String × Option (List (String × Option CacheTarget))))

namespace CacheTree

/-- The buckets by their names. -/
def buckets (tree : CacheTree) :
    List (String × Option (List (String × Option CacheTarget))) :=
  tree.archives.getD []

/-- The targets by their paths. -/
def targets (tree : CacheTree) : List (String × Option CacheTarget) :=
  tree.buckets.flatMap fun bucket => (bucket.2.getD []).map fun target =>
    ("archives/" ++ bucket.1 ++ "/" ++ target.1, target.2)

/-- The target at a path. -/
def target? (tree : CacheTree) (directory : String) : Option CacheTarget :=
  (tree.targets.lookup directory).bind id

end CacheTree

/-- The same names, in any order and number. -/
def SameMembers (left right : List String) : Prop :=
  left ⊆ right ∧ right ⊆ left

instance (left right : List String) : Decidable (SameMembers left right) :=
  inferInstanceAs (Decidable (_ ∧ _))

/-- `_closed_world_cache_directories`. -/
def closedWorldCacheDirectories
    (tree : CacheTree)
    (expected : List ArchiveAuthority) : Checked Unit := do
  let _ ← require (tree.archives.isSome)
    (inventoryError "raw-token-cache archives root is not a directory")
  let _ ← require (∀ bucket ∈ tree.buckets, bucket.2.isSome)
    (inventoryError "raw-token-cache bucket is not a non-symlink directory")
  let _ ← require (∀ target ∈ tree.targets, target.2.isSome)
    (inventoryError
      "raw-token-cache archive directory is not a non-symlink directory")
  let _ ← require
    (SameMembers (tree.targets.map Prod.fst)
        (expected.map ArchiveAuthority.cacheDirectory) ∧
      SameMembers (tree.buckets.map Prod.fst)
        (expected.map fun archive => archive.bucket.name))
    (inventoryError "Raw-token-cache archive set is not closed-world")
  return ()

/-- The directory of an inventory; `none` for what is no regular file. -/
structure InventoryDirectory where
  files : List (String × Option (List Byte))

/-- `_stable_file_bytes`. -/
def stableFileBytes
    (directory : InventoryDirectory)
    (name : String)
    (maximumBytes : Nat) : Checked (List Byte) := do
  let raw ← requireObject ((directory.files.lookup name).bind id)
    (inventoryError "Cannot open")
  let _ ← require (1 ≤ raw.length ∧ raw.length ≤ maximumBytes)
    (inventoryError "size/type is unsafe")
  return raw

section Inventory

variable (floats : FloatText) (sha256 : Sha256)

/-! ## Bytes -/

/-- `_canonical_json_bytes`. -/
def inventoryJsonBytes (payload : JsonTree) : List Byte :=
  encodeUtf8 (payload.write floats false ++ ['\n'])

/-- `f"{digest}  {name}\n"`. -/
def sidecarBytes (digest name : String) : List Byte :=
  encodeUtf8 (digest ++ "  " ++ name ++ "\n").toList

/-- `maximum_bytes` for the manifest. -/
def maximumManifestBytes : Nat := 64 * 1024 * 1024

/-- `maximum_bytes` for the sidecar. -/
def maximumSidecarBytes : Nat := 1024

/-- `_canonical_sha256(archives)`. -/
def archiveInventorySha256 (payloads : List JsonTree) : String :=
  sha256.digest (inventoryJsonBytes floats (.array payloads))

/-! ## Publication -/

/-- The arguments of a publication. -/
structure InventoryRequest where
  selectionManifestSha256 : String
  selectionFormatVersion : Int
  tokenizer : TokenizerAuthority
  sources : List InventorySource

/-- One cache is read, certified and described. -/
def certifySource
    (certify : RawTokenCacheAuthority -> Checked Unit)
    (tree : CacheTree)
    (tokenizer : TokenizerAuthority)
    (source : InventorySource) : Checked CacheInventoryEntry := do
  let directory := source.archive.cacheDirectory
  let missing := inventoryError "Missing inventory-bound file"
  let target ← requireObject (tree.target? directory) missing
  let manifest ← requireObject target.manifest missing
  let unsafePath := inventoryError "Unsafe inventory-bound path"
  let _ ← require (SafeRelative (directory ++ "/" ++ cacheManifestFile))
    unsafePath
  let sidecar ← requireObject target.sidecar missing
  let _ ← require (SafeRelative (directory ++ "/" ++ cacheSidecarFile))
    unsafePath
  let digest := sha256.digest manifest
  let _ ← require (sidecar = sidecarBytes digest cacheManifestFile)
    (inventoryError "Cache manifest sidecar mismatch")
  let authority ← RawTokenCacheAuthority.of manifest.length digest
    source.archive source.preprocessReport source.fingerprint tokenizer
    source.records source.cleanBytes source.contentTokens
  (certify authority).mapError fun _ => inventoryError "Cannot certify cache"
  let cacheManifest ← FileAuthority.of (directory ++ "/" ++ cacheManifestFile)
    manifest.length digest
  let cacheSidecar ← FileAuthority.of (directory ++ "/" ++ cacheSidecarFile)
    sidecar.length (sha256.digest sidecar)
  return ⟨source.ordinal, directory, cacheManifest, cacheSidecar, authority⟩

/-- The manifest of an inventory. -/
def inventoryPayload
    (selectionVersion : Int)
    (selectionSha256 : String)
    (tokenizer : TokenizerAuthority)
    (entries : List CacheInventoryEntry)
    (implementationSha256 : String) : JsonTree :=
  let archives := entries.map CacheInventoryEntry.descriptor
  .object [
    ("format", .str inventoryFormat),
    ("format_version", .int inventoryFormatVersion),
    ("inventory_complete", .bool true),
    ("training_ready", .bool false),
    ("selection", .object [
      ("identity_format_version", .int selectionVersion),
      ("manifest_sha256", .str selectionSha256)]),
    ("cache", .object [
      ("format", .str cacheFormat),
      ("format_version", .int cacheFormatVersion),
      ("profile", .str cacheProfile)]),
    ("tokenizer", tokenizer.descriptor),
    ("archive_count", .int entries.length),
    ("archive_inventory_sha256",
      .str (archiveInventorySha256 floats sha256 archives)),
    ("archives", .array archives),
    ("non_authorities", .array (nonAuthorities.map JsonTree.str)),
    ("builder", .object [
      ("implementation", .str inventoryImplementation),
      ("implementation_sha256", .str implementationSha256)])]

/-- What is renamed into place, and what it was built from. -/
structure PublishedInventory where
  entries : List CacheInventoryEntry
  manifest : List Byte
  sidecar : List Byte

/-- The directory of a published inventory. -/
def PublishedInventory.directory (published : PublishedInventory) :
    InventoryDirectory :=
  ⟨[(cacheManifestFile, some published.manifest),
    (cacheSidecarFile, some published.sidecar)]⟩

/-- `_publish_raw_token_cache_inventory_locked` up to its rename; the bytes of
the module itself are hashed into `builder`. -/
def publishInventory
    (certify : RawTokenCacheAuthority -> Checked Unit)
    (implementation : List Byte)
    (inventoryExists : Bool)
    (tree : CacheTree)
    (request : InventoryRequest) : Checked PublishedInventory := do
  let _ ← require (IsSha256 request.selectionManifestSha256) (inventoryError
    "selection manifest SHA-256 must be a lowercase SHA-256")
  let _ ← require (request.selectionFormatVersion = selectionFormatVersion)
    (inventoryError "Raw-token-cache inventory requires selection v7")
  let _ ← require (request.sources ≠ [])
    (inventoryError "Cannot publish an empty cache inventory")
  let _ ← require (request.sources.map InventorySource.ordinal =
      List.range request.sources.length)
    (inventoryError ("Cache inventory sources are not in exact contiguous " ++
      "manifest order"))
  let archives := request.sources.map InventorySource.archive
  let _ ← require (archives.map ArchiveAuthority.path).Nodup
    (inventoryError "Duplicate raw archive in cache inventory")
  let _ ← require (archives.map ArchiveAuthority.cacheDirectory).Nodup
    (inventoryError "Duplicate cache target in inventory")
  closedWorldCacheDirectories tree archives
  let entries ← request.sources.mapM
    (certifySource sha256 certify tree request.tokenizer)
  let manifest := inventoryJsonBytes floats (inventoryPayload floats sha256
    request.selectionFormatVersion request.selectionManifestSha256
    request.tokenizer entries (sha256.digest implementation))
  let _ ← require (inventoryExists = false)
    (inventoryError "Refusing to replace existing cache inventory")
  return ⟨entries, manifest,
    sidecarBytes (sha256.digest manifest) cacheManifestFile⟩

/-! ## Loading -/

/-- `tree.get(key)`. -/
def getField (tree : JsonTree) (key : String) : JsonTree :=
  (tree.field? key).getD null

/-- `_require_sha256(tree.get(key))`. -/
def requireSha256Field (tree : JsonTree) (key : String) : Checked String :=
  requireObject ((tree.field? key).bind sha256?)
    (inventoryError "must be a lowercase SHA-256")

/-- `_require_positive_int(tree.get(key))`. -/
def requirePositiveField (tree : JsonTree) (key : String) : Checked Nat := do
  let error := inventoryError "must be a positive integer"
  let value ← requireObject ((tree.field? key).bind int?) error
  let _ ← require (1 ≤ value) error
  return value.toNat

/-- The keys of an entry. -/
def inventoryEntryKeys : List String :=
  ["ordinal", "cache_directory", "cache_manifest", "cache_sidecar", "archive",
    "preprocess_report", "fingerprint", "documents"]

/-- The keys of a manifest. -/
def inventoryKeys : List String :=
  ["format", "format_version", "inventory_complete", "training_ready",
    "selection", "cache", "tokenizer", "archive_count",
    "archive_inventory_sha256", "archives", "non_authorities", "builder"]

/-- The body of the loop over `archives`. -/
def readEntry
    (tokenizer : TokenizerAuthority)
    (ordinal : Nat)
    (archivesSeen directoriesSeen : List String)
    (payload : JsonTree) : Checked CacheInventoryEntry := do
  let _ ← require (payload.HasExactly inventoryEntryKeys)
    (inventoryError "Cache inventory archive schema mismatch")
  let _ ← require (payload.fieldEquals "ordinal" (.int ordinal))
    (inventoryError "Cache inventory order/ordinal mismatch")
  let archive ← archiveAuthority (getField payload "archive")
    (inventoryError "Invalid archive descriptor")
  let _ ← require (archive.path ∉ archivesSeen)
    (inventoryError "Duplicate archive in cache inventory")
  let cacheDirectory ← requireObject
    ((payload.field? "cache_directory").bind str?)
    (inventoryError "Unsafe cache directory")
  let _ ← require (SafeRelative cacheDirectory)
    (inventoryError "Unsafe cache directory")
  let _ ← require (cacheDirectory = archive.cacheDirectory)
    (inventoryError "Non-canonical cache directory")
  let _ ← require (cacheDirectory ∉ directoriesSeen)
    (inventoryError "Duplicate cache directory in inventory")
  let cacheManifest ← fileAuthority (getField payload "cache_manifest")
    (inventoryError "Invalid cache manifest descriptor")
  let cacheSidecar ← fileAuthority (getField payload "cache_sidecar")
    (inventoryError "Invalid cache sidecar descriptor")
  let _ ← require
    (cacheManifest.path = cacheDirectory ++ "/" ++ cacheManifestFile ∧
      cacheSidecar.path = cacheDirectory ++ "/" ++ cacheSidecarFile)
    (inventoryError "Non-canonical cache manifest/sidecar path")
  let report ← fileAuthority (getField payload "preprocess_report")
    (inventoryError "Invalid preprocess report descriptor")
  let fingerprint ← fileAuthority (getField payload "fingerprint")
    (inventoryError "Invalid fingerprint descriptor")
  let documents := getField payload "documents"
  let _ ← require
    (documents.HasExactly ["records", "clean_bytes", "content_tokens"])
    (inventoryError "Cache document totals schema mismatch")
  let records ← requirePositiveField documents "records"
  let cleanBytes ← requirePositiveField documents "clean_bytes"
  let contentTokens ← requirePositiveField documents "content_tokens"
  let authority ← (RawTokenCacheAuthority.of cacheManifest.bytes
    cacheManifest.sha256 archive report fingerprint tokenizer records
    cleanBytes contentTokens).mapError
      fun _ => inventoryError "Invalid per-archive cache authority"
  return ⟨ordinal, cacheDirectory, cacheManifest, cacheSidecar, authority⟩

/-- The loop over `archives`. -/
def readEntries (tokenizer : TokenizerAuthority) :
    Nat -> List String -> List String -> List JsonTree ->
      Checked (List CacheInventoryEntry)
  | _, _, _, [] => return []
  | ordinal, archivesSeen, directoriesSeen, payload :: payloads => do
      let entry ← readEntry tokenizer ordinal archivesSeen directoriesSeen
        payload
      let entries ← readEntries tokenizer (ordinal + 1)
        (entry.archive.path :: archivesSeen)
        (entry.cacheDirectory :: directoriesSeen) payloads
      return entry :: entries

/-- The bytes of a bound manifest and sidecar are authenticated. -/
def authenticateEntry (tree : CacheTree) (entry : CacheInventoryEntry) :
    Checked Unit := do
  let missing := inventoryError "Missing inventory-bound file"
  let target ← requireObject (tree.target? entry.cacheDirectory) missing
  let manifest ← requireObject target.manifest missing
  let _ ← require
    (manifest.length = entry.cacheManifest.bytes ∧
      sha256.digest manifest = entry.cacheManifest.sha256)
    (inventoryError "Inventory-bound cache manifest changed")
  let sidecar ← requireObject target.sidecar missing
  let _ ← require
    (sidecar.length = entry.cacheSidecar.bytes ∧
      sha256.digest sidecar = entry.cacheSidecar.sha256)
    (inventoryError "Inventory-bound cache sidecar changed")
  let _ ← require
    (sidecar = sidecarBytes entry.cacheManifest.sha256 cacheManifestFile)
    (inventoryError "Inventory-bound cache sidecar mismatch")
  return ()

/-- What a load returns. -/
structure LoadedInventory where
  manifestRaw : List Byte
  manifest : JsonTree
  selectionManifestSha256 : String
  tokenizer : TokenizerAuthority
  entries : List CacheInventoryEntry

/-- The contract of the manifest. -/
def inventoryContract (manifest : JsonTree) : Prop :=
  manifest.fieldEquals "format" (.str inventoryFormat) ∧
    manifest.fieldEquals "format_version" (.int inventoryFormatVersion) ∧
    (manifest.field? "inventory_complete").any isTrue ∧
    (manifest.field? "training_ready").any isFalse ∧
    manifest.fieldEquals "cache" (.object [
      ("format", .str cacheFormat),
      ("format_version", .int cacheFormatVersion),
      ("profile", .str cacheProfile)]) ∧
    manifest.fieldEquals "non_authorities"
      (.array (nonAuthorities.map JsonTree.str))

instance (manifest : JsonTree) : Decidable (inventoryContract manifest) :=
  inferInstanceAs (Decidable (_ ∧ _ ∧ _ ∧ _ ∧ _ ∧ _))

/-- `load_raw_token_cache_inventory`. -/
def loadInventory
    (directory : InventoryDirectory)
    (tree : CacheTree) : Checked LoadedInventory := do
  let _ ← require
    (SameMembers (directory.files.map Prod.fst)
      [cacheManifestFile, cacheSidecarFile])
    (inventoryError "Cache inventory directory is not closed-world")
  let manifestRaw ← stableFileBytes directory cacheManifestFile
    maximumManifestBytes
  let sidecarRaw ← stableFileBytes directory cacheSidecarFile
    maximumSidecarBytes
  let _ ← require (sidecarRaw = sidecarBytes (sha256.digest manifestRaw)
      cacheManifestFile)
    (inventoryError "Cache inventory sidecar mismatch")
  let manifest ← requireObject ((decodeUtf8 manifestRaw).bind (loads floats))
    (inventoryError "Invalid cache inventory JSON")
  let _ ← require (manifest.IsMapping ∧
      inventoryJsonBytes floats manifest = manifestRaw)
    (inventoryError "Cache inventory is not canonical JSON")
  let _ ← require (manifest.HasExactly inventoryKeys)
    (inventoryError "Cache inventory top-level schema mismatch")
  let _ ← require (inventoryContract manifest)
    (inventoryError "Cache inventory contract mismatch")
  let selection := getField manifest "selection"
  let _ ← require (selection.HasExactly
      ["identity_format_version", "manifest_sha256"])
    (inventoryError "Cache inventory selection schema mismatch")
  let _ ← require (selection.fieldEquals "identity_format_version"
      (.int selectionFormatVersion))
    (inventoryError "Cache inventory is not bound to selection v7")
  let selectionSha256 ← requireSha256Field selection "manifest_sha256"
  let tokenizer ← tokenizerAuthority (getField manifest "tokenizer")
    (inventoryError "Tokenizer descriptor schema mismatch")
  let builder := getField manifest "builder"
  let _ ← require
    (builder.HasExactly ["implementation", "implementation_sha256"] ∧
      builder.fieldEquals "implementation" (.str inventoryImplementation))
    (inventoryError "Cache inventory builder schema mismatch")
  let _ ← requireSha256Field builder "implementation_sha256"
  let count ← requirePositiveField manifest "archive_count"
  let mismatch := inventoryError "Cache inventory archive count mismatch"
  let payloads ← requireObject (getField manifest "archives").items? mismatch
  let _ ← require (payloads.length = count) mismatch
  let recorded ← requireSha256Field manifest "archive_inventory_sha256"
  let _ ← require (archiveInventorySha256 floats sha256 payloads = recorded)
    (inventoryError "Cache archive-inventory digest mismatch")
  let entries ← readEntries tokenizer 0 [] [] payloads
  closedWorldCacheDirectories tree (entries.map CacheInventoryEntry.archive)
  let _ ← entries.mapM (authenticateEntry sha256 tree)
  return ⟨manifestRaw, manifest, selectionSha256, tokenizer, entries⟩

/-- The loaded entries, encoded as the publisher does. -/
def LoadedInventory.encode
    (loaded : LoadedInventory)
    (implementation : List Byte) : List Byte :=
  inventoryJsonBytes floats (inventoryPayload floats sha256
    selectionFormatVersion loaded.selectionManifestSha256 loaded.tokenizer
    loaded.entries (sha256.digest implementation))

end Inventory
end CodingLlm
