import CodingLlm.Library.CrashLogic
import CodingLlm.Library.Table
import CodingLlm.Pretrain.GeometryWaiver
import Mathlib.Data.String.Basic

/-!
# Release packages

`hf_release` verifies a sealed export, stages its public files in a directory
of their own and publishes that directory.  A staged file may be a hard link to
the file of the export, and writing to it then writes to the export.
-/

namespace CodingLlm

open CrashLogic JsonTree

/-! ## Files -/

/-- A flat directory: its regular files, and the names of everything else. -/
@[ext] structure FlatDirectory (Bytes : Type) where
  files : Table String Bytes
  others : List String

/-- How bytes are read and written. -/
structure ReleaseCodec (Bytes : Type) where
  size : Bytes -> Nat
  sha256 : Bytes -> String
  /-- `_canonical_json`. -/
  encodeJson : JsonTree -> Bytes
  /-- `json.loads(path.read_text(encoding="utf-8"))`. -/
  decodeJson : Bytes -> Checked JsonTree
  /-- `text.encode("utf-8")`. -/
  encodeText : String -> Bytes
  /-- `path.read_text(encoding="utf-8")`, which translates newlines. -/
  readText : Bytes -> Checked String
  /-- The blockers of `_card_publication_state`. -/
  publicationBlockers : String -> List String
  /-- `_PRIVATE_PATH.search`. -/
  namesPrivatePath : String -> Bool
  isSha256 : ∀ bytes, IsSha256 (sha256 bytes)
  decode_encode : ∀ tree, ∃ decoded,
    decodeJson (encodeJson tree) = .ok decoded ∧ decoded.Same tree
  read_newlines : ∀ bytes text, readText bytes = .ok text ->
    '\r' ∉ text.toList
  read_encode : ∀ text, '\r' ∉ text.toList ->
    readText (encodeText text) = .ok text

/-- `ReleaseError`. -/
def releaseError (text : String) : PyError := .valueError text

/-! ## Names -/

/-- `RELEASE_MANIFEST_NAME`. -/
def releaseManifestName : String := "HF_RELEASE_MANIFEST.json"

/-- `RELEASE_MANIFEST_SIDECAR_NAME`. -/
def releaseManifestSidecarName : String := "HF_RELEASE_MANIFEST.sha256"

/-- `RELEASE_PROVENANCE_NAME`. -/
def releaseProvenanceName : String := "RELEASE_PROVENANCE.json"

/-- `MODEL_CARD_NAME`. -/
def modelCardName : String := "README.md"

/-- `GENERATION_CONFIG_NAME`. -/
def generationConfigName : String := "generation_config.json"

/-- `HUB_ATTRIBUTES_NAME`. -/
def hubAttributesName : String := ".gitattributes"

/-- `EXPORT_MANIFEST_NAME`. -/
def exportManifestName : String := "NATIVE_EXPORT_MANIFEST.json"

/-- `EXPORT_MANIFEST_SIDECAR_NAME`. -/
def exportManifestSidecarName : String := "NATIVE_EXPORT_MANIFEST.sha256"

/-- `SOURCE_TOKENIZER_MANIFEST_NAME`. -/
def sourceTokenizerManifestName : String := "SOURCE_TOKENIZER_MANIFEST.json"

/-- `TOKENIZER_MANIFEST_NAME`. -/
def tokenizerManifestName : String := "TOKENIZER_MANIFEST.json"

/-- `_INTERNAL_ONLY_NAMES`. -/
def internalOnlyNames : List String :=
  [exportManifestName, exportManifestSidecarName, sourceTokenizerManifestName,
    tokenizerManifestName]

/-- The files that are written anew without the metadata of local paths. -/
def scrubbedNames : List String :=
  ["config.json", "tokenizer_config.json", "native_config.json"]

/-- `_PATH_METADATA_KEYS`. -/
def pathMetadataKeys : List String :=
  ["_name_or_path", "name_or_path", "merges_file", "tokenizer_file",
    "vocab_file"]

/-- `key in _PATH_METADATA_KEYS`. -/
def isPathMetadata (key : String) : Bool := key ∈ pathMetadataKeys

/-- `_scrub_local_path_metadata`. -/
def scrubLocalPathMetadata (tree : JsonTree) : JsonTree :=
  tree.without isPathMetadata

/-- `_HUB_ATTRIBUTES`. -/
def hubAttributesText : String :=
  "*.safetensors filter=lfs diff=lfs merge=lfs -text\n"

/-- `text.endswith(ending)`. -/
def endsWithText (text ending : String) : Bool :=
  ending.toList.isSuffixOf text.toList

/-- `part in text`. -/
def containsText (text part : String) : Bool :=
  text.toList.tails.any fun rest => part.toList.isPrefixOf rest

/-- The text of a sidecar. -/
def sidecarText (digest name : String) : String :=
  digest ++ "  " ++ name ++ "\n"

/-! ## Reading -/

section Reading

variable {Bytes : Type} (codec : ReleaseCodec Bytes)

/-- The bytes of a regular file. -/
def FlatDirectory.read (root : FlatDirectory Bytes) (name : String) :
    Checked Bytes :=
  requireObject (root.files.lookup name)
    (releaseError "missing, unsafe, or not a regular file")

/-- `_load_json`. -/
def ReleaseCodec.loadJson (root : FlatDirectory Bytes) (name : String) :
    Checked JsonTree := do
  let bytes ← root.read name
  let tree ← codec.decodeJson bytes
  let _ ← require tree.IsMapping
    (releaseError "must contain a JSON object")
  return tree

/-- `_flat_name`. -/
def flatName (value : JsonTree) : Checked String :=
  requireObject (value.str?.filter fun name =>
      decide (name ≠ "" ∧ name ≠ "." ∧ name ≠ ".." ∧
        '/' ∉ name.toList ∧ '\\' ∉ name.toList))
    (releaseError "must be a non-empty flat filename")

/-- `_verify_file_record`. -/
def ReleaseCodec.verifyFileRecord
    (root : FlatDirectory Bytes) (record : JsonTree) : Checked String := do
  let name ← flatName ((record.field? "path").getD null)
  let bytes ← root.read name
  let _ ← require
    ((record.field? "bytes").bind JsonTree.int? = some (codec.size bytes : Int))
    (releaseError "byte size does not match")
  let expected ← requireObject ((record.field? "sha256").bind JsonTree.sha256?)
    (releaseError "must be a lowercase SHA-256 digest")
  let _ ← require (codec.sha256 bytes = expected)
    (releaseError "SHA-256 does not match")
  return name

/-- `_verify_exact_tree`. -/
def FlatDirectory.verifyExactTree
    (root : FlatDirectory Bytes) (expected allowedExtra : List String) :
    Checked Unit := do
  let _ ← require (root.others ⊆ allowedExtra)
    (releaseError "Release tree contains an unsafe or non-file entry")
  let actual := root.files.keys.filter fun name => name ∉ allowedExtra
  let _ ← require (actual ⊆ expected ∧ expected ⊆ actual)
    (releaseError "Release file inventory differs")
  return ()

/-- A manifest has the sidecar that names its digest. -/
def ReleaseCodec.verifySidecar
    (root : FlatDirectory Bytes) (manifestName sidecarName : String) :
    Checked String := do
  let manifest ← root.read manifestName
  let sidecar ← root.read sidecarName
  let text ← codec.readText sidecar
  let _ ← require
    (text = sidecarText (codec.sha256 manifest) manifestName)
    (releaseError "manifest sidecar does not match")
  return codec.sha256 manifest

/-! ## The sealed export -/

/-- `bool(value)`. -/
def JsonTree.truthy : JsonTree -> Bool
  | .scalar .null => false
  | .scalar (.bool value) => value
  | .scalar (.int value) => value ≠ 0
  | .scalar (.float value) => value ≠ 0
  | .scalar (.str value) => value ≠ ""
  | .array items => !items.isEmpty
  | .object fields => !fields.isEmpty

/-- The names of the tensors in a weight record. -/
def tensorNames (record : JsonTree) : Checked (List String) := do
  let items ← requireObject ((record.field? "tensors").bind JsonTree.items?)
    (releaseError "Invalid tensor list for weight shard")
  let _ ← require (items ≠ [])
    (releaseError "Invalid tensor list for weight shard")
  items.mapM fun item =>
    requireObject (item.str?.filter fun name => name ≠ "")
      (releaseError "Invalid tensor list for weight shard")

/-- The loop over `weights.files`: the names so far with those of the
records. -/
def ReleaseCodec.verifyWeights (root : FlatDirectory Bytes) :
    List JsonTree -> (names tensors : List String) -> Checked (List String)
  | [], names, _ => return names
  | record :: records, names, tensors => do
      let _ ← require record.IsMapping (releaseError "Invalid weight record")
      let name ← codec.verifyFileRecord root record
      let _ ← require (endsWithText name ".safetensors" ∧ name ∉ names)
        (releaseError "Unsafe or duplicate weight filename")
      let found ← tensorNames record
      let _ ← require (∀ tensor ∈ found, tensor ∉ tensors)
        (releaseError "A tensor appears in more than one weight shard")
      ReleaseCodec.verifyWeights root records (names ++ [name]) (tensors ++ found)

/-- The loop over `files`. -/
def ReleaseCodec.verifyFiles (root : FlatDirectory Bytes) :
    List JsonTree -> (names : List String) -> Checked (List String)
  | [], names => return names
  | record :: records, names => do
      let _ ← require record.IsMapping
        (releaseError "Invalid native non-weight record")
      let name ← codec.verifyFileRecord root record
      let _ ← require (name ∉ names)
        (releaseError "Duplicate native export filename")
      ReleaseCodec.verifyFiles root records (names ++ [name])

/-- One turn of the loop over the tokenizer inventory.  A `path` in the record
replaces the name for the check of the file. -/
def ReleaseCodec.verifyTokenizerFile
    (root : FlatDirectory Bytes) (file : String × JsonTree) :
    Checked String := do
  let name ← flatName (.str file.1)
  let fields ← requireObject file.2.fields?
    (releaseError "Invalid tokenizer record")
  let _ ← codec.verifyFileRecord root
    (.object (fields ++ [("path", .str name)]))
  let _ ← require (¬containsText name "chat_template" ∧
      ¬endsWithText name ".jinja")
    (releaseError "Base-model release must not publish a chat template")
  return name

/-- `VerifiedSourceExport`. -/
structure VerifiedSourceExport where
  manifest : JsonTree
  manifestSha256 : String
  publicFiles : List String
  config : JsonTree
  tokenizerSource : List (String × JsonTree)

/-- `tuple(sorted(set(names)))`. -/
def sortedNames (names : List String) : List String :=
  names.dedup.insertionSort (· ≤ ·)

/-- The weight index that is public. -/
def publicIndex (weights : JsonTree) (names : List String) :
    Checked (List String) := do
  let index := (weights.field? "index").getD null
  if ((weights.field? "is_sharded").getD null).truthy then
    let _ ← require (index.EqualsStr "model.safetensors.index.json" ∧
        "model.safetensors.index.json" ∈ names)
      (releaseError
        "Sharded native export is missing its standard weight index")
    return ["model.safetensors.index.json"]
  else
    let _ ← require (index.equals null)
      (releaseError
        "Unsharded native export unexpectedly declares a weight index")
    return []

/-- The string fields of the source tokenizer that are published. -/
def tokenizerSourceFields (manifest : JsonTree) : List (String × JsonTree) :=
  ["repo_id", "resolved_revision"].filterMap fun key =>
    ((manifest.field? key).bind JsonTree.str?).map fun text =>
      (key, JsonTree.str text)

/-- `verify_source_export`. -/
def ReleaseCodec.verifySourceExport (root : FlatDirectory Bytes) :
    Checked VerifiedSourceExport := do
  let manifest ← codec.loadJson root exportManifestName
  let _ ← require
    (((manifest.field? "format").getD null).EqualsStr
        "native-pytorch-to-hf-llama" ∧
      ((manifest.field? "manifest_version").getD null).equals (.int 1) ∧
      ((manifest.field? "architecture").getD null).EqualsStr
        "LlamaForCausalLM")
    (releaseError "Unsupported native HF export contract")
  let manifestSha256 ← codec.verifySidecar root exportManifestName
    exportManifestSidecarName
  let weights := (manifest.field? "weights").getD null
  let _ ← require (weights.IsMapping ∧
      ((weights.field? "format").getD null).EqualsStr "safetensors")
    (releaseError "Native export must contain safetensors weights")
  let weightRecords ← requireObject
    ((weights.field? "files").bind JsonTree.items?)
    (releaseError "Native export has no weight-shard inventory")
  let _ ← require (weightRecords ≠ [])
    (releaseError "Native export has no weight-shard inventory")
  let manifests := [exportManifestName, exportManifestSidecarName]
  let weightNames ← codec.verifyWeights root weightRecords manifests []
  let fileRecords ← requireObject
    ((manifest.field? "files").bind JsonTree.items?)
    (releaseError "Native export has no non-weight inventory")
  let names ← codec.verifyFiles root fileRecords weightNames
  root.verifyExactTree names []
  let index ← publicIndex weights names
  let config ← codec.loadJson root "config.json"
  let _ ← require
    (((config.field? "model_type").getD null).EqualsStr "llama" ∧
      ((config.field? "architectures").getD null).equals
        (.array [.str "LlamaForCausalLM"]))
    (releaseError "Native export is not a standard HF LlamaForCausalLM")
  let _ ← require
    (((config.field? "vocab_size").getD null).equals (.int 49152) ∧
      ((config.field? "max_position_embeddings").getD null).equals
        (.int 4096))
    (releaseError ("Native export vocabulary or context differs from run-1 " ++
      "authority"))
  let nativeNames := ["native_config.json"].filter fun name => name ∈ names
  let _ ← require ((manifest.field? "tokenizer").getD null).IsMapping
    (releaseError "Native export tokenizer record is missing")
  let tokenizerManifest ← codec.loadJson root tokenizerManifestName
  let _ ← require
    (((tokenizerManifest.field? "format").getD null).EqualsStr
      "transformers-tokenizer-export")
    (releaseError "Unsupported tokenizer export manifest")
  let tokenizerFiles ← requireObject
    ((tokenizerManifest.field? "files").bind JsonTree.fields?)
    (releaseError "Tokenizer export has no public file inventory")
  let _ ← require (tokenizerFiles ≠ [])
    (releaseError "Tokenizer export has no public file inventory")
  let tokenizerNames ←
    tokenizerFiles.mapM (codec.verifyTokenizerFile root)
  let sourceManifest ← codec.loadJson root sourceTokenizerManifestName
  return {
    manifest
    manifestSha256
    publicFiles := sortedNames (weightNames.drop manifests.length ++ index ++
      ["config.json"] ++ nativeNames ++ tokenizerNames)
    config
    tokenizerSource := tokenizerSourceFields sourceManifest
  }

/-! ## The release -/

/-- One turn of the loop over the records of a release manifest, and the rest
of it. -/
def ReleaseCodec.verifyRecords (root : FlatDirectory Bytes) :
    List JsonTree -> (names : List String) -> Checked (List String)
  | [], names => return names
  | record :: records, names => do
      let _ ← require (record.HasExactly ["path", "bytes", "sha256"])
        (releaseError "Invalid release file record")
      let name ← codec.verifyFileRecord root record
      let _ ← require (name ∉ names ∧ name ∉ internalOnlyNames)
        (releaseError "Duplicate or internal-only release file")
      ReleaseCodec.verifyRecords root records (names ++ [name])

/-- The files that every release has. -/
def requiredReleaseNames : List String :=
  [modelCardName, generationConfigName, hubAttributesName,
    releaseProvenanceName, "config.json"]

/-- How a publication state is declared. -/
def publicationState (blockers : List String) : String :=
  if blockers = [] then "public-ready" else "draft"

/-- `validate_release_package`. -/
def ReleaseCodec.validateReleasePackage
    (root : FlatDirectory Bytes) (requirePublicReady : Bool)
    (allowedExtra : List String) : Checked JsonTree := do
  let manifest ← codec.loadJson root releaseManifestName
  let _ ← require
    (((manifest.field? "format").getD null).EqualsStr
        "hugging-face-model-release" ∧
      ((manifest.field? "format_version").getD null).equals (.int 1))
    (releaseError "Unsupported HF release manifest")
  let _ ← codec.verifySidecar root releaseManifestName
    releaseManifestSidecarName
  let records ← requireObject ((manifest.field? "files").bind JsonTree.items?)
    (releaseError "HF release manifest has no file inventory")
  let _ ← require (records ≠ [])
    (releaseError "HF release manifest has no file inventory")
  let names ← codec.verifyRecords root records
    [releaseManifestName, releaseManifestSidecarName]
  let _ ← require (∀ name ∈ requiredReleaseNames, name ∈ names)
    (releaseError "Release package is missing a file")
  let _ ← require (∃ name ∈ names, endsWithText name ".safetensors")
    (releaseError "Release package has no safetensors weights")
  root.verifyExactTree names allowedExtra
  let card ← root.read modelCardName
  let card ← codec.readText card
  let blockers := codec.publicationBlockers card
  let _ ← require
    (((manifest.field? "publication_state").getD null).EqualsStr
        (publicationState blockers) ∧
      ((manifest.field? "publication_blockers").getD null).equals
        (.array (blockers.map JsonTree.str)))
    (releaseError
      "Model-card publication state differs from the release manifest")
  let _ ← require (requirePublicReady -> blockers = [])
    (releaseError "Public release is blocked")
  return manifest

/-! ## Staging -/

/-- `file_mode`. -/
inductive FileMode
  | hardlink
  | copy
  deriving DecidableEq

/-- A staged file: the hard link to the public file of its name, or a file of
its own. -/
inductive StagedFile (Bytes : Type)
  | link
  | own (bytes : Bytes)

/-- The sealed export and the directory that is staged from it. -/
structure Staging (Bytes : Type) where
  source : FlatDirectory Bytes
  files : Table String (StagedFile Bytes)

/-- The bytes of a staged file. -/
def Staging.content? (staging : Staging Bytes) (name : String) :
    Option Bytes :=
  match staging.files.lookup name with
  | some .link => staging.source.files.lookup name
  | some (.own bytes) => some bytes
  | none => none

/-- `_write_bytes` of a staged file.  Through a link it changes the export. -/
def Staging.put (staging : Staging Bytes) (name : String) (bytes : Bytes) :
    Staging Bytes :=
  match staging.files.lookup name with
  | some .link =>
      { staging with source :=
          { staging.source with
            files := staging.source.files.upsert name bytes } }
  | _ => { staging with files := staging.files.upsert name (.own bytes) }

/-- The staged directory as a reader sees it. -/
def Staging.directory (staging : Staging Bytes) : FlatDirectory Bytes where
  files :=
    { rows := staging.files.rows.filterMap fun row =>
        (staging.content? row.1).map fun bytes => (row.1, bytes)
      sorted := by
        refine List.Pairwise.filterMap _ ?_ staging.files.sorted
        rintro ⟨first, _⟩ ⟨second, _⟩ below left found right other
        obtain ⟨_, -, rfl⟩ := Option.map_eq_some_iff.mp found
        obtain ⟨_, -, rfl⟩ := Option.map_eq_some_iff.mp other
        exact below }
  others := []

/-- The file operations that raise. -/
structure ReleaseFaults (Bytes : Type) where
  /-- Staging a public file raises. -/
  copyFails : String -> Bool
  /-- Writing a staged file raises, and leaves these bytes in it. -/
  partialWrite : String -> Option Bytes
  /-- `_fsync_tree` raises. -/
  syncFails : Bool
  /-- Opening or syncing the parent after the rename raises. -/
  parentSyncFails : Bool

/-- A public file staged in a mode. -/
def FileMode.stage (mode : FileMode) (bytes : Bytes) : StagedFile Bytes :=
  match mode with
  | .hardlink => .link
  | .copy => .own bytes

/-- `_copy_public_file`. -/
def ReleaseCodec.copyPublicFile
    (faults : ReleaseFaults Bytes) (mode : FileMode)
    (source : FlatDirectory Bytes) (name : String) :
    Checked (StagedFile Bytes) := do
  if name ∈ scrubbedNames then
    let payload ← codec.loadJson source name
    let chatTemplate := (payload.field? "chat_template").getD null
    let _ ← require (name = "tokenizer_config.json" ->
        chatTemplate.equals null ∨ chatTemplate.EqualsStr "")
      (releaseError
        "Base-model tokenizer_config.json must not define a chat template")
    let _ ← require (¬faults.copyFails name) (.ioError "write failed")
    return .own (codec.encodeJson (scrubLocalPathMetadata payload))
  else
    let bytes ← requireObject (source.files.lookup name)
      (releaseError "Cannot hard-link or copy")
    let _ ← require (¬faults.copyFails name)
      (releaseError "Cannot hard-link or copy")
    return mode.stage bytes

/-- The loop that stages the public files. -/
def ReleaseCodec.copyPublicFiles
    (faults : ReleaseFaults Bytes) (mode : FileMode)
    (source : FlatDirectory Bytes) (names : List String) :
    Checked (Table String (StagedFile Bytes)) :=
  names.foldlM (fun files name => do
    let file ← codec.copyPublicFile faults mode source name
    return files.upsert name file) Table.empty

/-! ## Writing -/

/-- `_write_bytes` of a staged file, which may raise half way. -/
def writeStaged
    (faults : ReleaseFaults Bytes) (name : String) (bytes : Bytes) :
    Program (Staging Bytes) PyError Unit :=
  match faults.partialWrite name with
  | none => .effect fun staging => .ok (staging.put name bytes, ())
  | some written => do
      Program.effect fun staging => .ok (staging.put name written, ())
      Program.raise (.ioError "write failed")

/-- `_file_record`. -/
def ReleaseCodec.fileRecord (name : String) (bytes : Bytes) : JsonTree :=
  .object [("path", .str name), ("bytes", .int (codec.size bytes)),
    ("sha256", .str (codec.sha256 bytes))]

/-- The records of the staged files, by name. -/
def ReleaseCodec.fileRecords (staging : Staging Bytes) : List JsonTree :=
  staging.directory.files.rows.map fun file =>
    codec.fileRecord file.1 file.2

/-- The digest of the checkpoint in an export manifest. -/
def sourceCheckpoint? (manifest : JsonTree) : Option String :=
  (((manifest.field? "source").getD null).field? "sha256").bind
    JsonTree.sha256?

/-- `provenance`. -/
def VerifiedSourceExport.provenance
    (verified : VerifiedSourceExport) (checkpoint : String) : JsonTree :=
  .object [
    ("format", .str "sanitized-hf-release-provenance"),
    ("format_version", .int 1),
    ("architecture", .str "LlamaForCausalLM"),
    ("source_native_export_manifest_sha256", .str verified.manifestSha256),
    ("source_checkpoint_sha256", .str checkpoint),
    ("tokenizer", .object (verified.tokenizerSource ++
      [("vocabulary_sha256", (((verified.manifest.field? "tokenizer").getD
        null).field? "vocab_sha256").getD null)]))]

/-- `manifest` of a release. -/
def VerifiedSourceExport.releaseManifest
    (verified : VerifiedSourceExport)
    (blockers : List String) (records : List JsonTree) : JsonTree :=
  .object [
    ("format", .str "hugging-face-model-release"),
    ("format_version", .int 1),
    ("publication_state", .str (publicationState blockers)),
    ("publication_blockers", .array (blockers.map JsonTree.str)),
    ("source_native_export_manifest_sha256", .str verified.manifestSha256),
    ("files", .array records)]

/-- What the checks on the arguments leave. -/
structure ReleasePlan (Bytes : Type) where
  verified : VerifiedSourceExport
  card : String
  generation : JsonTree
  attributes : Bytes

/-- What is written over the staged public files, and the fsync of it all. -/
def ReleaseCodec.writeRelease
    (faults : ReleaseFaults Bytes) (plan : ReleasePlan Bytes) :
    Program (Staging Bytes) PyError JsonTree := do
  writeStaged faults modelCardName (codec.encodeText plan.card)
  writeStaged faults generationConfigName (codec.encodeJson plan.generation)
  writeStaged faults hubAttributesName plan.attributes
  let checkpoint ← Program.lift (requireObject
    (sourceCheckpoint? plan.verified.manifest)
    (releaseError
      "Native export does not authenticate its source checkpoint"))
  writeStaged faults releaseProvenanceName
    (codec.encodeJson (plan.verified.provenance checkpoint))
  let records ← Program.inspect fun staging =>
    .ok (codec.fileRecords staging)
  let manifest := plan.verified.releaseManifest
    (codec.publicationBlockers plan.card) records
  writeStaged faults releaseManifestName (codec.encodeJson manifest)
  let sha256 ← Program.inspect fun staging =>
    codec.sha256 <$> staging.directory.read releaseManifestName
  writeStaged faults releaseManifestSidecarName
    (codec.encodeText (sidecarText sha256 releaseManifestName))
  let _ ← Program.lift (require (¬faults.syncFails) (.ioError "fsync failed"))
  return manifest

/-! ## Preparation -/

/-- Where the output directory lies: outside the export, directly in it under a
name, or deeper below a name in it. -/
inductive OutputLocation
  | outside
  | inSource (name : String)
  | belowSource (name : String)

/-- The arguments of `prepare_release_package`: the inputs that are regular
files, with their bytes. -/
structure ReleaseRequest (Bytes : Type) where
  location : OutputLocation
  modelCard : Option Bytes
  generationConfig : Option Bytes
  hubAttributes : Option Bytes
  mode : FileMode

/-- The sealed export and the output directory. -/
structure ReleaseWorld (Bytes : Type) where
  source : FlatDirectory Bytes
  output : Option (FlatDirectory Bytes)

/-- `output.exists()`. -/
def ReleaseWorld.HasOutput
    (world : ReleaseWorld Bytes) (location : OutputLocation) : Prop :=
  world.output.isSome ∨
    match location with
    | .inSource name =>
        name ∈ world.source.files.keys ∨ name ∈ world.source.others
    | _ => False

instance (world : ReleaseWorld Bytes) (location : OutputLocation) :
    Decidable (world.HasOutput location) := by
  unfold ReleaseWorld.HasOutput
  cases location <;> infer_instance

/-- The generation config that mirrors a model config. -/
def expectedGeneration (config : JsonTree) : JsonTree :=
  .object [("bos_token_id", (config.field? "bos_token_id").getD null),
    ("eos_token_id", (config.field? "eos_token_id").getD null)]

variable [DecidableEq Bytes]

/-- The checks before anything is staged. -/
def ReleaseCodec.planRelease
    (request : ReleaseRequest Bytes) (world : ReleaseWorld Bytes) :
    Checked (ReleasePlan Bytes) := do
  let verified ← codec.verifySourceExport world.source
  let _ ← require (¬world.HasOutput request.location)
    (releaseError "Refusing to overwrite release path")
  let card ← requireObject request.modelCard
    (releaseError "model-card input is missing or not a regular file")
  let generation ← requireObject request.generationConfig
    (releaseError "generation-config input is missing or not a regular file")
  let attributes ← requireObject request.hubAttributes
    (releaseError "Hub attributes input is missing or not a regular file")
  let card ← codec.readText card
  let _ ← require (¬codec.namesPrivatePath card)
    (releaseError "Model card contains an absolute local path")
  let generation ← codec.decodeJson generation
  let _ ← require generation.IsMapping
    (releaseError "generation config must contain a JSON object")
  let _ ← require (generation.equals (expectedGeneration verified.config) ∧
      ((generation.field? "eos_token_id").getD null).equals (.int 0))
    (releaseError
      "Generation config must exactly mirror BOS/EOS from config.json")
  let _ ← require (attributes = codec.encodeText hubAttributesText)
    (releaseError
      "Hub .gitattributes input differs from the frozen release policy")
  return ⟨verified, card, generation, attributes⟩

/-- How a call ends. -/
structure ReleaseOutcome (Bytes : Type) where
  result : Checked JsonTree
  final : ReleaseWorld Bytes

/-- The export with a directory in it. -/
def FlatDirectory.withDirectory
    (root : FlatDirectory Bytes) (name : String) : FlatDirectory Bytes :=
  { root with others := name :: root.others }

/-- `output.parent.mkdir(parents=True)`: what it leaves in the export. -/
def makeParents
    (location : OutputLocation) (source : FlatDirectory Bytes) :
    Checked (FlatDirectory Bytes) :=
  match location with
  | .belowSource name =>
      if name ∈ source.files.keys then
        .error (.fileExistsError "File exists")
      else .ok (source.withDirectory name)
  | _ => .ok source

/-- The export after the output has been renamed into place. -/
def placeOutput
    (location : OutputLocation) (source : FlatDirectory Bytes) :
    FlatDirectory Bytes :=
  match location with
  | .inSource name => source.withDirectory name
  | _ => source

/-- The part of `prepare_release_package` after the public files have been
staged.  The staged directory is removed when anything raises before the
rename. -/
def ReleaseCodec.publishStaged
    (faults : ReleaseFaults Bytes) (location : OutputLocation)
    (plan : ReleasePlan Bytes) (output : Option (FlatDirectory Bytes))
    (staging : Staging Bytes) : ReleaseOutcome Bytes :=
  let written := (codec.writeRelease faults plan).run staging
  match written.result with
  | .error error => ⟨.error error, ⟨written.final.source, output⟩⟩
  | .ok manifest =>
      let directory := written.final.directory
      let result : Checked JsonTree := do
        let _ ← require (¬faults.parentSyncFails) (.ioError "fsync failed")
        let _ ← codec.validateReleasePackage directory false []
        return manifest
      ⟨result, ⟨placeOutput location written.final.source, some directory⟩⟩

/-- `prepare_release_package`. -/
def ReleaseCodec.prepareReleasePackage
    (faults : ReleaseFaults Bytes) (request : ReleaseRequest Bytes)
    (world : ReleaseWorld Bytes) : ReleaseOutcome Bytes :=
  match codec.planRelease request world with
  | .error error => ⟨.error error, world⟩
  | .ok plan =>
      match makeParents request.location world.source with
      | .error error => ⟨.error error, world⟩
      | .ok source =>
          match codec.copyPublicFiles faults request.mode source
              plan.verified.publicFiles with
          | .error error => ⟨.error error, ⟨source, world.output⟩⟩
          | .ok files =>
              codec.publishStaged faults request.location plan world.output
                ⟨source, files⟩

end Reading
end CodingLlm
