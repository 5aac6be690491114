import CodingLlm.Pretrain.JsonAccess

/-!
# Geometry waivers

`collect_geometry_waiver` builds a receipt from the evidence of a grid, an
overfit run and its restart, and `validate_geometry_waiver_receipt` rebuilds
every part of it from the paths inside.
-/

namespace CodingLlm

open JsonTree

/-! ## What the two read -/

/-- The arguments of `_validate_wandb_phase`. -/
structure WandbPhase where
  metadata : JsonTree
  summary : JsonTree
  eventLog : JsonTree
  expectedStep : Nat
  orderManifest : String
  checkpoint : String
  referenceCheckpoint : Option String

/-- The files, the interpreter and the checks that the two delegate to. -/
structure WaiverWorld where
  /-- `qualification.artifact`. -/
  artifact : String -> Checked JsonTree
  /-- `qualification.read_bound_json`. -/
  readBoundJson : JsonTree -> Checked JsonTree
  /-- `qualification.canonical_sha256`. -/
  canonicalSha256 : JsonTree -> String
  /-- `qualification._load_validated_grid_result`. -/
  loadValidatedGridResult :
    String -> Checked (JsonTree × JsonTree × JsonTree)
  /-- `qualification._validate_hardware_contract`. -/
  validateHardwareContract :
    String -> Checked (JsonTree × JsonTree × JsonTree)
  /-- `_validate_orders`. -/
  validateOrders : (trainPath validationPath : String) ->
    (gridPlan accepted : JsonTree) -> Checked (JsonTree × JsonTree)
  /-- `_inspect_order`. -/
  inspectOrder : (path split : String) -> Checked JsonTree
  /-- `_validate_overfit_result`. -/
  validateOverfitResult : JsonTree -> Checked JsonTree
  /-- `_validate_wandb_phase`. -/
  validateWandbPhase : WandbPhase -> Checked JsonTree
  /-- `_validate_prior_evidence`. -/
  validatePriorEvidence : JsonTree -> Checked JsonTree
  /-- The timestamp is a time with a zone, and not in the future. -/
  checkDecisionTime : String -> Checked Unit
  /-- `__file__` of a module. -/
  moduleFile : String -> Option String
  /-- The path of a source that must not change after the grid. -/
  stableSourcePath : String -> String
  pythonExecutable : String
  pythonVersion : String
  pythonImplementation : String
  /-- `str` of what is not a string. -/
  repr : JsonTree -> String

/-- `_fail`, and the other `GeometryWaiverError`s. -/
def geometryWaiverError (text : String) : PyError := .valueError text

/-- `except (...)` around a computation, which raises a `GeometryWaiverError`
instead. -/
def asGeometryWaiverError
    (caught : List ErrorClass) (text : String) (computation : Checked α) :
    Checked α :=
  match computation with
  | .ok value => .ok value
  | .error error =>
      if error.errorClass ∈ caught then .error (geometryWaiverError text)
      else .error error

/-- The classes of `OSError` and `ValueError`. -/
def osAndValueErrors : List ErrorClass :=
  [.ioError, .fileExistsError, .fileNotFoundError, .valueError]

/-- `[0-9a-f]`. -/
def isLowerHex (character : Char) : Bool :=
  let code := character.toNat
  (48 ≤ code && code ≤ 57) || (97 ≤ code && code ≤ 102)

/-- `_SHA256.fullmatch`. -/
def IsSha256 (text : String) : Prop :=
  text.length = 64 ∧ ∀ character ∈ text.toList, isLowerHex character

instance (text : String) : Decidable (IsSha256 text) :=
  @instDecidableAnd _ _ _ (List.decidableBAll _ text.toList)

/-- `isinstance(value, str)` and `_SHA256.fullmatch(value)`. -/
def JsonTree.sha256? (tree : JsonTree) : Option String :=
  tree.str?.filter fun text => decide (IsSha256 text)

/-- `str.isspace` of one character. -/
def pythonSpace (character : Char) : Bool :=
  let code := character.toNat
  (9 ≤ code && code ≤ 13) || (28 ≤ code && code ≤ 32) || code = 133 ||
    code = 160 || code = 5760 || (8192 ≤ code && code ≤ 8202) ||
    code = 8232 || code = 8233 || code = 8239 || code = 8287 || code = 12288

/-- `text.strip()`. -/
def pythonStrip (text : String) : String :=
  String.ofList (((text.toList.dropWhile pythonSpace).reverse.dropWhile
    pythonSpace).reverse)

/-! ## Descriptors -/

/-- `_descriptor_content`. -/
def descriptorContent (descriptor : JsonTree) : Checked (Int × String) := do
  let (count, digest) ← asGeometryWaiverError [.keyError]
    "descriptor is incomplete" (do
      let count ← descriptor.subscript "bytes"
      let digest ← descriptor.subscript "sha256"
      return (count, digest))
  let count ← requireObject (count.int?.filter fun count => decide (1 ≤ count))
    (geometryWaiverError "bytes must be an integer >= 1")
  let digest ← requireObject digest.sha256?
    (geometryWaiverError "sha256 is invalid")
  return (count, digest)

/-- `_same_content`. -/
def sameContent (left right : JsonTree) : Checked Unit := do
  let leftContent ← descriptorContent left
  let rightContent ← descriptorContent right
  let _ ← require (leftContent = rightContent)
    (geometryWaiverError "content differs")
  return ()

namespace WaiverWorld

variable (world : WaiverWorld)

/-- `str(value)`. -/
def str (tree : JsonTree) : String :=
  match tree.str? with
  | some text => text
  | none => world.repr tree

/-! ## Sources -/

/-- The module that `_current_sources` finds for a key. -/
def producerModules : List (String × String) :=
  [("waiver_module", "pretrain.geometry_waiver"),
    ("geometry_evidence", "pretrain.geometry_evidence"),
    ("run_authority", "pretrain.run_authority")]

/-- `_PRODUCER_SOURCE_KEYS`, sorted. -/
def producerSourceKeys : List String :=
  ["geometry_evidence", "run_authority", "waiver_cli", "waiver_module"]

/-- `_current_sources`. -/
def currentSources (waiverCli : String) : Checked JsonTree := do
  let cli ← world.artifact waiverCli
  let records ← producerModules.mapM fun (key, module) => do
    let source ← requireObject (world.moduleFile module)
      (geometryWaiverError "Cannot locate source")
    let record ← world.artifact source
    return (key, record)
  return .object (("waiver_cli", cli) :: records)

/-- `_validate_current_sources`. -/
def validateCurrentSources (sources : JsonTree) : Checked Unit := do
  let _ ← require (sources.HasExactly producerSourceKeys)
    (geometryWaiverError "Waiver producer source inventory is incomplete")
  let path ← sources.subscripts ["waiver_cli", "path"]
  let expected ← world.currentSources (world.str path)
  producerSourceKeys.forM fun key => do
    let found ← sources.get key
    let current ← expected.subscript key
    let _ ← require (found.equals current)
      (geometryWaiverError "Current source differs from the waiver receipt")
    return ()

/-! ## Compatibility of the runtime -/

/-- `_STABLE_GRID_SOURCE_KEYS`, in the order of `current_paths`. -/
def stableGridSourceKeys : List String :=
  ["qualification_module", "qualification_cli", "trainer", "model", "data",
    "tokenizer_identity", "production_launcher"]

/-- One turn of the loop over `current_paths`. -/
def compatibleSource (sources : JsonTree) (key : String) :
    Checked (String × JsonTree) := do
  let frozen ← sources.get key
  let _ ← require frozen.IsMapping
    (geometryWaiverError "Grid plan source is invalid")
  let current ← world.artifact (world.stableSourcePath key)
  sameContent frozen current
  return (key, .object [("grid", frozen), ("current", current),
    ("content_identical", .bool true)])

/-- `_validate_grid_runtime_compatibility`. -/
def validateGridRuntimeCompatibility (gridPlan : JsonTree) :
    Checked JsonTree := do
  let runtime ← gridPlan.get "runtime"
  let _ ← require runtime.IsMapping
    (geometryWaiverError "Grid plan lacks runtime identity")
  let sources ← runtime.get "sources"
  let python ← runtime.get "python"
  let _ ← require (sources.IsMapping ∧ python.IsMapping)
    (geometryWaiverError "Grid runtime identity is incomplete")
  let _ ← require (stableGridSourceKeys ⊆ sources.names)
    (geometryWaiverError "Grid plan lacks stable source identities")
  let compatible ← stableGridSourceKeys.mapM (world.compatibleSource sources)
  let resolved ← python.get "resolved"
  let _ ← require resolved.IsMapping
    (geometryWaiverError "Grid Python identity lacks resolved executable")
  let currentPython ← world.artifact world.pythonExecutable
  sameContent resolved currentPython
  let version ← python.get "version"
  let _ ← require (version.EqualsStr world.pythonVersion)
    (geometryWaiverError "Current Python version differs from the grid")
  let implementation ← python.get "implementation"
  let _ ← require (implementation.EqualsStr world.pythonImplementation)
    (geometryWaiverError
      "Current Python implementation differs from the grid")
  return .object [
    ("stable_sources", .object compatible),
    ("python", .object [("grid", python), ("current", currentPython),
      ("content_identical", .bool true)]),
    ("allowed_newer_sources",
      .array [.str "geometry_evidence", .str "run_authority"])]

/-! ## Compatibility of the hardware -/

/-- `allowed_git_differences`. -/
def allowedGitDifferences : List String :=
  ["git_commit", "git_tree", "git_head_archive_sha256"]

/-- What `value.pop(key, None)` leaves. -/
def dropField (tree : JsonTree) (key : String) : Checked JsonTree :=
  Prod.snd <$> tree.pop key

/-- The loop over `allowed_git_differences` on one source record. -/
def dropGitIds (source : JsonTree) : Checked JsonTree :=
  allowedGitDifferences.foldlM dropField source

/-- A package lock without the path of its lock and the executable of its
Python. -/
def dropLockPaths (packageLock : JsonTree) : Checked JsonTree := do
  let lock ← packageLock.subscript "lock"
  let lock ← dropField lock "path"
  let python ← packageLock.subscript "python"
  let python ← dropField python "executable"
  return (packageLock.setField "lock" lock).setField "python" python

/-- An identity with a field of its `identity` replaced. -/
def setIdentityField (tree : JsonTree) (key : String) (item : JsonTree) :
    Checked JsonTree := do
  let identity ← tree.subscript "identity"
  return tree.setField "identity" (identity.setField key item)

/-- `_hardware_compatibility`. -/
def hardwareCompatibility (finalIdentity gridIdentity : JsonTree) :
    Checked JsonTree := do
  let final ← finalIdentity.toDict
  let frozen ← gridIdentity.toDict
  let (finalScope, final) ← final.pop "scope"
  let (frozenScope, frozen) ← frozen.pop "scope"
  let _ ← require (finalScope.EqualsStr "final-launch-authorizing" ∧
      frozenScope.EqualsStr "geometry-only-provisional")
    (geometryWaiverError
      "Hardware receipt scopes are not strict-final versus geometry-only-grid")
  let (finalDigest, final) ← final.pop "identity_sha256"
  let (frozenDigest, frozen) ← frozen.pop "identity_sha256"
  let finalDigest ← requireObject finalDigest.sha256?
    (geometryWaiverError "Hardware geometry identity digest is invalid")
  let frozenDigest ← requireObject frozenDigest.sha256?
    (geometryWaiverError "Hardware geometry identity digest is invalid")
  let (finalSource, frozenSource) ← asGeometryWaiverError
    [.keyError, .typeError]
    "Hardware geometry identities lack source records" (do
      let finalSource ← final.subscripts ["identity", "source"]
      let frozenSource ← frozen.subscripts ["identity", "source"]
      return (finalSource, frozenSource))
  let finalSource ← dropGitIds finalSource
  let frozenSource ← dropGitIds frozenSource
  let final ← setIdentityField final "source" finalSource
  let frozen ← setIdentityField frozen "source" frozenSource
  let finalClean ← finalSource.get "git_clean"
  let frozenClean ← frozenSource.get "git_clean"
  let _ ← require (finalClean.isTrue ∧ frozenClean.isTrue)
    (geometryWaiverError ("Both grid and final hardware identities must come " ++
      "from clean Git trees"))
  let (final, frozen) ← asGeometryWaiverError [.keyError, .typeError]
    "Hardware geometry identities lack package/runtime content identity" (do
      let finalLock ← final.subscripts ["identity", "package_lock"]
      let frozenLock ← frozen.subscripts ["identity", "package_lock"]
      let finalLock ← dropLockPaths finalLock
      let frozenLock ← dropLockPaths frozenLock
      let final ← setIdentityField final "package_lock" finalLock
      let frozen ← setIdentityField frozen "package_lock" frozenLock
      return (final, frozen))
  let _ ← require (final.equals frozen)
    (geometryWaiverError ("Strict final hardware differs from grid hardware " ++
      "beyond permitted Git object IDs"))
  return .object [
    ("status", .str "compatible"),
    ("comparison", .str "exact-except-git-commit-tree-and-head-archive"),
    ("stable_identity_sha256", .str (world.canonicalSha256 final)),
    ("allowed_differences", .array (
      (allowedGitDifferences.map fun field => .str ("source." ++ field)) ++
        [.str "package_lock.lock.path",
          .str "package_lock.python.executable"])),
    ("grid_identity_sha256", .str frozenDigest),
    ("final_identity_sha256", .str finalDigest)]

end WaiverWorld
end CodingLlm
