import CodingLlm.Pretrain.CheckpointDisk
import Mathlib.Algebra.Ring.Nat
import Mathlib.Data.Finset.Card

/-!
# Admission of a checkpoint lineage

`inspect_storage_and_checkpoint` of the launcher: the mounts of the packed data
and of the checkpoints, the generations that exist, and the space that a run
has to find free.  What the launcher asks the operating system is a
`StorageSite`.
-/

namespace CodingLlm

/-- The files of `last` and `previous`. -/
def CheckpointDisk.lineageInodes
    {Stamp : Type}
    (disk : CheckpointDisk Stamp) : Finset Nat :=
  ([CheckpointName.last, .previous].filterMap disk.entry).toFinset

/-- The numbers of files, and those in the names of temporary files, were
given out before. -/
structure CheckpointDisk.Numbered
    {Stamp : Type}
    (disk : CheckpointDisk Stamp) : Prop where
  named : ∀ name inode, disk.entry name = some inode -> inode < disk.nextInode
  numbered : ∀ id inode, disk.entry (.part id) = some inode ∨
    disk.entry (.link id) = some inode -> id < disk.nextInode

namespace CheckpointAdmission

/-! ## Paths and mounts -/

/-- The components of an absolute path. -/
abbrev PathParts : Type := List String

/-- `str` of a path. -/
def pathText (path : PathParts) : String := "/" ++ "/".intercalate path

/-- The characters of a file name before its last dot, and after it. -/
def splitName (name : String) : List Char × List Char :=
  let reversed := name.toList.reverse
  (((reversed.dropWhile (· ≠ '.')).drop 1).reverse,
    (reversed.takeWhile (· ≠ '.')).reverse)

/-- `PurePath.suffix` of a file name. -/
def nameSuffix (name : String) : String :=
  let (before, after) := splitName name
  if before = [] ∨ after = [] then "" else String.ofList ('.' :: after)

/-- `PurePath.stem` of a file name. -/
def nameStem (name : String) : String :=
  let (before, after) := splitName name
  if before = [] ∨ after = [] then name else String.ofList before

/-- `_previous_checkpoint`, of a file name. -/
def previousCheckpoint (name : String) : String :=
  s!"{nameStem name}.previous{nameSuffix name}"

example : previousCheckpoint "run.pt" = "run.previous.pt" := by decide

/-- Classes of filesystems. -/
inductive MountClassification
  | network
  | ephemeral
  | unknown
  | localOrBlock
  deriving DecidableEq, Repr

def MountClassification.text : MountClassification -> String
  | .network => "network"
  | .ephemeral => "ephemeral"
  | .unknown => "unknown"
  | .localOrBlock => "local-or-block"

/-- What is known of the mount below a directory. -/
structure MountEvidence where
  path : PathParts
  device : Nat
  mountPoint : Option String
  filesystemType : String
  mountSource : Option String
  readOnly : Bool
  mountReadOnly : Bool
  classification : MountClassification
  deriving DecidableEq, Repr

/-! ## What the launcher asks for -/

/-- What a path leads to once its links are resolved. -/
inductive Resolution
  | missing
  | file (path : PathParts)
  | directory (path : PathParts)
  deriving DecidableEq, Repr

/-- Kinds of directory entries. -/
inductive EntryKind
  | regular
  | symbolicLink
  | other
  deriving DecidableEq, Repr

/-- `os.stat` of an inode, and the kind of its entries. -/
structure InodeStat where
  kind : EntryKind
  device : Nat
  size : Nat
  deriving DecidableEq, Repr

/-- The lock file of the checkpoint path. -/
inductive LeaseFile
  | missing
  | unsafePath
  | held
  | available
  deriving DecidableEq, Repr

/-- `_probe_checkpoint_filesystem`: what the filesystem can do. -/
structure FilesystemCapabilities where
  fileFsync : Bool
  nonblockingFlockContention : Bool
  hardLink : Bool
  atomicReplace : Bool
  directoryFsync : Bool
  deriving DecidableEq, Repr

/-- The filesystems of a launch, with the directory of its checkpoint path. -/
structure StorageSite (Stamp : Type) where
  resolve : PathParts -> Resolution
  inspectMount : PathParts -> MountEvidence
  directoryDevice : PathParts -> Nat
  probe : PathParts -> Checked FilesystemCapabilities
  lease : LeaseFile
  disk : CheckpointDisk Stamp
  stat : Nat -> InodeStat
  freeBytes : PathParts -> Nat
  numbered : disk.Numbered

/-- `--resume-generation`. -/
inductive ResumeGeneration
  | none
  | latest
  | previous
  deriving DecidableEq, Repr

/-- The start of the trainer that the launcher asks for. -/
def ResumeGeneration.start : ResumeGeneration -> CheckpointStart
  | .none => .new
  | .latest => .resumeLast
  | .previous => .recoverPrevious

/-- `CheckpointInspection`. -/
structure CheckpointInspection where
  checkpoint : PathParts
  previous : PathParts
  resumeGeneration : ResumeGeneration
  resumePath : Option PathParts
  latestBytes : Option Nat
  previousBytes : Option Nat
  checkpointGenerationBytes : Nat
  existingDistinctGenerations : Nat
  additionalGenerationSlotsRequired : Nat
  peakGenerationCount : Nat
  headroomBytes : Nat
  freeBytes : Nat
  requiredFreeBytes : Nat
  filesystemCapabilities : FilesystemCapabilities
  guidance : String
  deriving DecidableEq, Repr

/-- `_CHECKPOINT_ROTATION_PEAK_GENERATIONS`. -/
def checkpointRotationPeakGenerations : Nat := 3

/-- `_CHECKPOINT_HEADROOM_MINIMUM_BYTES`. -/
def checkpointHeadroomMinimumBytes : Nat := 1 * 1024 ^ 3

/-- `_CHECKPOINT_HEADROOM_NUMERATOR`. -/
def checkpointHeadroomNumerator : Nat := 1

/-- `_CHECKPOINT_HEADROOM_DENOMINATOR`. -/
def checkpointHeadroomDenominator : Nat := 10

/-! ## The inspection -/

/-- `PreflightError`. -/
def preflightError (text : String) : PyError := .runtimeError text

variable {Stamp : Type}

namespace StorageSite

/-- `_resolve_existing_directory`. -/
def resolveExistingDirectory
    (site : StorageSite Stamp)
    (path : PathParts)
    (label : String) : Checked PathParts :=
  match site.resolve path with
  | .missing =>
      .error (preflightError s!"{label} does not exist: {pathText path}")
  | .file resolved =>
      .error (preflightError s!"{label} is not a directory: {pathText resolved}")
  | .directory resolved => .ok resolved

/-- `_assert_checkpoint_lease_available`. -/
def assertCheckpointLeaseAvailable
    (site : StorageSite Stamp)
    (lease : PathParts) : Checked Unit :=
  match site.lease with
  | .missing | .available => .ok ()
  | .unsafePath =>
      .error (preflightError s!"Unsafe checkpoint lease path: {pathText lease}")
  | .held =>
      .error (preflightError
        s!"Another trainer holds checkpoint lease {pathText lease}")

/-- `_existing_checkpoint_size`. -/
def existingCheckpointSize
    (site : StorageSite Stamp)
    (name : CheckpointName)
    (path : PathParts)
    (label : String)
    (device : Nat) : Checked (Option Nat) :=
  match site.disk.entry name with
  | none => .ok none
  | some inode => do
      let stat := site.stat inode
      let _ ← require (stat.kind ≠ .symbolicLink)
        (preflightError s!"{label} must not be a symlink: {pathText path}")
      let _ ← require (stat.kind = .regular)
        (preflightError
          s!"{label} must be a regular non-symlink file: {pathText path}")
      let _ ← require (stat.device = device)
        (preflightError
          s!"{label} is not on the durable checkpoint device: {pathText path}")
      let _ ← require (1 ≤ stat.size)
        (preflightError s!"{label} is empty: {pathText path}")
      return some stat.size

/-- `existing_identities`. -/
def existingIdentities (site : StorageSite Stamp) : Finset (Nat × Nat) :=
  site.disk.lineageInodes.image fun inode => ((site.stat inode).device, inode)

end StorageSite

/-- The checks of the two roots. -/
def checkRoots
    (localRoot durableRoot : PathParts)
    (localMount durableMount : MountEvidence) : Checked Unit := do
  let _ ← require (localMount.classification = .localOrBlock)
    (preflightError <|
      "Local packed data root must be on a recognized local/block filesystem: "
        ++ s!"{pathText localRoot} ({localMount.filesystemType}, "
        ++ s!"classification={localMount.classification.text})")
  let _ ← require (localMount.mountReadOnly = true)
    (preflightError <|
      "Local packed data root must be on an explicitly read-only mount; "
        ++ "use a read-only bind mount or immutable read-only snapshot so "
        ++ "payloads cannot change between certification, preflight, and "
        ++ s!"DataLoader mmap: {pathText localRoot}")
  let _ ← require (durableMount.readOnly = false)
    (preflightError
      s!"Durable checkpoint root is read-only: {pathText durableRoot}")
  let _ ← require (durableMount.classification ≠ .ephemeral)
    (preflightError <|
      "Durable checkpoint root is on an ephemeral filesystem: "
        ++ s!"{pathText durableRoot} ({durableMount.filesystemType})")
  let _ ← require (localMount.device ≠ durableMount.device)
    (preflightError <|
      "Local packed data and durable checkpoints are on the same filesystem "
        ++ s!"device ({localMount.device}); use separate local-NVMe and "
        ++ "durable roots")
  return ()

/-- The generation to resume, and the guidance for the operator. -/
def chooseResume
    (checkpoint previous : PathParts)
    (latestBytes previousBytes : Option Nat) :
    ResumeGeneration -> Checked (Option PathParts × String)
  | .none => do
      let _ ← require (latestBytes = none ∧ previousBytes = none)
        (preflightError <|
          "Checkpoint lineage already exists; use --resume-generation latest, "
            ++ "use --resume-generation previous after a failed latest load, "
            ++ "or choose a new checkpoint path")
      return (none, "new lineage; neither latest nor previous exists")
  | .latest => do
      let suffix :=
        if previousBytes = none then ""
        else "; previous exists, so select --resume-generation previous "
          ++ "explicitly"
      let _ ← require (latestBytes ≠ none)
        (preflightError
          s!"Latest checkpoint does not exist: {pathText checkpoint}{suffix}")
      return (some checkpoint,
        "resume latest first; if trainer checkpoint loading fails, rerun this "
          ++ "preflight with --resume-generation previous")
  | .previous => do
      let _ ← require (previousBytes ≠ none)
        (preflightError
          s!"Previous checkpoint does not exist: {pathText previous}")
      return (some previous,
        "explicit rollback: load previous and publish the next successful save "
          ++ "as canonical latest")

/-- `additional_generation_slots`. -/
def additionalGenerationSlots (existingDistinctGenerations : Nat) : Nat :=
  max 1 (checkpointRotationPeakGenerations - existingDistinctGenerations)

/-- `headroom_bytes`. -/
def headroomBytes (checkpointGenerationBytes : Nat) : Nat :=
  max checkpointHeadroomMinimumBytes
    ((checkpointGenerationBytes * checkpointHeadroomNumerator
      + checkpointHeadroomDenominator - 1) / checkpointHeadroomDenominator)

/-- `inspect_storage_and_checkpoint`; the checkpoint path is a directory and a
file name. -/
def inspectStorageAndCheckpoint
    (site : StorageSite Stamp)
    (localDataRoot durableCheckpointRoot checkpointDirectory : PathParts)
    (checkpointName : String)
    (resumeGeneration : ResumeGeneration)
    (checkpointGenerationBytes : Nat) :
    Checked (MountEvidence × MountEvidence × CheckpointInspection) := do
  let localRoot ← site.resolveExistingDirectory localDataRoot
    "local data root"
  let durableRoot ← site.resolveExistingDirectory durableCheckpointRoot
    "durable checkpoint root"
  let localMount := site.inspectMount localRoot
  let durableMount := site.inspectMount durableRoot
  checkRoots localRoot durableRoot localMount durableMount
  let _ ← require (1 ≤ checkpointGenerationBytes)
    (preflightError "checkpoint_generation_bytes must be a positive integer")
  let _ ← require (nameSuffix checkpointName = ".pt")
    (preflightError "Checkpoint path must end in .pt")
  let parent ← site.resolveExistingDirectory checkpointDirectory
    "checkpoint directory"
  let checkpoint := parent ++ [checkpointName]
  let _ ← require (durableRoot <+: parent)
    (preflightError <|
      s!"Checkpoint path is outside durable root {pathText durableRoot}: "
        ++ pathText checkpoint)
  let _ ← require (site.directoryDevice parent = durableMount.device)
    (preflightError <|
      s!"Checkpoint directory is on device {site.directoryDevice parent}, not "
        ++ s!"durable-root device {durableMount.device}")
  let filesystemCapabilities ← site.probe parent
  site.assertCheckpointLeaseAvailable (parent ++ [s!".{checkpointName}.lock"])
  let previous := parent ++ [previousCheckpoint checkpointName]
  let latestBytes ← site.existingCheckpointSize .last checkpoint
    "latest checkpoint" durableMount.device
  let previousBytes ← site.existingCheckpointSize .previous previous
    "previous checkpoint" durableMount.device
  let (resumePath, guidance) ← chooseResume checkpoint previous latestBytes
    previousBytes resumeGeneration
  let existingSizes := [latestBytes, previousBytes].filterMap id
  let largest := existingSizes.foldl max 0
  let _ ← require (largest ≤ checkpointGenerationBytes)
    (preflightError <|
      s!"Checkpoint generation estimate {checkpointGenerationBytes} bytes is "
        ++ s!"lower than existing generation size {largest} bytes")
  let existingDistinctGenerations := site.existingIdentities.card
  let slots := additionalGenerationSlots existingDistinctGenerations
  let headroom := headroomBytes checkpointGenerationBytes
  let requiredFree := slots * checkpointGenerationBytes + headroom
  let freeBytes := site.freeBytes parent
  let _ ← require (requiredFree ≤ freeBytes)
    (preflightError <|
      s!"Insufficient durable checkpoint free space: found {freeBytes} bytes, "
        ++ s!"require at least {requiredFree} bytes for {slots} additional "
        ++ "checkpoint generation slot(s) needed to reach the "
        ++ s!"{checkpointRotationPeakGenerations}-generation rotation peak "
        ++ s!"plus {headroom} bytes explicit headroom")
  return (localMount, durableMount,
    { checkpoint := checkpoint
      previous := previous
      resumeGeneration := resumeGeneration
      resumePath := resumePath
      latestBytes := latestBytes
      previousBytes := previousBytes
      checkpointGenerationBytes := checkpointGenerationBytes
      existingDistinctGenerations := existingDistinctGenerations
      additionalGenerationSlotsRequired := slots
      peakGenerationCount := checkpointRotationPeakGenerations
      headroomBytes := headroom
      freeBytes := freeBytes
      requiredFreeBytes := requiredFree
      filesystemCapabilities := filesystemCapabilities
      guidance := guidance })

end CheckpointAdmission
end CodingLlm
