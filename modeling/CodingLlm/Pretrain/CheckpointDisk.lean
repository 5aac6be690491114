import CodingLlm.Library.Transactions
import CodingLlm.Pretrain.Values

/-!
# Checkpoint generations on disk

`_atomic_torch_save`, `reconcile_checkpoint_temporaries` and the start of a
trainer run, on the directory of one checkpoint path.  A file is an inode with
any number of names; changes of the directory and of files are durable once
they are synced.
-/

namespace CodingLlm

open CrashLogic

/-! ## Files -/

/-- The names that a trainer uses in the directory of its checkpoint. -/
inductive CheckpointName
  | last
  | previous
  | lock
  | part (id : Nat)
  | link (id : Nat)
  deriving DecidableEq, Repr

namespace CheckpointName

/-- Names of unpublished files. -/
def isTemporary : CheckpointName -> Bool
  | .part _ => true
  | .link _ => true
  | _ => false

end CheckpointName

/-- What a file holds: an unfinished write, a generation with all generations
that led to it, or bytes that were damaged. -/
inductive CheckpointContent (Stamp : Type)
  | torn
  | complete (lineage : List Stamp)
  | corrupted
  deriving DecidableEq, Repr

/-- The directory in memory and on the disk, and the files. -/
structure CheckpointDisk (Stamp : Type) where
  entry : CheckpointName -> Option Nat
  synced : CheckpointName -> Option Nat
  content : Nat -> CheckpointContent Stamp
  flushed : Nat -> Bool
  nextInode : Nat

variable {Stamp : Type}

namespace CheckpointDisk

/-- A directory without files. -/
def empty : CheckpointDisk Stamp :=
  ⟨fun _ => none, fun _ => none, fun _ => .torn, fun _ => false, 0⟩

/-- A name is in the directory. -/
def IsFile (disk : CheckpointDisk Stamp) (name : CheckpointName) : Prop :=
  (disk.entry name).isSome = true

instance (disk : CheckpointDisk Stamp) (name : CheckpointName) :
    Decidable (disk.IsFile name) :=
  inferInstanceAs (Decidable (_ = true))

/-- A name is a readable generation. -/
def Holds (disk : CheckpointDisk Stamp) (name : CheckpointName)
    (lineage : List Stamp) : Prop :=
  ∃ inode, disk.entry name = some inode ∧
    disk.content inode = .complete lineage

/-- The entry of a name is changed. -/
def setEntry (disk : CheckpointDisk Stamp) (name : CheckpointName)
    (inode : Option Nat) : CheckpointDisk Stamp :=
  { disk with entry := Function.update disk.entry name inode }

section SetEntry

variable (disk : CheckpointDisk Stamp)
variable (name : CheckpointName) (inode : Option Nat)

@[simp] theorem setEntry_self :
    (disk.setEntry name inode).entry name = inode := by
  unfold setEntry
  exact Function.update_self _ _ _

theorem setEntry_of_ne
    {other : CheckpointName}
    (differ : other ≠ name) :
    (disk.setEntry name inode).entry other = disk.entry other := by
  unfold setEntry
  exact Function.update_of_ne differ _ _

end SetEntry

/-- The file named `last` is damaged. -/
def corruptLast (disk : CheckpointDisk Stamp) : CheckpointDisk Stamp :=
  match disk.entry .last with
  | none => disk
  | some inode =>
      { disk with content := Function.update disk.content inode .corrupted }

/-- A loss of power keeps some of the changes of the directory that were not
synced, and may tear files that were not flushed. -/
structure PowerLoss (before after : CheckpointDisk Stamp) : Prop where
  entry : ∀ name, after.entry name = before.entry name ∨
    after.entry name = before.synced name
  synced : after.synced = after.entry
  flushed : ∀ inode, before.flushed inode = true ->
    after.flushed inode = true ∧
      after.content inode = before.content inode
  unflushed : ∀ inode, after.content inode = before.content inode ∨
    after.content inode = .torn
  nextInode : after.nextInode = before.nextInode

/-- What a kill leaves: of the process, or of the machine. -/
def Lost (before after : CheckpointDisk Stamp) : Prop :=
  after = before ∨ PowerLoss before after

end CheckpointDisk

/-! ## Effects -/

/-- Programs over the directory. -/
abbrev CheckpointProgram (Stamp α : Type) : Type :=
  Program (CheckpointDisk Stamp) PyError α

namespace CheckpointProgram

/-- `tempfile.mkstemp`, with a name that is not in use. -/
def mkstemp : CheckpointProgram Stamp Nat :=
  Program.effect fun disk =>
    let inode := disk.nextInode
    .ok ({ disk with
      entry := Function.update disk.entry (.part inode) (some inode)
      content := Function.update disk.content inode .torn
      flushed := Function.update disk.flushed inode false
      nextInode := inode + 1 }, inode)

/-- `torch.save`. -/
def writePayload (inode : Nat) (lineage : List Stamp) :
    CheckpointProgram Stamp Unit :=
  Program.commit fun disk =>
    { disk with
      content := Function.update disk.content inode (.complete lineage) }

/-- `os.fsync` of a file. -/
def fsyncFile (inode : Nat) : CheckpointProgram Stamp Unit :=
  Program.commit fun disk =>
    { disk with flushed := Function.update disk.flushed inode true }

/-- `os.link`. -/
def link (source target : CheckpointName) : CheckpointProgram Stamp Unit :=
  Program.effect fun disk =>
    match disk.entry source with
    | none => .error (.fileNotFoundError "No such file")
    | some inode =>
        if disk.IsFile target then
          .error (.fileExistsError "File exists")
        else .ok (disk.setEntry target (some inode), ())

/-- `os.replace`. -/
def replace (source target : CheckpointName) :
    CheckpointProgram Stamp Unit :=
  Program.effect fun disk =>
    match disk.entry source with
    | none => .error (.fileNotFoundError "No such file")
    | some inode =>
        .ok ((disk.setEntry target (some inode)).setEntry source none, ())

/-- `os.unlink`. -/
def unlink (name : CheckpointName) : CheckpointProgram Stamp Unit :=
  Program.effect fun disk =>
    if disk.IsFile name then .ok (disk.setEntry name none, ())
    else .error (.fileNotFoundError "No such file")

/-- `os.fsync` of the directory. -/
def fsyncDirectory : CheckpointProgram Stamp Unit :=
  Program.commit fun disk => { disk with synced := disk.entry }

/-- `unlink` in the handler, where a missing file is no error. -/
def discard (name : CheckpointName) : CheckpointProgram Stamp Unit := do
  let isFile ← Program.query fun disk => decide (disk.IsFile name)
  if isFile = true then unlink name else return ()

end CheckpointProgram

open CheckpointProgram

/-! ## Saving -/

/-- The body of `_atomic_torch_save` after `mkstemp`. -/
def publishCheckpoint (temporary : Nat) (lineage : List Stamp)
    (preservePrevious : Bool) : CheckpointProgram Stamp Unit := do
  writePayload temporary lineage
  fsyncFile temporary
  let rotates ← Program.query fun disk =>
    decide (disk.IsFile .last) && !preservePrevious
  if rotates = true then
    link .last (.link temporary)
  replace (.part temporary) .last
  fsyncDirectory
  if rotates = true then
    replace (.link temporary) .previous
  fsyncDirectory

/-- `_atomic_torch_save`; the hard link has the number of the temporary
file. -/
def atomicTorchSave (lineage : List Stamp) (preservePrevious : Bool) :
    CheckpointProgram Stamp Unit := do
  let temporary ← mkstemp
  tryCatch (publishCheckpoint temporary lineage preservePrevious)
    fun error => do
      discard (.part temporary)
      discard (.link temporary)
      throw error

/-- What a trainer knows about its checkpoints: the generations that led to
its state, `_preserve_previous_on_next_save` and `_last_checkpoint`. -/
structure CheckpointProcess (Stamp : Type) where
  lineage : List Stamp
  preservePrevious : Bool
  lastCheckpoint : Option (CheckpointName × Nat)

variable (steps : Stamp -> Nat)

/-- `skip_checkpoint`. -/
def CheckpointProcess.Skips (process : CheckpointProcess Stamp)
    (stamp : Stamp) : Prop :=
  process.lastCheckpoint = some (.last, steps stamp)

instance (process : CheckpointProcess Stamp) (stamp : Stamp) :
    Decidable (process.Skips steps stamp) :=
  inferInstanceAs (Decidable (_ = _))

/-- `Trainer.save_checkpoint`, of a state with a stamp. -/
def saveCheckpoint (process : CheckpointProcess Stamp) (stamp : Stamp) :
    CheckpointProgram Stamp (CheckpointProcess Stamp) :=
  if process.Skips steps stamp then return process
  else do
    atomicTorchSave (process.lineage ++ [stamp]) process.preservePrevious
    return ⟨process.lineage ++ [stamp], false, some (.last, steps stamp)⟩

/-! ## Starting a run -/

/-- `--resume` on one checkpoint path. -/
inductive CheckpointStart
  | new
  | resumeLast
  | recoverPrevious
  deriving DecidableEq, Repr

/-- One pattern of `reconcile_checkpoint_temporaries`. -/
def removeMatches (name : Nat -> CheckpointName) :
    CheckpointProgram Stamp (List CheckpointName) := do
  let candidates ← Program.query fun disk =>
    ((List.range disk.nextInode).map name).filter fun candidate =>
      decide (disk.IsFile candidate)
  Program.forEach candidates unlink
  return candidates

/-- `reconcile_checkpoint_temporaries`. -/
def reconcileCheckpointTemporaries :
    CheckpointProgram Stamp (List CheckpointName) := do
  let parts ← removeMatches .part
  let links ← removeMatches .link
  if parts ++ links ≠ [] then
    fsyncDirectory
  return parts ++ links

/-- `CheckpointLease.acquire`, of a lease that no other trainer holds. -/
def acquireCheckpointLease : CheckpointProgram Stamp Unit :=
  Program.commit fun disk =>
    match disk.entry .lock with
    | some _ => disk
    | none =>
        { disk with
          entry := Function.update disk.entry .lock (some disk.nextInode)
          nextInode := disk.nextInode + 1 }

/-- The checks of `main` on the checkpoint paths. -/
def checkStart (start : CheckpointStart) (disk : CheckpointDisk Stamp) :
    Checked Unit :=
  match start with
  | .new => do
      let _ ← require (¬disk.IsFile .last ∧ ¬disk.IsFile .previous)
        (.valueError "refusing to overwrite an existing checkpoint generation")
      return ()
  | .resumeLast => do
      let _ ← require (disk.IsFile .last)
        (.valueError "resume checkpoint does not exist")
      return ()
  | .recoverPrevious => do
      let _ ← require (disk.IsFile .previous)
        (.valueError "resume checkpoint does not exist")
      return ()

/-- `torch.load` of a name. -/
def readCheckpoint (name : CheckpointName) (disk : CheckpointDisk Stamp) :
    Checked (List Stamp) :=
  match disk.entry name with
  | none => .error (.fileNotFoundError "No such file")
  | some inode =>
      match disk.content inode with
      | .complete lineage => .ok lineage
      | _ => .error (.valueError "Checkpoint is unreadable")

/-- `Trainer.load_checkpoint`. -/
def loadCheckpoint (name : CheckpointName) :
    CheckpointProgram Stamp (CheckpointProcess Stamp) := do
  let lineage ← Program.inspect (readCheckpoint name)
  return ⟨lineage, decide (name = .previous),
    lineage.getLast?.map fun stamp => (name, steps stamp)⟩

/-- The start of a run, up to a trainer that can save. -/
def startRun (start : CheckpointStart) :
    CheckpointProgram Stamp (CheckpointProcess Stamp) := do
  Program.inspect (checkStart start)
  acquireCheckpointLease
  let _ ← reconcileCheckpointTemporaries
  match start with
  | .new => return ⟨[], false, none⟩
  | .resumeLast => loadCheckpoint steps .last
  | .recoverPrevious => loadCheckpoint steps .previous

/-! ## Histories -/

/-- What has happened on one checkpoint path: the directory, the trainer that
runs, and the last generation of its lineage whose save has returned. -/
inductive CheckpointHistory :
    CheckpointDisk Stamp -> Option (CheckpointProcess Stamp) ->
      Option (List Stamp) -> Prop
  | empty : CheckpointHistory .empty none none
  | started
      {disk : CheckpointDisk Stamp} {returned : Option (List Stamp)}
      {start : CheckpointStart} {process : CheckpointProcess Stamp} :
      CheckpointHistory disk none returned ->
      ((startRun steps start).run disk).result = .ok process ->
      CheckpointHistory ((startRun steps start).run disk).final (some process)
        (returned.map (·.take process.lineage.length))
  | startKilled
      {disk visited left : CheckpointDisk Stamp}
      {returned : Option (List Stamp)} {start : CheckpointStart} :
      CheckpointHistory disk none returned ->
      (startRun steps start).Killed disk visited ->
      visited.Lost left ->
      CheckpointHistory left none returned
  | saved
      {disk : CheckpointDisk Stamp}
      {process next : CheckpointProcess Stamp}
      {returned : Option (List Stamp)} {stamp : Stamp} :
      CheckpointHistory disk (some process) returned ->
      ((saveCheckpoint steps process stamp).run disk).result = .ok next ->
      CheckpointHistory ((saveCheckpoint steps process stamp).run disk).final
        (some next)
        (if process.Skips steps stamp then returned else some next.lineage)
  | saveKilled
      {disk visited left : CheckpointDisk Stamp}
      {process : CheckpointProcess Stamp}
      {returned : Option (List Stamp)} {stamp : Stamp} :
      CheckpointHistory disk (some process) returned ->
      (saveCheckpoint steps process stamp).Killed disk visited ->
      visited.Lost left ->
      CheckpointHistory left none returned
  | changed
      {disk : CheckpointDisk Stamp} {process : CheckpointProcess Stamp}
      {returned : Option (List Stamp)} :
      CheckpointHistory disk (some process) returned ->
      CheckpointHistory disk (some { process with lastCheckpoint := none })
        returned
  | ended
      {disk left : CheckpointDisk Stamp}
      {process : Option (CheckpointProcess Stamp)}
      {returned : Option (List Stamp)} :
      CheckpointHistory disk process returned ->
      disk.Lost left ->
      CheckpointHistory left none returned
  | damaged
      {disk : CheckpointDisk Stamp} {returned : Option (List Stamp)} :
      CheckpointHistory disk none returned ->
      CheckpointHistory disk.corruptLast none returned

end CodingLlm
