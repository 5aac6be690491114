import CodingLlm.Library.CrashLogic
import CodingLlm.Pretrain.Format
import Mathlib.Data.List.AList

/-!
# Packed directories

A directory maps names to entries.  A payload file knows how much of it is
durable: a kill keeps the synced prefix and any amount of what was written
after it, with any content.  Renames, links and unlinks are atomic and take
effect in order, so `os.fsync` on the directory itself changes nothing here.
-/

namespace CodingLlm

open CrashLogic Words

variable {Digest Cursor : Type}

/-- A payload file: what was written, and how long its durable prefix is. -/
structure File where
  bytes : List Byte
  synced : Nat
  deriving DecidableEq

/-- A file whose every byte is durable. -/
def File.sealed (bytes : List Byte) : File := ⟨bytes, bytes.length⟩

/-- A directory entry.  `temporary` is a JSON file still being written and
`special` is anything that is no regular file. -/
inductive Entry (Digest Cursor : Type)
  | payload (file : File)
  | journal (journal : Journal Digest Cursor)
  | manifest (document : PackedManifestJson Digest Cursor)
  | temporary
  | special

/-- A packed directory. -/
abbrev Directory (Digest Cursor : Type) : Type :=
  AList fun _ : FileName => Entry Digest Cursor

/-- Programs over a packed directory. -/
abbrev Fs (Digest Cursor α : Type) : Type :=
  Program (Directory Digest Cursor) PyError α

/-- `path.exists()`. -/
def Directory.Has
    (directory : Directory Digest Cursor) (name : FileName) : Prop :=
  name ∈ directory

instance (directory : Directory Digest Cursor) (name : FileName) :
    Decidable (directory.Has name) :=
  inferInstanceAs (Decidable (name ∈ directory))

theorem Directory.has_iff
    {directory : Directory Digest Cursor} {name : FileName} :
    directory.Has name ↔ ∃ entry, directory.lookup name = some entry := by
  rw [← Option.isSome_iff_exists, AList.lookup_isSome]
  rfl

theorem Directory.not_has_iff
    {directory : Directory Digest Cursor} {name : FileName} :
    ¬directory.Has name ↔ directory.lookup name = none := by
  rw [AList.lookup_eq_none]
  rfl

/-- The payload file at a name, if there is a regular one. -/
def Directory.payload?
    (directory : Directory Digest Cursor) (name : FileName) : Option File :=
  match directory.lookup name with
  | some (.payload file) => some file
  | _ => none

theorem Directory.payload?_eq_some
    {directory : Directory Digest Cursor} {name : FileName} {file : File} :
    directory.payload? name = some file ↔
      directory.lookup name = some (.payload file) := by
  unfold Directory.payload?
  split <;> simp_all

/-- `_load_json` of `manifest.json`, a regular file. -/
def readManifest (directory : Directory Digest Cursor) :
    Checked (PackedManifestJson Digest Cursor) :=
  match directory.lookup .manifest with
  | some (.manifest document) => .ok document
  | _ => .error
      (.ioError "Packed manifest must be a regular non-symlink file")

theorem readManifest_eq
    {directory : Directory Digest Cursor}
    {document : PackedManifestJson Digest Cursor}
    (found : directory.lookup .manifest = some (.manifest document)) :
    readManifest directory = .ok document := by
  rw [readManifest, found]

/-! ## Effects -/

/-- `path.open("xb")`. -/
def openExclusive (name : FileName) : Fs Digest Cursor Unit :=
  Program.effect fun directory =>
    match directory.lookup name with
    | none => .ok (directory.insert name (.payload ⟨[], 0⟩), ())
    | some _ => .error (.fileExistsError "File exists")

/-- `handle.write(content)` on the open part file `name`. -/
def appendBytes (name : FileName) (content : List Byte) :
    Fs Digest Cursor Unit :=
  Program.effect fun directory =>
    match directory.lookup name with
    | some (.payload file) =>
        .ok (directory.insert name
          (.payload ⟨file.bytes ++ content, file.synced⟩), ())
    | _ => .error (.fileNotFoundError "No such file")

/-- `handle.flush()` and `os.fsync(handle.fileno())`. -/
def syncFile (name : FileName) : Fs Digest Cursor Unit :=
  Program.effect fun directory =>
    match directory.lookup name with
    | some (.payload file) =>
        .ok (directory.insert name (.payload (.sealed file.bytes)), ())
    | _ => .error (.fileNotFoundError "No such file")

/-- `handle.truncate(size)`. -/
def truncateFile (name : FileName) (size : Nat) : Fs Digest Cursor Unit :=
  Program.effect fun directory =>
    match directory.lookup name with
    | some (.payload file) =>
        .ok (directory.insert name
          (.payload ⟨file.bytes.take size, min file.synced size⟩), ())
    | _ => .error (.fileNotFoundError "No such file")

/-- `os.replace(source, target)`. -/
def replaceFile (source target : FileName) : Fs Digest Cursor Unit :=
  Program.effect fun directory =>
    match directory.lookup source with
    | some entry => .ok ((directory.erase source).insert target entry, ())
    | none => .error (.fileNotFoundError "No such file")

/-- `path.unlink()`. -/
def unlinkFile (name : FileName) : Fs Digest Cursor Unit :=
  Program.effect fun directory =>
    match directory.lookup name with
    | some _ => .ok (directory.erase name, ())
    | none => .error (.fileNotFoundError "No such file")

/-- Put an entry under a name that `mkstemp` has reserved. -/
def writeEntry (name : FileName) (entry : Entry Digest Cursor) :
    Fs Digest Cursor Unit :=
  Program.effect fun directory => .ok (directory.insert name entry, ())

/-- `path.iterdir()`. -/
def listDirectory : Fs Digest Cursor (List FileName) :=
  Program.inspect fun directory => .ok directory.keys

/-- `path.exists()`. -/
def fileExists (name : FileName) : Fs Digest Cursor Bool :=
  Program.inspect fun directory => .ok (decide (directory.Has name))

/-- `path.stat().st_size` of a regular file. -/
def fileSize (name : FileName) : Fs Digest Cursor Nat :=
  Program.inspect fun directory =>
    match directory.payload? name with
    | some file => .ok file.bytes.length
    | none => .error (.fileNotFoundError "No such file")

/-- `path.unlink()` of a file that may be missing. -/
def unlinkIfExists (name : FileName) : Fs Digest Cursor Unit := do
  let present ← fileExists name
  if present then unlinkFile name else pure ()

/-- The number `mkstemp` appended to a temporary's name. -/
def FileName.suffix : FileName -> Nat
  | .journalTemporary suffix => suffix
  | .manifestTemporary suffix => suffix
  | _ => 0

/-- A suffix that no temporary in the directory has. -/
def unusedSuffix : Fs Digest Cursor Nat :=
  Program.inspect fun directory =>
    .ok ((directory.keys.map FileName.suffix).foldr max 0 + 1)

/-- `_atomic_json`: create a temporary beside the target, write and sync it,
then move it over the target. -/
def atomicJson
    (temporary : Nat -> FileName)
    (target : FileName)
    (entry : Entry Digest Cursor) : Fs Digest Cursor Unit := do
  let suffix ← unusedSuffix
  writeEntry (temporary suffix) .temporary
  writeEntry (temporary suffix) entry
  replaceFile (temporary suffix) target

/-! ## What a kill leaves -/

/-- What a kill may make of an entry: a payload file keeps its durable prefix
and at most as many bytes as were written. -/
inductive Entry.AfterKill : Entry Digest Cursor -> Entry Digest Cursor -> Prop
  | payload
      {file left : File}
      (synced : left.synced = file.synced)
      (durable : file.synced ≤ left.bytes.length)
      (written : left.bytes.length ≤ file.bytes.length)
      (agree : left.bytes.take file.synced = file.bytes.take file.synced) :
      AfterKill (.payload file) (.payload left)
  | same (entry : Entry Digest Cursor) : AfterKill entry entry

/-- What a kill may make of a directory: the same names, each with what a kill
may make of its entry, listed in any order. -/
def Directory.AfterKill (before left : Directory Digest Cursor) : Prop :=
  ∀ name,
    (before.lookup name = none ∧ left.lookup name = none) ∨
    ∃ entry entry', before.lookup name = some entry ∧
      left.lookup name = some entry' ∧ Entry.AfterKill entry entry'

theorem Directory.AfterKill.refl (directory : Directory Digest Cursor) :
    directory.AfterKill directory := by
  intro name
  cases found : directory.lookup name with
  | none => exact .inl ⟨rfl, rfl⟩
  | some entry => exact .inr ⟨entry, entry, rfl, rfl, .same entry⟩

theorem Directory.AfterKill.lookup_none
    {before left : Directory Digest Cursor} {name : FileName}
    (killed : before.AfterKill left) :
    left.lookup name = none ↔ before.lookup name = none := by
  rcases killed name with ⟨one, two⟩ | ⟨entry, entry', one, two, _⟩ <;>
    simp [one, two]

/-- A kill shows no new name. -/
theorem Directory.AfterKill.has
    {before left : Directory Digest Cursor} {name : FileName}
    (killed : before.AfterKill left)
    (present : left.Has name) : before.Has name := by
  by_contra absent
  rw [Directory.not_has_iff, ← killed.lookup_none,
    ← Directory.not_has_iff] at absent
  exact absent present

/-- An entry that is no payload survives as it was. -/
theorem Directory.AfterKill.lookup_other
    {before left : Directory Digest Cursor} {name : FileName}
    {entry : Entry Digest Cursor}
    (killed : before.AfterKill left)
    (found : before.lookup name = some entry)
    (noPayload : ∀ file, entry ≠ .payload file) :
    left.lookup name = some entry := by
  rcases killed name with ⟨one, two⟩ | ⟨old, new, one, two, survives⟩
  · rw [found] at one
    cases one
  · rw [found] at one
    cases one
    cases survives with
    | same => exact two
    | payload => exact absurd rfl (noPayload _)

/-- A payload survives with its durable prefix. -/
theorem Directory.AfterKill.lookup_payload
    {before left : Directory Digest Cursor} {name : FileName} {file : File}
    (killed : before.AfterKill left)
    (found : before.lookup name = some (.payload file))
    (wellFormed : file.synced ≤ file.bytes.length) :
    ∃ file', left.lookup name = some (.payload file') ∧
      file'.synced = file.synced ∧
      file.synced ≤ file'.bytes.length ∧
      file'.bytes.length ≤ file.bytes.length ∧
      file'.bytes.take file.synced = file.bytes.take file.synced := by
  rcases killed name with ⟨one, two⟩ | ⟨old, new, one, two, survives⟩
  · rw [found] at one
    cases one
  · rw [found] at one
    cases one
    cases survives with
    | same => exact ⟨file, two, rfl, wellFormed, le_rfl, rfl⟩
    | payload synced durable written agree =>
        exact ⟨_, two, synced, durable, written, agree⟩

/-- A file that was synced to its end is not changed by a kill. -/
theorem Directory.AfterKill.lookup_sealed
    {before left : Directory Digest Cursor} {name : FileName}
    {bytes : List Byte}
    (killed : before.AfterKill left)
    (found : before.lookup name = some (.payload (.sealed bytes))) :
    left.lookup name = some (.payload (.sealed bytes)) := by
  obtain ⟨⟨bytes', synced'⟩, found', synced, durable, written, agree⟩ :=
    killed.lookup_payload found le_rfl
  simp only [File.sealed] at synced durable written agree
  have whole : bytes' = bytes := by
    rw [List.take_of_length_le written, List.take_length] at agree
    exact agree
  subst whole
  rw [found', File.sealed, synced]

/-! ## Verifying effects -/

section Rules

variable {post : Unit -> Directory Digest Cursor -> Prop}
variable {fail : PyError -> Directory Digest Cursor -> Prop}
variable {crash : Directory Digest Cursor -> Prop}
variable {directory : Directory Digest Cursor}
variable {name source target : FileName} {file : File}

theorem wp_openExclusive (absent : directory.lookup name = none) :
    (openExclusive name).wp post fail crash directory ↔
      crash (directory.insert name (.payload ⟨[], 0⟩)) ∧
        post () (directory.insert name (.payload ⟨[], 0⟩)) := by
  rw [openExclusive, Program.wp_effect, absent]

theorem wp_appendBytes
    {content : List Byte}
    (found : directory.lookup name = some (.payload file)) :
    (appendBytes name content).wp post fail crash directory ↔
      crash (directory.insert name
          (.payload ⟨file.bytes ++ content, file.synced⟩)) ∧
        post () (directory.insert name
          (.payload ⟨file.bytes ++ content, file.synced⟩)) := by
  rw [appendBytes, Program.wp_effect, found]

theorem wp_syncFile
    (found : directory.lookup name = some (.payload file)) :
    (syncFile name).wp post fail crash directory ↔
      crash (directory.insert name (.payload (.sealed file.bytes))) ∧
        post () (directory.insert name (.payload (.sealed file.bytes))) := by
  rw [syncFile, Program.wp_effect, found]

theorem wp_truncateFile
    {size : Nat}
    (found : directory.lookup name = some (.payload file)) :
    (truncateFile name size).wp post fail crash directory ↔
      crash (directory.insert name
          (.payload ⟨file.bytes.take size, min file.synced size⟩)) ∧
        post () (directory.insert name
          (.payload ⟨file.bytes.take size, min file.synced size⟩)) := by
  rw [truncateFile, Program.wp_effect, found]

theorem wp_replaceFile
    {entry : Entry Digest Cursor}
    (found : directory.lookup source = some entry) :
    (replaceFile source target).wp post fail crash directory ↔
      crash ((directory.erase source).insert target entry) ∧
        post () ((directory.erase source).insert target entry) := by
  rw [replaceFile, Program.wp_effect, found]

theorem wp_unlinkFile
    {entry : Entry Digest Cursor}
    (found : directory.lookup name = some entry) :
    (unlinkFile name).wp post fail crash directory ↔
      crash (directory.erase name) ∧ post () (directory.erase name) := by
  rw [unlinkFile, Program.wp_effect, found]

theorem wp_writeEntry {entry : Entry Digest Cursor} :
    (writeEntry name entry).wp post fail crash directory ↔
      crash (directory.insert name entry) ∧
        post () (directory.insert name entry) := by
  rw [writeEntry, Program.wp_effect]

theorem wp_fileExists
    {post : Bool -> Directory Digest Cursor -> Prop} :
    (fileExists name).wp post fail crash directory ↔
      post (decide (directory.Has name)) directory := by
  rw [fileExists, Program.wp_inspect]

theorem wp_listDirectory
    {post : List FileName -> Directory Digest Cursor -> Prop} :
    listDirectory.wp post fail crash directory ↔
      post directory.keys directory := by
  rw [listDirectory, Program.wp_inspect]

theorem wp_fileSize
    {post : Nat -> Directory Digest Cursor -> Prop}
    (found : directory.lookup name = some (.payload file)) :
    (fileSize name).wp post fail crash directory ↔
      post file.bytes.length directory := by
  rw [fileSize, Program.wp_inspect,
    Directory.payload?_eq_some.mpr found]

end Rules

/-- Moving an entry shows it under its new name and nothing under the old. -/
theorem lookup_replace
    {directory : Directory Digest Cursor}
    {source target name : FileName} {entry : Entry Digest Cursor}
    (different : source ≠ target) :
    ((directory.erase source).insert target entry).lookup name =
      if name = target then some entry
      else if name = source then none
      else directory.lookup name := by
  by_cases isTarget : name = target
  · subst isTarget
    simp [AList.lookup_insert]
  · rw [AList.lookup_insert_ne isTarget, if_neg isTarget]
    by_cases isSource : name = source
    · subst isSource
      simp [AList.lookup_erase]
    · rw [AList.lookup_erase_ne isSource, if_neg isSource]

theorem lookup_insert
    {directory : Directory Digest Cursor}
    {target name : FileName} {entry : Entry Digest Cursor} :
    (directory.insert target entry).lookup name =
      if name = target then some entry else directory.lookup name := by
  by_cases isTarget : name = target
  · subst isTarget
    simp [AList.lookup_insert]
  · rw [AList.lookup_insert_ne isTarget, if_neg isTarget]

theorem lookup_erase
    {directory : Directory Digest Cursor} {target name : FileName} :
    (directory.erase target).lookup name =
      if name = target then none else directory.lookup name := by
  by_cases isTarget : name = target
  · subst isTarget
    simp [AList.lookup_erase]
  · rw [AList.lookup_erase_ne isTarget, if_neg isTarget]

end CodingLlm
