import CodingLlm.Pretrain.CheckpointDisk
import Mathlib.Data.List.Infix

/-!
# The generations that a checkpoint directory keeps

What the names `last` and `previous` may refer to, in memory and on the disk,
while a trainer saves, is killed and starts again.  Every effect of a save
keeps it.
-/

namespace CodingLlm

open CrashLogic

variable {Stamp : Type}

/-- The names of published generations. -/
def CheckpointName.isGeneration : CheckpointName -> Bool
  | .last => true
  | .previous => true
  | _ => false

theorem CheckpointName.eq_of_isGeneration
    {name : CheckpointName}
    (published : name.isGeneration = true) :
    name = .last ∨ name = .previous := by
  cases name <;> simp_all [CheckpointName.isGeneration]

/-! ## Two generations -/

/-- What `last` and `previous` hold when the generation `returned` is the
newest one of the lineage whose save has returned. -/
structure Standing
    (returned : Option (List Stamp))
    (last previous : Option (CheckpointContent Stamp)) : Prop where
  last_whole : ∀ content, last = some content ->
    content = .corrupted ∨
      ∃ lineage, lineage ≠ [] ∧ content = .complete lineage
  previous_whole : ∀ content, previous = some content ->
    ∃ lineage, lineage ≠ [] ∧ content = .complete lineage
  extends_previous : ∀ later earlier, last = some (.complete later) ->
    previous = some (.complete earlier) -> earlier <+: later
  returned_ne : ∀ generation, returned = some generation -> generation ≠ []
  last_exists : ∀ generation, returned = some generation -> last ≠ none
  last_keeps : ∀ generation later, returned = some generation ->
    last = some (.complete later) -> generation <+: later
  previous_keeps : ∀ generation earlier, returned = some generation ->
    previous = some (.complete earlier) ->
      generation <+: earlier ∨ earlier = generation.dropLast
  alone : ∀ generation, returned = some generation -> previous = none ->
    generation.length = 1

namespace Standing

variable {returned : Option (List Stamp)}
variable {last previous : Option (CheckpointContent Stamp)}
variable {lineage : List Stamp}

theorem none_none : Standing (none : Option (List Stamp)) none none := by
  constructor <;> simp

/-- Damage of `last` is allowed for. -/
theorem corrupted
    {content : CheckpointContent Stamp}
    (standing : Standing returned (some content) previous) :
    Standing returned (some .corrupted) previous where
  last_whole := by
    intro damaged same
    exact .inl (Option.some.inj same).symm
  previous_whole := standing.previous_whole
  extends_previous := by simp
  returned_ne := standing.returned_ne
  last_exists := by simp
  last_keeps := by simp
  previous_keeps := standing.previous_keeps
  alone := standing.alone

/-- A new `last` that continues the lineage. -/
theorem publish
    (standing : Standing returned last previous)
    (nonempty : lineage ≠ [])
    (continues : ∀ earlier, previous = some (.complete earlier) ->
      earlier <+: lineage)
    (keeps : ∀ generation, returned = some generation ->
      generation <+: lineage) :
    Standing returned (some (.complete lineage)) previous where
  last_whole := by
    intro content same
    exact .inr ⟨lineage, nonempty, (Option.some.inj same).symm⟩
  previous_whole := standing.previous_whole
  extends_previous := by
    intro later earlier same there
    injection same with same
    injection same with same
    subst same
    exact continues earlier there
  returned_ne := standing.returned_ne
  last_exists := by simp
  last_keeps := by
    intro generation later there same
    injection same with same
    injection same with same
    subst same
    exact keeps generation there
  previous_keeps := standing.previous_keeps
  alone := standing.alone

/-- The generation before the new `last` becomes `previous`. -/
theorem rotate
    {later : List Stamp}
    (standing : Standing returned (some (.complete later)) previous)
    (nonempty : lineage ≠ [])
    (continues : lineage <+: later)
    (keeps : ∀ generation, returned = some generation ->
      generation <+: lineage) :
    Standing returned (some (.complete later)) (some (.complete lineage)) where
  last_whole := standing.last_whole
  previous_whole := by
    intro content same
    exact ⟨lineage, nonempty, (Option.some.inj same).symm⟩
  extends_previous := by
    intro newest earlier same there
    injection same with same
    injection same with same
    injection there with there
    injection there with there
    subst same there
    exact continues
  returned_ne := standing.returned_ne
  last_exists := standing.last_exists
  last_keeps := standing.last_keeps
  previous_keeps := by
    intro generation earlier there same
    injection same with same
    injection same with same
    subst same
    exact .inl (keeps generation there)
  alone := by simp

/-- A save that has returned. -/
theorem returns
    {stamp : Stamp}
    (previous_eq : previous =
      if lineage = [] then none else some (.complete lineage)) :
    Standing (some (lineage ++ [stamp]))
      (some (.complete (lineage ++ [stamp]))) previous where
  last_whole := by
    intro content same
    exact .inr ⟨_, by simp, (Option.some.inj same).symm⟩
  previous_whole := by
    intro content there
    rw [previous_eq] at there
    split at there
    · simp at there
    · exact ⟨lineage, ‹_›, (Option.some.inj there).symm⟩
  extends_previous := by
    intro later earlier same there
    rw [previous_eq] at there
    split at there
    · simp at there
    · simp only [Option.some.injEq, CheckpointContent.complete.injEq]
        at same there
      subst same there
      exact List.prefix_append _ _
  returned_ne := by
    intro generation same
    rw [← Option.some.inj same]
    simp
  last_exists := by simp
  last_keeps := by
    intro generation later same there
    simp only [Option.some.injEq, CheckpointContent.complete.injEq]
      at same there
    rw [← same, ← there]
  previous_keeps := by
    intro generation earlier same there
    rw [previous_eq] at there
    split at there
    · simp at there
    · simp only [Option.some.injEq, CheckpointContent.complete.injEq]
        at same there
      right
      rw [← same, ← there, List.dropLast_concat]
  alone := by
    intro generation same there
    rw [previous_eq] at there
    split at there
    · rename_i first
      rw [← Option.some.inj same, first]
      rfl
    · simp at there

/-- A recovery drops the generation that it does not find. -/
theorem dropLast
    {generation : List Stamp}
    (standing : Standing (some generation) last previous)
    (nonempty : generation.dropLast ≠ []) :
    Standing (some generation.dropLast) last previous where
  last_whole := standing.last_whole
  previous_whole := standing.previous_whole
  extends_previous := standing.extends_previous
  returned_ne := by
    intro shorter same
    rw [← Option.some.inj same]
    exact nonempty
  last_exists := fun _ _ => standing.last_exists generation rfl
  last_keeps := by
    intro shorter later same there
    rw [← Option.some.inj same]
    exact (List.dropLast_prefix generation).trans
      (standing.last_keeps generation later rfl there)
  previous_keeps := by
    intro shorter earlier same there
    rw [← Option.some.inj same]
    left
    rcases standing.previous_keeps generation earlier rfl there with
      within | dropped
    · exact (List.dropLast_prefix generation).trans within
    · rw [dropped]
  alone := by
    intro shorter same missing
    have single := standing.alone generation rfl missing
    apply absurd _ nonempty
    rw [← List.length_eq_zero_iff, List.length_dropLast, single]

end Standing

/-! ## Names in memory and on the disk -/

namespace CheckpointDisk

/-- The directory after `fsyncDirectory`. -/
def sync (disk : CheckpointDisk Stamp) : CheckpointDisk Stamp :=
  { disk with synced := disk.entry }

variable {disk before after : CheckpointDisk Stamp}
variable {returned : Option (List Stamp)}

/-- What a name may refer to after a loss of power. -/
def Shows
    (disk : CheckpointDisk Stamp)
    (name : CheckpointName)
    (slot : Option Nat) : Prop :=
  slot = disk.entry name ∨ slot = disk.synced name

theorem Shows.now {name : CheckpointName} :
    disk.Shows name (disk.entry name) :=
  .inl rfl

/-- The file is a generation, or may be one after a loss of power. -/
def Stored (disk : CheckpointDisk Stamp) (inode : Nat) : Prop :=
  ∃ name, name.isGeneration = true ∧ disk.Shows name (some inode)

/-- What holds of the directory at every moment. -/
structure Sound
    (disk : CheckpointDisk Stamp)
    (returned : Option (List Stamp)) : Prop where
  standing : ∀ last previous, disk.Shows .last last ->
    disk.Shows .previous previous ->
      Standing returned (last.map disk.content) (previous.map disk.content)
  apart : ∀ inode, disk.Shows .last (some inode) ->
    ¬disk.Shows .previous (some inode)
  stored : ∀ inode, disk.Stored inode ->
    inode < disk.nextInode ∧ disk.flushed inode = true
  unsynced : ∀ name, name.isGeneration = true -> disk.entry name = none ->
    disk.synced name = none
  grows : ∀ now synced earlier later,
    disk.entry .previous = some now -> disk.synced .previous = some synced ->
      disk.content now = .complete later ->
        disk.content synced = .complete earlier -> earlier <+: later
  numbered : ∀ id inode,
    disk.Shows (.part id) (some inode) ∨ disk.Shows (.link id) (some inode) ->
      id < disk.nextInode

namespace Sound

theorem empty : (empty : CheckpointDisk Stamp).Sound none where
  standing := by
    intro last previous lastShown previousShown
    have noLast : last = none := by
      rcases lastShown with rfl | rfl <;> rfl
    have noPrevious : previous = none := by
      rcases previousShown with rfl | rfl <;> rfl
    subst noLast noPrevious
    exact Standing.none_none
  apart := by simp [Shows, CheckpointDisk.empty]
  stored := by simp [Stored, Shows, CheckpointDisk.empty]
  unsynced := by simp [CheckpointDisk.empty]
  grows := by simp [CheckpointDisk.empty]
  numbered := by simp [Shows, CheckpointDisk.empty]

/-- Changes of other names and of files that are no generation. -/
theorem frame
    (sound : before.Sound returned)
    (entry : ∀ name, name.isGeneration = true ->
      after.entry name = before.entry name)
    (synced : ∀ name, name.isGeneration = true ->
      after.synced name = before.synced name)
    (content : ∀ inode, before.Stored inode ->
      after.content inode = before.content inode)
    (flushed : ∀ inode, before.Stored inode ->
      after.flushed inode = before.flushed inode)
    (nextInode : before.nextInode ≤ after.nextInode)
    (numbered : ∀ id inode,
      after.Shows (.part id) (some inode) ∨
        after.Shows (.link id) (some inode) -> id < after.nextInode) :
    after.Sound returned := by
  have shown (name : CheckpointName) (slot : Option Nat)
      (published : name.isGeneration = true) :
      after.Shows name slot ↔ before.Shows name slot := by
    unfold Shows
    rw [entry name published, synced name published]
  have kept (name : CheckpointName) (slot : Option Nat)
      (published : name.isGeneration = true)
      (there : before.Shows name slot) :
      slot.map after.content = slot.map before.content := by
    cases slot with
    | none => rfl
    | some inode =>
        rw [Option.map_some, Option.map_some,
          content inode ⟨name, published, there⟩]
  constructor
  case standing =>
    intro last previous lastShown previousShown
    rw [shown _ _ rfl] at lastShown previousShown
    rw [kept .last last rfl lastShown,
      kept .previous previous rfl previousShown]
    exact sound.standing last previous lastShown previousShown
  case apart =>
    intro inode there
    rw [shown _ _ rfl] at there ⊢
    exact sound.apart inode there
  case stored =>
    rintro inode ⟨name, published, there⟩
    rw [shown _ _ published] at there
    have stored : before.Stored inode := ⟨name, published, there⟩
    obtain ⟨bound, durable⟩ := sound.stored inode stored
    rw [flushed inode stored]
    exact ⟨by omega, durable⟩
  case unsynced =>
    intro name published missing
    rw [entry name published] at missing
    rw [synced name published]
    exact sound.unsynced name published missing
  case grows =>
    intro now onDisk earlier later atNow atDisk
    rw [entry _ rfl] at atNow
    rw [synced _ rfl] at atDisk
    rw [content now ⟨.previous, rfl, .inl atNow.symm⟩,
      content onDisk ⟨.previous, rfl, .inr atDisk.symm⟩]
    exact sound.grows now onDisk earlier later atNow atDisk
  case numbered => exact numbered

/-- A kill leaves a sound directory. -/
theorem lost
    (sound : before.Sound returned)
    (lost : before.Lost after) : after.Sound returned := by
  rcases lost with rfl | power
  · exact sound
  have shown (name : CheckpointName) (slot : Option Nat)
      (there : after.Shows name slot) : before.Shows name slot := by
    have there : slot = after.entry name := by
      rcases there with there | there
      · exact there
      · rw [there, power.synced]
    rcases power.entry name with same | same
    · exact .inl (there.trans same)
    · exact .inr (there.trans same)
  have kept (inode : Nat) (stored : before.Stored inode) :=
    power.flushed inode (sound.stored inode stored).2
  have keptSlot (name : CheckpointName) (slot : Option Nat)
      (published : name.isGeneration = true)
      (there : before.Shows name slot) :
      slot.map after.content = slot.map before.content := by
    cases slot with
    | none => rfl
    | some inode =>
        rw [Option.map_some, Option.map_some,
          (kept inode ⟨name, published, there⟩).2]
  constructor
  case standing =>
    intro last previous lastShown previousShown
    have lastShown := shown _ _ lastShown
    have previousShown := shown _ _ previousShown
    rw [keptSlot .last last rfl lastShown,
      keptSlot .previous previous rfl previousShown]
    exact sound.standing last previous lastShown previousShown
  case apart =>
    intro inode lastShown previousShown
    exact sound.apart inode (shown _ _ lastShown) (shown _ _ previousShown)
  case stored =>
    rintro inode ⟨name, published, there⟩
    have stored : before.Stored inode := ⟨name, published, shown _ _ there⟩
    rw [power.nextInode]
    exact ⟨(sound.stored inode stored).1, (kept inode stored).1⟩
  case unsynced =>
    intro name _ missing
    rw [power.synced]
    exact missing
  case grows =>
    intro now synced earlier later atNow atDisk whole other
    rw [power.synced, atNow] at atDisk
    injection atDisk with same
    subst same
    rw [whole] at other
    injection other with same
    rw [same]
  case numbered =>
    intro id inode there
    rw [power.nextInode]
    exact sound.numbered id inode (there.imp (shown _ _) (shown _ _))

/-- A synced directory is sound. -/
theorem sync (sound : disk.Sound returned) :
    disk.sync.Sound returned := by
  have power : disk.PowerLoss disk.sync := {
    entry := fun _ => .inl rfl
    synced := rfl
    flushed := fun _ durable => ⟨durable, rfl⟩
    unflushed := fun _ => .inl rfl
    nextInode := rfl }
  exact sound.lost (.inr power)

/-- Damage of `last` keeps the directory sound. -/
theorem corruptLast (sound : disk.Sound returned) :
    disk.corruptLast.Sound returned := by
  unfold CheckpointDisk.corruptLast
  cases named : disk.entry .last with
  | none => exact sound
  | some damaged =>
      dsimp only
      have other (inode : Nat) (there : disk.Shows .previous (some inode)) :
          Function.update disk.content damaged .corrupted inode =
            disk.content inode := by
        apply Function.update_of_ne
        rintro rfl
        exact sound.apart _ (.inl named.symm) there
      have otherSlot (slot : Option Nat) (there : disk.Shows .previous slot) :
          slot.map (Function.update disk.content damaged .corrupted) =
            slot.map disk.content := by
        cases slot with
        | none => rfl
        | some inode => rw [Option.map_some, Option.map_some, other inode there]
      constructor
      case standing =>
        intro last previous lastShown previousShown
        rw [otherSlot previous previousShown]
        have standing := sound.standing last previous lastShown previousShown
        cases last with
        | none => exact standing
        | some inode =>
            change Standing _ (some (Function.update disk.content damaged
              .corrupted inode)) _
            by_cases same : inode = damaged
            · rw [same, Function.update_self]
              exact standing.corrupted
            · rw [Function.update_of_ne same]
              exact standing
      case apart => exact sound.apart
      case stored => exact sound.stored
      case unsynced => exact sound.unsynced
      case grows =>
        intro now synced earlier later atNow atDisk
        change Function.update disk.content damaged .corrupted now = _ ->
          Function.update disk.content damaged .corrupted synced = _ -> _
        rw [other now (.inl atNow.symm), other synced (.inr atDisk.symm)]
        exact sound.grows now synced earlier later atNow atDisk
      case numbered => exact sound.numbered

/-- The start of a run from `previous` may forget one generation. -/
theorem dropLast
    {generation : List Stamp}
    (sound : disk.Sound (some generation))
    (nonempty : generation.dropLast ≠ []) :
    disk.Sound (some generation.dropLast) where
  standing := by
    intro last previous lastShown previousShown
    exact (sound.standing last previous lastShown previousShown).dropLast
      nonempty
  apart := sound.apart
  stored := sound.stored
  unsynced := sound.unsynced
  grows := sound.grows
  numbered := sound.numbered

/-! ## Effects of a save -/

variable {temporary : Nat} {lineage later : List Stamp}

/-- Bytes of a file that is no generation. -/
theorem writeFile
    (sound : disk.Sound returned)
    (fresh : ¬disk.Stored temporary)
    (content : CheckpointContent Stamp) :
    ({ disk with content := Function.update disk.content temporary content } :
      CheckpointDisk Stamp).Sound returned := by
  refine sound.frame (fun _ _ => rfl) (fun _ _ => rfl) ?_ (fun _ _ => rfl)
    (Nat.le_refl _) sound.numbered
  intro inode stored
  apply Function.update_of_ne
  rintro rfl
  exact fresh stored

/-- A flush of a file that is no generation. -/
theorem flushFile
    (sound : disk.Sound returned)
    (fresh : ¬disk.Stored temporary)
    (durable : Bool) :
    ({ disk with flushed := Function.update disk.flushed temporary durable } :
      CheckpointDisk Stamp).Sound returned := by
  refine sound.frame (fun _ _ => rfl) (fun _ _ => rfl) (fun _ _ => rfl) ?_
    (Nat.le_refl _) sound.numbered
  intro inode stored
  apply Function.update_of_ne
  rintro rfl
  exact fresh stored

/-- The name of a temporary file is added or removed. -/
theorem setTemporary
    {name : CheckpointName} {slot : Option Nat}
    (sound : disk.Sound returned)
    (hidden : name.isTemporary = true)
    (numbered : slot = none ∨
      ∀ id, name = .part id ∨ name = .link id -> id < disk.nextInode) :
    (disk.setEntry name slot).Sound returned := by
  refine sound.frame ?entry (fun _ _ => rfl) (fun _ _ => rfl)
    (fun _ _ => rfl) (Nat.le_refl _) ?numbered
  case entry =>
    intro other published
    apply setEntry_of_ne
    rintro rfl
    rcases CheckpointName.eq_of_isGeneration published with rfl | rfl <;>
      simp [CheckpointName.isTemporary] at hidden
  case numbered =>
    have kept (other : CheckpointName) (inode id : Nat)
        (labelled : other = .part id ∨ other = .link id)
        (there : (disk.setEntry name slot).Shows other (some inode)) :
        id < disk.nextInode := by
      by_cases same : other = name
      · rcases numbered with missing | bound
        · rcases there with now | synced
          · subst same missing
            simp [setEntry] at now
          · apply sound.numbered id inode
            rcases labelled with rfl | rfl
            · exact .inl (.inr synced)
            · exact .inr (.inr synced)
        · exact bound id (same ▸ labelled)
      · have before : disk.Shows other (some inode) := by
          rcases there with now | synced
          · left
            rw [now, setEntry_of_ne _ _ _ same]
          · exact .inr synced
        apply sound.numbered id inode
        rcases labelled with rfl | rfl
        · exact .inl before
        · exact .inr before
    rintro id inode (there | there)
    · exact kept _ inode id (.inl rfl) there
    · exact kept _ inode id (.inr rfl) there

/-- A flushed file becomes `last`. -/
theorem publish
    (sound : disk.Sound returned)
    (fresh : ¬disk.Stored temporary)
    (bound : temporary < disk.nextInode)
    (durable : disk.flushed temporary = true)
    (whole : disk.content temporary = .complete later)
    (nonempty : later ≠ [])
    (continues : ∀ inode earlier, disk.Shows .previous (some inode) ->
      disk.content inode = .complete earlier -> earlier <+: later)
    (keeps : ∀ generation, returned = some generation ->
      generation <+: later) :
    (disk.setEntry .last (some temporary)).Sound returned := by
  have shown (slot : Option Nat)
      (there : (disk.setEntry .last (some temporary)).Shows .last slot) :
      slot = some temporary ∨ disk.Shows .last slot := by
    rcases there with now | synced
    · left
      rw [now, setEntry_self]
    · exact .inr (.inr synced)
  constructor
  case standing =>
    intro last previous lastShown previousShown
    rcases shown last lastShown with rfl | before
    · rw [Option.map_some]
      change Standing _ (some (disk.content temporary)) _
      rw [whole]
      apply (sound.standing _ previous .now previousShown).publish nonempty
        _ keeps
      intro earlier there
      obtain ⟨inode, rfl, found⟩ := Option.map_eq_some_iff.mp there
      exact continues inode earlier previousShown found
    · exact sound.standing last previous before previousShown
  case apart =>
    intro inode lastShown previousShown
    rcases shown _ lastShown with same | before
    · injection same with same
      subst same
      exact fresh ⟨.previous, rfl, previousShown⟩
    · exact sound.apart inode before previousShown
  case stored =>
    rintro inode ⟨name, published, there⟩
    rcases CheckpointName.eq_of_isGeneration published with rfl | rfl
    · rcases shown _ there with same | before
      · injection same with same
        subst same
        exact ⟨bound, durable⟩
      · exact sound.stored inode ⟨.last, rfl, before⟩
    · exact sound.stored inode ⟨.previous, rfl, there⟩
  case unsynced =>
    intro name published missing
    rcases CheckpointName.eq_of_isGeneration published with rfl | rfl
    · simp [setEntry] at missing
    · exact sound.unsynced .previous rfl missing
  case grows => exact sound.grows
  case numbered => exact sound.numbered

/-- The generation before a durable `last` becomes `previous`. -/
theorem rotate
    {newest old : Nat}
    (sound : disk.Sound returned)
    (lastNow : disk.entry .last = some newest)
    (lastSynced : disk.synced .last = some newest)
    (whole : disk.content newest = .complete later)
    (other : old ≠ newest)
    (bound : old < disk.nextInode)
    (durable : disk.flushed old = true)
    (found : disk.content old = .complete lineage)
    (nonempty : lineage ≠ [])
    (extended : lineage <+: later)
    (continues : ∀ inode earlier, disk.Shows .previous (some inode) ->
      disk.content inode = .complete earlier -> earlier <+: lineage)
    (keeps : ∀ generation, returned = some generation ->
      generation <+: lineage) :
    (disk.setEntry .previous (some old)).Sound returned := by
  have shown (slot : Option Nat)
      (there : (disk.setEntry .previous (some old)).Shows .previous slot) :
      slot = some old ∨ disk.Shows .previous slot := by
    rcases there with now | synced
    · left
      rw [now, setEntry_self]
    · exact .inr (.inr synced)
  have only (slot : Option Nat) (there : disk.Shows .last slot) :
      slot = some newest := by
    rcases there with now | synced
    · exact now.trans lastNow
    · exact synced.trans lastSynced
  constructor
  case standing =>
    intro last previous lastShown previousShown
    obtain rfl := only last lastShown
    rcases shown previous previousShown with rfl | before
    · have standing := sound.standing _ _ lastShown .now
      simp only [Option.map_some, whole] at standing
      change Standing _ (some (disk.content newest)) (some (disk.content old))
      rw [whole, found]
      exact standing.rotate nonempty extended keeps
    · exact sound.standing _ previous lastShown before
  case apart =>
    intro inode lastShown previousShown
    have same := only _ lastShown
    rcases shown _ previousShown with here | before
    · rw [here] at same
      injection same with same
      exact other same
    · exact sound.apart inode lastShown before
  case stored =>
    rintro inode ⟨name, published, there⟩
    rcases CheckpointName.eq_of_isGeneration published with rfl | rfl
    · exact sound.stored inode ⟨.last, rfl, there⟩
    · rcases shown _ there with same | before
      · injection same with same
        subst same
        exact ⟨bound, durable⟩
      · exact sound.stored inode ⟨.previous, rfl, before⟩
  case unsynced =>
    intro name published missing
    rcases CheckpointName.eq_of_isGeneration published with rfl | rfl
    · exact sound.unsynced .last rfl missing
    · simp [setEntry] at missing
  case grows =>
    intro now synced earlier newer atNow atDisk wholeNow wholeDisk
    rw [setEntry_self] at atNow
    injection atNow with same
    subst same
    change disk.content old = _ at wholeNow
    rw [found] at wholeNow
    injection wholeNow with same
    subst same
    exact continues synced earlier (.inr atDisk.symm) wholeDisk
  case numbered => exact sound.numbered

/-- The save of a durable `last` has returned. -/
theorem returns
    {newest : Nat} {stamp : Stamp}
    (sound : disk.Sound returned)
    (durable : disk.synced = disk.entry)
    (lastNow : disk.entry .last = some newest)
    (whole : disk.content newest = .complete (lineage ++ [stamp]))
    (previous_eq : (disk.entry .previous).map disk.content =
      if lineage = [] then none else some (.complete lineage)) :
    disk.Sound (some (lineage ++ [stamp])) where
  standing := by
    intro last previous lastShown previousShown
    have same : last = disk.entry .last := by
      rcases lastShown with now | synced
      · exact now
      · rw [synced, durable]
    have other : previous = disk.entry .previous := by
      rcases previousShown with now | synced
      · exact now
      · rw [synced, durable]
    rw [same, lastNow, Option.map_some, whole, other]
    exact Standing.returns previous_eq
  apart := sound.apart
  stored := sound.stored
  unsynced := sound.unsynced
  grows := sound.grows
  numbered := sound.numbered

end Sound

end CheckpointDisk

end CodingLlm
