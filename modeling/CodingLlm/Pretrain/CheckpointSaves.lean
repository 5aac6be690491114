import CodingLlm.Pretrain.CheckpointGenerations
import Mathlib.Data.List.Nodup

/-!
# Saves and starts

What a trainer knows about its directory, and what a save, the removal of
temporaries and the start of a run do to it, at every effect and at the end.
-/

namespace CodingLlm

open CrashLogic CheckpointProgram

variable {Stamp : Type}

namespace CheckpointDisk

variable {disk : CheckpointDisk Stamp}
variable {returned : Option (List Stamp)}
variable {process : CheckpointProcess Stamp}
variable {temporary : Nat} {lineage : List Stamp} {stamp : Stamp}

theorem entry_hidden
    (disk : CheckpointDisk Stamp)
    {hidden name : CheckpointName} {slot : Option Nat}
    (temporary : hidden.isTemporary = true)
    (published : name.isGeneration = true) :
    (disk.setEntry hidden slot).entry name = disk.entry name := by
  apply setEntry_of_ne
  rintro rfl
  rcases CheckpointName.eq_of_isGeneration published with rfl | rfl <;>
    simp [CheckpointName.isTemporary] at temporary

/-- What the directory holds of the trainer that runs. -/
structure Trains
    (disk : CheckpointDisk Stamp)
    (returned : Option (List Stamp))
    (process : CheckpointProcess Stamp) : Prop where
  recovered : process.preservePrevious = true ->
    disk.Holds .previous process.lineage
  resumed : process.preservePrevious = false -> process.lineage ≠ [] ->
    disk.Holds .last process.lineage
  fresh : process.lineage = [] ->
    process.preservePrevious = false ∧ disk.entry .last = none ∧
      disk.entry .previous = none
  keeps : ∀ generation, returned = some generation ->
    generation <+: process.lineage
  saved : ∀ step, process.lastCheckpoint = some (.last, step) ->
    process.preservePrevious = false ∧ process.lineage ≠ []

theorem Trains.mono
    {after : CheckpointDisk Stamp}
    (trains : disk.Trains returned process)
    (entry : ∀ name, name.isGeneration = true ->
      after.entry name = disk.entry name)
    (content : ∀ inode, disk.Stored inode ->
      after.content inode = disk.content inode) :
    after.Trains returned process := by
  have holds (name : CheckpointName) (published : name.isGeneration = true)
      (there : disk.Holds name process.lineage) :
      after.Holds name process.lineage := by
    obtain ⟨inode, named, whole⟩ := there
    refine ⟨inode, (entry name published).trans named, ?_⟩
    rw [content inode ⟨name, published, .inl named.symm⟩, whole]
  constructor
  case recovered =>
    intro preserves
    exact holds .previous rfl (trains.recovered preserves)
  case resumed =>
    intro rotates nonempty
    exact holds .last rfl (trains.resumed rotates nonempty)
  case fresh =>
    intro first
    rw [entry .last rfl, entry .previous rfl]
    exact trains.fresh first
  case keeps => exact trains.keeps
  case saved => exact trains.saved

/-- Every `previous` belongs to the lineage of the trainer. -/
theorem Trains.continues
    (trains : disk.Trains returned process)
    (sound : disk.Sound returned)
    {inode : Nat} {earlier : List Stamp}
    (shown : disk.Shows .previous (some inode))
    (whole : disk.content inode = .complete earlier) :
    earlier <+: process.lineage := by
  by_cases first : process.lineage = []
  · have missing := (trains.fresh first).2.2
    have unsynced := sound.unsynced .previous rfl missing
    rcases shown with now | synced
    · simp [missing] at now
    · simp [unsynced] at synced
  cases preserves : process.preservePrevious with
  | true =>
      obtain ⟨recovered, named, found⟩ := trains.recovered preserves
      rcases shown with now | synced
      · rw [named] at now
        injection now with same
        subst same
        rw [whole] at found
        injection found with same
        rw [same]
      · exact sound.grows recovered inode earlier process.lineage named
          synced.symm found whole
  | false =>
      obtain ⟨newest, named, found⟩ := trains.resumed preserves first
      apply (sound.standing _ _ .now shown).extends_previous
      · rw [named, Option.map_some, found]
      · rw [Option.map_some, whole]

/-! ## Saves -/

/-- A directory in which a temporary file is being written. -/
structure Drafts
    (disk : CheckpointDisk Stamp)
    (returned : Option (List Stamp))
    (process : CheckpointProcess Stamp)
    (temporary : Nat) : Prop where
  sound : disk.Sound returned
  trains : disk.Trains returned process
  named : disk.entry (.part temporary) = some temporary
  fresh : ¬disk.Stored temporary
  bound : temporary < disk.nextInode

theorem Drafts.writeFile
    (drafts : disk.Drafts returned process temporary)
    (content : CheckpointContent Stamp) :
    ({ disk with content := Function.update disk.content temporary content } :
      CheckpointDisk Stamp).Drafts returned process temporary where
  sound := drafts.sound.writeFile drafts.fresh content
  trains := by
    refine drafts.trains.mono (fun _ _ => rfl) ?_
    intro inode stored
    apply Function.update_of_ne
    rintro rfl
    exact drafts.fresh stored
  named := drafts.named
  fresh := drafts.fresh
  bound := drafts.bound

theorem Drafts.flushFile
    (drafts : disk.Drafts returned process temporary)
    (durable : Bool) :
    ({ disk with flushed := Function.update disk.flushed temporary durable } :
      CheckpointDisk Stamp).Drafts returned process temporary where
  sound := drafts.sound.flushFile drafts.fresh durable
  trains := drafts.trains.mono (fun _ _ => rfl) (fun _ _ => rfl)
  named := drafts.named
  fresh := drafts.fresh
  bound := drafts.bound

/-- The hard link of the generation that will be `previous`. -/
theorem Drafts.link
    (drafts : disk.Drafts returned process temporary)
    (slot : Option Nat) :
    (disk.setEntry (.link temporary) slot).Drafts returned process
      temporary where
  sound := by
    apply drafts.sound.setTemporary rfl
    right
    rintro id (same | same)
    · simp at same
    · injection same with same
      rw [← same]
      exact drafts.bound
  trains := by
    refine drafts.trains.mono ?_ (fun _ _ => rfl)
    intro name published
    exact entry_hidden _ rfl published
  named := by
    rw [setEntry_of_ne _ _ _ (by simp)]
    exact drafts.named
  fresh := by
    rintro ⟨name, published, shown⟩
    apply drafts.fresh ⟨name, published, _⟩
    unfold Shows at shown ⊢
    rwa [entry_hidden _ rfl published] at shown
  bound := drafts.bound

/-- What a kill during a save leaves. -/
def Spared
    (returned : Option (List Stamp))
    (process : CheckpointProcess Stamp)
    (visited : CheckpointDisk Stamp) : Prop :=
  visited.Sound returned ∧
    (process.preservePrevious = true ->
      visited.Holds .previous process.lineage)

theorem Drafts.spared
    (drafts : disk.Drafts returned process temporary) :
    disk.Spared returned process :=
  ⟨drafts.sound, drafts.trains.recovered⟩

/-- The directory after the temporary file has become `last`. -/
def publish
    (disk : CheckpointDisk Stamp)
    (temporary : Nat) : CheckpointDisk Stamp :=
  (disk.setEntry .last (some temporary)).setEntry (.part temporary) none

theorem publish_last
    (disk : CheckpointDisk Stamp)
    (temporary : Nat) : (disk.publish temporary).entry .last =
    some temporary := by
  unfold publish
  rw [entry_hidden _ rfl rfl, setEntry_self]

theorem publish_other
    (disk : CheckpointDisk Stamp)
    {temporary : Nat} {name : CheckpointName}
    (notLast : name ≠ .last)
    (notPart : name ≠ .part temporary) :
    (disk.publish temporary).entry name = disk.entry name := by
  unfold publish
  rw [setEntry_of_ne _ _ _ notPart, setEntry_of_ne _ _ _ notLast]

/-- The temporary file becomes `last`. -/
theorem Drafts.publish
    (drafts : disk.Drafts returned process temporary)
    (durable : disk.flushed temporary = true)
    (whole : disk.content temporary = .complete (process.lineage ++ [stamp])) :
    (disk.publish temporary).Spared returned process := by
  constructor
  · apply CheckpointDisk.Sound.setTemporary _ rfl (.inl rfl)
    apply drafts.sound.publish drafts.fresh drafts.bound durable whole
      (by simp)
    · intro inode earlier shown found
      exact (drafts.trains.continues drafts.sound shown found).trans
        (List.prefix_append _ _)
    · intro generation same
      exact (drafts.trains.keeps generation same).trans
        (List.prefix_append _ _)
  · intro preserves
    obtain ⟨inode, named, found⟩ := drafts.trains.recovered preserves
    exact ⟨inode, (publish_other disk (by simp) (by simp)).trans named, found⟩

theorem Spared.sync
    (spared : disk.Spared returned process) :
    disk.sync.Spared returned process :=
  ⟨spared.1.sync, spared.2⟩

/-- What a save leaves that has returned. -/
structure Saved
    (disk : CheckpointDisk Stamp)
    (process : CheckpointProcess Stamp)
    (lineage : List Stamp) : Prop where
  sound : disk.Sound (some lineage)
  last : disk.Holds .last lineage
  previous : process.preservePrevious = true ->
    disk.Holds .previous process.lineage

end CheckpointDisk

open CheckpointDisk

section Publish

variable {disk : CheckpointDisk Stamp}
variable {returned : Option (List Stamp)}
variable {process : CheckpointProcess Stamp}
variable {temporary : Nat} {stamp : Stamp}

theorem wp_link
    {post : Unit -> CheckpointDisk Stamp -> Prop}
    {fail : PyError -> CheckpointDisk Stamp -> Prop}
    {crash : CheckpointDisk Stamp -> Prop}
    {source target : CheckpointName} {inode : Nat}
    (found : disk.entry source = some inode)
    (absent : disk.entry target = none) :
    (link source target).wp post fail crash disk ↔
      crash (disk.setEntry target (some inode)) ∧
        post () (disk.setEntry target (some inode)) := by
  apply Program.wp_effect_ok
  simp [found, IsFile, absent]

theorem wp_replace
    {post : Unit -> CheckpointDisk Stamp -> Prop}
    {fail : PyError -> CheckpointDisk Stamp -> Prop}
    {crash : CheckpointDisk Stamp -> Prop}
    {source target : CheckpointName} {inode : Nat}
    (found : disk.entry source = some inode) :
    (replace source target).wp post fail crash disk ↔
      crash ((disk.setEntry target (some inode)).setEntry source none) ∧
        post () ((disk.setEntry target (some inode)).setEntry source none) := by
  apply Program.wp_effect_ok
  simp [found]

theorem wp_fsyncDirectory
    {post : Unit -> CheckpointDisk Stamp -> Prop}
    {fail : PyError -> CheckpointDisk Stamp -> Prop}
    {crash : CheckpointDisk Stamp -> Prop} :
    fsyncDirectory.wp post fail crash disk ↔
      crash disk.sync ∧ post () disk.sync :=
  Program.wp_commit _

/-- `previous` is rotated: the save of a trainer that did not recover, over
an existing `last`. -/
theorem publishCheckpoint_rotates
    {old : Nat}
    (drafts : disk.Drafts returned process temporary)
    (unlinked : disk.entry (.link temporary) = none)
    (rotates : process.preservePrevious = false)
    (named : disk.entry .last = some old)
    (durable : disk.flushed temporary = true)
    (whole : disk.content temporary =
      .complete (process.lineage ++ [stamp])) :
    (do
      link .last (.link temporary)
      replace (.part temporary) .last
      fsyncDirectory
      replace (.link temporary) .previous
      fsyncDirectory : CheckpointProgram Stamp Unit).wp
      (fun _ final => final.Saved process (process.lineage ++ [stamp]))
      (fun _ _ => False) (Spared returned process) disk := by
  have nonempty : process.lineage ≠ [] := by
    intro first
    have missing := (drafts.trains.fresh first).2.1
    simp [named] at missing
  have found : disk.content old = .complete process.lineage := by
    obtain ⟨inode, there, found⟩ := drafts.trains.resumed rotates nonempty
    rw [named] at there
    injection there with same
    rw [same]
    exact found
  have other : old ≠ temporary := by
    rintro rfl
    exact drafts.fresh ⟨.last, rfl, .inl named.symm⟩
  obtain ⟨bound, oldDurable⟩ :=
    drafts.sound.stored old ⟨.last, rfl, .inl named.symm⟩
  let linked := disk.setEntry (.link temporary) (some old)
  let published := (linked.publish temporary).sync
  let rotated := published.setEntry .previous (some old)
  let ended := rotated.setEntry (.link temporary) none
  have draftsLinked : linked.Drafts returned process temporary :=
    drafts.link (some old)
  have spares : (linked.publish temporary).Spared returned process :=
    draftsLinked.publish durable whole
  have lastNow : published.entry .last = some temporary :=
    publish_last linked temporary
  have previousNow : published.entry .previous = disk.entry .previous := by
    change (linked.publish temporary).entry .previous = _
    rw [publish_other linked (by simp) (by simp), entry_hidden disk rfl rfl]
  have soundRotated : rotated.Sound returned := by
    apply spares.sync.1.rotate lastNow lastNow whole other bound oldDurable
      found nonempty (List.prefix_append _ _)
    · intro inode earlier shown there
      refine drafts.trains.continues drafts.sound ?_ there
      left
      rw [← previousNow]
      exact shown.elim id id
    · exact drafts.trains.keeps
  have soundEnded : ended.Sound returned :=
    soundRotated.setTemporary rfl (.inl rfl)
  have lastEnded : ended.entry .last = some temporary := by
    change (rotated.setEntry (.link temporary) none).entry .last = _
    rw [entry_hidden rotated rfl rfl,
      setEntry_of_ne published _ _ (by simp), lastNow]
  have previousEnded : ended.entry .previous = some old := by
    change (rotated.setEntry (.link temporary) none).entry .previous = _
    rw [entry_hidden rotated rfl rfl]
    exact setEntry_self published _ _
  have linkNow : linked.entry (.link temporary) = some old :=
    setEntry_self disk _ _
  have partNow : linked.entry (.part temporary) = some temporary :=
    draftsLinked.named
  have linkPublished : published.entry (.link temporary) = some old := by
    change (linked.publish temporary).entry (.link temporary) = _
    rw [publish_other linked (by simp) (by simp), linkNow]
  rw [Program.wp_bind, wp_link named unlinked]
  refine ⟨draftsLinked.spared, ?_⟩
  rw [Program.wp_bind, wp_replace partNow]
  refine ⟨spares, ?_⟩
  rw [Program.wp_bind, wp_fsyncDirectory]
  refine ⟨spares.sync, ?_⟩
  rw [Program.wp_bind]
  refine (wp_replace linkPublished).mpr ⟨⟨soundEnded, ?_⟩, ?_⟩
  · simp [rotates]
  rw [wp_fsyncDirectory]
  refine ⟨⟨soundEnded.sync, by simp [rotates]⟩, ?_⟩
  refine ⟨?_, ⟨temporary, lastEnded, whole⟩, by simp [rotates]⟩
  apply soundEnded.sync.returns rfl lastEnded whole
  change (ended.entry .previous).map disk.content = _
  rw [previousEnded, Option.map_some, found, if_neg nonempty]

/-- `previous` stays: the first save of a lineage, and the first save after a
recovery. -/
theorem publishCheckpoint_keeps
    (drafts : disk.Drafts returned process temporary)
    (keeps : process.preservePrevious = true ∨ disk.entry .last = none)
    (durable : disk.flushed temporary = true)
    (whole : disk.content temporary =
      .complete (process.lineage ++ [stamp])) :
    (do
      replace (.part temporary) .last
      fsyncDirectory
      fsyncDirectory : CheckpointProgram Stamp Unit).wp
      (fun _ final => final.Saved process (process.lineage ++ [stamp]))
      (fun _ _ => False) (Spared returned process) disk := by
  let published := disk.publish temporary
  have spares : published.Spared returned process :=
    drafts.publish durable whole
  have lastNow : published.entry .last = some temporary :=
    publish_last disk temporary
  have previousNow : published.entry .previous = disk.entry .previous :=
    publish_other disk (by simp) (by simp)
  have previousContent : (disk.entry .previous).map disk.content =
      if process.lineage = [] then none
      else some (.complete process.lineage) := by
    split
    · rename_i first
      rw [(drafts.trains.fresh first).2.2]
      rfl
    · rename_i nonempty
      have preserves : process.preservePrevious = true := by
        rcases keeps with preserves | missing
        · exact preserves
        · by_contra rotates
          obtain ⟨inode, named, _⟩ := drafts.trains.resumed
            (by simpa using rotates) nonempty
          simp [missing] at named
      obtain ⟨inode, named, found⟩ := drafts.trains.recovered preserves
      rw [named, Option.map_some, found]
  rw [Program.wp_bind, wp_replace drafts.named]
  refine ⟨spares, ?_⟩
  rw [Program.wp_bind, wp_fsyncDirectory]
  refine ⟨spares.sync, ?_⟩
  rw [wp_fsyncDirectory]
  refine ⟨spares.sync.sync, ?_, ⟨temporary, lastNow, whole⟩, ?_⟩
  · apply spares.sync.sync.1.returns rfl lastNow whole
    change (published.entry .previous).map disk.content = _
    rw [previousNow, previousContent]
  · exact spares.2

/-- The directory after `mkstemp`. -/
def afterMkstemp (disk : CheckpointDisk Stamp) : CheckpointDisk Stamp :=
  { disk with
    entry := Function.update disk.entry (.part disk.nextInode)
      (some disk.nextInode)
    content := Function.update disk.content disk.nextInode .torn
    flushed := Function.update disk.flushed disk.nextInode false
    nextInode := disk.nextInode + 1 }

theorem afterMkstemp_entry
    {name : CheckpointName}
    (other : name ≠ .part disk.nextInode) :
    (afterMkstemp disk).entry name = disk.entry name :=
  Function.update_of_ne other _ _

theorem afterMkstemp_generation
    {name : CheckpointName}
    (published : name.isGeneration = true) :
    (afterMkstemp disk).entry name = disk.entry name := by
  apply afterMkstemp_entry
  rintro rfl
  simp [CheckpointName.isGeneration] at published

theorem drafts_afterMkstemp
    (sound : disk.Sound returned)
    (trains : disk.Trains returned process) :
    (afterMkstemp disk).Drafts returned process disk.nextInode := by
  have unstored (inode : Nat) (stored : disk.Stored inode) :
      inode ≠ disk.nextInode :=
    (sound.stored inode stored).1.ne
  have content (inode : Nat) (stored : disk.Stored inode) :
      (afterMkstemp disk).content inode = disk.content inode :=
    Function.update_of_ne (unstored inode stored) _ _
  constructor
  case sound =>
    refine sound.frame (fun _ => afterMkstemp_generation) (fun _ _ => rfl)
      content ?_ (Nat.le_succ _) ?_
    · intro inode stored
      exact Function.update_of_ne (unstored inode stored) _ _
    · intro id inode there
      change id < disk.nextInode + 1
      by_cases fresh : id = disk.nextInode
      · omega
      have before : id < disk.nextInode := by
        apply sound.numbered id inode
        apply there.imp
        · rintro (now | synced)
          · left
            rwa [afterMkstemp_entry (by simpa using fresh)] at now
          · exact .inr synced
        · rintro (now | synced)
          · left
            rwa [afterMkstemp_entry (by simp)] at now
          · exact .inr synced
      omega
  case trains =>
    exact trains.mono (fun _ => afterMkstemp_generation) content
  case named => exact Function.update_self _ _ _
  case fresh =>
    rintro ⟨name, published, shown⟩
    unfold Shows at shown
    rw [afterMkstemp_generation published] at shown
    exact unstored _ ⟨name, published, shown⟩ rfl
  case bound => exact Nat.lt_succ_self _

/-- `_atomic_torch_save`. -/
theorem atomicTorchSave_wp
    (sound : disk.Sound returned)
    (trains : disk.Trains returned process)
    (stamp : Stamp) :
    (atomicTorchSave (process.lineage ++ [stamp])
      process.preservePrevious).wp
      (fun _ final => final.Saved process (process.lineage ++ [stamp]))
      (fun _ _ => False) (Spared returned process) disk := by
  have drafts := drafts_afterMkstemp sound trains
  have written := drafts.writeFile (.complete (process.lineage ++ [stamp]))
  have flushed := written.flushFile true
  have unlinked : (afterMkstemp disk).entry (.link disk.nextInode) =
      none := by
    rw [afterMkstemp_entry (by simp)]
    cases named : disk.entry (.link disk.nextInode) with
    | none => rfl
    | some inode =>
        have bound := sound.numbered _ inode (.inr (.inl named.symm))
        omega
  have created :
      (mkstemp : CheckpointProgram Stamp Nat).wp
        (fun made final => made = disk.nextInode ∧ final = afterMkstemp disk)
        (fun _ _ => False) (Spared returned process) disk :=
    (Program.wp_effect_ok rfl).mpr ⟨drafts.spared, rfl, rfl⟩
  apply (Program.wp_bind _ _).mpr
  apply created.weaken
  rintro _ _ ⟨rfl, rfl⟩
  rw [Program.wp_tryCatch]
  apply Program.wp.mono _ (fun _ _ => id) (fun _ _ => False.elim)
    (fun _ => id)
  apply Program.wp_commit_bind written.spared
  apply Program.wp_commit_bind flushed.spared
  apply Program.wp_query_bind
  split
  · rename_i rotates
    simp only [Bool.and_eq_true, decide_eq_true_eq, Bool.not_eq_true']
      at rotates
    obtain ⟨old, named⟩ := Option.isSome_iff_exists.mp rotates.1
    exact publishCheckpoint_rotates flushed unlinked rotates.2 named
      (Function.update_self _ _ _) (Function.update_self _ _ _)
  · rename_i keeps
    refine publishCheckpoint_keeps flushed ?_ (Function.update_self _ _ _)
      (Function.update_self _ _ _)
    simp only [Bool.and_eq_true, decide_eq_true_eq, Bool.not_eq_true',
      not_and_or] at keeps
    rcases keeps with missing | preserves
    · right
      simpa [IsFile] using missing
    · left
      simpa using preserves

variable (steps : Stamp -> Nat)

/-- `Trainer.save_checkpoint`. -/
theorem saveCheckpoint_wp
    (sound : disk.Sound returned)
    (trains : disk.Trains returned process)
    (stamp : Stamp) :
    (saveCheckpoint steps process stamp).wp
      (fun next final =>
        if process.Skips steps stamp then next = process ∧ final = disk
        else next.lineage = process.lineage ++ [stamp] ∧
          next.preservePrevious = false ∧
            final.Saved process next.lineage)
      (fun _ _ => False) (Spared returned process) disk := by
  unfold saveCheckpoint
  split
  · rw [Program.wp_pure]
    exact ⟨rfl, rfl⟩
  · rw [Program.wp_bind]
    apply (atomicTorchSave_wp sound trains stamp).weaken
    intro _ final saved
    rw [Program.wp_pure]
    exact ⟨rfl, rfl, saved⟩

/-- The trainer after a save that has returned. -/
theorem CheckpointDisk.Saved.trains
    {next : CheckpointProcess Stamp}
    (saved : disk.Saved process next.lineage)
    (grown : next.lineage = process.lineage ++ [stamp])
    (rotates : next.preservePrevious = false) :
    disk.Trains (some next.lineage) next where
  recovered := by simp [rotates]
  resumed := fun _ _ => saved.last
  fresh := by simp [grown]
  keeps := by
    intro generation same
    rw [← Option.some.inj same]
  saved := fun _ _ => ⟨rotates, by simp [grown]⟩

end Publish

/-! ## Removing temporaries -/

namespace CheckpointDisk

/-- The directory without some names. -/
def without
    (disk : CheckpointDisk Stamp)
    (removed : List CheckpointName) : CheckpointDisk Stamp :=
  { disk with
    entry := fun name => if name ∈ removed then none else disk.entry name }

theorem without_nil (disk : CheckpointDisk Stamp) :
    disk.without [] = disk := by
  simp [without]

theorem without_append
    (disk : CheckpointDisk Stamp)
    (first second : List CheckpointName) :
    (disk.without first).without second = disk.without (first ++ second) := by
  unfold without
  congr 1
  ext name
  simp only [List.mem_append]
  by_cases inFirst : name ∈ first <;> by_cases inSecond : name ∈ second <;>
    simp [inFirst, inSecond]

theorem without_setEntry
    (disk : CheckpointDisk Stamp)
    (name : CheckpointName) :
    disk.setEntry name none = disk.without [name] := by
  unfold without setEntry
  congr 1
  ext other
  by_cases same : other = name <;> simp [same]

variable {disk : CheckpointDisk Stamp}
variable {returned : Option (List Stamp)}
variable {removed : List CheckpointName}

theorem without_generation
    {name : CheckpointName}
    (hidden : ∀ name ∈ removed, name.isTemporary = true)
    (published : name.isGeneration = true) :
    (disk.without removed).entry name = disk.entry name := by
  apply if_neg
  intro there
  have temporary := hidden name there
  rcases CheckpointName.eq_of_isGeneration published with rfl | rfl <;>
    simp [CheckpointName.isTemporary] at temporary

theorem Sound.without
    (sound : disk.Sound returned)
    (hidden : ∀ name ∈ removed, name.isTemporary = true) :
    (disk.without removed).Sound returned := by
  refine sound.frame (fun _ => without_generation hidden) (fun _ _ => rfl)
    (fun _ _ => rfl) (fun _ _ => rfl) (Nat.le_refl _) ?_
  have before (name : CheckpointName) (inode : Nat)
      (there : (disk.without removed).Shows name (some inode)) :
      disk.Shows name (some inode) := by
    rcases there with now | synced
    · left
      unfold CheckpointDisk.without at now
      dsimp only at now
      split at now
      · simp at now
      · exact now
    · exact .inr synced
  intro id inode there
  exact sound.numbered id inode (there.imp (before _ _) (before _ _))

end CheckpointDisk

section Reconcile

variable {disk : CheckpointDisk Stamp}

/-- Unlinking files one by one. -/
theorem unlinkAll_wp
    {candidates : List CheckpointName}
    (files : ∀ name ∈ candidates, disk.IsFile name)
    (distinct : candidates.Nodup) :
    (Program.forEach candidates unlink : CheckpointProgram Stamp Unit).wp
      (fun _ final => final = disk.without candidates)
      (fun _ _ => False)
      (fun visited => ∃ removed, removed ⊆ candidates ∧
        visited = disk.without removed) disk := by
  apply Program.wp.weaken
    (Program.wp_forEach
      (fun remaining current => ∃ removed,
        removed ++ remaining = candidates ∧
          current = disk.without removed)
      ⟨[], rfl, disk.without_nil.symm⟩ ?_)
  · rintro _ _ ⟨removed, all, rfl⟩
    rw [List.append_nil] at all
    rw [all]
  · rintro name rest current _ ⟨removed, all, rfl⟩
    have there : name ∈ candidates := by
      rw [← all]
      simp
    have notYet : name ∉ removed := by
      rw [← all] at distinct
      intro already
      exact (List.nodup_append'.mp distinct).2.2 already (by simp)
    have isFile : (disk.without removed).IsFile name := by
      unfold IsFile
      change (if name ∈ removed then none else disk.entry name).isSome = true
      rw [if_neg notYet]
      exact files name there
    have final : (disk.without removed).setEntry name none =
        disk.without (removed ++ [name]) := by
      rw [without_setEntry, without_append]
    have succeeds :
        (if (disk.without removed).IsFile name then
          (.ok ((disk.without removed).setEntry name none, ()) :
            Except PyError (CheckpointDisk Stamp × Unit))
        else .error (.fileNotFoundError "No such file")) =
          .ok (disk.without (removed ++ [name]), ()) := by
      rw [if_pos isFile, final]
    apply (Program.wp_effect_ok succeeds).mpr
    have whole : removed ++ [name] ++ rest = candidates := by
      rw [← all]
      simp
    refine ⟨⟨removed ++ [name], ?_, rfl⟩, ⟨removed ++ [name], whole, rfl⟩⟩
    rw [← whole]
    exact List.subset_append_left _ _

theorem removeMatches_wp
    {pattern : Nat -> CheckpointName}
    (injective : Function.Injective pattern) :
    (removeMatches pattern :
      CheckpointProgram Stamp (List CheckpointName)).wp
      (fun removed final => final = disk.without removed ∧
        ∀ name, name ∈ removed ↔
          disk.IsFile name ∧ ∃ id, id < disk.nextInode ∧ pattern id = name)
      (fun _ _ => False)
      (fun visited => ∃ removed,
        (∀ name ∈ removed, ∃ id, pattern id = name) ∧
          visited = disk.without removed) disk := by
  apply Program.wp_query_bind
  generalize listed : ((List.range disk.nextInode).map pattern).filter
    (fun candidate => decide (disk.IsFile candidate)) = candidates
  have member (name : CheckpointName) : name ∈ candidates ↔
      disk.IsFile name ∧ ∃ id, id < disk.nextInode ∧ pattern id = name := by
    rw [← listed, List.mem_filter, List.mem_map, and_comm]
    simp
  have distinct : candidates.Nodup := by
    rw [← listed]
    exact (List.Nodup.map injective List.nodup_range).filter _
  rw [Program.wp_bind]
  apply (unlinkAll_wp (fun name there => ((member name).mp there).1)
    distinct).mono
  · rintro _ _ rfl
    rw [Program.wp_pure]
    exact ⟨rfl, member⟩
  · exact fun _ _ => False.elim
  · rintro _ ⟨removed, among, rfl⟩
    refine ⟨removed, ?_, rfl⟩
    intro name there
    obtain ⟨_, id, _, named⟩ := (member name).mp (among there)
    exact ⟨id, named⟩

/-- What the removal of temporaries may have done to a directory. -/
def Reconciling (before visited : CheckpointDisk Stamp) : Prop :=
  ∃ removed, (∀ name ∈ removed, name.isTemporary = true) ∧
    (visited = before.without removed ∨
      visited = (before.without removed).sync)

/-- The removal of temporaries has ended. -/
structure Reconciled
    (before : CheckpointDisk Stamp)
    (removed : List CheckpointName)
    (after : CheckpointDisk Stamp) : Prop where
  removed_iff : ∀ name, name ∈ removed ↔
    name.isTemporary = true ∧ before.IsFile name
  after_eq : after = before.without removed ∨
    after = (before.without removed).sync

/-- Every temporary name is gone, and no other. -/
theorem Reconciled.entry
    {before after : CheckpointDisk Stamp} {removed : List CheckpointName}
    (reconciled : Reconciled before removed after)
    (name : CheckpointName) :
    after.entry name =
      if name.isTemporary = true then none else before.entry name := by
  have entry : after.entry name = (before.without removed).entry name := by
    rcases reconciled.after_eq with same | same <;> rw [same]
    rfl
  rw [entry]
  change (if name ∈ removed then none else before.entry name) = _
  by_cases hidden : name.isTemporary = true
  · rw [if_pos hidden]
    split
    · rfl
    · rename_i stays
      rw [reconciled.removed_iff, not_and] at stays
      simpa [IsFile] using stays hidden
  · rw [if_neg hidden, if_neg]
    rw [reconciled.removed_iff]
    exact fun there => hidden there.1

theorem CheckpointDisk.Sound.numbered_entry
    {returned : Option (List Stamp)}
    (sound : disk.Sound returned) (id inode : Nat)
    (named : disk.entry (.part id) = some inode ∨
      disk.entry (.link id) = some inode) : id < disk.nextInode :=
  sound.numbered id inode (named.imp (.inl ·.symm) (.inl ·.symm))

theorem reconcileCheckpointTemporaries_wp
    (numbered : ∀ id inode, disk.entry (.part id) = some inode ∨
      disk.entry (.link id) = some inode -> id < disk.nextInode) :
    (reconcileCheckpointTemporaries :
      CheckpointProgram Stamp (List CheckpointName)).wp
      (fun removed final => Reconciled disk removed final)
      (fun _ _ => False) (Reconciling disk) disk := by
  unfold reconcileCheckpointTemporaries
  rw [Program.wp_bind]
  apply (removeMatches_wp (fun _ _ => by simp)).mono
  · rintro parts _ ⟨rfl, isPart⟩
    have partsHidden : ∀ name ∈ parts, name.isTemporary = true := by
      intro name there
      obtain ⟨_, id, _, rfl⟩ := (isPart name).mp there
      rfl
    have linkFile (id : Nat) :
        (disk.without parts).IsFile (.link id) ↔ disk.IsFile (.link id) := by
      unfold IsFile CheckpointDisk.without
      dsimp only
      rw [if_neg]
      intro there
      obtain ⟨_, _, _, named⟩ := (isPart _).mp there
      simp at named
    have linkPattern : Function.Injective CheckpointName.link :=
      fun _ _ => by simp
    rw [Program.wp_bind]
    apply (removeMatches_wp linkPattern).mono
    · rintro links _ ⟨rfl, isLink⟩
      have removed_iff (name : CheckpointName) : name ∈ parts ++ links ↔
          name.isTemporary = true ∧ disk.IsFile name := by
        rw [List.mem_append, isPart, isLink]
        constructor
        · rintro (⟨isFile, id, _, rfl⟩ | ⟨isFile, id, _, rfl⟩)
          · exact ⟨rfl, isFile⟩
          · exact ⟨rfl, (linkFile id).mp isFile⟩
        · rintro ⟨hidden, isFile⟩
          obtain ⟨inode, named⟩ := Option.isSome_iff_exists.mp isFile
          cases name with
          | part id =>
              have bound := numbered id inode (.inl named)
              exact .inl ⟨isFile, id, bound, rfl⟩
          | link id =>
              have bound := numbered id inode (.inr named)
              exact .inr ⟨(linkFile id).mpr isFile, id, bound, rfl⟩
          | _ => simp [CheckpointName.isTemporary] at hidden
      have hidden (name : CheckpointName) (there : name ∈ parts ++ links) :
          name.isTemporary = true :=
        ((removed_iff name).mp there).1
      split
      · rw [Program.wp_bind, wp_fsyncDirectory, Program.wp_pure,
          without_append]
        exact ⟨⟨_, hidden, .inr rfl⟩, removed_iff, .inr rfl⟩
      · apply (Program.wp_pure _).mpr
        rw [without_append]
        exact ⟨removed_iff, .inl rfl⟩
    · exact fun _ _ => False.elim
    · rintro _ ⟨removed, links, rfl⟩
      refine ⟨parts ++ removed, ?_, .inl (without_append _ _ _)⟩
      intro name there
      rcases List.mem_append.mp there with isPart | isLink
      · exact partsHidden name isPart
      · obtain ⟨id, rfl⟩ := links name isLink
        rfl
  · exact fun _ _ => False.elim
  · rintro _ ⟨removed, parts, rfl⟩
    refine ⟨removed, ?_, .inl rfl⟩
    intro name there
    obtain ⟨id, rfl⟩ := parts name there
    rfl

end Reconcile

/-! ## Starting a run -/

section Start

variable {disk : CheckpointDisk Stamp}
variable {returned : Option (List Stamp)}
variable (steps : Stamp -> Nat)

/-- Two directories hold the same generations. -/
structure SameGenerations (before after : CheckpointDisk Stamp) : Prop where
  entry : ∀ name, name.isGeneration = true ->
    after.entry name = before.entry name
  content : after.content = before.content

theorem Reconciling.sound
    {before visited : CheckpointDisk Stamp}
    (reconciling : Reconciling before visited)
    (sound : before.Sound returned) : visited.Sound returned := by
  obtain ⟨removed, hidden, rfl | rfl⟩ := reconciling
  · exact sound.without hidden
  · exact (sound.without hidden).sync

theorem Reconciled.reconciling
    {before after : CheckpointDisk Stamp} {removed : List CheckpointName}
    (reconciled : Reconciled before removed after) :
    Reconciling before after :=
  ⟨removed, fun name there => ((reconciled.removed_iff name).mp there).1,
    reconciled.after_eq⟩

theorem Reconciling.same
    {before visited : CheckpointDisk Stamp}
    (reconciling : Reconciling before visited) :
    SameGenerations before visited := by
  obtain ⟨removed, hidden, rfl | rfl⟩ := reconciling <;>
    exact ⟨fun _ => without_generation hidden, rfl⟩

/-- The lock file changes no generation. -/
theorem acquireCheckpointLease_wp
    (sound : disk.Sound returned) :
    (acquireCheckpointLease : CheckpointProgram Stamp Unit).wp
      (fun _ final => final.Sound returned ∧ SameGenerations disk final)
      (fun _ _ => False) (fun visited => visited.Sound returned) disk := by
  unfold acquireCheckpointLease
  rw [Program.wp_commit]
  cases locked : disk.entry .lock with
  | some inode => exact ⟨sound, sound, fun _ _ => rfl, rfl⟩
  | none =>
      have other (name : CheckpointName) (differ : name ≠ .lock) :
          Function.update disk.entry .lock (some disk.nextInode) name =
            disk.entry name :=
        Function.update_of_ne differ _ _
      have generation (name : CheckpointName)
          (published : name.isGeneration = true) :
          Function.update disk.entry .lock (some disk.nextInode) name =
            disk.entry name := by
        apply other
        rintro rfl
        simp [CheckpointName.isGeneration] at published
      have lockedSound : ({ disk with
          entry := Function.update disk.entry .lock (some disk.nextInode)
          nextInode := disk.nextInode + 1 } :
            CheckpointDisk Stamp).Sound returned := by
        refine sound.frame generation (fun _ _ => rfl) (fun _ _ => rfl)
          (fun _ _ => rfl) (Nat.le_succ _) ?_
        intro id inode there
        apply Nat.lt_succ_of_lt
        apply sound.numbered id inode
        simpa [Shows, other] using there
      exact ⟨lockedSound, lockedSound, generation, rfl⟩

/-- The generation whose save has returned, for a run that starts from a
lineage. -/
def returnedBefore
    (returned : Option (List Stamp))
    (lineage : List Stamp) : Option (List Stamp) :=
  returned.map (·.take lineage.length)

/-- A trainer that starts without a checkpoint. -/
theorem trains_new
    (sound : disk.Sound returned)
    (noLast : disk.entry .last = none)
    (noPrevious : disk.entry .previous = none) :
    disk.Sound (returnedBefore returned []) ∧
      disk.Trains (returnedBefore returned []) ⟨[], false, none⟩ := by
  have nothing : returned = none := by
    cases known : returned with
    | none => rfl
    | some generation =>
        apply absurd _ ((sound.standing _ _ .now .now).last_exists
          generation known)
        rw [noLast]
        rfl
  subst nothing
  refine ⟨sound, ?_⟩
  constructor
  case recovered => simp
  case resumed => simp
  case fresh => exact fun _ => ⟨rfl, noLast, noPrevious⟩
  case keeps => simp [returnedBefore]
  case saved => simp

/-- A trainer that resumes from `last`. -/
theorem trains_last
    {lineage : List Stamp} {inode : Nat}
    (sound : disk.Sound returned)
    (named : disk.entry .last = some inode)
    (whole : disk.content inode = .complete lineage)
    (lastCheckpoint : Option (CheckpointName × Nat)) :
    disk.Sound (returnedBefore returned lineage) ∧
      disk.Trains (returnedBefore returned lineage)
        ⟨lineage, false, lastCheckpoint⟩ := by
  have standing := sound.standing _ _ .now .now
  rw [named, Option.map_some, whole] at standing
  have nonempty : lineage ≠ [] := by
    rcases standing.last_whole _ rfl with damaged | ⟨found, nonempty, same⟩
    · simp at damaged
    · injection same with same
      rw [same]
      exact nonempty
  have kept : returnedBefore returned lineage = returned := by
    cases known : returned with
    | none => rfl
    | some generation =>
        have within := standing.last_keeps generation lineage known rfl
        change some (generation.take _) = _
        rw [List.take_of_length_le within.length_le]
  rw [kept]
  refine ⟨sound, ?_⟩
  constructor
  case recovered => simp
  case resumed => exact fun _ _ => ⟨inode, named, whole⟩
  case fresh => exact fun first => absurd first nonempty
  case keeps =>
    intro generation known
    exact standing.last_keeps generation lineage known rfl
  case saved => exact fun _ _ => ⟨rfl, nonempty⟩

/-- A trainer that recovers from `previous`. -/
theorem trains_previous
    {lineage : List Stamp} {inode : Nat}
    (sound : disk.Sound returned)
    (named : disk.entry .previous = some inode)
    (whole : disk.content inode = .complete lineage)
    (lastCheckpoint : Option (CheckpointName × Nat))
    (loaded : ∀ step, lastCheckpoint ≠ some (.last, step)) :
    disk.Sound (returnedBefore returned lineage) ∧
      disk.Trains (returnedBefore returned lineage)
        ⟨lineage, true, lastCheckpoint⟩ := by
  have standing := sound.standing _ _ .now .now
  rw [named, Option.map_some, whole] at standing
  have nonempty : lineage ≠ [] := by
    obtain ⟨found, nonempty, same⟩ := standing.previous_whole _ rfl
    injection same with same
    rw [same]
    exact nonempty
  have kept : disk.Sound (returnedBefore returned lineage) ∧
      ∀ generation, returnedBefore returned lineage = some generation ->
        generation <+: lineage := by
    cases known : returned with
    | none =>
        rw [known] at sound
        exact ⟨sound, by simp [returnedBefore]⟩
    | some generation =>
        rw [known] at sound
        rcases standing.previous_keeps generation lineage known rfl with
          within | dropped
        · have same : returnedBefore (some generation) lineage =
              some generation := by
            change some (generation.take _) = _
            rw [List.take_of_length_le within.length_le]
          rw [same]
          refine ⟨sound, ?_⟩
          intro other same
          rw [← Option.some.inj same]
          exact within
        · have same : returnedBefore (some generation) lineage =
              some generation.dropLast := by
            change some (generation.take _) = _
            rw [dropped, List.length_dropLast, ← List.dropLast_eq_take]
          rw [same]
          refine ⟨sound.dropLast (dropped ▸ nonempty), ?_⟩
          intro other same
          rw [← Option.some.inj same, dropped]
  refine ⟨kept.1, ?_⟩
  constructor
  case recovered => exact fun _ => ⟨inode, named, whole⟩
  case resumed => simp
  case fresh => exact fun first => absurd first nonempty
  case keeps => exact kept.2
  case saved =>
    intro step same
    exact absurd same (loaded step)

/-- A name is read when it is a complete generation. -/
theorem readCheckpoint_ok
    {name : CheckpointName} {lineage : List Stamp} :
    readCheckpoint name disk = .ok lineage ↔ disk.Holds name lineage := by
  unfold readCheckpoint Holds
  cases disk.entry name with
  | none => simp
  | some inode => cases whole : disk.content inode <;> simp [whole]

/-- `Trainer.load_checkpoint` of a name. -/
theorem loadCheckpoint_wp
    (name : CheckpointName)
    (crash : CheckpointDisk Stamp -> Prop) :
    (loadCheckpoint steps name).wp
      (fun process final => final = disk ∧ ∃ inode lineage,
        disk.entry name = some inode ∧
          disk.content inode = .complete lineage ∧
            process = ⟨lineage, decide (name = .previous),
              lineage.getLast?.map fun stamp => (name, steps stamp)⟩)
      (fun _ final => final = disk) crash disk := by
  unfold loadCheckpoint
  rw [Program.wp_bind, Program.wp_inspect]
  cases read : readCheckpoint name disk with
  | error error => rfl
  | ok lineage =>
      obtain ⟨inode, named, whole⟩ := readCheckpoint_ok.mp read
      change (pure _ : CheckpointProgram Stamp _).wp _ _ _ _
      rw [Program.wp_pure]
      exact ⟨rfl, inode, lineage, named, whole, rfl⟩

/-- The start of a run. -/
theorem startRun_wp
    (sound : disk.Sound returned)
    (start : CheckpointStart) :
    (startRun steps start).wp
      (fun process final =>
        final.Sound (returnedBefore returned process.lineage) ∧
          final.Trains (returnedBefore returned process.lineage) process)
      (fun _ final => final.Sound returned)
      (fun visited => visited.Sound returned) disk := by
  unfold startRun
  rw [Program.wp_bind, Program.wp_inspect]
  cases checked : checkStart start disk with
  | error error => exact sound
  | ok _ =>
      rw [Program.wp_bind]
      apply (acquireCheckpointLease_wp sound).mono _
        (fun _ _ => False.elim) (fun _ => id)
      rintro _ leased ⟨leasedSound, sameLeased⟩
      rw [Program.wp_bind]
      apply (reconcileCheckpointTemporaries_wp
        leasedSound.numbered_entry).mono _
        (fun _ _ => False.elim)
        (fun _ reconciling => reconciling.sound leasedSound)
      intro _ final reconciled
      have finalSound := reconciled.reconciling.sound leasedSound
      have entry (name : CheckpointName)
          (published : name.isGeneration = true) :
          final.entry name = disk.entry name :=
        (reconciled.reconciling.same.entry name published).trans
          (sameLeased.entry name published)
      cases start with
      | new =>
          obtain ⟨⟨noLast, noPrevious⟩, _⟩ :=
            require_then_eq_ok.mp checked
          rw [Program.wp_pure]
          apply trains_new finalSound
          · rw [entry .last rfl]
            simpa [IsFile] using noLast
          · rw [entry .previous rfl]
            simpa [IsFile] using noPrevious
      | resumeLast =>
          apply (loadCheckpoint_wp steps .last _).mono _ _ (fun _ => id)
          · rintro _ _ ⟨rfl, inode, lineage, named, whole, rfl⟩
            exact trains_last finalSound named whole _
          · rintro _ _ rfl
            exact finalSound
      | recoverPrevious =>
          apply (loadCheckpoint_wp steps .previous _).mono _ _ (fun _ => id)
          · rintro _ _ ⟨rfl, inode, lineage, named, whole, rfl⟩
            apply trains_previous finalSound named whole
            intro step
            cases lineage.getLast? <;> simp
          · rintro _ _ rfl
            exact finalSound

end Start

end CodingLlm
