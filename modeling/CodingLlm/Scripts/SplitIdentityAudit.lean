import CodingLlm.Library.JsonTrees
import CodingLlm.Library.Table
import CodingLlm.Pretrain.Format
import Mathlib.Data.Finset.Card
import Mathlib.Data.String.Basic

/-!
# The audit of split identities

`_SplitIdentityAudit` unites, for every source and every source group, the
splits that its documents are in.  Identities are gathered in a bounded batch
and merged into a table; an identity is the hexadecimal text of its digest.
-/

namespace CodingLlm
namespace CorpusQualification

/-- `IDENTITY_KINDS`. -/
inductive IdentityKind
  | source
  | splitGroup
  deriving DecidableEq

/-- `list(IDENTITY_KINDS)`. -/
def IdentityKind.all : List IdentityKind := [.source, .splitGroup]

/-- `SPLIT_MASKS`. -/
def splitMask : Split -> Nat
  | .train => 1
  | .validation => 2
  | .test => 4

/-- The state of a `_SplitIdentityAudit`: the table, the batch and the counts
of what was added. -/
structure SplitIdentityAudit where
  batchRows : Nat
  identities : IdentityKind -> Table String Nat
  pending : IdentityKind -> Table String Nat
  occurrences : IdentityKind -> Nat

/-- An identity that is added in a split. -/
structure IdentityEntry where
  kind : IdentityKind
  identity : String
  split : Split

/-- `masks[identity] = masks.get(identity, 0) | mask`. -/
def uniteMask (masks : Table String Nat) (row : String × Nat) :
    Table String Nat :=
  masks.upsert row.1 ((masks.lookup row.1).getD 0 ||| row.2)

namespace SplitIdentityAudit

/-- `_SplitIdentityAudit(path, batch_rows=batch_rows)`. -/
def start (batchRows : Nat) : SplitIdentityAudit :=
  ⟨batchRows, fun _ => .empty, fun _ => .empty, fun _ => 0⟩

variable (audit : SplitIdentityAudit)

/-- `len(self.pending)`. -/
def pendingRows : Nat :=
  (audit.pending .source).rows.length +
    (audit.pending .splitGroup).rows.length

/-- `_SplitIdentityAudit.flush`. -/
def flush : SplitIdentityAudit :=
  if audit.pendingRows = 0 then audit
  else { audit with
    identities := fun kind =>
      (audit.pending kind).rows.foldl uniteMask (audit.identities kind)
    pending := fun _ => .empty }

/-- `_SplitIdentityAudit.add`, before the batch is looked at. -/
def gather (entry : IdentityEntry) : SplitIdentityAudit :=
  { audit with
    occurrences := Function.update audit.occurrences entry.kind
      (audit.occurrences entry.kind + 1)
    pending := Function.update audit.pending entry.kind
      (uniteMask (audit.pending entry.kind)
        (entry.identity, splitMask entry.split)) }

/-- `_SplitIdentityAudit.add`. -/
def add (entry : IdentityEntry) : SplitIdentityAudit :=
  if audit.batchRows ≤ (audit.gather entry).pendingRows then
    (audit.gather entry).flush
  else audit.gather entry

end SplitIdentityAudit

/-- `(split_mask & (split_mask - 1)) != 0`. -/
def Collides (mask : Nat) : Prop := mask &&& (mask - 1) ≠ 0

instance (mask : Nat) : Decidable (Collides mask) :=
  inferInstanceAs (Decidable (_ ≠ _))

/-- An identity in several splits. -/
structure CollisionExample where
  identityHex : String
  splits : List Split

/-- What `_SplitIdentityAudit.finish` returns. -/
structure SplitIdentitySummary where
  identityOccurrences : IdentityKind -> Nat
  uniqueIdentities : IdentityKind -> Nat
  crossSplitCollisions : IdentityKind -> Nat
  collisionExamples : IdentityKind -> List CollisionExample
  scratchDatabaseBytes : Nat

/-- `_SplitIdentityAudit.finish`, with the size of the database. -/
def SplitIdentityAudit.finish
    (audit : SplitIdentityAudit) (exampleLimit databaseBytes : Nat) :
    SplitIdentitySummary :=
  let rows kind := (audit.flush.identities kind).rows
  let colliding kind := (rows kind).filter fun row => Collides row.2
  { identityOccurrences := audit.flush.occurrences
    uniqueIdentities := fun kind => (rows kind).length
    crossSplitCollisions := fun kind => (colliding kind).length
    collisionExamples := fun kind =>
      ((colliding kind).take exampleLimit).map fun row =>
        ⟨row.1, Split.all.filter fun split => row.2 &&& splitMask split ≠ 0⟩
    scratchDatabaseBytes := databaseBytes }

/-! ## Masks -/

/-- The union of the masks of some splits. -/
def maskOf (splits : List Split) : Nat :=
  splits.foldl (fun mask split => mask ||| splitMask split) 0

@[simp] theorem maskOf_nil : maskOf [] = 0 := rfl

theorem maskOf_append_singleton (splits : List Split) (split : Split) :
    maskOf (splits ++ [split]) = maskOf splits ||| splitMask split := by
  rw [maskOf, List.foldl_append]
  rfl

/-- A mask has one bit for each split that is in the list. -/
theorem maskOf_eq (splits : List Split) :
    maskOf splits =
      (if .train ∈ splits then 1 else 0) |||
        (if .validation ∈ splits then 2 else 0) |||
          (if .test ∈ splits then 4 else 0) := by
  induction splits using List.reverseRecOn with
  | nil => rfl
  | append_singleton splits split inductionHypothesis =>
      rw [maskOf_append_singleton, inductionHypothesis]
      simp only [List.mem_append, List.mem_singleton]
      by_cases first : Split.train ∈ splits <;>
        by_cases second : Split.validation ∈ splits <;>
          by_cases third : Split.test ∈ splits <;>
            cases split <;> simp [first, second, third, splitMask]

/-- A mask collides exactly when two of its splits differ. -/
theorem collides_maskOf (splits : List Split) :
    Collides (maskOf splits) ↔
      ∃ first ∈ splits, ∃ second ∈ splits, first ≠ second := by
  constructor
  · intro collides
    rw [maskOf_eq] at collides
    by_cases first : Split.train ∈ splits <;>
      by_cases second : Split.validation ∈ splits <;>
        by_cases third : Split.test ∈ splits <;>
          simp only [first, second, third, if_true, if_false, Collides]
            at collides
    · exact ⟨_, first, _, second, by decide⟩
    · exact ⟨_, first, _, second, by decide⟩
    · exact ⟨_, first, _, third, by decide⟩
    · exact absurd collides (by decide)
    · exact ⟨_, second, _, third, by decide⟩
    · exact absurd collides (by decide)
    · exact absurd collides (by decide)
    · exact absurd collides (by decide)
  · rintro ⟨first, isFirst, second, isSecond, different⟩
    rw [maskOf_eq]
    cases first <;> cases second <;>
      first
      | exact absurd rfl different
      | (simp only [isFirst, isSecond, if_true]
         split_ifs <;> decide)

/-! ## Merging -/

/-- The mask of an identity in a table of masks. -/
def maskAt (masks : Table String Nat) (identity : String) : Nat :=
  (masks.lookup identity).getD 0

theorem maskAt_uniteMask
    (masks : Table String Nat) (row : String × Nat) (identity : String) :
    maskAt (uniteMask masks row) identity =
      if identity = row.1 then maskAt masks identity ||| row.2
      else maskAt masks identity := by
  unfold maskAt uniteMask
  rw [Table.lookup_upsert]
  by_cases same : identity = row.1
  · simp [same]
  · simp [same]

theorem mem_keys_uniteMask
    {masks : Table String Nat} {row : String × Nat} {identity : String} :
    identity ∈ (uniteMask masks row).keys ↔
      identity = row.1 ∨ identity ∈ masks.keys := by
  simp only [Table.mem_keys_iff, uniteMask, Table.lookup_upsert]
  by_cases same : identity = row.1
  · simp [same]
  · simp [same]

theorem maskAt_foldl_of_notMem
    {rows : List (String × Nat)} {identity : String}
    (absent : identity ∉ rows.map Prod.fst)
    (masks : Table String Nat) :
    maskAt (rows.foldl uniteMask masks) identity = maskAt masks identity := by
  induction rows generalizing masks with
  | nil => rfl
  | cons row rows inductionHypothesis =>
      rw [List.map_cons, List.mem_cons, not_or] at absent
      rw [List.foldl_cons, inductionHypothesis absent.2, maskAt_uniteMask,
        if_neg absent.1]

/-- Merging a batch into a table unites their masks. -/
theorem maskAt_merge
    (masks batch : Table String Nat) (identity : String) :
    maskAt (batch.rows.foldl uniteMask masks) identity =
      maskAt masks identity ||| maskAt batch identity := by
  obtain ⟨rows, sorted⟩ := batch
  induction rows generalizing masks with
  | nil => exact (Nat.or_zero _).symm
  | cons row rows inductionHypothesis =>
      have below := (List.pairwise_cons.mp sorted).1
      have rest := (List.pairwise_cons.mp sorted).2
      by_cases same : row.1 = identity
      · have absent : identity ∉ rows.map Prod.fst := by
          intro member
          obtain ⟨other, inRest, equal⟩ := List.mem_map.mp member
          exact (below other inRest).ne (same.trans equal.symm)
        have found : maskAt ⟨row :: rows, sorted⟩ identity = row.2 := by
          simp [maskAt, Table.lookup, same]
        rw [found, List.foldl_cons, maskAt_foldl_of_notMem absent,
          maskAt_uniteMask, if_pos same.symm]
      · have found : maskAt ⟨row :: rows, sorted⟩ identity =
            maskAt ⟨rows, rest⟩ identity := by
          simp [maskAt, Table.lookup, same]
        rw [found, List.foldl_cons]
        have merged := inductionHypothesis (uniteMask masks row) rest
        rw [maskAt_uniteMask, if_neg (Ne.symm same)] at merged
        exact merged

theorem mem_keys_merge
    {rows : List (String × Nat)} {masks : Table String Nat}
    {identity : String} :
    identity ∈ (rows.foldl uniteMask masks).keys ↔
      identity ∈ masks.keys ∨ identity ∈ rows.map Prod.fst := by
  induction rows generalizing masks with
  | nil => simp
  | cons row rows inductionHypothesis =>
      rw [List.foldl_cons, inductionHypothesis, mem_keys_uniteMask,
        List.map_cons, List.mem_cons]
      tauto

/-! ## What an audit has seen -/

/-- The identities of a kind among some entries. -/
def identitiesOf (entries : List IdentityEntry) (kind : IdentityKind) :
    List String :=
  (entries.filter fun entry => entry.kind = kind).map IdentityEntry.identity

/-- The splits that an identity is in. -/
def splitsOf
    (entries : List IdentityEntry) (kind : IdentityKind)
    (identity : String) : List Split :=
  (entries.filter fun entry =>
    entry.kind = kind ∧ entry.identity = identity).map IdentityEntry.split

/-- An audit that has seen some entries. -/
structure SplitIdentityAudit.Saw
    (audit : SplitIdentityAudit) (entries : List IdentityEntry) : Prop where
  occurrences : ∀ kind,
    audit.occurrences kind = (identitiesOf entries kind).length
  keys : ∀ kind identity,
    identity ∈ (audit.identities kind).keys ∨
        identity ∈ (audit.pending kind).keys ↔
      identity ∈ identitiesOf entries kind
  masks : ∀ kind identity,
    maskAt (audit.identities kind) identity |||
        maskAt (audit.pending kind) identity =
      maskOf (splitsOf entries kind identity)

variable {audit : SplitIdentityAudit} {entries : List IdentityEntry}

theorem saw_start (batchRows : Nat) :
    (SplitIdentityAudit.start batchRows).Saw [] where
  occurrences _ := rfl
  keys _ _ := by simp [SplitIdentityAudit.start, identitiesOf, Table.keys,
    Table.empty]
  masks _ _ := by simp [SplitIdentityAudit.start, maskAt, Table.lookup,
    Table.empty, splitsOf]

theorem SplitIdentityAudit.Saw.gather
    (saw : audit.Saw entries) (entry : IdentityEntry) :
    (audit.gather entry).Saw (entries ++ [entry]) := by
  constructor
  case occurrences =>
    intro kind
    have before := saw.occurrences kind
    by_cases same : entry.kind = kind
    · subst same
      simp [SplitIdentityAudit.gather, identitiesOf, before]
    · simp [SplitIdentityAudit.gather, identitiesOf, before, same,
        Function.update_of_ne (Ne.symm same)]
  case keys =>
    intro kind identity
    have before := saw.keys kind identity
    by_cases same : entry.kind = kind
    · subst same
      have added : identity ∈ identitiesOf (entries ++ [entry]) entry.kind ↔
          identity ∈ identitiesOf entries entry.kind ∨
            identity = entry.identity := by
        simp [identitiesOf]
      rw [added, ← before]
      simp only [SplitIdentityAudit.gather, Function.update_self,
        mem_keys_uniteMask]
      tauto
    · have kept : identitiesOf (entries ++ [entry]) kind =
          identitiesOf entries kind := by
        simp [identitiesOf, same]
      rw [kept, ← before]
      simp only [SplitIdentityAudit.gather,
        Function.update_of_ne (Ne.symm same)]
  case masks =>
    intro kind identity
    have before := saw.masks kind identity
    by_cases same : entry.kind = kind
    · subst same
      simp only [SplitIdentityAudit.gather, Function.update_self,
        maskAt_uniteMask]
      by_cases equal : identity = entry.identity
      · have added : splitsOf (entries ++ [entry]) entry.kind identity =
            splitsOf entries entry.kind identity ++ [entry.split] := by
          simp [splitsOf, equal]
        rw [if_pos equal, added, maskOf_append_singleton, ← before,
          Nat.or_assoc]
      · have kept : splitsOf (entries ++ [entry]) entry.kind identity =
            splitsOf entries entry.kind identity := by
          simp [splitsOf, Ne.symm equal]
        rw [if_neg equal, kept, before]
    · have kept : splitsOf (entries ++ [entry]) kind identity =
          splitsOf entries kind identity := by
        simp [splitsOf, same]
      rw [kept, ← before]
      simp only [SplitIdentityAudit.gather,
        Function.update_of_ne (Ne.symm same)]

/-- After a flush nothing is pending. -/
theorem keys_pending_flush (audit : SplitIdentityAudit)
    (kind : IdentityKind) : (audit.flush.pending kind).keys = [] := by
  unfold SplitIdentityAudit.flush
  split
  · rename_i none
    have empty : (audit.pending kind).rows = [] := by
      unfold SplitIdentityAudit.pendingRows at none
      apply List.eq_nil_of_length_eq_zero
      cases kind <;> omega
    rw [Table.keys, empty]
    rfl
  · rfl

theorem SplitIdentityAudit.Saw.flush (saw : audit.Saw entries) :
    audit.flush.Saw entries := by
  unfold SplitIdentityAudit.flush
  split
  · exact saw
  · constructor
    case occurrences => exact saw.occurrences
    case keys =>
      intro kind identity
      rw [← saw.keys kind identity]
      simp only [mem_keys_merge]
      exact or_iff_left (List.not_mem_nil (a := identity))
    case masks =>
      intro kind identity
      rw [← saw.masks kind identity]
      simp only [maskAt_merge]
      exact Nat.or_zero _

theorem SplitIdentityAudit.Saw.add
    (saw : audit.Saw entries) (entry : IdentityEntry) :
    (audit.add entry).Saw (entries ++ [entry]) := by
  unfold SplitIdentityAudit.add
  split
  · exact (saw.gather entry).flush
  · exact saw.gather entry

/-- An audit has seen what was added to it, whatever its batches. -/
theorem saw_foldl (batchRows : Nat) (entries : List IdentityEntry) :
    (entries.foldl SplitIdentityAudit.add (.start batchRows)).Saw
      entries := by
  induction entries using List.reverseRecOn with
  | nil => exact saw_start batchRows
  | append_singleton entries entry inductionHypothesis =>
      rw [List.foldl_append]
      exact inductionHypothesis.add entry

/-! ## What an audit reports -/

section Reports

variable {exampleLimit databaseBytes : Nat}

theorem SplitIdentityAudit.Saw.mem_keys_flush
    (saw : audit.Saw entries) {kind : IdentityKind} {identity : String} :
    identity ∈ (audit.flush.identities kind).keys ↔
      identity ∈ identitiesOf entries kind := by
  rw [← saw.flush.keys kind identity, keys_pending_flush]
  exact (or_iff_left List.not_mem_nil).symm

theorem SplitIdentityAudit.Saw.row_flush
    (saw : audit.Saw entries) {kind : IdentityKind}
    {row : String × Nat}
    (member : row ∈ (audit.flush.identities kind).rows) :
    row.2 = maskOf (splitsOf entries kind row.1) := by
  have masks := saw.flush.masks kind row.1
  have pending : maskAt (audit.flush.pending kind) row.1 = 0 := by
    have absent : row.1 ∉ (audit.flush.pending kind).keys := by
      rw [keys_pending_flush]
      exact List.not_mem_nil
    rw [maskAt, (Table.lookup_eq_none_iff _).mpr absent]
    rfl
  rw [pending, Nat.or_zero, maskAt,
    (Table.lookup_eq_some_iff _).mpr member] at masks
  exact masks

theorem SplitIdentityAudit.Saw.identityOccurrences
    (saw : audit.Saw entries) (kind : IdentityKind) :
    (audit.finish exampleLimit databaseBytes).identityOccurrences kind =
      (identitiesOf entries kind).length :=
  saw.flush.occurrences kind

theorem SplitIdentityAudit.Saw.uniqueIdentities
    (saw : audit.Saw entries) (kind : IdentityKind) :
    (audit.finish exampleLimit databaseBytes).uniqueIdentities kind =
      (identitiesOf entries kind).toFinset.card := by
  have same : (audit.flush.identities kind).keys.toFinset =
      (identitiesOf entries kind).toFinset := by
    ext identity
    rw [List.mem_toFinset, List.mem_toFinset, saw.mem_keys_flush]
  rw [← same, List.toFinset_card_of_nodup (Table.keys_nodup _), Table.keys,
    List.length_map]
  rfl

/-- As many identities are unique as occur exactly when none is repeated. -/
theorem SplitIdentityAudit.Saw.unique_iff
    (saw : audit.Saw entries) (kind : IdentityKind) :
    (audit.finish exampleLimit databaseBytes).identityOccurrences kind =
        (audit.finish exampleLimit databaseBytes).uniqueIdentities kind ↔
      (identitiesOf entries kind).Nodup := by
  rw [saw.identityOccurrences, saw.uniqueIdentities, eq_comm,
    List.card_toFinset, ← List.dedup_eq_self]
  exact ⟨fun same => (List.dedup_sublist _).eq_of_length same,
    fun same => by rw [same]⟩

/-- No identity collides exactly when each is in one split only. -/
theorem SplitIdentityAudit.Saw.collisions_eq_zero_iff
    (saw : audit.Saw entries) (kind : IdentityKind) :
    (audit.finish exampleLimit databaseBytes).crossSplitCollisions kind = 0 ↔
      ∀ first ∈ entries, ∀ second ∈ entries, first.kind = kind ->
        second.kind = kind -> first.identity = second.identity ->
          first.split = second.split := by
  change ((audit.flush.identities kind).rows.filter fun row =>
    Collides row.2).length = 0 ↔ _
  rw [List.length_eq_zero_iff, List.filter_eq_nil_iff]
  constructor
  · intro none first isFirst second isSecond firstKind secondKind same
    have occurs : first.identity ∈ identitiesOf entries kind :=
      List.mem_map.mpr ⟨first, List.mem_filter.mpr ⟨isFirst,
        decide_eq_true firstKind⟩, rfl⟩
    obtain ⟨row, member, named⟩ :=
      List.mem_map.mp (saw.mem_keys_flush.mpr occurs)
    by_contra different
    refine none row member (decide_eq_true ?_)
    rw [saw.row_flush member, collides_maskOf, named]
    have inSplits (entry : IdentityEntry) (isEntry : entry ∈ entries)
        (isKind : entry.kind = kind)
        (isSame : entry.identity = first.identity) :
        entry.split ∈ splitsOf entries kind first.identity :=
      List.mem_map.mpr ⟨entry, List.mem_filter.mpr ⟨isEntry,
        decide_eq_true ⟨isKind, isSame⟩⟩, rfl⟩
    exact ⟨_, inSplits first isFirst firstKind rfl, _,
      inSplits second isSecond secondKind same.symm, different⟩
  · intro apart row member collides
    have colliding := of_decide_eq_true collides
    rw [saw.row_flush member, collides_maskOf] at colliding
    obtain ⟨first, isFirst, second, isSecond, different⟩ := colliding
    obtain ⟨one, inOne, rfl⟩ := List.mem_map.mp isFirst
    obtain ⟨other, inOther, rfl⟩ := List.mem_map.mp isSecond
    obtain ⟨isOne, named⟩ := List.mem_filter.mp inOne
    obtain ⟨isOther, alsoNamed⟩ := List.mem_filter.mp inOther
    obtain ⟨oneKind, oneNamed⟩ := of_decide_eq_true named
    obtain ⟨otherKind, otherNamed⟩ := of_decide_eq_true alsoNamed
    exact different (apart one isOne other isOther oneKind otherKind
      (oneNamed.trans otherNamed.symm))

end Reports

end CorpusQualification
end CodingLlm
