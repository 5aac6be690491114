import CodingLlm.Pretrain.PackedShardDataset

/-!
# Supervised tokens of references

`_count_supervised_tokens_for_references` reads the start bits of the rows that
references address, and counts the labels that no start masks.
-/

namespace CodingLlm

open Words Slices

variable {Digest Cursor : Type}

/-- The supervised labels of a row, from its start bytes. -/
def supervisedLabels (sequenceLength : Nat) (starts : List Byte) :
    Checked Nat := do
  let _ ← require (starts.getD 0 0 &&& 1 ≠ 0)
    (.valueError "Packed row does not begin an attention segment")
  let _ ← require (PaddingZero sequenceLength starts)
    (.valueError "Packed row has nonzero unused start bits")
  let startCount : Nat := (starts.map popcount).sum
  let supervised : Int := sequenceLength - ((startCount : Int) - 1)
  let _ ← require (0 ≤ supervised ∧ supervised ≤ sequenceLength)
    (.valueError "Invalid segment-start payload")
  return supervised.toNat

/-- One turn of the loop over the references.  The source opens the dataset of
a domain once and keeps it; the directories do not change in between. -/
def countReference
    (sequenceLength : Nat)
    (directories : Domain -> Directory Digest Cursor)
    (counts : Domain -> Nat) (reference : Nat) : Checked (Domain -> Nat) := do
  let (domainId, rowId) := decodeReference reference
  let domain ← requireObject (Domain.ofId? domainId)
    (.valueError "Order contains invalid domain ID")
  let dataset ← PackedShardDataset.load (directories domain)
  let _ ← require (dataset.manifest.sequenceLength = sequenceLength)
    (.valueError "Packed dataset sequence length changed during order build")
  let row ← dataset.getItem (directories domain) rowId
  let supervised ← supervisedLabels sequenceLength row.starts
  return Function.update counts domain (counts domain + supervised)

/-- `_count_supervised_tokens_for_references`. -/
def countSupervisedTokensForReferences
    (references : List Nat)
    (directories : Domain -> Directory Digest Cursor)
    (sequenceLength : Nat) : Checked (Domain -> Nat) :=
  references.foldlM (countReference sequenceLength directories) fun _ => 0

/-! ## What is counted -/

/-- The starts of a row that can be counted. -/
structure StartsValid (sequenceLength : Nat) (starts : List Byte) : Prop where
  first_start : starts.getD 0 0 &&& 1 ≠ 0
  padding : PaddingZero sequenceLength starts

theorem RowValid.startsValid
    {sequenceLength vocabSize : Nat} {eosTokenId : Int}
    {tokens : List Nat} {starts : List Byte}
    (valid : RowValid sequenceLength vocabSize eosTokenId tokens starts) :
    StartsValid sequenceLength starts :=
  ⟨valid.first_start, valid.padding⟩

/-- Of starts of the right length those labels are counted that no start
masks. -/
theorem supervisedLabels_eq_ok
    {sequenceLength supervised : Nat} {starts : List Byte}
    (width : starts.length = startsBytesPerRow sequenceLength) :
    supervisedLabels sequenceLength starts = .ok supervised ↔
      StartsValid sequenceLength starts ∧
        supervised + maskedLabels sequenceLength starts = sequenceLength := by
  have bound := maskedLabels_le sequenceLength starts
  simp only [supervisedLabels, require_then_eq_ok, checked_pure_eq_ok]
  constructor
  · rintro ⟨first, padding, -, rfl⟩
    refine ⟨⟨first, padding⟩, ?_⟩
    rw [sum_popcount_of_starts width first padding]
    omega
  · rintro ⟨⟨first, padding⟩, total⟩
    refine ⟨first, padding, ?_⟩
    rw [sum_popcount_of_starts width first padding]
    omega

section References

variable {manifests : Domain -> PackedManifest Digest Cursor}
variable {directories : Domain -> Directory Digest Cursor}
variable {sequenceLength : Nat}

/-- A reference addresses an existing row of a domain. -/
structure Addresses
    (manifests : Domain -> PackedManifest Digest Cursor)
    (reference : Nat) (domain : Domain) (row : Nat) : Prop where
  decode_eq : decodeReference reference = (domain.id, row)
  row_lt : row < (manifests domain).rows

/-- A reference addresses a row whose starts can be counted. -/
def Countable
    (manifests : Domain -> PackedManifest Digest Cursor)
    (directories : Domain -> Directory Digest Cursor)
    (reference : Nat) : Prop :=
  ∃ domain row, Addresses manifests reference domain row ∧
    StartsValid (manifests domain).sequenceLength
      (packedRow (manifests domain) (directories domain) row).starts

/-- Labels that a row of a packed directory supervises. -/
def rowSupervisedLabels
    (manifest : PackedManifest Digest Cursor)
    (directory : Directory Digest Cursor) (row : Nat) : Nat :=
  manifest.sequenceLength - rowMaskedLabels manifest directory row

/-- Labels of a domain that the references supervise. -/
def supervisedIn
    (manifests : Domain -> PackedManifest Digest Cursor)
    (directories : Domain -> Directory Digest Cursor)
    (references : List Nat) (domain : Domain) : Nat :=
  (references.map fun reference =>
    if (decodeReference reference).1 = domain.id then
      rowSupervisedLabels (manifests domain) (directories domain)
        (decodeReference reference).2
    else 0).sum

theorem supervisedIn_cons
    (reference : Nat) (references : List Nat) (domain : Domain) :
    supervisedIn manifests directories (reference :: references) domain =
      (if (decodeReference reference).1 = domain.id then
        rowSupervisedLabels (manifests domain) (directories domain)
          (decodeReference reference).2
      else 0) + supervisedIn manifests directories references domain := by
  rw [supervisedIn, List.map_cons, List.sum_cons, supervisedIn]

theorem supervisedIn_append
    (front back : List Nat) (domain : Domain) :
    supervisedIn manifests directories (front ++ back) domain =
      supervisedIn manifests directories front domain +
        supervisedIn manifests directories back domain := by
  rw [supervisedIn, List.map_append, List.sum_append, supervisedIn,
    supervisedIn]

/-- The count does not depend on the order of the references. -/
theorem supervisedIn_perm
    {front back : List Nat} (same : front.Perm back) (domain : Domain) :
    supervisedIn manifests directories front domain =
      supervisedIn manifests directories back domain :=
  (same.map _).sum_eq

/-- References to rows of one domain supervise the labels of the rows. -/
theorem supervisedIn_of_decode
    {references rows : List Nat} {domain : Domain}
    (decodes : (references.map decodeReference).Perm
      (rows.map fun row => (domain.id, row))) :
    supervisedIn manifests directories references domain =
      (rows.map (rowSupervisedLabels (manifests domain)
        (directories domain))).sum := by
  let labels (decoded : Nat × Nat) : Nat :=
    if decoded.1 = domain.id then
      rowSupervisedLabels (manifests domain) (directories domain) decoded.2
    else 0
  have same := (decodes.map labels).sum_eq
  rw [List.map_map, List.map_map] at same
  refine same.trans (congrArg List.sum (List.map_congr_left ?_))
  exact fun row _ => if_pos rfl

/-- Supervised and masked labels make up all labels. -/
theorem sum_rowSupervisedLabels
    (manifest : PackedManifest Digest Cursor)
    (directory : Directory Digest Cursor) (rows : List Nat) :
    (rows.map (rowSupervisedLabels manifest directory)).sum +
        (rows.map (rowMaskedLabels manifest directory)).sum =
      rows.length * manifest.sequenceLength := by
  induction rows with
  | nil => simp
  | cons row rest inductionHypothesis =>
      have bound : rowMaskedLabels manifest directory row ≤
          manifest.sequenceLength := maskedLabels_le _ _
      simp only [List.map_cons, List.sum_cons, List.length_cons,
        Nat.succ_mul, rowSupervisedLabels] at inductionHypothesis ⊢
      omega

/-- All rows of a validated directory supervise the audited total. -/
theorem Validated.sum_rowSupervisedLabels_eq
    {sha256 : List Byte -> Digest} {verifyChecksums : Bool}
    {manifest : PackedManifest Digest Cursor}
    {directory : Directory Digest Cursor}
    (validated : Validated sha256 verifyChecksums manifest directory) :
    ((List.range manifest.rows).map
      (rowSupervisedLabels manifest directory)).sum =
        manifest.validLossTokens := by
  have total := sum_rowSupervisedLabels manifest directory
    (List.range manifest.rows)
  have losses := manifest.loss_eq
  rw [validated.masked, List.length_range] at total
  omega

theorem ofId?_eq_some {number : Nat} {domain : Domain} :
    Domain.ofId? number = some domain ↔ number = domain.id := by
  constructor
  · intro found
    match number with
    | 0 => cases found; rfl
    | 1 => cases found; rfl
    | 2 => cases found; rfl
    | _ + 3 => cases found
  · rintro rfl
    exact Domain.ofId?_id domain

theorem length_packedRow_starts
    {manifest : PackedManifest Digest Cursor}
    {directory : Directory Digest Cursor} {row : Nat}
    (exact : PayloadsExact manifest directory)
    (bound : row < manifest.rows) :
    (packedRow manifest directory row).starts.length =
      startsBytesPerRow manifest.sequenceLength := by
  obtain ⟨shard, -, member, index, inside⟩ := manifest.exists_shard bound
  have size := (exact shard member .starts).length_payloadBytes
  rw [index] at size
  exact length_startsRow size inside

/-- The manifests are parsed from the directories, whatever the payloads
are. -/
def ParsedFrom
    (manifests : Domain -> PackedManifest Digest Cursor)
    (directories : Domain -> Directory Digest Cursor) : Prop :=
  ∀ domain, ∃ document,
    readManifest (directories domain) = .ok document ∧
      parsePackedManifest document = .ok (manifests domain)

/-- A reference addresses a row of a dataset that opens, with the expected
width and starts that can be counted. -/
def Counted
    (manifests : Domain -> PackedManifest Digest Cursor)
    (directories : Domain -> Directory Digest Cursor)
    (sequenceLength reference : Nat) : Prop :=
  ∃ domain row, Addresses manifests reference domain row ∧
    Opens (manifests domain) (directories domain) ∧
    (manifests domain).sequenceLength = sequenceLength ∧
    StartsValid sequenceLength
      (packedRow (manifests domain) (directories domain) row).starts

/-- A dataset that loads is the one of the parsed manifest. -/
theorem load_eq_ok_of_parsed
    (parsed : ParsedFrom manifests directories) {domain : Domain}
    {dataset : PackedShardDataset Digest Cursor} :
    PackedShardDataset.load (directories domain) = .ok dataset ↔
      Opens (manifests domain) (directories domain) ∧
        dataset = (manifests domain).dataset := by
  rw [load_eq_ok]
  constructor
  · rintro ⟨manifest, opens, rfl⟩
    obtain ⟨document, read, parse⟩ := parsed domain
    obtain ⟨other, readAgain, parseAgain⟩ := opens.parsed
    rw [read] at readAgain
    cases readAgain
    rw [parse] at parseAgain
    cases parseAgain
    exact ⟨opens, rfl⟩
  · rintro ⟨opens, rfl⟩
    exact ⟨_, opens, rfl⟩

/-- One reference is counted exactly when it can be, under its domain. -/
theorem countReference_eq_ok
    {counts result : Domain -> Nat} {reference : Nat}
    (parsed : ParsedFrom manifests directories) :
    countReference sequenceLength directories counts reference =
        .ok result ↔
      Counted manifests directories sequenceLength reference ∧
        result = fun domain => counts domain +
          if (decodeReference reference).1 = domain.id then
            rowSupervisedLabels (manifests domain) (directories domain)
              (decodeReference reference).2
          else 0 := by
  have gained (domain : Domain) (row : Nat)
      (decoded : decodeReference reference = (domain.id, row)) :
      Function.update counts domain (counts domain +
          rowSupervisedLabels (manifests domain) (directories domain) row) =
        fun other => counts other +
          if (decodeReference reference).1 = other.id then
            rowSupervisedLabels (manifests other) (directories other)
              (decodeReference reference).2
          else 0 := by
    funext other
    rw [decoded]
    by_cases same : other = domain
    · subst same
      rw [Function.update_self, if_pos rfl]
    · rw [Function.update_of_ne same,
        if_neg fun equal => same (Domain.id_injective equal).symm,
        Nat.add_zero]
  unfold countReference Counted
  obtain ⟨domainId, rowId, decodes⟩ : ∃ domainId rowId,
      decodeReference reference = (domainId, rowId) := ⟨_, _, rfl⟩
  simp only [decodes, checked_bind_eq_ok (α := Domain), requireObject_eq_ok,
    ofId?_eq_some]
  rw [decodes] at gained
  constructor
  · rintro ⟨domain, rfl, counted⟩
    rw [checked_bind_eq_ok] at counted
    obtain ⟨dataset, loads, counted⟩ := counted
    obtain ⟨opens, rfl⟩ := (load_eq_ok_of_parsed parsed).mp loads
    rw [require_then_eq_ok, checked_bind_eq_ok] at counted
    obtain ⟨width, item, read, counted⟩ := counted
    rw [PackedManifest.dataset_manifest] at width
    obtain ⟨bound, rfl⟩ := (getItem_dataset_eq_ok opens.exact).mp read
    rw [checked_bind_eq_ok] at counted
    obtain ⟨supervised, labels, equal⟩ := counted
    rw [← width, supervisedLabels_eq_ok
      (length_packedRow_starts opens.exact bound)] at labels
    obtain ⟨valid, total⟩ := labels
    refine ⟨⟨domain, rowId, ⟨decodes, bound⟩, opens, width,
      width ▸ valid⟩, ?_⟩
    rw [← gained domain rowId rfl, ← checked_pure_eq_ok.mp equal,
      rowSupervisedLabels, ← total]
    exact congrArg _ (congrArg _ (Nat.add_sub_cancel ..).symm)
  · rintro ⟨⟨domain, row, ⟨decodeEq, bound⟩, opens, width, valid⟩, rfl⟩
    rw [decodes, Prod.mk.injEq] at decodeEq
    obtain ⟨rfl, rfl⟩ := decodeEq
    rw [← width] at valid
    have labels : supervisedLabels (manifests domain).sequenceLength
        (packedRow (manifests domain) (directories domain) rowId).starts =
          .ok (rowSupervisedLabels (manifests domain) (directories domain)
            rowId) :=
      (supervisedLabels_eq_ok
        (length_packedRow_starts opens.exact bound)).mpr
          ⟨valid, Nat.sub_add_cancel (maskedLabels_le _ _)⟩
    refine ⟨domain, rfl, ?_⟩
    rw [(load_eq_ok_of_parsed parsed).mpr ⟨opens, rfl⟩, checked_ok_bind,
      require_then_eq_ok, getItem_dataset opens.exact bound,
      checked_ok_bind, ← width, labels, checked_ok_bind]
    exact ⟨rfl, congrArg Except.ok (gained domain rowId rfl)⟩

/-- References are counted exactly when all of them can be, and then by their
rows' start bits. -/
theorem countSupervisedTokens_of_parsed
    {references : List Nat} {counts : Domain -> Nat}
    (parsed : ParsedFrom manifests directories) :
    countSupervisedTokensForReferences references directories
        sequenceLength = .ok counts ↔
      (∀ reference ∈ references,
        Counted manifests directories sequenceLength reference) ∧
      counts = supervisedIn manifests directories references := by
  have loop : ∀ start, references.foldlM
      (countReference sequenceLength directories) start = .ok counts ↔
        (∀ reference ∈ references,
          Counted manifests directories sequenceLength reference) ∧
        counts = fun domain => start domain +
          supervisedIn manifests directories references domain := by
    induction references with
    | nil =>
        intro start
        simp only [List.foldlM_nil, checked_pure_eq_ok, supervisedIn,
          List.map_nil, List.sum_nil, Nat.add_zero]
        simp
        exact eq_comm
    | cons reference rest inductionHypothesis =>
        intro start
        rw [List.foldlM_cons, checked_bind_eq_ok, List.forall_mem_cons]
        simp only [countReference_eq_ok parsed, inductionHypothesis,
          supervisedIn_cons]
        constructor
        · rintro ⟨_, ⟨first, rfl⟩, others, rfl⟩
          exact ⟨⟨first, others⟩, funext fun domain => Nat.add_assoc ..⟩
        · rintro ⟨⟨first, others⟩, rfl⟩
          exact ⟨_, ⟨first, rfl⟩, others,
            funext fun domain => (Nat.add_assoc ..).symm⟩
  refine (loop fun _ => 0).trans ?_
  simp only [Nat.zero_add]

/-- With datasets that open and have the expected width, a reference is
counted when its starts can be. -/
theorem counted_iff_countable
    {reference : Nat}
    (opens : ∀ domain, Opens (manifests domain) (directories domain))
    (widths : ∀ domain, (manifests domain).sequenceLength = sequenceLength) :
    Counted manifests directories sequenceLength reference ↔
      Countable manifests directories reference := by
  constructor
  · rintro ⟨domain, row, addresses, -, -, valid⟩
    exact ⟨domain, row, addresses, (widths domain).symm ▸ valid⟩
  · rintro ⟨domain, row, addresses, valid⟩
    exact ⟨domain, row, addresses, opens domain, widths domain,
      widths domain ▸ valid⟩

theorem countSupervisedTokens_eq_ok
    {references : List Nat} {counts : Domain -> Nat}
    (opens : ∀ domain, Opens (manifests domain) (directories domain))
    (widths : ∀ domain, (manifests domain).sequenceLength = sequenceLength) :
    countSupervisedTokensForReferences references directories
        sequenceLength = .ok counts ↔
      (∀ reference ∈ references,
        Countable manifests directories reference) ∧
      counts = supervisedIn manifests directories references := by
  simp only [countSupervisedTokens_of_parsed fun domain =>
    (opens domain).parsed, counted_iff_countable opens widths]

end References

end CodingLlm
