import CodingLlm.Pretrain.WriterMethods
import Mathlib.Algebra.Group.Action.Defs

/-!
# The finished output parses

The manifest of a finished construction passes every check of
`_parse_packed_manifest`, and the parsed manifest is the one its documents
determine.
-/

namespace CodingLlm

open CrashLogic Words Slices PackedStream

variable {Digest Cursor : Type}

namespace Construction

variable (construction : Construction Digest Cursor)

/-! ## Shards -/

theorem finalShards_eq :
    construction.finalShards =
      (List.range construction.finalCount).map fun index =>
        construction.record .shard index (construction.finalRows index) := by
  have full : construction.fullShards
      (construction.completedAt construction.documents.length) =
        (List.range
          (construction.completedAt construction.documents.length)).map
          fun index =>
            construction.record .shard index
              (construction.finalRows index) := by
    apply List.map_congr_left
    intro index member
    rw [finalRows, if_pos (List.mem_range.mp member)]
  rw [finalShards, full]
  by_cases whole : construction.openRowsAt construction.documents.length = 0
  · rw [if_pos whole, List.append_nil, construction.finalCount_of_zero whole]
  · rw [if_neg whole,
      construction.finalCount_of_pos (Nat.pos_of_ne_zero whole),
      List.range_succ, List.map_append]
    simp [finalRows]

theorem finalRows_bounds
    {index : Nat} (bound : index < construction.finalCount) :
    1 ≤ construction.finalRows index ∧
      construction.finalRows index ≤ construction.config.rowsPerShard := by
  have positive := construction.config.rowsPerShard_pos
  have less := construction.openRowsAt_lt construction.documents.length
  unfold finalRows
  unfold finalCount at bound
  split
  · exact ⟨positive, le_rfl⟩
  · rename_i last
    split at bound
    · omega
    · omega

theorem finalRows_full
    {index : Nat} (bound : index + 1 < construction.finalCount) :
    construction.finalRows index = construction.config.rowsPerShard := by
  unfold finalRows
  unfold finalCount at bound
  rw [if_pos]
  split at bound <;> omega

/-- The final shards partition the rows. -/
theorem sum_finalRows :
    ((List.range construction.finalCount).map construction.finalRows).sum =
      construction.rowsAt construction.documents.length := by
  have full : (List.range
      (construction.completedAt construction.documents.length)).map
        construction.finalRows =
      List.replicate
        (construction.completedAt construction.documents.length)
        construction.config.rowsPerShard := by
    rw [List.eq_replicate_iff]
    refine ⟨by simp, ?_⟩
    intro rows member
    rw [List.mem_map] at member
    obtain ⟨index, inRange, rfl⟩ := member
    rw [finalRows, if_pos (List.mem_range.mp inRange)]
  have total := construction.rowsAt_eq construction.documents.length
  by_cases whole : construction.openRowsAt construction.documents.length = 0
  · rw [construction.finalCount_of_zero whole, full, List.sum_replicate,
      smul_eq_mul]
    omega
  · rw [construction.finalCount_of_pos (Nat.pos_of_ne_zero whole),
      List.range_succ, List.map_append, List.sum_append, full,
      List.sum_replicate, smul_eq_mul]
    simp only [List.map_cons, List.map_nil, List.sum_cons, List.sum_nil,
      finalRows, lt_irrefl, if_false, Nat.add_zero]
    omega

/-- A shard of the finished output as the parser returns it. -/
def finalShard (index : Nat) : Shard Digest where
  index := index
  rows := construction.finalRows index
  tokensSha256 := construction.sha256 (construction.shardContent index
    (construction.finalRows index) .tokens)
  startsSha256 := construction.sha256 (construction.shardContent index
    (construction.finalRows index) .starts)

theorem parseShard_final
    {index : Nat} {last : Bool}
    (bound : index < construction.finalCount)
    (full : last = false -> construction.finalRows index =
      construction.config.rowsPerShard) :
    parseShard construction.config.sequenceLength
        construction.config.rowsPerShard index last
        (some (PackedShardWriter.shardJson
          (construction.record .shard index
            (construction.finalRows index)))) =
      .ok (construction.finalShard index) := by
  obtain ⟨positive, bounded⟩ := construction.finalRows_bounds bound
  simp only [parseShard, PackedShardWriter.shardJson, record, shardRecord,
    requireObject_some, checked_ok_bind]
  rw [require_bind ((PyValue.equalsInt_int _ _).mpr rfl),
    requirePositive_int _ positive]
  simp only [checked_ok_bind]
  rw [require_bind bounded, require_bind full, require_bind rfl,
    require_bind rfl, require_bind ((PyValue.equalsInt_int _ _).mpr rfl),
    require_bind ((PyValue.equalsInt_int _ _).mpr rfl)]
  rfl

/-- The loop of the parser accepts the shards from `first` to the last. -/
theorem parseShards_final
    {first count : Nat}
    (total : first + count = construction.finalCount) :
    parseShards construction.config.sequenceLength
        construction.config.rowsPerShard first
        ((List.range' first count).map fun index =>
          some (PackedShardWriter.shardJson
            (construction.record .shard index
              (construction.finalRows index)))) =
      .ok ((List.range' first count).map construction.finalShard) := by
  induction count generalizing first with
  | zero => rfl
  | succ count inductionHypothesis =>
      rw [List.range'_succ, List.map_cons, List.map_cons, parseShards,
        construction.parseShard_final (by omega), checked_ok_bind,
        inductionHypothesis (by omega), checked_ok_bind]
      · rfl
      · intro more
        apply construction.finalRows_full
        cases count with
        | zero => simp at more
        | succ count => omega

/-! ## Counters -/

/-- A stream that fills a row is longer than the inputs of its rows. -/
theorem inputs_lt_fed
    (rows : construction.rowsAt construction.documents.length ≠ 0) :
    construction.rowsAt construction.documents.length *
        construction.config.sequenceLength + 1 ≤
      construction.fed construction.documents.length := by
  have spec := (rowCount_spec
    (construction.fed construction.documents.length)
    construction.sequenceLength_pos).1
  have : 0 < construction.rowsAt construction.documents.length *
      construction.config.sequenceLength :=
    Nat.mul_pos (Nat.pos_of_ne_zero rows) construction.sequenceLength_pos
  unfold rowsAt at this ⊢
  omega

/-! ## The manifest -/

theorem eosTokenId_bounds :
    0 ≤ (PyInt.int construction.config.eosTokenId).toInt ∧
      (PyInt.int construction.config.eosTokenId).toInt <
        construction.config.vocabSize :=
  ⟨Int.natCast_nonneg _, Int.ofNat_lt.mpr construction.config.eosTokenId_lt⟩

/-- The targets are the inputs without the masked ones. -/
theorem inputs_eq :
    construction.rowsAt construction.documents.length *
            construction.config.sequenceLength -
          construction.stream.masked construction.config.sequenceLength
            (construction.rowsAt construction.documents.length) +
        construction.stream.masked construction.config.sequenceLength
          (construction.rowsAt construction.documents.length) =
      construction.rowsAt construction.documents.length *
        construction.config.sequenceLength :=
  Nat.sub_add_cancel
    (construction.masked_le_inputs construction.documents.length)

/-- The parsed manifest of the finished output. -/
def packedManifest (cursor : Option Cursor) :
    PackedManifest Digest Cursor where
  domain := construction.config.domain
  split := construction.config.split
  sequenceLength := construction.config.sequenceLength
  vocabSize := construction.config.vocabSize
  eosTokenId := .int construction.config.eosTokenId
  rowsPerShard := construction.config.rowsPerShard
  rows := construction.rowsAt construction.documents.length
  validLossTokens :=
    construction.rowsAt construction.documents.length *
        construction.config.sequenceLength -
      construction.stream.masked construction.config.sequenceLength
        (construction.rowsAt construction.documents.length)
  maskedBoundaryLabels :=
    construction.stream.masked construction.config.sequenceLength
      (construction.rowsAt construction.documents.length)
  documents := construction.documents.length
  sourceContentTokens := construction.fed construction.documents.length -
    construction.documents.length
  tokenizerManifestSha256 := construction.config.tokenizerManifestSha256
  curationPolicySha256 := construction.config.curationPolicySha256
  selectionManifestSha256 := construction.config.selectionManifestSha256
  constructionSeed := match construction.config.constructionSeed with
    | none => .null
    | some seed => .int seed
  constructionLastSourceCursor := cursor
  shards := (List.range construction.finalCount).map construction.finalShard
  split_ne_empty := construction.config.split_ne_empty
  two_le_sequenceLength := construction.config.two_le_sequenceLength
  vocabSize_bounds := construction.config.vocabSize_bounds
  eosTokenId_bounds := construction.eosTokenId_bounds
  rowsPerShard_pos := construction.config.rowsPerShard_pos
  loss_eq := construction.inputs_eq
  shards_index := by
    intro position bound
    simp [finalShard]
  shards_rows := by
    intro position bound
    simp only [List.length_map, List.length_range] at bound
    have bounds := construction.finalRows_bounds bound
    simpa [finalShard, Nat.pos_iff_ne_zero, Nat.one_le_iff_ne_zero]
      using bounds
  shards_full := by
    intro position bound more
    simp only [List.length_map, List.length_range] at more
    simpa [finalShard] using construction.finalRows_full more
  totalRows_eq := by
    rw [Shard.totalRows, List.map_map]
    exact construction.sum_finalRows

theorem nonemptyString?_split :
    nonemptyString? construction.config.split =
      some ⟨construction.config.split,
        construction.config.split_ne_empty⟩ := by
  rw [nonemptyString?, dif_pos]

/-- `_parse_packed_manifest` accepts the manifest that `finish` writes. -/
theorem parsePackedManifest_manifest (cursor : Option Cursor) :
    parsePackedManifest (construction.manifest cursor) =
      .ok (construction.packedManifest cursor) := by
  have documentsLe := construction.count_le_fed (Nat.le_refl _)
  have maskedLe :=
    construction.masked_le_inputs construction.documents.length
  have rowsLe := construction.rowsAt_mul_le construction.documents.length
  have tailLe := construction.fed_le_rowsAt construction.documents.length
  have eosLt := construction.config.eosTokenId_lt
  have streamEq : ((construction.fed construction.documents.length -
        construction.documents.length : Nat) : Int) +
      construction.documents.length =
      ((construction.fed construction.documents.length : Nat) : Int) := by
    omega
  have inputEq : ((construction.rowsAt construction.documents.length : Nat)
        : Int) * construction.config.sequenceLength =
      ((construction.rowsAt construction.documents.length *
        construction.config.sequenceLength : Nat) : Int) := by
    push_cast
    rfl
  have unusedEq : ((construction.fed construction.documents.length : Nat)
        : Int) -
      ((construction.rowsAt construction.documents.length *
        construction.config.sequenceLength : Nat) : Int) =
      ((construction.fed construction.documents.length -
        construction.rowsAt construction.documents.length *
          construction.config.sequenceLength : Nat) : Int) := by
    omega
  have unstoredEq : ((construction.fed construction.documents.length : Nat)
        : Int) -
      (if construction.rowsAt construction.documents.length = 0 then 0
      else ((construction.rowsAt construction.documents.length *
        construction.config.sequenceLength : Nat) : Int) + 1) =
      ((construction.fed construction.documents.length -
        (if construction.rowsAt construction.documents.length = 0 then 0
        else construction.rowsAt construction.documents.length *
          construction.config.sequenceLength + 1) : Nat) : Int) := by
    split
    · simp
    · rename_i rows
      have := construction.inputs_lt_fed rows
      omega
  have shardsParsed := construction.parseShards_final
    (Nat.zero_add construction.finalCount)
  rw [← List.range_eq_range'] at shardsParsed
  unfold Construction.manifest PackedShardWriter.manifestDocument finalWriter
  simp only [streamEq, inputEq, unusedEq, unstoredEq]
  unfold parsePackedManifest
  rw [require_bind rfl, require_bind ((PyValue.equalsInt_int _ _).mpr rfl)]
  simp only [requireNonnegative_int, checked_ok_bind]
  have width : construction.config.tokensPerRow =
      construction.config.sequenceLength + 1 := rfl
  rw [require_bind construction.config.two_le_sequenceLength,
    require_bind width, require_bind rfl, require_bind rfl,
    require_bind rfl,
    requireString_str _ (Domain.ofName?_name _), checked_ok_bind,
    requireString_str _ construction.nonemptyString?_split, checked_ok_bind,
    requirePositive_int _ construction.config.rowsPerShard_pos,
    checked_ok_bind, require_bind construction.config.vocabSize_bounds,
    requireInt_int, checked_ok_bind,
    require_bind (by simp only [PyInt.toInt]; omega), require_bind rfl,
    require_bind (by omega), require_bind (by omega),
    require_bind (by omega), require_bind (by rw [← unstoredEq]; split <;> rfl)]
  simp only [DigestField.requireSha256_sha256,
    DigestField.optionalSha256_ofOption,
    CursorField.optionalMapping_ofOption, checked_ok_bind,
    requireObject_some, construction.finalShards_eq, List.map_map,
    Function.comp_def]
  rw [evidence_eq_ok shardsParsed, checked_ok_bind]
  exact require_bind (construction.packedManifest cursor).totalRows_eq _

end Construction
end CodingLlm
