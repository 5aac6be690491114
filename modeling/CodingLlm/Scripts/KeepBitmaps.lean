import CodingLlm.Scripts.PublishAllEligible
import Mathlib.Data.BitVec

/-!
# Bits of a keep bitmap

Which bits `build_all_eligible_keep_bitmap` leaves set.
-/

namespace CodingLlm

open Words

theorem bitAt_modify
    (bits : List Byte) (position index : Nat) (change : Byte -> Byte) :
    bitAt (bits.modify position change) index =
      if position = index / 8 ∧ position < bits.length then
        (change (bits.getD position 0)).getLsbD (index % 8)
      else bitAt bits index := by
  unfold bitAt
  rw [List.getD_eq_getElem?_getD, List.getElem?_modify]
  by_cases here : position = index / 8
  · by_cases inside : position < bits.length
    · rw [if_pos ⟨here, inside⟩, ← here]
      simp [List.getElem?_eq_getElem inside, List.getD_eq_getElem?_getD]
    · rw [if_neg (by tauto), ← here]
      simp [List.getElem?_eq_none (by omega : bits.length ≤ position),
        List.getD_eq_getElem?_getD]
  · rw [if_neg (by tauto)]
    simp [here, List.getD_eq_getElem?_getD]

theorem bitAt_of_length_le
    {bits : List Byte} {index : Nat}
    (beyond : bits.length ≤ index / 8) : bitAt bits index = false := by
  unfold bitAt
  rw [List.getD_eq_default _ _ beyond]
  simp

/-- Clearing a bit changes no other bit. -/
theorem bitAt_clearBit (bits : List Byte) (cleared index : Nat) :
    bitAt (clearBit bits cleared) index =
      (bitAt bits index && decide (index ≠ cleared)) := by
  unfold clearBit
  rw [bitAt_modify]
  by_cases here : cleared / 8 = index / 8 ∧ cleared / 8 < bits.length
  · rw [if_pos here]
    have bound : index % 8 < 8 := Nat.mod_lt _ (by decide)
    have same : index = cleared ↔ index % 8 = cleared % 8 := by omega
    have bit : (~~~(1#8 <<< (cleared % 8))).getLsbD (index % 8) =
        decide (index ≠ cleared) := by
      simp only [BitVec.getLsbD_not, BitVec.getLsbD_shiftLeft, bound,
        decide_true, Bool.true_and, BitVec.getLsbD_one, ne_eq, same]
      by_cases below : index % 8 < cleared % 8
      · have other : index % 8 ≠ cleared % 8 := by omega
        simp [below, other]
      · by_cases equal : index % 8 = cleared % 8
        · simp [equal]
        · have above : index % 8 - cleared % 8 ≠ 0 := by omega
          simp [below, equal, above]
    rw [BitVec.getLsbD_and, bit]
    unfold bitAt
    rw [here.1]
  · rw [if_neg here]
    by_cases equal : index = cleared
    · subst equal
      have beyond : bits.length ≤ index / 8 := by
        by_contra inside
        exact here ⟨rfl, by omega⟩
      simp [bitAt_of_length_le beyond]
    · simp [equal]

theorem bitAt_foldl_clearBit
    (rejected : List Int) (bits : List Byte) (index : Nat) :
    bitAt (rejected.foldl (fun bits index => clearBit bits index.toNat) bits)
        index =
      (bitAt bits index &&
        decide (∀ entry ∈ rejected, index ≠ entry.toNat)) := by
  induction rejected generalizing bits with
  | nil => simp
  | cons entry rest inductionHypothesis =>
      rw [List.foldl_cons, inductionHypothesis, bitAt_clearBit,
        Bool.and_assoc]
      congr 1
      rw [Bool.eq_iff_iff]
      simp

/-- Every record and no other bit is kept at first. -/
theorem bitAt_keepAll (records index : Nat) :
    bitAt (keepAll records ((records + 7) / 8)) index =
      decide (index < records) := by
  have full (position : Nat) (bound : position < (records + 7) / 8) :
      (List.replicate ((records + 7) / 8) 0xff#8).getD position 0 =
        0xff#8 := by
    rw [List.getD_eq_getElem _ _ (by simpa using bound)]
    simp
  have ones : ∀ bit < 8, (0xff#8 : Byte).getLsbD bit = true := by decide
  have modBound : index % 8 < 8 := Nat.mod_lt _ (by decide)
  have plain : bitAt (List.replicate ((records + 7) / 8) 0xff#8) index =
      decide (index / 8 < (records + 7) / 8) := by
    by_cases inside : index / 8 < (records + 7) / 8
    · unfold bitAt
      rw [full _ inside, ones _ modBound]
      simp [inside]
    · rw [bitAt_of_length_le (by simpa using inside)]
      simp [inside]
  unfold keepAll
  dsimp only
  split
  · rename_i whole
    rw [plain]
    congr 1
    apply propext
    omega
  · rename_i partly
    rw [bitAt_modify, plain, List.length_replicate]
    by_cases last : (records + 7) / 8 - 1 = index / 8 ∧
        (records + 7) / 8 - 1 < (records + 7) / 8
    · rw [if_pos last, full _ last.2, BitVec.getLsbD_and, ones _ modBound,
        Bool.true_and]
      have mask : ∀ remainder < 8, ∀ bit < 8,
          ((1#8 <<< remainder) - 1#8 : Byte).getLsbD bit =
            decide (bit < remainder) := by decide
      rw [mask _ (Nat.mod_lt _ (by decide)) _ modBound]
      congr 1
      apply propext
      omega
    · rw [if_neg last]
      congr 1
      apply propext
      omega

/-! ## Payloads -/

/-- A payload of the right length without bits past the records. -/
structure IsPayload (records : Nat) (payload : List Byte) : Prop where
  length_eq : payload.length = (records + 7) / 8
  clear : ∀ index, records ≤ index -> bitAt payload index = false

theorem allEligibleBitmapPayloadBytes_eq_ok {records count : Nat} :
    allEligibleBitmapPayloadBytes records = .ok count ↔
      1 ≤ records ∧ count = (records + 7) / 8 := by
  unfold allEligibleBitmapPayloadBytes
  rw [require_then_eq_ok, checked_pure_eq_ok, eq_comm (a := count)]

/-- What the payload check checks. -/
theorem validateAllEligibleBitmapPayload_eq_ok
    {payload : List Byte} {records : Nat} :
    validateAllEligibleBitmapPayload payload records = .ok () ↔
      1 ≤ records ∧ IsPayload records payload := by
  have mask : ~~~((1#8 <<< (records % 8)) - 1#8) = highBits (records % 8) := by
    have all : ∀ used < 8, ~~~((1#8 <<< used) - 1#8) = highBits used := by
      decide
    exact all _ (Nat.mod_lt _ (by decide))
  unfold validateAllEligibleBitmapPayload
  rw [mask]
  constructor
  · intro valid
    obtain ⟨count, counted, valid⟩ := checked_bind_eq_ok.mp valid
    obtain ⟨positive, rfl⟩ := allEligibleBitmapPayloadBytes_eq_ok.mp counted
    obtain ⟨length, valid⟩ := require_then_eq_ok.mp valid
    obtain ⟨padding, -⟩ := require_then_eq_ok.mp valid
    refine ⟨positive, length, fun index past => ?_⟩
    exact bitAt_eq_false_of_highBits length
      (fun ragged => padding.resolve_left ragged) past
  · rintro ⟨positive, length, clear⟩
    refine checked_bind_eq_ok.mpr ⟨_,
      allEligibleBitmapPayloadBytes_eq_ok.mpr ⟨positive, rfl⟩, ?_⟩
    refine require_then_eq_ok.mpr ⟨length, require_then_eq_ok.mpr ⟨?_, rfl⟩⟩
    rcases Nat.eq_zero_or_pos (records % 8) with whole | ragged
    · exact Or.inl whole
    refine Or.inr ((and_highBits_eq_zero_iff _ _).mpr fun bit high => ?_)
    by_cases inside : bit < 8
    · have last : payload.getLastD 0 = payload.getD (records / 8) 0 := by
        rw [List.getLastD_eq_getLast?, List.getLast?_eq_getElem?,
          List.getD_eq_getElem?_getD, length]
        congr 2
        omega
      have here := clear (8 * (records / 8) + bit) (by omega)
      unfold bitAt at here
      rw [show (8 * (records / 8) + bit) / 8 = records / 8 by omega,
        show (8 * (records / 8) + bit) % 8 = bit by omega] at here
      rw [last, here]
    · exact BitVec.getLsbD_of_ge _ _ (by omega)

/-- Payloads with the same bits are the same. -/
theorem eq_of_bitAt
    {left right : List Byte}
    (length : left.length = right.length)
    (bits : ∀ index, bitAt left index = bitAt right index) : left = right := by
  refine List.ext_getElem length fun index first second => ?_
  refine BitVec.eq_of_getLsbD_eq fun bit small => ?_
  have equal := bits (8 * index + bit)
  unfold bitAt at equal
  rw [show (8 * index + bit) / 8 = index by omega,
    show (8 * index + bit) % 8 = bit by omega,
    List.getD_eq_getElem _ _ first, List.getD_eq_getElem _ _ second] at equal
  exact equal

theorem length_foldl_clearBit (rejected : List Int) (bits : List Byte) :
    (rejected.foldl (fun bits index => clearBit bits index.toNat) bits).length =
      bits.length := by
  induction rejected generalizing bits with
  | nil => rfl
  | cons entry rest inductionHypothesis =>
      rw [List.foldl_cons, inductionHypothesis, clearBit, List.length_modify]

/-- The bitmap that keeps what is not rejected. -/
def keepPayload (records : Nat) (rejected : List Int) : List Byte :=
  rejected.foldl (fun bits index => clearBit bits index.toNat)
    (keepAll records ((records + 7) / 8))

theorem bitAt_keepPayload (records : Nat) (rejected : List Int) (index : Nat) :
    bitAt (keepPayload records rejected) index =
      (decide (index < records) &&
        decide (∀ entry ∈ rejected, index ≠ entry.toNat)) := by
  rw [keepPayload, bitAt_foldl_clearBit, bitAt_keepAll]

theorem isPayload_keepPayload (records : Nat) (rejected : List Int) :
    IsPayload records (keepPayload records rejected) where
  length_eq := by
    rw [keepPayload, length_foldl_clearBit, keepAll]
    split
    · rw [List.length_replicate]
    · rw [List.length_modify, List.length_replicate]
  clear := fun index past => by
    rw [bitAt_keepPayload, decide_eq_false (by omega), Bool.false_and]

/-- What rejections a bitmap is built for, and what it is. -/
theorem buildAllEligibleKeepBitmap_eq_ok
    {records : Nat} {rejected : List Int} {built : List Byte × Nat} :
    buildAllEligibleKeepBitmap records rejected = .ok built ↔
      1 ≤ records ∧ rejected.Nodup ∧
        (∀ index ∈ rejected, 0 ≤ index ∧ index < records) ∧
        built = (keepPayload records rejected,
          records - rejected.length) := by
  unfold buildAllEligibleKeepBitmap
  constructor
  · intro built
    obtain ⟨count, counted, built⟩ := checked_bind_eq_ok.mp built
    obtain ⟨positive, rfl⟩ := allEligibleBitmapPayloadBytes_eq_ok.mp counted
    obtain ⟨⟨nodup, range⟩, built⟩ := require_then_eq_ok.mp built
    obtain ⟨_, -, built⟩ := checked_bind_eq_ok.mp built
    exact ⟨positive, nodup, range, (checked_pure_eq_ok.mp built).symm⟩
  · rintro ⟨positive, nodup, range, rfl⟩
    refine checked_bind_eq_ok.mpr ⟨_,
      allEligibleBitmapPayloadBytes_eq_ok.mpr ⟨positive, rfl⟩, ?_⟩
    refine require_then_eq_ok.mpr ⟨⟨nodup, range⟩, ?_⟩
    exact checked_bind_eq_ok.mpr ⟨(),
      validateAllEligibleBitmapPayload_eq_ok.mpr
        ⟨positive, isPayload_keepPayload records rejected⟩, rfl⟩

/-- The rejections that a payload stands for. -/
def rejectedOf (records : Nat) (payload : List Byte) : List Int :=
  ((List.range records).filter fun index => !bitAt payload index).map
    fun index : Nat => (index : Int)

theorem mem_rejectedOf_iff
    {records : Nat} {payload : List Byte} {index : Int} :
    index ∈ rejectedOf records payload ↔
      0 ≤ index ∧ index < records ∧ bitAt payload index.toNat = false := by
  unfold rejectedOf
  rw [List.mem_map]
  constructor
  · rintro ⟨position, listed, rfl⟩
    obtain ⟨inside, clear⟩ := List.mem_filter.mp listed
    rw [List.mem_range] at inside
    exact ⟨by omega, by omega, by simpa using clear⟩
  · rintro ⟨notNegative, inside, clear⟩
    refine ⟨index.toNat, List.mem_filter.mpr ⟨?_, ?_⟩, by omega⟩
    · rw [List.mem_range]
      omega
    · simpa using clear

theorem nodup_rejectedOf (records : Nat) (payload : List Byte) :
    (rejectedOf records payload).Nodup :=
  (List.nodup_range.filter _).map Nat.cast_injective

/-- A payload is built from the rejections that it stands for. -/
theorem keepPayload_rejectedOf
    {records : Nat} {payload : List Byte}
    (valid : IsPayload records payload) :
    keepPayload records (rejectedOf records payload) = payload := by
  refine eq_of_bitAt ?_ fun index => ?_
  · rw [(isPayload_keepPayload records _).length_eq, valid.length_eq]
  rw [bitAt_keepPayload]
  by_cases inside : index < records
  · rw [decide_eq_true inside, Bool.true_and]
    cases bit : bitAt payload index with
    | false =>
        refine decide_eq_false fun different => ?_
        have listed : (index : Int) ∈ rejectedOf records payload :=
          mem_rejectedOf_iff.mpr ⟨by omega, by omega, by simpa using bit⟩
        exact different _ listed (Int.toNat_natCast index).symm
    | true =>
        refine decide_eq_true fun entry listed equal => ?_
        obtain ⟨-, -, clear⟩ := mem_rejectedOf_iff.mp listed
        rw [← equal, bit] at clear
        cases clear
  · rw [decide_eq_false inside, Bool.false_and,
      valid.clear index (Nat.le_of_not_lt inside)]

/-- The rejections of a built bitmap are those that it was built for. -/
theorem length_rejectedOf_keepPayload
    {records : Nat} {rejected : List Int}
    (nodup : rejected.Nodup)
    (range : ∀ index ∈ rejected, 0 ≤ index ∧ index < records) :
    (rejectedOf records (keepPayload records rejected)).length =
      rejected.length := by
  refine List.Perm.length_eq ((List.perm_ext_iff_of_nodup
    (nodup_rejectedOf _ _) nodup).mpr fun index => ?_)
  rw [mem_rejectedOf_iff, bitAt_keepPayload]
  constructor
  · rintro ⟨nonnegative, inside, clear⟩
    rw [decide_eq_true (by omega), Bool.true_and, decide_eq_false_iff_not]
      at clear
    push Not at clear
    obtain ⟨entry, listed, equal⟩ := clear
    have entryRange := range entry listed
    have same : index = entry := by omega
    rwa [same]
  · intro listed
    obtain ⟨nonnegative, inside⟩ := range index listed
    refine ⟨nonnegative, inside, ?_⟩
    rw [Bool.and_eq_false_iff, decide_eq_false_iff_not, decide_eq_false_iff_not]
    exact Or.inr fun different => different index listed rfl

/-- A payload has as many set bits as records that it keeps. -/
theorem sum_popcount_of_isPayload
    {records : Nat} {payload : List Byte}
    (valid : IsPayload records payload) :
    (payload.map popcount).sum + (rejectedOf records payload).length =
      records := by
  have covers : records ≤ 8 * payload.length := by
    have := valid.length_eq
    omega
  rw [sum_popcount_eq_countP_unpackBits covers valid.clear, unpackBits,
    List.countP_map, rejectedOf, List.length_map,
    ← List.countP_eq_length_filter]
  have halves : (List.range records).length = _ :=
    List.length_eq_countP_add_countP (bitAt payload)
  rw [List.length_range] at halves
  conv_rhs => rw [halves]
  congr 1
  exact List.countP_congr fun index _ => by simp

end CodingLlm
