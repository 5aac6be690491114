import CodingLlm.Library.Slices
import Mathlib.Data.List.GetD
import Mathlib.Tactic.NormNum

/-!
# Little-endian words and packed bits

Fixed-width unsigned words as little-endian bytes, and bit lists packed eight
to a byte with the first bit lowest.
-/

namespace CodingLlm
namespace Words

open Slices

/-- A byte. -/
abbrev Byte := BitVec 8

/-! ## Words -/

/-- The `width` little-endian bytes of a word. -/
def encodeWord : (width : Nat) -> Nat -> List Byte
  | 0, _ => []
  | width + 1, value => BitVec.ofNat 8 value :: encodeWord width (value / 256)

/-- The word that little-endian bytes spell. -/
def decodeWord : List Byte -> Nat
  | [] => 0
  | byte :: rest => byte.toNat + 256 * decodeWord rest

/-- Words one after another. -/
def encodeWords (width : Nat) (values : List Nat) : List Byte :=
  values.flatMap (encodeWord width)

/-- Read whole words from the front; bytes short of a word are not read. -/
def decodeWords (width : Nat) (bytes : List Byte) : List Nat :=
  (List.range (bytes.length / width)).map fun index =>
    decodeWord (slice bytes (index * width) width)

@[simp] theorem length_encodeWord (width value : Nat) :
    (encodeWord width value).length = width := by
  induction width generalizing value with
  | zero => rfl
  | succ width inductionHypothesis =>
      simp [encodeWord, inductionHypothesis]

theorem decodeWord_encodeWord
    {width value : Nat}
    (fits : value < 256 ^ width) :
    decodeWord (encodeWord width value) = value := by
  induction width generalizing value with
  | zero =>
      have : value = 0 := by simpa using fits
      simp [encodeWord, decodeWord, this]
  | succ width inductionHypothesis =>
      have quotientFits : value / 256 < 256 ^ width := by
        rw [Nat.div_lt_iff_lt_mul (by norm_num)]
        rwa [pow_succ] at fits
      simp only [encodeWord, decodeWord, inductionHypothesis quotientFits,
        BitVec.toNat_ofNat]
      omega

theorem decodeWord_lt (bytes : List Byte) :
    decodeWord bytes < 256 ^ bytes.length := by
  induction bytes with
  | nil => simp [decodeWord]
  | cons byte rest inductionHypothesis =>
      have byteBound : byte.toNat < 256 := byte.isLt
      simp only [decodeWord, List.length_cons, pow_succ]
      omega

@[simp] theorem length_decodeWords (width : Nat) (bytes : List Byte) :
    (decodeWords width bytes).length = bytes.length / width := by
  simp [decodeWords]

theorem encodeWords_eq_pieces (width : Nat) (values : List Nat) :
    encodeWords width values =
      pieces (fun index => encodeWord width (values.getD index 0))
        0 values.length := by
  have entries :
      (List.range values.length).map (fun index => values.getD index 0) =
        values := by
    apply List.ext_getElem
    · simp
    · intro index _ bound
      simp only [List.getElem_map, List.getElem_range]
      exact List.getD_eq_getElem _ _ bound
  rw [← flatMap_range_eq_pieces]
  simp only [Nat.zero_add]
  rw [← List.flatMap_map (fun index => values.getD index 0)
    (encodeWord width), entries, encodeWords]

@[simp] theorem length_encodeWords (width : Nat) (values : List Nat) :
    (encodeWords width values).length = values.length * width := by
  rw [encodeWords_eq_pieces, length_pieces fun index _ _ =>
    length_encodeWord width _]

/-- Reading what was written gives the words back. -/
theorem decodeWords_encodeWords
    {width : Nat} {values : List Nat}
    (positive : 0 < width)
    (fit : ∀ value ∈ values, value < 256 ^ width) :
    decodeWords width (encodeWords width values) = values := by
  apply List.ext_getElem
  · simp [Nat.mul_div_cancel _ positive]
  · intro index _ bound
    have piece : slice (encodeWords width values) (index * width) width =
        encodeWord width (values.getD index 0) := by
      rw [encodeWords_eq_pieces,
        slice_pieces (fun position _ _ => length_encodeWord width _) bound,
        Nat.zero_add]
    have entry : values.getD index 0 = values[index] := by
      simp [List.getD_eq_getElem?_getD, List.getElem?_eq_getElem bound]
    simp only [decodeWords, List.getElem_map, List.getElem_range]
    rw [piece, entry, decodeWord_encodeWord (fit _ (List.getElem_mem bound))]

/-! ## Packed bits -/

/-- Eight bits to a byte, the first bit lowest; missing bits are zero. -/
def packBits (bits : List Bool) : List Byte :=
  (List.range ((bits.length + 7) / 8)).map fun position =>
    (BitVec.ofBoolListLE (slice bits (8 * position) 8)).setWidth 8

/-- Bit `index` of a packed list. -/
def bitAt (bytes : List Byte) (index : Nat) : Bool :=
  (bytes.getD (index / 8) 0).getLsbD (index % 8)

/-- The first `count` bits of packed bytes. -/
def unpackBits (count : Nat) (bytes : List Byte) : List Bool :=
  (List.range count).map (bitAt bytes)

/-- Number of set bits of a byte. -/
def popcount (byte : Byte) : Nat :=
  (List.range 8).countP fun bit => byte.getLsbD bit

/-- The mask of the bits from position `used` on. -/
def highBits (used : Nat) : Byte := 0xFF#8 <<< used

@[simp] theorem length_packBits (bits : List Bool) :
    (packBits bits).length = (bits.length + 7) / 8 := by
  simp [packBits]

@[simp] theorem length_unpackBits (count : Nat) (bytes : List Byte) :
    (unpackBits count bytes).length = count := by
  simp [unpackBits]

theorem bitAt_packBits (bits : List Bool) (index : Nat) :
    bitAt (packBits bits) index = bits.getD index false := by
  unfold bitAt packBits
  by_cases inside : index / 8 < (bits.length + 7) / 8
  · rw [List.getD_eq_getElem _ _ (by simpa using inside)]
    have low : index % 8 < 8 := Nat.mod_lt _ (by norm_num)
    rw [List.getElem_map, List.getElem_range, BitVec.getLsbD_setWidth,
      BitVec.getLsbD_ofBoolListLE, List.getD_eq_getElem?_getD,
      getElem?_slice, if_pos low, Nat.div_add_mod,
      List.getD_eq_getElem?_getD]
    simp [low]
  · rw [List.getD_eq_default _ _ (by simpa using Nat.le_of_not_lt inside),
      List.getD_eq_default _ _ (by omega)]
    simp

theorem unpackBits_packBits (bits : List Bool) :
    unpackBits bits.length (packBits bits) = bits := by
  apply List.ext_getElem
  · simp
  · intro index _ bound
    simp only [unpackBits, List.getElem_map, List.getElem_range,
      bitAt_packBits]
    exact List.getD_eq_getElem _ _ bound

theorem getLsbD_highBits (used bit : Nat) :
    (highBits used).getLsbD bit = (decide (bit < 8) && decide (used ≤ bit)) := by
  have ones : ∀ index : Nat,
      (0xFF#8).getLsbD index = decide (index < 8) := by
    intro index
    have : (0xFF#8) = BitVec.allOnes 8 := by decide
    rw [this, BitVec.getLsbD_allOnes]
  unfold highBits
  rw [BitVec.getLsbD_shiftLeft, ones]
  by_cases low : bit < used
  · simp [low, Nat.not_le.mpr low]
  · have offset : bit < 8 -> bit - used < 8 := fun _ => by omega
    by_cases high : bit < 8
    · simp [low, high, offset high, Nat.not_lt.mp low]
    · simp [high]

/-- A byte has no bit under the mask exactly when its high bits are zero. -/
theorem and_highBits_eq_zero_iff (byte : Byte) (used : Nat) :
    byte &&& highBits used = 0 ↔
      ∀ bit, used ≤ bit -> byte.getLsbD bit = false := by
  constructor
  · intro zero bit high
    have equal := congrArg (fun value => BitVec.getLsbD value bit) zero
    simp only [BitVec.getLsbD_and, getLsbD_highBits, BitVec.ofNat_eq_ofNat,
      BitVec.getLsbD_zero] at equal
    by_cases inside : bit < 8
    · simpa [inside, high] using equal
    · exact BitVec.getLsbD_of_ge _ _ (by omega)
  · intro zero
    apply BitVec.eq_of_getLsbD_eq
    intro bit _
    rw [BitVec.getLsbD_and, getLsbD_highBits]
    by_cases high : used ≤ bit
    · simp [zero bit high]
    · simp [high]

/-- Bytes have as many set bits as their bit positions. -/
theorem sum_popcount (bytes : List Byte) :
    (bytes.map popcount).sum =
      (List.range (8 * bytes.length)).countP (bitAt bytes) := by
  induction bytes using List.reverseRecOn with
  | nil => simp
  | append_singleton front last inductionHypothesis =>
      rw [List.map_append, List.sum_append, List.length_append,
        List.length_singleton, Nat.mul_add, List.range_add,
        List.countP_append, List.countP_map, inductionHypothesis]
      congr 1
      · apply List.countP_congr
        intro index member
        rw [List.mem_range] at member
        unfold bitAt
        rw [List.getD_append _ _ _ _ (by omega)]
      · simp only [List.map_cons, List.map_nil, List.sum_cons, List.sum_nil,
          Nat.add_zero, popcount, Nat.mul_one]
        apply List.countP_congr
        intro bit member
        rw [List.mem_range] at member
        have place : (8 * front.length + bit) / 8 = front.length := by omega
        have offset : (8 * front.length + bit) % 8 = bit := by omega
        simp [bitAt, place, offset]

/-- When no bit is set past the first `count`, the set bits of the bytes are
the set bits among those. -/
theorem sum_popcount_eq_countP_unpackBits
    {count : Nat} {bytes : List Byte}
    (covers : count ≤ 8 * bytes.length)
    (clear : ∀ index, count ≤ index -> bitAt bytes index = false) :
    (bytes.map popcount).sum = (unpackBits count bytes).countP id := by
  obtain ⟨extra, total⟩ := Nat.exists_eq_add_of_le covers
  rw [sum_popcount, total, List.range_add, List.countP_append,
    List.countP_map, unpackBits, List.countP_map]
  have none : (List.range extra).countP
      (bitAt bytes ∘ fun index => count + index) = 0 := by
    rw [List.countP_eq_zero]
    intro index _
    simp [clear (count + index) (by omega)]
  rw [none]
  simp

/-- The packed length of `count` bits is what the highest-bit masks check: if
the last byte has no bit past `count`, no bit past `count` is set. -/
theorem bitAt_eq_false_of_highBits
    {count : Nat} {bytes : List Byte}
    (width : bytes.length = (count + 7) / 8)
    (partial' : count % 8 ≠ 0 ->
      bytes.getLastD 0 &&& highBits (count % 8) = 0)
    {index : Nat}
    (past : count ≤ index) :
    bitAt bytes index = false := by
  unfold bitAt
  by_cases inside : index / 8 < bytes.length
  · have ragged : count % 8 ≠ 0 := by omega
    have last : index / 8 = bytes.length - 1 := by omega
    have high := (and_highBits_eq_zero_iff _ _).mp (partial' ragged)
    have lastByte : bytes.getD (index / 8) 0 = bytes.getLastD 0 := by
      rw [List.getLastD_eq_getLast?, List.getLast?_eq_getElem?,
        List.getD_eq_getElem?_getD, last]
    rw [lastByte]
    exact high (index % 8) (by omega)
  · rw [List.getD_eq_default _ _ (by omega)]
    simp

/-- Packing leaves no bit past the end. -/
theorem getLastD_packBits_and_highBits
    (bits : List Bool)
    (ragged : bits.length % 8 ≠ 0) :
    (packBits bits).getLastD 0 &&& highBits (bits.length % 8) = 0 := by
  rw [and_highBits_eq_zero_iff]
  intro bit high
  by_cases inside : bit < 8
  · have position : (packBits bits).getLastD 0 =
        (packBits bits).getD (bits.length / 8) 0 := by
      rw [List.getLastD_eq_getLast?, List.getLast?_eq_getElem?,
        List.getD_eq_getElem?_getD, length_packBits]
      congr 2
      omega
    have bitEq : ((packBits bits).getD (bits.length / 8) 0).getLsbD bit =
        bitAt (packBits bits) (8 * (bits.length / 8) + bit) := by
      unfold bitAt
      congr 2 <;> omega
    rw [position, bitEq, bitAt_packBits, List.getD_eq_default _ _ (by omega)]
  · exact BitVec.getLsbD_of_ge _ _ (by omega)

end Words
end CodingLlm
