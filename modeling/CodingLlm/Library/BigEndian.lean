import CodingLlm.Library.Words

/-!
# Big-endian words

A number as a fixed count of bytes, the most significant one first.
-/

namespace CodingLlm
namespace Words

/-- A number as big-endian bytes. -/
def bigEndian (width value : Nat) : List Byte :=
  (encodeWord width value).reverse

/-- The number that big-endian bytes stand for. -/
def fromBigEndian (bytes : List Byte) : Nat :=
  decodeWord bytes.reverse

@[simp] theorem length_bigEndian (width value : Nat) :
    (bigEndian width value).length = width := by
  rw [bigEndian, List.length_reverse, length_encodeWord]

theorem fromBigEndian_bigEndian
    {width value : Nat}
    (fits : value < 256 ^ width) :
    fromBigEndian (bigEndian width value) = value := by
  rw [fromBigEndian, bigEndian, List.reverse_reverse]
  exact decodeWord_encodeWord fits

theorem fromBigEndian_lt (bytes : List Byte) :
    fromBigEndian bytes < 256 ^ bytes.length := by
  have below := decodeWord_lt bytes.reverse
  rwa [List.length_reverse] at below

theorem encodeWord_decodeWord (bytes : List Byte) :
    encodeWord bytes.length (decodeWord bytes) = bytes := by
  induction bytes with
  | nil => rfl
  | cons byte rest inductionHypothesis =>
      have small : byte.toNat < 256 := byte.isLt
      have first : BitVec.ofNat 8 (byte.toNat + 256 * decodeWord rest) =
          byte := by
        apply BitVec.eq_of_toNat_eq
        rw [BitVec.toNat_ofNat]
        omega
      have later : (byte.toNat + 256 * decodeWord rest) / 256 =
          decodeWord rest := by
        omega
      rw [decodeWord, List.length_cons, encodeWord, first, later,
        inductionHypothesis]

theorem bigEndian_fromBigEndian (bytes : List Byte) :
    bigEndian bytes.length (fromBigEndian bytes) = bytes := by
  have inverse := encodeWord_decodeWord bytes.reverse
  rw [List.length_reverse] at inverse
  rw [bigEndian, fromBigEndian, inverse, List.reverse_reverse]

end Words
end CodingLlm
