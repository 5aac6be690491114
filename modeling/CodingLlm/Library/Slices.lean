import Mathlib.Data.List.Range
import Mathlib.Algebra.BigOperators.Group.List.Basic
import Mathlib.Tactic.Ring

/-!
# Slices and concatenations of equally wide pieces

Half-open slices of lists, and lists laid out as consecutive pieces of one
width, as a row-major file holds its rows.
-/

namespace CodingLlm
namespace Slices

variable {α β : Type}

/-- The elements `items[start : start + length]`. -/
def slice (items : List α) (start length : Nat) : List α :=
  (items.drop start).take length

/-- Concatenation of the pieces `first, ..., first + count - 1`. -/
def pieces (piece : Nat -> List α) (first count : Nat) : List α :=
  (List.range' first count).flatMap piece

/-! ## Slices -/

theorem length_slice
    {items : List α} {start length : Nat}
    (bound : start + length ≤ items.length) :
    (slice items start length).length = length := by
  simp only [slice, List.length_take, List.length_drop]
  omega

theorem getElem?_slice
    (items : List α) (start length index : Nat) :
    (slice items start length)[index]? =
      if index < length then items[start + index]? else none := by
  simp [slice, List.getElem?_take, List.getElem?_drop]

@[simp] theorem slice_zero (items : List α) (start : Nat) :
    slice items start 0 = [] := by
  simp [slice]

theorem slice_all (items : List α) :
    slice items 0 items.length = items := by
  simp [slice]

/-- A slice of a dropped list is a slice further on. -/
theorem slice_drop (items : List α) (offset start length : Nat) :
    slice (items.drop offset) start length =
      slice items (offset + start) length := by
  simp [slice, List.drop_drop]

/-- A slice that ends inside a longer slice is a slice of the whole. -/
theorem slice_slice
    (items : List α) {outer outerLength start length : Nat}
    (inside : start + length ≤ outerLength) :
    slice (slice items outer outerLength) start length =
      slice items (outer + start) length := by
  simp only [slice, List.drop_take, List.take_take, List.drop_drop]
  rw [Nat.min_eq_left (by omega)]

theorem slice_map (function : α -> β) (items : List α) (start length : Nat) :
    slice (items.map function) start length =
      (slice items start length).map function := by
  simp [slice, List.map_take, List.map_drop]

/-- Adjacent slices join. -/
theorem slice_append_slice
    (items : List α) (start first second : Nat) :
    slice items start first ++ slice items (start + first) second =
      slice items start (first + second) := by
  simp only [slice]
  rw [List.take_add, List.drop_drop]

/-! ## Pieces -/

@[simp] theorem pieces_zero (piece : Nat -> List α) (first : Nat) :
    pieces piece first 0 = [] := by
  simp [pieces]

theorem pieces_add
    (piece : Nat -> List α) (first count more : Nat) :
    pieces piece first (count + more) =
      pieces piece first count ++ pieces piece (first + count) more := by
  simp only [pieces]
  rw [← List.flatMap_append, List.range'_append_1]

theorem pieces_one (piece : Nat -> List α) (first : Nat) :
    pieces piece first 1 = piece first := by
  simp [pieces]

theorem pieces_congr
    {piece other : Nat -> List α} {first count : Nat}
    (equal : ∀ index, first ≤ index -> index < first + count ->
      piece index = other index) :
    pieces piece first count = pieces other first count := by
  simp only [pieces]
  apply List.flatMap_congr
  intro index member
  rw [List.mem_range'_1] at member
  exact equal index member.1 member.2

theorem length_pieces
    {piece : Nat -> List α} {first count width : Nat}
    (uniform : ∀ index, first ≤ index -> index < first + count ->
      (piece index).length = width) :
    (pieces piece first count).length = count * width := by
  induction count with
  | zero => simp
  | succ count inductionHypothesis =>
      rw [pieces_add, List.length_append, pieces_one,
        inductionHypothesis fun index low high =>
          uniform index low (by omega),
        uniform (first + count) (by omega) (by omega)]
      ring

/-- The slice at a piece's place in the layout is the piece. -/
theorem slice_pieces
    {piece : Nat -> List α} {first count width index : Nat}
    (uniform : ∀ index, first ≤ index -> index < first + count ->
      (piece index).length = width)
    (bound : index < count) :
    slice (pieces piece first count) (index * width) width =
      piece (first + index) := by
  obtain ⟨after, rfl⟩ : ∃ after, count = index + (1 + after) :=
    ⟨count - index - 1, by omega⟩
  have beforeLength :
      (pieces piece first index).length = index * width :=
    length_pieces fun position low high => uniform position low (by omega)
  have pieceLength : (piece (first + index)).length = width :=
    uniform (first + index) (by omega) (by omega)
  rw [pieces_add, pieces_add, pieces_one]
  simp only [slice]
  rw [← beforeLength, List.drop_left, ← pieceLength, List.take_left]

/-- The pieces of a map over a range are the mapped pieces. -/
theorem flatMap_range_eq_pieces
    (piece : Nat -> List α) (first count : Nat) :
    (List.range count).flatMap (fun index => piece (first + index)) =
      pieces piece first count := by
  simp only [pieces]
  rw [List.range'_eq_map_range, List.flatMap_map]

/-- A list cut into consecutive slices of one width is put together again by
concatenating them. -/
theorem pieces_slice
    (items : List α) (width first count : Nat) :
    pieces (fun index => slice items (index * width) width) first count =
      slice items (first * width) (count * width) := by
  induction count with
  | zero => simp
  | succ count inductionHypothesis =>
      rw [pieces_add, pieces_one, inductionHypothesis, Nat.add_mul first,
        slice_append_slice, Nat.succ_mul]

/-! ## Chunks of a range -/

/-- `range(0, total, width)`. -/
def chunkBegins (total width : Nat) : List Nat :=
  (List.range ((total + width - 1) / width)).map fun index => index * width

/-- The indices of the chunk that begins at `first`. -/
def chunk (total width first : Nat) : List Nat :=
  List.range' first (min (first + width) total - first)

theorem lt_of_mem_chunk
    {total width first index : Nat}
    (member : index ∈ chunk total width first) : index < total := by
  rw [chunk, List.mem_range'_1] at member
  omega

/-- The chunks reach the end of the range. -/
theorem le_chunks
    {width : Nat} (total : Nat)
    (positive : 0 < width) :
    total ≤ (total + width - 1) / width * width := by
  have := Nat.div_add_mod (total + width - 1) width
  have := Nat.mod_lt (total + width - 1) positive
  rw [Nat.mul_comm]
  omega

/-- The chunks are consecutive pieces of the whole range. -/
theorem flatMap_chunk
    {width : Nat} (total : Nat)
    (positive : 0 < width) :
    (chunkBegins total width).flatMap (chunk total width) =
      List.range total := by
  have prefixes : ∀ count,
      ((List.range count).map fun index => index * width).flatMap
          (chunk total width) =
        List.range (min (count * width) total) := by
    intro count
    induction count with
    | zero => simp
    | succ count inductionHypothesis =>
        rw [List.range_succ, List.map_append, List.flatMap_append,
          inductionHypothesis, Nat.succ_mul]
        simp only [List.map_cons, List.map_nil, List.flatMap_cons,
          List.flatMap_nil, List.append_nil, chunk]
        by_cases inside : count * width ≤ total
        · rw [Nat.min_eq_left inside]
          have grown : min (count * width + width) total =
              count * width +
                (min (count * width + width) total - count * width) := by
            omega
          conv_rhs => rw [grown, List.range_add]
          rw [List.range'_eq_map_range]
        · have done : min (count * width + width) total - count * width = 0 := by
            omega
          rw [done, List.range'_zero, List.append_nil]
          congr 1
          omega
  rw [chunkBegins, prefixes, Nat.min_eq_right (le_chunks total positive)]

/-- The slices of a list at the chunks of its range make up the list. -/
theorem flatMap_slice_chunks
    (items : List α) {width : Nat}
    (positive : 0 < width) :
    (chunkBegins items.length width).flatMap (fun first =>
        slice items first (min (first + width) items.length - first)) =
      items := by
  have prefixes : ∀ count,
      ((List.range count).map fun index => index * width).flatMap
          (fun first => slice items first
            (min (first + width) items.length - first)) =
        items.take (count * width) := by
    intro count
    induction count with
    | zero => simp
    | succ count inductionHypothesis =>
        rw [List.range_succ, List.map_append, List.flatMap_append,
          inductionHypothesis, Nat.succ_mul, List.take_add]
        simp only [List.map_cons, List.map_nil, List.flatMap_cons,
          List.flatMap_nil, List.append_nil, slice]
        congr 1
        rw [List.take_eq_take_iff, List.length_drop]
        omega
  rw [chunkBegins, prefixes,
    List.take_of_length_le (le_chunks items.length positive)]

end Slices
end CodingLlm
