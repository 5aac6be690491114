import Mathlib.Algebra.BigOperators.Ring.Finset
import Mathlib.Algebra.Order.BigOperators.Group.List
import Mathlib.Data.Rat.Floor

/-!
# Largest-remainder apportionment

A whole number of units is divided over keys with rational shares: every key
gets the floor of its share, and the units that are left go, one each, to the
keys at the front of a ranking.
-/

namespace CodingLlm
namespace Apportionment

variable {α : Type}

/-- `share.numerator // share.denominator`, for a share that is not
negative. -/
def floorOf (share : Rat) : Nat := (share.num / share.den).toNat

/-- Units that the floors leave over. -/
def leftover (keys : List α) (share : α -> Rat) (total : Nat) : Nat :=
  total - (keys.map fun key => floorOf (share key)).sum

/-- The floor of a key's share, and one more unit if the key is ranked among
the first `leftover`. -/
def units [DecidableEq α]
    (keys : List α) (share : α -> Rat) (total : Nat) (ranked : List α)
    (key : α) : Nat :=
  floorOf (share key) +
    if key ∈ ranked.take (leftover keys share total) then 1 else 0

theorem floorOf_le {share : Rat} (nonneg : 0 ≤ share) :
    (floorOf share : Rat) ≤ share := by
  have floor := Int.floor_le share
  rw [Rat.floor_def'] at floor
  have whole : 0 ≤ share.num / share.den :=
    Int.ediv_nonneg (Rat.num_nonneg.mpr nonneg) (Int.natCast_nonneg _)
  calc (floorOf share : Rat)
      = ((floorOf share : Int) : Rat) := by push_cast; rfl
    _ = ((share.num / share.den : Int) : Rat) := by
        rw [floorOf, Int.toNat_of_nonneg whole]
    _ ≤ share := floor

theorem lt_floorOf_add_one (share : Rat) :
    share < (floorOf share : Rat) + 1 := by
  have floor := Int.lt_floor_add_one share
  rw [Rat.floor_def'] at floor
  have above : ((share.num / share.den : Int) : Rat) ≤
      ((floorOf share : Int) : Rat) :=
    Int.cast_le.mpr (Int.self_le_toNat _)
  push_cast at above
  linarith

variable {keys : List α} {share : α -> Rat} {total : Nat}

/-- The floors stay below the total, by less than a unit for each key. -/
theorem sum_floorOf_bounds
    (nonneg : ∀ key ∈ keys, 0 ≤ share key)
    (sums : (keys.map share).sum = total) :
    (keys.map fun key => floorOf (share key)).sum ≤ total ∧
      total ≤ (keys.map fun key => floorOf (share key)).sum +
        keys.length := by
  have below : ((keys.map fun key => (floorOf (share key) : Rat))).sum ≤
      (keys.map share).sum :=
    List.sum_le_sum fun key member => floorOf_le (nonneg key member)
  have above : (keys.map share).sum ≤
      ((keys.map fun key => (floorOf (share key) : Rat) + 1)).sum :=
    List.sum_le_sum fun key _ => (lt_floorOf_add_one (share key)).le
  have cast : ((keys.map fun key => (floorOf (share key) : Rat))).sum =
      ((keys.map fun key => floorOf (share key)).sum : Nat) := by
    rw [Nat.cast_list_sum, List.map_map]
    rfl
  rw [List.sum_map_add, cast, sums] at above
  simp only [List.map_const', List.sum_replicate, nsmul_eq_mul, mul_one]
    at above
  rw [cast, sums] at below
  exact ⟨by exact_mod_cast below, by exact_mod_cast above⟩

theorem leftover_le_length
    (nonneg : ∀ key ∈ keys, 0 ≤ share key)
    (sums : (keys.map share).sum = total) :
    leftover keys share total ≤ keys.length := by
  have bounds := sum_floorOf_bounds nonneg sums
  rw [leftover]
  omega

/-- Counting the members of a sublist without repetition. -/
theorem sum_indicator_eq_length [DecidableEq α]
    {chosen : List α}
    (keysNodup : keys.Nodup) (chosenNodup : chosen.Nodup)
    (subset : chosen ⊆ keys) :
    (keys.map fun key => if key ∈ chosen then 1 else 0).sum =
      chosen.length := by
  have counted (items : List α) :
      (items.map fun key => if key ∈ chosen then 1 else 0).sum =
        items.countP (· ∈ chosen) := by
    induction items with
    | nil => rfl
    | cons key rest inductionHypothesis =>
        rw [List.map_cons, List.sum_cons, inductionHypothesis,
          List.countP_cons, Nat.add_comm]
        simp only [decide_eq_true_eq]
  rw [counted, List.countP_eq_length_filter]
  refine ((List.perm_ext_iff_of_nodup (keysNodup.filter _)
    chosenNodup).mpr fun key => ?_).length_eq
  simp only [List.mem_filter, decide_eq_true_eq]
  exact ⟨And.right, fun member => ⟨subset member, member⟩⟩

/-- The units add up to the total, whatever the ranking is. -/
theorem sum_units [DecidableEq α]
    {ranked : List α}
    (nodup : keys.Nodup)
    (ranking : ranked.Perm keys)
    (nonneg : ∀ key ∈ keys, 0 ≤ share key)
    (sums : (keys.map share).sum = total) :
    (keys.map (units keys share total ranked)).sum = total := by
  have chosen := sum_indicator_eq_length nodup
    ((ranking.nodup_iff.mpr nodup).sublist
      (List.take_sublist (leftover keys share total) ranked))
    fun key member =>
      ranking.mem_iff.mp (List.mem_of_mem_take member)
  have whole : (keys.map (units keys share total ranked)).sum =
      (keys.map fun key => floorOf (share key)).sum +
        (keys.map fun key =>
          if key ∈ ranked.take (leftover keys share total) then 1
          else 0).sum := List.sum_map_add
  have bounds := sum_floorOf_bounds nonneg sums
  rw [whole, chosen, List.length_take, ranking.length_eq,
    Nat.min_eq_left (leftover_le_length nonneg sums), leftover]
  omega

/-- A key's units are less than one unit away from its share, or exactly one
unit away. -/
theorem abs_units_sub_le [DecidableEq α]
    {ranked : List α} {key : α}
    (nonneg : 0 ≤ share key) :
    |(units keys share total ranked key : Rat) - share key| ≤ 1 := by
  have below := floorOf_le nonneg
  have above := lt_floorOf_add_one (share key)
  rw [abs_le, units]
  split <;> push_cast <;> constructor <;> linarith

/-! ## Whole shares -/

/-- The floor is the only natural number next below. -/
theorem floorOf_eq {share : Rat} {whole : Nat}
    (below : (whole : Rat) ≤ share) (above : share < whole + 1) :
    floorOf share = whole := by
  have nonneg : 0 ≤ share := (Nat.cast_nonneg whole).trans below
  have low := floorOf_le nonneg
  have high := lt_floorOf_add_one share
  have left : (floorOf share : Rat) < (whole + 1 : Nat) := by
    push_cast
    linarith
  have right : (whole : Rat) < (floorOf share + 1 : Nat) := by
    push_cast
    linarith
  rw [Nat.cast_lt] at left right
  omega

theorem floorOf_add_nat
    {share : Rat} {whole : Nat} (nonneg : 0 ≤ share) :
    floorOf (share + whole) = floorOf share + whole := by
  have low := floorOf_le nonneg
  have high := lt_floorOf_add_one share
  apply floorOf_eq
  · push_cast
    linarith
  · push_cast
    linarith

/-- Whole units in every share are given out as they are. -/
theorem units_add_nat [DecidableEq α]
    {key : α} {whole : α -> Nat} {ranked : List α}
    (member : key ∈ keys)
    (nonneg : ∀ key ∈ keys, 0 ≤ share key) :
    units keys (fun key => share key + whole key)
        (total + (keys.map whole).sum) ranked key =
      units keys share total ranked key + whole key := by
  have floors : (keys.map fun key => floorOf (share key + whole key)).sum =
      (keys.map fun key => floorOf (share key)).sum +
        (keys.map whole).sum := by
    rw [← List.sum_map_add]
    apply congrArg List.sum
    apply List.map_congr_left
    intro other inside
    exact floorOf_add_nat (nonneg other inside)
  have left : leftover keys (fun key => share key + whole key)
      (total + (keys.map whole).sum) = leftover keys share total := by
    unfold leftover
    rw [floors]
    omega
  unfold units
  rw [left, floorOf_add_nat (nonneg key member)]
  omega

end Apportionment
end CodingLlm
