import CodingLlm.Library.LargestRemainder
import CodingLlm.Pretrain.Weights

/-!
# Strict allocation of rows

`_strict_weighted_row_counts` for weights with any positive sum: it divides by
the sum before it rounds, but the check after it multiplies the rows with the
weights as they were given.
-/

namespace CodingLlm

open Apportionment

/-- Weights that are not negative and have a positive sum. -/
structure PositiveWeights where
  weight : Domain -> Rat
  nonneg : ∀ domain, 0 ≤ weight domain
  positive : 0 < totalOf weight

/-- Normalised weights are such weights. -/
def DomainWeights.toPositive (weights : DomainWeights) : PositiveWeights where
  weight := weights.weight
  nonneg := weights.nonneg
  positive := by
    rw [weights.total_eq]
    exact one_pos

namespace PositiveWeights

variable (totalRows : Nat) (weights : PositiveWeights)

/-- The exact rational rows of a domain. -/
def exactRows (domain : Domain) : Rat :=
  totalRows * weights.weight domain / totalOf weights.weight

/-- The counts that `_strict_weighted_row_counts` checks. -/
def rowCounts : Domain -> Nat :=
  units Domain.order (exactRows totalRows weights) totalRows
    (rankedDomains (exactRows totalRows weights))

/-- `_validate_row_mixture`. -/
def validateRowMixture (counts : Domain -> Nat) : Checked Unit := do
  let _ ← require
    (∀ domain ∈ Domain.order,
      |(counts domain : Rat) - totalOf counts * weights.weight domain| ≤ 1)
    (.valueError "Packed row mixture is wrong")
  return ()

/-- `_strict_weighted_row_counts`. -/
def strictWeightedRowCounts : Checked (Domain -> Nat) := do
  let _ ← require (1 ≤ totalRows)
    (.valueError "A weighted order must contain at least one row")
  let counts := rowCounts totalRows weights
  validateRowMixture weights counts
  return counts

/-- Normalised weights are allocated as everywhere else. -/
theorem strictWeightedRowCounts_toPositive (weights : DomainWeights) :
    strictWeightedRowCounts totalRows weights.toPositive =
      CodingLlm.strictWeightedRowCounts totalRows weights :=
  rfl

/-! ## Exact shares -/

theorem exactRows_nonneg (domain : Domain) :
    0 ≤ exactRows totalRows weights domain :=
  div_nonneg (mul_nonneg (Nat.cast_nonneg _) (weights.nonneg domain))
    weights.positive.le

theorem sum_exactRows :
    (Domain.order.map (exactRows totalRows weights)).sum = totalRows := by
  have divided : totalOf (exactRows totalRows weights) =
      totalRows * totalOf weights.weight / totalOf weights.weight := by
    unfold exactRows
    rw [totalOf_div]
    simp only [totalOf_eq, mul_add]
  have positive := weights.positive.ne'
  rw [← totalOf, divided, mul_div_assoc, div_self positive, mul_one]

/-- How domains are ranked. -/
def RanksBefore (exact : Domain -> Rat) (first second : Domain) : Prop :=
  fraction (exact second) < fraction (exact first) ∨
    (fraction (exact second) = fraction (exact first) ∧
      first.id ≤ second.id)

instance (exact : Domain -> Rat) : DecidableRel (RanksBefore exact) :=
  fun first second => inferInstanceAs (Decidable
    (fraction (exact second) < fraction (exact first) ∨
      (fraction (exact second) = fraction (exact first) ∧
        first.id ≤ second.id)))

theorem pairwise_rankedDomains (exact : Domain -> Rat) :
    (rankedDomains exact).Pairwise (RanksBefore exact) := by
  have total : Std.Total (RanksBefore exact) := by
    constructor
    intro first second
    unfold RanksBefore
    rcases lt_trichotomy (fraction (exact first)) (fraction (exact second))
      with less | same | more
    · exact .inr (.inl less)
    · rcases Nat.le_total first.id second.id with low | high
      · exact .inl (.inr ⟨same.symm, low⟩)
      · exact .inr (.inr ⟨same, high⟩)
    · exact .inl (.inl more)
  have transitive : IsTrans Domain (RanksBefore exact) := by
    constructor
    rintro first second third (less | ⟨same, low⟩) (more | ⟨equal, high⟩)
    · exact .inl (more.trans less)
    · exact .inl (equal ▸ less)
    · exact .inl (same ▸ more)
    · exact .inr ⟨equal.trans same, low.trans high⟩
  exact List.pairwise_insertionSort (RanksBefore exact) Domain.order

theorem falling_rankedDomains (exact : Domain -> Rat) :
    (rankedDomains exact).Pairwise fun first second =>
      fraction (exact second) ≤ fraction (exact first) := by
  apply (pairwise_rankedDomains exact).imp
  rintro first second (less | ⟨same, _⟩)
  · exact less.le
  · exact same.le

/-! ## The allocation -/

/-- Counts that the largest-remainder method gives. -/
structure LargestRemainder (counts : Domain -> Nat) : Prop where
  total : totalOf counts = totalRows
  rounded : ∀ domain,
    counts domain = ⌊exactRows totalRows weights domain⌋₊ ∨
      counts domain = ⌈exactRows totalRows weights domain⌉₊
  ranked : ∀ up down, exactRows totalRows weights up < counts up ->
    (counts down : Rat) ≤ exactRows totalRows weights down ->
      Int.fract (exactRows totalRows weights down) ≤
          Int.fract (exactRows totalRows weights up) ∧
        (Int.fract (exactRows totalRows weights down) =
            Int.fract (exactRows totalRows weights up) -> up.id < down.id)
  zero : ∀ domain, weights.weight domain = 0 -> counts domain = 0

theorem fraction_eq_fract {share : Rat} (nonneg : 0 ≤ share) :
    fraction share = Int.fract share := by
  rw [fraction, Int.fract, floorOf_eq_natFloor nonneg,
    natCast_floor_eq_intCast_floor nonneg]

theorem largestRemainder_rowCounts :
    LargestRemainder totalRows weights (rowCounts totalRows weights) := by
  have ranking := List.perm_insertionSort (RanksBefore
    (exactRows totalRows weights)) Domain.order
  have falling := falling_rankedDomains (exactRows totalRows weights)
  have nonneg : ∀ domain ∈ Domain.order,
      0 ≤ exactRows totalRows weights domain :=
    fun domain _ => exactRows_nonneg totalRows weights domain
  have sums := sum_exactRows totalRows weights
  refine ⟨sum_units (by decide) ranking nonneg sums, ?_, ?_, ?_⟩
  · intro domain
    exact units_eq_floor_or_ceil (Domain.mem_order domain) ranking falling
      nonneg sums
  · intro up down above below
    have before := ranked_of_units ranking
      (pairwise_rankedDomains (exactRows totalRows weights)) nonneg
      (Domain.mem_order up) (Domain.mem_order down) above below
    rw [← fraction_eq_fract (exactRows_nonneg totalRows weights up),
      ← fraction_eq_fract (exactRows_nonneg totalRows weights down)]
    rcases before with less | ⟨same, low⟩
    · exact ⟨less.le, fun equal => absurd equal less.ne⟩
    · refine ⟨same.le, fun _ => lt_of_le_of_ne low ?_⟩
      intro sameId
      have sameDomain : up = down := by
        cases up <;> cases down <;> first | rfl | cases sameId
      rw [sameDomain] at above
      exact absurd below (not_le.mpr above)
  · intro domain none
    apply units_eq_zero ranking falling nonneg sums
    rw [exactRows, none]
    simp

theorem strictWeightedRowCounts_eq_ok_iff {counts : Domain -> Nat} :
    strictWeightedRowCounts totalRows weights = .ok counts ↔
      1 ≤ totalRows ∧ counts = rowCounts totalRows weights ∧
        ∀ domain, |(rowCounts totalRows weights domain : Rat) -
          totalRows * weights.weight domain| ≤ 1 := by
  have total := (largestRemainder_rowCounts totalRows weights).total
  unfold strictWeightedRowCounts validateRowMixture
  rw [require_then_eq_ok]
  refine and_congr_right fun _ => ?_
  rw [bind_assoc, require_then_eq_ok, total]
  constructor
  · rintro ⟨close, same⟩
    exact ⟨(Except.ok.inj same).symm,
      fun domain => close domain (Domain.mem_order domain)⟩
  · rintro ⟨rfl, close⟩
    exact ⟨fun domain _ => close domain, rfl⟩

/-- What is returned is the largest-remainder allocation.  It is returned where
the weights are normalised, and for other weights exactly if no count is more
than one row away from the product of the rows and the weight. -/
theorem strictWeightedRowCounts_largestRemainder
    (positiveRows : 1 ≤ totalRows) :
    (∀ counts, strictWeightedRowCounts totalRows weights = .ok counts ->
      LargestRemainder totalRows weights counts) ∧
    (totalOf weights.weight = 1 ->
      ∃ counts, strictWeightedRowCounts totalRows weights = .ok counts) ∧
    ((∃ counts, strictWeightedRowCounts totalRows weights = .ok counts) ↔
      ∀ domain, |(rowCounts totalRows weights domain : Rat) -
        totalRows * weights.weight domain| ≤ 1) := by
  simp only [strictWeightedRowCounts_eq_ok_iff]
  refine ⟨?_, ?_, ?_⟩
  · rintro counts ⟨_, rfl, _⟩
    exact largestRemainder_rowCounts totalRows weights
  · intro normalised
    refine ⟨_, positiveRows, rfl, fun domain => ?_⟩
    have close : |(rowCounts totalRows weights domain : Rat) -
        exactRows totalRows weights domain| ≤ 1 :=
      abs_units_sub_le (exactRows_nonneg totalRows weights domain)
    rw [exactRows, normalised, div_one] at close
    exact close
  · constructor
    · rintro ⟨counts, _, _, close⟩
      exact close
    · intro close
      exact ⟨_, positiveRows, rfl, close⟩

/-- Ten rows for weights that are not normalised. -/
def fifths : PositiveWeights where
  weight
    | .python => 2
    | .otherCode => 2
    | .english => 1
  nonneg := by
    rintro (_ | _ | _) <;> norm_num
  positive := by
    rw [totalOf_eq]
    norm_num

/-- The check rejects the four, four and two rows, which it compares with
twenty, twenty and ten. -/
theorem strictWeightedRowCounts_rejects :
    (∀ domain, 0 ≤ fifths.weight domain) ∧ 0 < totalOf fifths.weight ∧
      LargestRemainder 10 fifths (rowCounts 10 fifths) ∧
      ∀ counts, strictWeightedRowCounts 10 fifths ≠ .ok counts := by
  refine ⟨fifths.nonneg, fifths.positive, largestRemainder_rowCounts 10 fifths,
    ?_⟩
  intro counts returned
  have close := ((strictWeightedRowCounts_eq_ok_iff 10 fifths).mp returned).2.2
    .python
  have count : rowCounts 10 fifths .python = 4 := by decide +kernel
  rw [count] at close
  exact absurd close (by decide +kernel)

theorem strictWeightedRowCounts_largestRemainder_fifths :
    (∃ counts, strictWeightedRowCounts 10 fifths = .ok counts) ↔
      ∀ domain, |(rowCounts 10 fifths domain : Rat) -
        (10 : Nat) * fifths.weight domain| ≤ 1 :=
  (strictWeightedRowCounts_largestRemainder 10 fifths (by decide)).2.2

end PositiveWeights

end CodingLlm
