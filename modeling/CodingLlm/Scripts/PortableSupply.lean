import CodingLlm.Scripts.QualifyOrders
import CodingLlm.Pretrain.FinalizedOrders

/-!
# The rows that a supply can fill

What `_strict_weighted_row_counts` and `_largest_feasible_rows` come to for the
40/40/20 mixture.
-/

namespace CodingLlm

open Apportionment

/-! ## Whole quanta -/

/-- The rows of each domain in a number of quanta of five rows. -/
def quantumRows (quanta : Nat) : Domain -> Nat
  | .python => 2 * quanta
  | .otherCode => 2 * quanta
  | .english => quanta

theorem exactRows_quanta (quanta : Nat) (domain : Domain) :
    exactRows (quanta * 5) expectedWeights domain =
      (quantumRows quanta domain : Nat) := by
  rw [exactRows_eq]
  cases domain <;> simp only [expectedWeights, quantumRows] <;> push_cast <;>
    ring

/-- Five rows make one quantum of the 40/40/20 mixture. -/
theorem weightedRowCounts_quanta (quanta : Nat) :
    weightedRowCounts (quanta * 5) expectedWeights = quantumRows quanta := by
  have floor (domain : Domain) :
      floorOf (exactRows (quanta * 5) expectedWeights domain) =
        quantumRows quanta domain := by
    rw [exactRows_quanta]
    exact floorOf_eq le_rfl (by simp)
  have nothing : leftover Domain.order
      (exactRows (quanta * 5) expectedWeights) (quanta * 5) = 0 := by
    simp only [leftover, floor, Domain.order, List.map_cons, List.map_nil,
      List.sum_cons, List.sum_nil, quantumRows]
    omega
  funext domain
  rw [weightedRowCounts, units, nothing, floor]
  simp

/-! ## The binary search -/

section Search

variable {fits : Nat -> Checked Bool} {holds : Nat -> Prop}
variable [DecidablePred holds]

/-- The search ends at the largest number that fits, if what fits is closed
downwards. -/
theorem searchUnits_eq
    (decides : ∀ units, 1 ≤ units ->
      fits units = .ok (decide (holds units)))
    (closed : ∀ less more, less ≤ more -> holds more -> holds less)
    {low high : Nat}
    (ordered : low ≤ high) :
    ∃ units, searchUnits fits low high = .ok units ∧
      low ≤ units ∧ units ≤ high ∧ (low < units -> holds units) ∧
        ∀ more, units < more -> more ≤ high -> ¬holds more := by
  induction width : high - low using Nat.strongRecOn generalizing low high with
  | ind width inductionHypothesis =>
  rw [searchUnits]
  by_cases more : low < high
  · have middleFits := decides ((low + high + 1) / 2) (by omega)
    rw [if_pos more]
    dsimp only
    rw [middleFits, checked_ok_bind]
    by_cases enough : holds ((low + high + 1) / 2)
    · rw [if_pos (by simpa using enough)]
      obtain ⟨units, ended, lower, upper, found, maximal⟩ :=
        inductionHypothesis (high - (low + high + 1) / 2) (by omega)
          (show (low + high + 1) / 2 ≤ high by omega) rfl
      refine ⟨units, ended, by omega, upper, fun _ => ?_, maximal⟩
      rcases Nat.eq_or_lt_of_le lower with same | beyond
      · exact same ▸ enough
      · exact found beyond
    · rw [if_neg (by simpa using enough)]
      obtain ⟨units, ended, lower, upper, found, maximal⟩ :=
        inductionHypothesis ((low + high + 1) / 2 - 1 - low) (by omega)
          (show low ≤ (low + high + 1) / 2 - 1 by omega) rfl
      refine ⟨units, ended, lower, by omega, found, ?_⟩
      intro other beyond within
      by_cases inside : other ≤ (low + high + 1) / 2 - 1
      · exact maximal other beyond inside
      · exact fun there => enough (closed _ other (by omega) there)
  · rw [if_neg more]
    exact ⟨low, rfl, le_rfl, ordered, by omega, by omega⟩

end Search

/-! ## Held-out rows -/

/-- A supply fills a number of quanta. -/
def FillsQuanta (available : Domain -> Nat) (quanta : Nat) : Prop :=
  ∀ domain ∈ Domain.order, quantumRows quanta domain ≤ available domain

instance (available : Domain -> Nat) (quanta : Nat) :
    Decidable (FillsQuanta available quanta) :=
  inferInstanceAs (Decidable (∀ _ ∈ _, _))

theorem FillsQuanta.mono
    {available : Domain -> Nat} {less more : Nat}
    (fills : FillsQuanta available more) (le : less ≤ more) :
    FillsQuanta available less := by
  intro domain member
  refine le_trans ?_ (fills domain member)
  cases domain <;> simp only [quantumRows] <;> omega

/-- `_largest_feasible_rows` with quanta of five rows. -/
theorem largestFeasibleRows_eq_ok
    {available : Domain -> Nat} {maximumRows rows : Nat} :
    largestFeasibleRows available maximumRows 5 = .ok rows ↔
      ∃ quanta, rows = quanta * 5 ∧ 1 ≤ quanta ∧ quanta ≤ maximumRows / 5 ∧
        FillsQuanta available quanta ∧
          ∀ more, quanta < more -> more ≤ maximumRows / 5 ->
            ¬FillsQuanta available more := by
  have decides (units : Nat) (positive : 1 ≤ units) :
      (do
        let counts ← strictWeightedRowCounts (units * 5) expectedWeights
        return decide (∀ domain ∈ Domain.order,
          counts domain ≤ available domain) : Checked Bool) =
        .ok (decide (FillsQuanta available units)) := by
    have counts : strictWeightedRowCounts (units * 5) expectedWeights =
        .ok (quantumRows units) :=
      strictWeightedRowCounts_eq_ok.mpr
        ⟨by omega, (weightedRowCounts_quanta units).symm⟩
    rw [counts, checked_ok_bind]
    rfl
  obtain ⟨units, ended, -, upper, found, maximal⟩ :=
    searchUnits_eq decides (fun _ _ le fills => fills.mono le)
      (Nat.zero_le (maximumRows / 5))
  rw [largestFeasibleRows, require_then_eq_ok, ended, checked_ok_bind,
    require_then_eq_ok, checked_pure_eq_ok]
  constructor
  · rintro ⟨-, positive, rfl⟩
    exact ⟨units, rfl, by omega, upper, found (by omega), maximal⟩
  · rintro ⟨quanta, rfl, positive, within, fills, largest⟩
    have same : units = quanta := by
      rcases Nat.lt_trichotomy units quanta with less | same | more
      · exact absurd fills (maximal quanta less within)
      · exact same
      · exact absurd (found (by omega)) (largest units more upper)
    rw [same]
    exact ⟨⟨by omega, by omega⟩, by omega, rfl⟩

end CodingLlm
