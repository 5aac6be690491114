import CodingLlm.Library.Apportionment
import CodingLlm.Pretrain.OrderFormat

/-!
# Domain weights

Normalised weights over the domains, the largest-remainder allocation of rows
to them, and the tolerance with which recorded weights are compared.  Floats
are exact rationals.
-/

namespace CodingLlm

open Apportionment

/-! ## Floats -/

/-- Digits in groups joined by single underscores: their value and number. -/
def digitGroups? (text : List Char) : Option (Nat × Nat) :=
  let groups := text.splitOn '_'
  if groups.all fun group => !group.isEmpty && group.all Char.isDigit then
    some (groups.flatten.foldl
        (fun value digit => 10 * value + (digit.toNat - '0'.toNat)) 0,
      groups.flatten.length)
  else none

/-- Digits with at most one point among them. -/
def pointDecimal? (text : List Char) : Option Rat :=
  let whole := text.takeWhile (· ≠ '.')
  let fraction := (text.dropWhile (· ≠ '.')).drop 1
  match whole, fraction with
  | [], [] => none
  | _, [] => (digitGroups? whole).map fun digits => (digits.1 : Rat)
  | [], _ => (digitGroups? fraction).map fun digits =>
      (digits.1 : Rat) / 10 ^ digits.2
  | _, _ => do
      let front ← digitGroups? whole
      let back ← digitGroups? fraction
      return (front.1 : Rat) + (back.1 : Rat) / 10 ^ back.2

/-- A sign in front of an unsigned numeral. -/
def signed? (unsigned : List Char -> Option Rat) :
    List Char -> Option Rat
  | '-' :: rest => (unsigned rest).map (- ·)
  | '+' :: rest => unsigned rest
  | text => unsigned text

/-- `float(text)` of a finite decimal numeral. -/
def floatOfText? (text : String) : Option Rat :=
  let stripped := ((text.toList.dropWhile Char.isWhitespace).reverse.dropWhile
    Char.isWhitespace).reverse
  let isMark (letter : Char) : Bool := letter = 'e' || letter = 'E'
  let mantissa := signed? pointDecimal? (stripped.takeWhile (!isMark ·))
  match stripped.dropWhile (!isMark ·) with
  | [] => mantissa
  | _ :: exponent => do
      let value ← mantissa
      let power ← signed? (fun digits =>
        (digitGroups? digits).map fun number => (number.1 : Rat)) exponent
      return value * 10 ^ power.num

/-- `float(value)`, where it is finite. -/
def PyValue.float? : PyValue -> Option Rat
  | .str text => floatOfText? text
  | value => value.number?

/-- `math.isclose(float(value), expected, rel_tol=0.0, abs_tol=1e-15)`. -/
def PyValue.IsClose (value : PyValue) (expected : Rat) : Prop :=
  ∃ found ∈ value.float?, |found - expected| ≤ 1 / 10 ^ 15

instance (value : PyValue) (expected : Rat) :
    Decidable (value.IsClose expected) :=
  match found : value.float? with
  | some number =>
      decidable_of_iff (|number - expected| ≤ 1 / 10 ^ 15) (by
        simp [PyValue.IsClose, found])
  | none => .isFalse (by simp [PyValue.IsClose, found])

@[simp] theorem PyValue.isClose_float (value : Rat) :
    (PyValue.float value).IsClose value :=
  ⟨value, rfl, by norm_num⟩

/-- A mapping to floats, as it is written. -/
def DomainField.ofWeights (weights : Domain -> Rat) : DomainField PyValue :=
  .mapping fun domain => .float (weights domain)

/-- Recorded weights must be close to the given ones. -/
def DomainField.AllClose
    (field : DomainField PyValue) (expected : Domain -> Rat) : Prop :=
  ∃ values ∈ field.mapping?,
    ∀ domain ∈ Domain.order, (values domain).IsClose (expected domain)

instance : (field : DomainField PyValue) -> (expected : Domain -> Rat) ->
    Decidable (field.AllClose expected)
  | .mapping values, expected => decidable_of_iff
      (∀ domain ∈ Domain.order, (values domain).IsClose (expected domain))
      (by simp [DomainField.AllClose, DomainField.mapping?])
  | .null, _ => .isFalse (by simp [DomainField.AllClose, DomainField.mapping?])
  | .malformed, _ => .isFalse (by
      simp [DomainField.AllClose, DomainField.mapping?])

theorem DomainField.allClose_ofWeights (weights : Domain -> Rat) :
    (DomainField.ofWeights weights).AllClose weights :=
  ⟨_, rfl, fun domain _ => PyValue.isClose_float (weights domain)⟩

/-- `found / total if total else 0.0`. -/
def shareOf (found total : Int) : Rat :=
  if total = 0 then 0 else (found : Rat) / total

/-! ## Normalised weights -/

/-- Weights that add up to one. -/
structure DomainWeights where
  weight : Domain -> Rat
  nonneg : ∀ domain, 0 ≤ weight domain
  total_eq : totalOf weight = 1

theorem totalOf_div (values : Domain -> Rat) (divisor : Rat) :
    totalOf (fun domain => values domain / divisor) =
      totalOf values / divisor := by
  simp only [totalOf_eq, add_div]

/-- `_normalize_domain_weights`. -/
def normalizeDomainWeights (weights : DomainField PyValue) :
    Checked DomainWeights := do
  let entries ← requireObject weights.mapping?
    (.valueError "Expected weights must contain exactly DOMAIN_ORDER")
  let _ ← require
    (∀ domain ∈ Domain.order, ((entries domain).float?).isSome = true)
    (.typeError "could not convert to float")
  let values (domain : Domain) : Rat := ((entries domain).float?).getD 0
  let ⟨nonneg⟩ ← require (∀ domain ∈ Domain.order, 0 ≤ values domain)
    (.valueError "Expected weights must be finite and non-negative")
  let ⟨positive⟩ ← require (0 < totalOf values)
    (.valueError "Expected weights must have positive total weight")
  return {
    weight := fun domain => values domain / totalOf values
    nonneg := fun domain =>
      div_nonneg (nonneg domain (Domain.mem_order domain)) positive.le
    total_eq := by
      rw [totalOf_div]
      exact div_self positive.ne'
  }

/-- Normalising what was normalised changes nothing. -/
theorem normalizeDomainWeights_ofWeights (weights : DomainWeights) :
    normalizeDomainWeights (.ofWeights weights.weight) = .ok weights := by
  have total := weights.total_eq
  unfold normalizeDomainWeights
  rw [DomainField.ofWeights, DomainField.mapping?_mapping,
    requireObject_some, checked_ok_bind]
  refine (require_bind (fun _ _ => rfl) _).trans ?_
  refine (require_bind (fun domain _ => weights.nonneg domain) _).trans ?_
  refine (require_bind ?_ _).trans ?_
  · exact total.symm ▸ one_pos
  · refine congrArg Except.ok ?_
    obtain ⟨weight, nonneg, totalEq⟩ := weights
    have same : (fun domain =>
        weight domain / totalOf fun domain : Domain =>
          ((PyValue.float (weight domain)).float?).getD 0) = weight := by
      funext domain
      rw [show (totalOf fun domain : Domain =>
        ((PyValue.float (weight domain)).float?).getD 0) = 1 from totalEq,
        div_one]
    simp only [DomainWeights.mk.injEq]
    exact same

/-- `_validate_row_mixture`. -/
def validateRowMixture (counts : Domain -> Nat) (weights : DomainWeights) :
    Checked Unit := do
  let _ ← require
    (∀ domain ∈ Domain.order,
      |(counts domain : Rat) - totalOf counts * weights.weight domain| ≤ 1)
    (.valueError "Packed row mixture is wrong")
  return ()

/-! ## Strict allocation -/

/-- The exact rational rows of a domain. -/
def exactRows (totalRows : Nat) (weights : DomainWeights)
    (domain : Domain) : Rat :=
  totalRows * weights.weight domain / totalOf weights.weight

/-- The domains by falling fractional part, ties in the order of the ids. -/
def rankedDomains (exact : Domain -> Rat) : List Domain :=
  Domain.order.insertionSort fun first second =>
    exact second - floorOf (exact second) <
        exact first - floorOf (exact first) ∨
      (exact second - floorOf (exact second) =
          exact first - floorOf (exact first) ∧
        first.id ≤ second.id)

/-- What the largest-remainder method gives each domain. -/
def weightedRowCounts (totalRows : Nat) (weights : DomainWeights) :
    Domain -> Nat :=
  let exact := exactRows totalRows weights
  units Domain.order exact totalRows (rankedDomains exact)

/-- `_strict_weighted_row_counts`. -/
def strictWeightedRowCounts (totalRows : Nat) (weights : DomainWeights) :
    Checked (Domain -> Nat) := do
  let _ ← require (1 ≤ totalRows)
    (.valueError "A weighted order must contain at least one row")
  let counts := weightedRowCounts totalRows weights
  validateRowMixture counts weights
  return counts

section Allocation

variable (totalRows : Nat) (weights : DomainWeights)

theorem exactRows_eq (domain : Domain) :
    exactRows totalRows weights domain =
      totalRows * weights.weight domain := by
  rw [exactRows, weights.total_eq, div_one]

theorem exactRows_nonneg (domain : Domain) :
    0 ≤ exactRows totalRows weights domain := by
  rw [exactRows_eq]
  exact mul_nonneg (Nat.cast_nonneg _) (weights.nonneg domain)

theorem sum_exactRows :
    (Domain.order.map (exactRows totalRows weights)).sum = totalRows := by
  have total := weights.total_eq
  rw [totalOf_eq] at total
  have sum := totalOf_eq (exactRows totalRows weights)
  simp only [exactRows_eq] at sum
  rw [totalOf] at sum
  rw [sum, ← mul_add, ← mul_add, total, mul_one]

/-- The allocation adds up to the rows to be allocated. -/
theorem totalOf_weightedRowCounts :
    totalOf (weightedRowCounts totalRows weights) = totalRows :=
  sum_units (by decide) (List.perm_insertionSort _ _)
    (fun domain _ => exactRows_nonneg totalRows weights domain)
    (sum_exactRows totalRows weights)

/-- The allocation is within one row of the exact shares. -/
theorem validateRowMixture_weightedRowCounts :
    validateRowMixture (weightedRowCounts totalRows weights) weights =
      .ok () := by
  refine require_bind (fun domain _ => ?_) _
  rw [totalOf_weightedRowCounts, ← exactRows_eq]
  exact abs_units_sub_le (exactRows_nonneg totalRows weights domain)

theorem strictWeightedRowCounts_eq_ok
    {totalRows : Nat} {weights : DomainWeights} {counts : Domain -> Nat} :
    strictWeightedRowCounts totalRows weights = .ok counts ↔
      1 ≤ totalRows ∧ counts = weightedRowCounts totalRows weights := by
  rw [strictWeightedRowCounts, require_then_eq_ok]
  refine and_congr_right fun _ => ?_
  simp only [validateRowMixture_weightedRowCounts, checked_ok_bind,
    checked_pure_eq_ok]
  exact eq_comm

end Allocation

end CodingLlm
