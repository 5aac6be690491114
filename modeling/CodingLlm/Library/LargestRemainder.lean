import CodingLlm.Library.Apportionment

/-!
# Largest remainders

When the ranking goes by falling fractional part, the units that the floors
leave go to shares with a fractional part only, so every share is rounded down
or up, and no share is rounded down whose fractional part is larger than that
of a share that is rounded up.
-/

namespace CodingLlm
namespace Apportionment

variable {α : Type}

/-- What the floor of a share leaves. -/
def fraction (share : Rat) : Rat := share - floorOf share

theorem fraction_nonneg {share : Rat} (nonneg : 0 ≤ share) :
    0 ≤ fraction share := by
  have := floorOf_le nonneg
  unfold fraction
  linarith

theorem fraction_lt_one (share : Rat) : fraction share < 1 := by
  have := lt_floorOf_add_one share
  unfold fraction
  linarith

theorem floorOf_eq_natFloor {share : Rat} (nonneg : 0 ≤ share) :
    floorOf share = ⌊share⌋₊ := by
  apply floorOf_eq
  · exact Nat.floor_le nonneg
  · exact Nat.lt_floor_add_one share

/-- A share with a fractional part has the next unit above it. -/
theorem floorOf_add_one_eq_natCeil
    {share : Rat}
    (parted : 0 < fraction share) :
    floorOf share + 1 = ⌈share⌉₊ := by
  have above := lt_floorOf_add_one share
  unfold fraction at parted
  symm
  rw [Nat.ceil_eq_iff (by omega), Nat.add_sub_cancel]
  push_cast
  constructor
  · linarith
  · exact above.le

section Ranked

variable {keys ranked : List α} {share : α -> Rat} {total : Nat}

/-- The fractional parts add up to the units left. -/
theorem sum_fraction
    (nonneg : ∀ key ∈ keys, 0 ≤ share key)
    (sums : (keys.map share).sum = total) :
    (keys.map fun key => fraction (share key)).sum =
      leftover keys share total := by
  have bounds := sum_floorOf_bounds nonneg sums
  have parts : (keys.map share).sum =
      (keys.map fun key => fraction (share key)).sum +
        (keys.map fun key => (floorOf (share key) : Rat)).sum := by
    rw [← List.sum_map_add]
    apply congrArg List.sum
    apply List.map_congr_left
    intro key _
    rw [fraction, sub_add_cancel]
  have cast : ((keys.map fun key => (floorOf (share key) : Rat))).sum =
      ((keys.map fun key => floorOf (share key)).sum : Nat) := by
    rw [Nat.cast_list_sum, List.map_map]
    rfl
  rw [sums, cast] at parts
  rw [leftover, Nat.cast_sub bounds.1]
  linarith

/-- Only keys whose shares have a fractional part are ranked so far in front
that they get a unit more. -/
theorem fraction_pos_of_mem_take
    {key : α}
    (ranking : ranked.Perm keys)
    (falling : ranked.Pairwise fun first second =>
      fraction (share second) ≤ fraction (share first))
    (nonneg : ∀ key ∈ keys, 0 ≤ share key)
    (sums : (keys.map share).sum = total)
    (member : key ∈ ranked.take (leftover keys share total)) :
    0 < fraction (share key) := by
  by_contra notPositive
  obtain ⟨front, others, split⟩ := List.append_of_mem member
  have short : front.length < leftover keys share total := by
    have := congrArg List.length split
    rw [List.length_take, List.length_append, List.length_cons] at this
    omega
  let back := others ++ ranked.drop (leftover keys share total)
  have whole : ranked = front ++ key :: back := by
    rw [← List.take_append_drop (leftover keys share total) ranked, split]
    simp [back]
  have nonnegAll (other : α) (listed : other ∈ ranked) :
      0 ≤ fraction (share other) :=
    fraction_nonneg (nonneg other (ranking.mem_iff.mp listed))
  have frontSum : (front.map fun other => fraction (share other)).sum ≤
      front.length := by
    have := List.sum_le_card_nsmul
      (front.map fun other => fraction (share other)) 1 (by
        intro part isPart
        obtain ⟨other, _, rfl⟩ := List.mem_map.mp isPart
        exact (fraction_lt_one _).le)
    simpa using this
  have backSum : ((key :: back).map fun other => fraction (share other)).sum ≤
      0 := by
    have := List.sum_le_card_nsmul
      ((key :: back).map fun other => fraction (share other)) 0
    rw [nsmul_zero] at this
    apply this
    intro part isPart
    obtain ⟨other, listed, rfl⟩ := List.mem_map.mp isPart
    rcases List.mem_cons.mp listed with rfl | later
    · exact not_lt.mp notPositive
    · rw [whole, List.pairwise_append, List.pairwise_cons] at falling
      exact (falling.2.1.1 other later).trans (not_lt.mp notPositive)
  have sum := (ranking.map fun other => fraction (share other)).sum_eq
  rw [sum_fraction nonneg sums, whole, List.map_append, List.sum_append] at sum
  have : (leftover keys share total : Rat) ≤ front.length := by linarith
  exact absurd (Nat.cast_le.mp this) (by omega)

/-- Every key gets its share rounded down or up. -/
theorem units_eq_floor_or_ceil [DecidableEq α]
    {key : α}
    (listed : key ∈ keys)
    (ranking : ranked.Perm keys)
    (falling : ranked.Pairwise fun first second =>
      fraction (share second) ≤ fraction (share first))
    (nonneg : ∀ key ∈ keys, 0 ≤ share key)
    (sums : (keys.map share).sum = total) :
    units keys share total ranked key = ⌊share key⌋₊ ∨
      units keys share total ranked key = ⌈share key⌉₊ := by
  unfold units
  split
  case isTrue member =>
    right
    exact floorOf_add_one_eq_natCeil
      (fraction_pos_of_mem_take ranking falling nonneg sums member)
  case isFalse =>
    left
    exact floorOf_eq_natFloor (nonneg key listed)

/-- A key with more than its share comes before one without more, in whatever
order the keys are ranked. -/
theorem ranked_of_units [DecidableEq α]
    {order : α -> α -> Prop}
    {up down : α}
    (ranking : ranked.Perm keys)
    (ordered : ranked.Pairwise order)
    (nonneg : ∀ key ∈ keys, 0 ≤ share key)
    (listedUp : up ∈ keys)
    (listedDown : down ∈ keys)
    (above : share up < units keys share total ranked up)
    (below : (units keys share total ranked down : Rat) ≤ share down) :
    order up down := by
  have taken : up ∈ ranked.take (leftover keys share total) := by
    by_contra notTaken
    rw [units, if_neg notTaken, add_zero] at above
    exact absurd (floorOf_le (nonneg up listedUp)) (not_le.mpr above)
  have left : down ∉ ranked.take (leftover keys share total) := by
    intro taken
    rw [units, if_pos taken] at below
    have := lt_floorOf_add_one (share down)
    push_cast at below
    linarith
  have dropped : down ∈ ranked.drop (leftover keys share total) := by
    have member := ranking.mem_iff.mpr listedDown
    rw [← List.take_append_drop (leftover keys share total) ranked,
      List.mem_append] at member
    exact member.resolve_left left
  rw [← List.take_append_drop (leftover keys share total) ranked,
    List.pairwise_append] at ordered
  exact ordered.2.2 up taken down dropped

/-- A key without a share gets no unit. -/
theorem units_eq_zero [DecidableEq α]
    {key : α}
    (ranking : ranked.Perm keys)
    (falling : ranked.Pairwise fun first second =>
      fraction (share second) ≤ fraction (share first))
    (nonneg : ∀ key ∈ keys, 0 ≤ share key)
    (sums : (keys.map share).sum = total)
    (none : share key = 0) :
    units keys share total ranked key = 0 := by
  have floor : floorOf (share key) = 0 := by
    rw [none]
    rfl
  have notTaken : key ∉ ranked.take (leftover keys share total) := by
    intro member
    have := fraction_pos_of_mem_take ranking falling nonneg sums member
    rw [fraction, floor, none] at this
    simp at this
  rw [units, floor, if_neg notTaken]

end Ranked

end Apportionment
end CodingLlm
