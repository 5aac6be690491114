import CodingLlm.Pretrain.ValidateTrainingOrder

/-!
# What the validator's scan establishes

The scan of an order in chunks succeeds exactly when the whole order addresses
existing rows without repetition, and then it has seen just these rows.
-/

namespace CodingLlm

open Words Slices

variable {Digest Cursor : Type}

/-! ## Row ids -/

/-- A reference is determined by what it decodes to. -/
theorem decodeReference_injective : Function.Injective decodeReference := by
  intro first second equal
  rw [decodeReference_eq, decodeReference_eq, Prod.mk.injEq] at equal
  rw [← Nat.div_add_mod first (2 ^ rowBits), equal.1, equal.2,
    Nat.div_add_mod]

theorem mem_rowIdsOf
    {domain : Domain} {chunk : List Nat} {row : Nat} :
    row ∈ rowIdsOf domain chunk ↔
      ∃ reference ∈ chunk, decodeReference reference = (domain.id, row) := by
  simp only [rowIdsOf, List.mem_map, List.mem_filter, decide_eq_true_eq,
    Prod.ext_iff, and_assoc]

theorem rowIdsOf_append (domain : Domain) (front back : List Nat) :
    rowIdsOf domain (front ++ back) =
      rowIdsOf domain front ++ rowIdsOf domain back := by
  rw [rowIdsOf, List.filter_append, List.map_append, rowIdsOf, rowIdsOf]

theorem length_rowIdsOf (domain : Domain) (references : List Nat) :
    (rowIdsOf domain references).length = rowsIn references domain := by
  rw [rowIdsOf, List.length_map, ← List.countP_eq_length_filter]
  rfl

theorem nodup_rowIdsOf
    {references : List Nat} (nodup : references.Nodup) (domain : Domain) :
    (rowIdsOf domain references).Nodup := by
  refine (nodup.filter _).map_on fun first inFirst second inSecond equal => ?_
  have firstDomain := of_decide_eq_true (List.mem_filter.mp inFirst).2
  have secondDomain := of_decide_eq_true (List.mem_filter.mp inSecond).2
  exact decodeReference_injective
    (Prod.ext (firstDomain.trans secondDomain.symm) equal)

theorem mem_of_mem_rowIdsOf
    {domain : Domain} {references : List Nat} {reference : Nat}
    (decoded : (decodeReference reference).1 = domain.id) :
    (decodeReference reference).2 ∈ rowIdsOf domain references ↔
      reference ∈ references := by
  rw [mem_rowIdsOf]
  constructor
  · rintro ⟨other, member, equal⟩
    rw [← decoded] at equal
    rwa [← decodeReference_injective equal]
  · intro member
    exact ⟨reference, member, Prod.ext decoded rfl⟩

/-! ## Distinct references -/

/-- References to existing rows, no row twice. -/
structure Distinct
    (available : Domain -> Nat) (references : List Nat) : Prop where
  nodup : references.Nodup
  addresses : ∀ reference ∈ references, ∃ domain row,
    decodeReference reference = (domain.id, row) ∧ row < available domain

/-- What the checks on one chunk amount to. -/
structure Extends
    (available : Domain -> Nat) (front chunk : List Nat) : Prop where
  domains : ∀ reference ∈ chunk,
    (decodeReference reference).1 < Domain.order.length
  inRange : ∀ domain, ∀ row ∈ rowIdsOf domain chunk, row < available domain
  nodup : ∀ domain, (rowIdsOf domain chunk).Nodup
  unseen : ∀ domain, ∀ row ∈ rowIdsOf domain chunk,
    row ∉ rowIdsOf domain front

theorem exists_domain_of_lt
    {number : Nat} (bound : number < Domain.order.length) :
    ∃ domain : Domain, number = domain.id := by
  match number with
  | 0 => exact ⟨.python, rfl⟩
  | 1 => exact ⟨.otherCode, rfl⟩
  | 2 => exact ⟨.english, rfl⟩
  | more + 3 => exact absurd bound (by simp [Domain.order])

/-- References without repetition, domain by domain. -/
theorem nodup_of_rowIdsOf
    {references : List Nat}
    (domains : ∀ reference ∈ references,
      (decodeReference reference).1 < Domain.order.length)
    (nodup : ∀ domain, (rowIdsOf domain references).Nodup) :
    references.Nodup := by
  induction references with
  | nil => exact .nil
  | cons reference rest inductionHypothesis =>
      rw [List.forall_mem_cons] at domains
      have split (domain : Domain) :
          rowIdsOf domain (reference :: rest) =
            rowIdsOf domain [reference] ++ rowIdsOf domain rest :=
        rowIdsOf_append domain [reference] rest
      have parts (domain : Domain) := List.nodup_append.mp
        (split domain ▸ nodup domain)
      obtain ⟨domain, decoded⟩ := exists_domain_of_lt domains.1
      refine List.nodup_cons.mpr ⟨fun member => ?_, inductionHypothesis
        domains.2 fun domain => (parts domain).2.1⟩
      exact (parts domain).2.2 _
        ((mem_of_mem_rowIdsOf decoded).mpr (List.mem_singleton_self _)) _
        ((mem_of_mem_rowIdsOf decoded).mpr member) rfl

/-- Distinct references are extended by a chunk exactly when its checks
pass. -/
theorem distinct_append_iff
    {available : Domain -> Nat} {front chunk : List Nat}
    (distinct : Distinct available front) :
    Distinct available (front ++ chunk) ↔ Extends available front chunk := by
  constructor
  · rintro ⟨nodup, addresses⟩
    obtain ⟨-, chunkNodup, apart⟩ := List.nodup_append.mp nodup
    have addressed (reference : Nat) (member : reference ∈ chunk) :=
      addresses reference (List.mem_append_right _ member)
    refine ⟨fun reference member => ?_, fun domain row member => ?_,
      nodup_rowIdsOf chunkNodup, fun domain row inChunk inFront => ?_⟩
    · obtain ⟨domain, row, decoded, -⟩ := addressed reference member
      rw [decoded]
      exact domain.id_lt_three
    · obtain ⟨reference, inChunk, decoded⟩ := mem_rowIdsOf.mp member
      obtain ⟨other, otherRow, again, bound⟩ := addressed reference inChunk
      rw [decoded, Prod.mk.injEq] at again
      obtain ⟨sameId, rfl⟩ := again
      rwa [Domain.id_injective sameId]
    · obtain ⟨reference, member, decoded⟩ := mem_rowIdsOf.mp inChunk
      obtain ⟨other, otherMember, again⟩ := mem_rowIdsOf.mp inFront
      exact apart other otherMember reference member
        (decodeReference_injective (again.trans decoded.symm))
  · intro extended
    have chunkNodup := nodup_of_rowIdsOf extended.domains extended.nodup
    refine ⟨List.nodup_append.mpr ⟨distinct.nodup, chunkNodup, ?_⟩, ?_⟩
    · rintro reference inFront _ inChunk rfl
      obtain ⟨domain, decoded⟩ :=
        exists_domain_of_lt (extended.domains reference inChunk)
      exact extended.unseen domain _
        ((mem_of_mem_rowIdsOf decoded).mpr inChunk)
        ((mem_of_mem_rowIdsOf decoded).mpr inFront)
    · intro reference member
      rcases List.mem_append.mp member with inFront | inChunk
      · exact distinct.addresses reference inFront
      · obtain ⟨domain, decoded⟩ :=
          exists_domain_of_lt (extended.domains reference inChunk)
        exact ⟨domain, _, Prod.ext decoded rfl, extended.inRange domain _
          ((mem_of_mem_rowIdsOf decoded).mpr inChunk)⟩

/-! ## Scanning -/

/-- The scan of references read so far. -/
def scanOf (consumedRows : Option Nat) (references : List Nat) :
    OrderScan where
  seen domain row := decide (row ∈ rowIdsOf domain references)
  consumed domain := match consumedRows with
    | none => 0
    | some count => rowsIn (references.take count) domain

theorem markRows_eq_ok
    {available : Nat} {rowIds : List Nat} {seen result : Nat -> Bool} :
    markRows available rowIds seen = .ok result ↔
      (∀ row ∈ rowIds, row < available) ∧ rowIds.Nodup ∧
        (∀ row ∈ rowIds, seen row = false) ∧
        result = fun row => seen row || decide (row ∈ rowIds) := by
  have unique : rowIds.dedup.length = rowIds.length ↔ rowIds.Nodup := by
    rw [← List.dedup_eq_self]
    exact ⟨(List.dedup_sublist rowIds).eq_of_length, congrArg List.length⟩
  simp only [markRows, require_then_eq_ok, checked_pure_eq_ok, unique,
    List.mem_dedup, and_assoc]
  exact and_congr_right fun _ => and_congr_right fun _ =>
    and_congr_right fun _ => eq_comm

theorem rowsIn_take_append
    (front chunk : List Nat) (count : Nat) (domain : Domain) :
    rowsIn ((front ++ chunk).take count) domain =
      rowsIn (front.take count) domain +
        consumedInChunk (some count) front.length chunk domain := by
  rw [List.take_append, rowsIn_append, consumedInChunk]
  split
  · rfl
  · rename_i past
    rw [Nat.sub_eq_zero_of_le (Nat.le_of_not_lt past), List.take_zero]
    rfl

/-- Scanning one chunk more. -/
theorem scanChunk_eq_ok
    {available : Domain -> Nat} {consumedRows : Option Nat}
    {front chunk : List Nat} {result : OrderScan}
    (distinct : Distinct available front) :
    scanChunk available consumedRows front.length chunk
        (scanOf consumedRows front) = .ok result ↔
      Distinct available (front ++ chunk) ∧
        result = scanOf consumedRows (front ++ chunk) := by
  have next : (⟨fun domain row =>
        decide (row ∈ rowIdsOf domain front) ||
          decide (row ∈ rowIdsOf domain chunk),
      fun domain => (scanOf consumedRows front).consumed domain +
        consumedInChunk consumedRows front.length chunk domain⟩ :
        OrderScan) = scanOf consumedRows (front ++ chunk) := by
    simp only [scanOf, OrderScan.mk.injEq]
    refine ⟨?_, ?_⟩
    · funext domain row
      rw [rowIdsOf_append, ← Bool.decide_or]
      simp only [List.mem_append]
    · funext domain
      cases consumedRows with
      | none => rfl
      | some count => exact (rowsIn_take_append front chunk count domain).symm
  simp only [scanChunk, exists_require, checked_bind_eq_ok,
    forDomains_eq_ok, markRows_eq_ok, checked_pure_eq_ok,
    distinct_append_iff distinct]
  constructor
  · rintro ⟨domains, seen, marked, rfl⟩
    refine ⟨⟨domains, fun domain => (marked domain).1,
      fun domain => (marked domain).2.1, fun domain row member =>
        of_decide_eq_false ((marked domain).2.2.1 row member)⟩, ?_⟩
    rw [← next, show seen = _ from funext fun domain =>
      (marked domain).2.2.2]
    rfl
  · rintro ⟨extended, rfl⟩
    exact ⟨extended.domains, _, fun domain => ⟨extended.inRange domain,
      extended.nodup domain, fun row member =>
        decide_eq_false (extended.unseen domain row member), rfl⟩, next⟩

/-- The scan succeeds on the chunks of distinct references only, and has then
scanned them. -/
theorem scanChunks_eq_ok
    {width : Nat} {available : Domain -> Nat} {consumedRows : Option Nat}
    {order : List Nat} {chunks : Nat} {result : OrderScan}
    (inside : (chunks - 1) * width ≤ order.length) :
    scanChunks width available consumedRows order chunks = .ok result ↔
      Distinct available (order.take (chunks * width)) ∧
        result = scanOf consumedRows (order.take (chunks * width)) := by
  induction chunks generalizing result with
  | zero =>
      rw [Nat.zero_mul, List.take_zero]
      have start : (⟨fun _ _ => false, fun _ => 0⟩ : OrderScan) =
          scanOf consumedRows [] := by
        cases consumedRows with
        | none => rfl
        | some count => simp [scanOf, rowIdsOf, rowsIn]
      simp only [scanChunks, List.range_zero, List.foldlM_nil,
        checked_pure_eq_ok, start]
      constructor
      · rintro rfl
        exact ⟨⟨.nil, nofun⟩, rfl⟩
      · exact fun both => both.2.symm
  | succ chunks inductionHypothesis =>
      rw [Nat.add_sub_cancel] at inside
      have before : (chunks - 1) * width ≤ order.length :=
        (Nat.mul_le_mul_right width (Nat.sub_le chunks 1)).trans inside
      have length : (order.take (chunks * width)).length = chunks * width := by
        rw [List.length_take, Nat.min_eq_left inside]
      have grown : order.take (chunks * width) ++
          slice order (chunks * width) width =
            order.take ((chunks + 1) * width) := by
        rw [slice, Nat.succ_mul, List.take_add]
      have unfolded : scanChunks width available consumedRows order
          (chunks + 1) =
            scanChunks width available consumedRows order chunks >>=
              fun scan => scanChunk available consumedRows (chunks * width)
                (slice order (chunks * width) width) scan := by
        rw [scanChunks, List.range_succ, List.foldlM_append]
        simp only [List.foldlM_cons, List.foldlM_nil, bind_pure]
        rfl
      have step {result : OrderScan}
          (distinct : Distinct available (order.take (chunks * width))) :
          scanChunk available consumedRows (chunks * width)
              (slice order (chunks * width) width)
              (scanOf consumedRows (order.take (chunks * width))) =
                .ok result ↔
            Distinct available (order.take ((chunks + 1) * width)) ∧
              result = scanOf consumedRows
                (order.take ((chunks + 1) * width)) := by
        have scanned := @scanChunk_eq_ok available consumedRows _
          (slice order (chunks * width) width) result distinct
        rwa [length, grown] at scanned
      rw [unfolded, checked_bind_eq_ok]
      simp only [inductionHypothesis before]
      constructor
      · rintro ⟨_, ⟨distinct, rfl⟩, scanned⟩
        exact (step distinct).mp scanned
      · intro scanned
        have front : Distinct available (order.take (chunks * width)) := by
          have distinct := scanned.1
          rw [← grown] at distinct
          exact ⟨(List.nodup_append.mp distinct.nodup).1,
            fun reference member => distinct.addresses reference
              (List.mem_append_left _ member)⟩
        exact ⟨_, ⟨front, rfl⟩, (step front).mpr scanned⟩

end CodingLlm
