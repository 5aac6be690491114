import CodingLlm.Pretrain.BuildTrainingOrder

/-!
# Selected references

The references that the build selects address chosen rows, each once; with the
surplus references they address every packed row.
-/

namespace CodingLlm

open Words

variable {Digest Cursor : Type}

/-- References of a list that address rows of a domain. -/
def rowsIn (references : List Nat) (domain : Domain) : Nat :=
  references.countP fun reference => (decodeReference reference).1 = domain.id

theorem rowsIn_append (front back : List Nat) (domain : Domain) :
    rowsIn (front ++ back) domain = rowsIn front domain + rowsIn back domain :=
  List.countP_append

/-- The counts of the front and the back of a list make up the whole. -/
theorem rowsIn_take_add_drop
    (references : List Nat) (count : Nat) (domain : Domain) :
    rowsIn (references.take count) domain +
        rowsIn (references.drop count) domain = rowsIn references domain := by
  rw [← rowsIn_append, List.take_append_drop]

theorem supervisedIn_take_add_drop
    (manifests : Domain -> PackedManifest Digest Cursor)
    (directories : Domain -> Directory Digest Cursor)
    (references : List Nat) (count : Nat) (domain : Domain) :
    supervisedIn manifests directories (references.take count) domain +
        supervisedIn manifests directories (references.drop count) domain =
      supervisedIn manifests directories references domain := by
  rw [← supervisedIn_append, List.take_append_drop]

/-! ## Encoded rows -/

theorem decodeReference_or_shiftLeft
    {row : Nat} (domainId : Nat)
    (fits : row ≤ maxRowId) :
    decodeReference (row ||| (domainId <<< rowBits)) = (domainId, row) := by
  rw [Nat.or_comm]
  exact decodeReference_shiftLeft_or domainId fits

/-- Encoded rows decode to the rows. -/
theorem map_decodeReference_encoded
    {rows : List Nat} (domainId : Nat)
    (fits : ∀ row ∈ rows, row ≤ maxRowId) :
    (encodedDomainReferences domainId rows).map decodeReference =
      rows.map fun row => (domainId, row) := by
  rw [encodedDomainReferences, List.map_map]
  exact List.map_congr_left fun row member =>
    decodeReference_or_shiftLeft domainId (fits row member)

/-- The references of rows of every domain. -/
def encodedRows (rows : Domain -> List Nat) : List Nat :=
  Domain.order.flatMap fun domain =>
    encodedDomainReferences domain.id (rows domain)

section Encoded

variable {rows : Domain -> List Nat}

theorem map_decodeReference_encodedRows
    (fits : ∀ domain, ∀ row ∈ rows domain, row ≤ maxRowId) :
    (encodedRows rows).map decodeReference =
      Domain.order.flatMap fun domain =>
        (rows domain).map fun row => (domain.id, row) := by
  rw [encodedRows, List.map_flatMap]
  exact List.flatMap_congr fun domain _ =>
    map_decodeReference_encoded domain.id (fits domain)

theorem mem_encodedRows
    (fits : ∀ domain, ∀ row ∈ rows domain, row ≤ maxRowId)
    {reference : Nat} (member : reference ∈ encodedRows rows) :
    ∃ domain, ∃ row ∈ rows domain,
      decodeReference reference = (domain.id, row) := by
  have decoded := List.mem_map_of_mem (f := decodeReference) member
  rw [map_decodeReference_encodedRows fits, List.mem_flatMap] at decoded
  obtain ⟨domain, -, inside⟩ := decoded
  obtain ⟨row, inRows, equal⟩ := List.mem_map.mp inside
  exact ⟨domain, row, inRows, equal.symm⟩

/-- Rows without repetition have references without repetition. -/
theorem nodup_encodedRows
    (fits : ∀ domain, ∀ row ∈ rows domain, row ≤ maxRowId)
    (nodup : ∀ domain, (rows domain).Nodup) :
    (encodedRows rows).Nodup := by
  refine List.Nodup.of_map decodeReference ?_
  rw [map_decodeReference_encodedRows fits, List.nodup_flatMap]
  refine ⟨fun domain _ => (nodup domain).map fun row other equal =>
    (Prod.mk.inj equal).2, ?_⟩
  refine List.Pairwise.imp ?_ (show Domain.order.Nodup by decide)
  intro domain other different
  rw [Function.onFun, List.disjoint_left]
  intro decoded inFirst inSecond
  obtain ⟨row, -, rfl⟩ := List.mem_map.mp inFirst
  obtain ⟨_, -, equal⟩ := List.mem_map.mp inSecond
  exact different (Domain.id_injective (Prod.mk.inj equal).1).symm

theorem length_encodedRows :
    (encodedRows rows).length = totalOf fun domain => (rows domain).length := by
  simp [encodedRows, encodedDomainReferences, totalOf, List.length_flatMap]

/-- A sum over encoded rows of values that only one domain has. -/
theorem sum_map_encodedRows
    (fits : ∀ domain, ∀ row ∈ rows domain, row ≤ maxRowId)
    (value : Nat -> Nat) (domain : Domain) :
    ((encodedRows rows).map fun reference =>
      if (decodeReference reference).1 = domain.id then
        value (decodeReference reference).2
      else 0).sum = ((rows domain).map value).sum := by
  have decoded : ((encodedRows rows).map fun reference =>
      if (decodeReference reference).1 = domain.id then
        value (decodeReference reference).2
      else 0) =
      ((encodedRows rows).map decodeReference).map fun pair =>
        if pair.1 = domain.id then value pair.2 else 0 := by
    rw [List.map_map]
    rfl
  have part (other : Domain) :
      ((rows other).map fun row =>
        if other.id = domain.id then value row else 0).sum =
          if other = domain then ((rows domain).map value).sum else 0 := by
    by_cases same : other = domain
    · subst same
      simp
    · have different : other.id ≠ domain.id :=
        fun equal => same (Domain.id_injective equal)
      simp [same, different]
  rw [decoded, map_decodeReference_encodedRows fits, List.map_flatMap]
  simp only [Domain.order, List.flatMap_cons, List.flatMap_nil,
    List.append_nil, List.sum_append, List.map_map, Function.comp_def, part]
  cases domain <;> simp

theorem rowsIn_encodedRows
    (fits : ∀ domain, ∀ row ∈ rows domain, row ≤ maxRowId)
    (domain : Domain) :
    rowsIn (encodedRows rows) domain = (rows domain).length := by
  have ones := sum_map_encodedRows fits (fun _ => 1) domain
  rw [List.map_const', List.sum_replicate_nat, Nat.mul_one] at ones
  rw [← ones, rowsIn]
  induction encodedRows rows with
  | nil => rfl
  | cons reference rest inductionHypothesis =>
      rw [List.countP_cons, inductionHypothesis, List.map_cons, List.sum_cons,
        Nat.add_comm]
      simp only [decide_eq_true_eq]

theorem supervisedIn_encodedRows
    {manifests : Domain -> PackedManifest Digest Cursor}
    {directories : Domain -> Directory Digest Cursor}
    (fits : ∀ domain, ∀ row ∈ rows domain, row ≤ maxRowId)
    (domain : Domain) :
    supervisedIn manifests directories (encodedRows rows) domain =
      ((rows domain).map (rowSupervisedLabels (manifests domain)
        (directories domain))).sum :=
  sum_map_encodedRows fits _ domain

end Encoded

/-! ## Choices of rows -/

/-- The selected references address chosen rows and the surplus references the
other rows of every domain. -/
structure RowChoice
    (available selected : Domain -> Nat) (references : OrderReferences)
    (chosen rest : Domain -> List Nat) : Prop where
  rows_perm : ∀ domain,
    (chosen domain ++ rest domain).Perm (List.range (available domain))
  chosen_length : ∀ domain, (chosen domain).length = selected domain
  selected_perm : references.selected.Perm (encodedRows chosen)
  surplus_eq : references.surplus = encodedRows rest

/-- A capped selection chooses the front of a permutation of each domain. -/
theorem rowChoice_capped
    (shuffles : OrderShuffles) (seed : Int) {available selected : Domain -> Nat}
    (enough : ∀ domain, selected domain ≤ available domain) :
    ∃ chosen rest, RowChoice available selected
      (cappedReferences shuffles seed available selected) chosen rest := by
  let rowIds (domain : Domain) : List Nat :=
    shuffles.derived seed ("domain:" ++ domain.name)
      (List.range (available domain))
  have permuted (domain : Domain) :
      (rowIds domain).Perm (List.range (available domain)) :=
    shuffles.derived_perm _ _ _
  refine ⟨fun domain => (rowIds domain).take (selected domain),
    fun domain => (rowIds domain).drop (selected domain), ?_, ?_,
    shuffles.derived_perm _ _ _, rfl⟩
  · intro domain
    rw [List.take_append_drop]
    exact permuted domain
  · intro domain
    rw [List.length_take, (permuted domain).length_eq, List.length_range,
      Nat.min_eq_left (enough domain)]

/-- The uncapped selection chooses every row. -/
theorem rowChoice_all
    {shuffles : OrderShuffles} {seed : Int} {available : Domain -> Nat}
    {references : OrderReferences}
    (drawn : allReferences shuffles seed available = .ok references) :
    RowChoice available available references
      (fun domain => List.range (available domain)) fun _ => [] := by
  rw [allReferences, require_then_eq_ok, checked_pure_eq_ok] at drawn
  obtain ⟨-, rfl⟩ := drawn
  exact ⟨fun domain => by rw [List.append_nil],
    fun domain => List.length_range, shuffles.plain_perm _ _, rfl⟩

namespace RowChoice

variable {available selected : Domain -> Nat} {references : OrderReferences}
variable {chosen rest : Domain -> List Nat}

theorem chosen_lt
    (choice : RowChoice available selected references chosen rest)
    {domain : Domain} {row : Nat} (member : row ∈ chosen domain) :
    row < available domain :=
  List.mem_range.mp ((choice.rows_perm domain).mem_iff.mp
    (List.mem_append_left _ member))

theorem rest_lt
    (choice : RowChoice available selected references chosen rest)
    {domain : Domain} {row : Nat} (member : row ∈ rest domain) :
    row < available domain :=
  List.mem_range.mp ((choice.rows_perm domain).mem_iff.mp
    (List.mem_append_right _ member))

theorem selected_le
    (choice : RowChoice available selected references chosen rest)
    (domain : Domain) : selected domain ≤ available domain := by
  have lengths := (choice.rows_perm domain).length_eq
  rw [List.length_append, choice.chosen_length, List.length_range] at lengths
  omega

section Addressable

variable (choice : RowChoice available selected references chosen rest)
variable (addressable : ∀ domain, available domain ≤ maxRowId)

include choice addressable in
theorem chosen_fits (domain : Domain) :
    ∀ row ∈ chosen domain, row ≤ maxRowId := fun _ member =>
  ((choice.chosen_lt member).trans_le (addressable domain)).le

include choice addressable in
theorem rest_fits (domain : Domain) :
    ∀ row ∈ rest domain, row ≤ maxRowId := fun _ member =>
  ((choice.rest_lt member).trans_le (addressable domain)).le

include choice addressable in
theorem nodup : references.selected.Nodup := by
  refine choice.selected_perm.nodup_iff.mpr
    (nodup_encodedRows (choice.chosen_fits addressable) fun domain => ?_)
  have all := (choice.rows_perm domain).nodup_iff.mpr List.nodup_range
  exact (List.nodup_append.mp all).1

include choice addressable in
/-- Every selected reference addresses an available row. -/
theorem decode_selected {reference : Nat}
    (member : reference ∈ references.selected) :
    ∃ domain row, decodeReference reference = (domain.id, row) ∧
      row < available domain := by
  obtain ⟨domain, row, inside, decoded⟩ :=
    mem_encodedRows (choice.chosen_fits addressable)
      (choice.selected_perm.mem_iff.mp member)
  exact ⟨domain, row, decoded, choice.chosen_lt inside⟩

include choice addressable in
/-- Every surplus reference addresses an available row. -/
theorem decode_surplus {reference : Nat}
    (member : reference ∈ references.surplus) :
    ∃ domain row, decodeReference reference = (domain.id, row) ∧
      row < available domain := by
  rw [choice.surplus_eq] at member
  obtain ⟨domain, row, inside, decoded⟩ :=
    mem_encodedRows (choice.rest_fits addressable) member
  exact ⟨domain, row, decoded, choice.rest_lt inside⟩

include choice addressable in
theorem rowsIn_selected (domain : Domain) :
    rowsIn references.selected domain = selected domain := by
  rw [rowsIn, choice.selected_perm.countP_eq]
  exact (rowsIn_encodedRows (choice.chosen_fits addressable) domain).trans
    (choice.chosen_length domain)

include choice in
theorem length_selected : references.selected.length = totalOf selected := by
  rw [choice.selected_perm.length_eq, length_encodedRows]
  exact congrArg totalOf (funext choice.chosen_length)

include choice addressable in
/-- Selected and surplus references supervise what all rows supervise. -/
theorem supervisedIn_selected_add_surplus
    {manifests : Domain -> PackedManifest Digest Cursor}
    {directories : Domain -> Directory Digest Cursor}
    (domain : Domain) :
    supervisedIn manifests directories references.selected domain +
        supervisedIn manifests directories references.surplus domain =
      ((List.range (available domain)).map (rowSupervisedLabels
        (manifests domain) (directories domain))).sum := by
  rw [supervisedIn_perm choice.selected_perm,
    supervisedIn_encodedRows (choice.chosen_fits addressable),
    choice.surplus_eq,
    supervisedIn_encodedRows (choice.rest_fits addressable),
    ← List.sum_append, ← List.map_append]
  exact ((choice.rows_perm domain).map _).sum_eq

end Addressable

end RowChoice

end CodingLlm
