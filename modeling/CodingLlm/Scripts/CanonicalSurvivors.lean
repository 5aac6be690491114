import CodingLlm.Scripts.CanonicalChoices

/-!
# The survivors of canonicalization

Rejecting the documents that were not chosen leaves one document without
reasons for each final cluster of exact choices, every mapped document is
mapped to one of them, and the validation of the tables accepts them.
-/

namespace CodingLlm

/-! ## Residual reasons -/

section Rejected

variable {setting : CurationSetting} {base : CurationTables}

/-- No document has a residual reason yet. -/
def NoResidual (setting : CurationSetting) (tables : CurationTables) : Prop :=
  ∀ entry ∈ tables.reasons, entry.2 ∉ residualReasons setting

/-- A document that is not the choice for its content hash. -/
structure LosesExact (base : CurationTables) (row : Digest × Document) :
    Prop where
  member : row ∈ base.documents.rows
  free : base.ReasonFree row.1
  loses : ¬(choose base).IsExactChoice row

/-- An exact choice that is not the choice for its final cluster. -/
structure LosesFinal (base : CurationTables) (row : Digest × Document) :
    Prop where
  member : row ∈ base.documents.rows
  exact : (choose base).IsExactChoice row
  loses : ¬(choose base).IsFinalChoice row

theorem mem_selectResidualExact_iff (ranked : Ranked base)
    {docId : Digest} {reason : Reason} :
    (docId, reason) ∈ (selectResidualExact (choose base)).rows ↔
      ∃ row, LosesExact base row ∧ row.1 = docId ∧
        reason = .residualExactDuplicate := by
  have sameDocuments : (choose base).documents = base.documents := rfl
  rw [selectResidualExact, Table.mem_filterMap_iff, sameDocuments]
  constructor
  · rintro ⟨document, member, found⟩
    obtain ⟨choice, exactFound, isReason⟩ :=
      Option.bind_eq_some_iff.mp found
    rw [Option.ite_none_right_eq_some, Option.some.injEq] at isReason
    obtain ⟨⟨different, mapped⟩, rfl⟩ := isReason
    refine ⟨(docId, document), ⟨member, ?_, ?_⟩, rfl, rfl⟩
    · exact (uses_canonicalMap_choose_iff ranked member).mp mapped
    · rw [CurationTables.IsExactChoice, exactFound, Option.map_some,
        Option.some.injEq]
      exact fun same => different same.symm
  · rintro ⟨row, loser, rfl, rfl⟩
    have accepted := mem_acceptedRows.mpr ⟨loser.member, loser.free⟩
    obtain ⟨exact, final, isFinal⟩ := exists_isFinalOf ranked accepted
    have exactFound := (exactChoice_choose_iff ranked).mpr
      ⟨exact, isFinal.exactLeast, rfl⟩
    refine ⟨row.2, loser.member, ?_⟩
    rw [exactFound, Option.bind_some, if_pos]
    refine ⟨fun same => loser.loses ?_,
      (uses_canonicalMap_choose_iff ranked loser.member).mpr loser.free⟩
    rw [CurationTables.IsExactChoice, exactFound, Option.map_some, same]

theorem mem_selectResidualFinal_iff (ranked : Ranked base)
    {docId : Digest} {reason : Reason} :
    (docId, reason) ∈ (selectResidualFinal setting (choose base)).rows ↔
      ∃ row, LosesFinal base row ∧ row.1 = docId ∧
        reason = residualFinalReason setting row.2.bucket := by
  have sameDocuments : (choose base).documents = base.documents := rfl
  rw [selectResidualFinal, Table.mem_filterMap_iff, sameDocuments]
  constructor
  · rintro ⟨document, member, found⟩
    rw [Option.ite_none_right_eq_some] at found
    obtain ⟨isExact, found⟩ := found
    obtain ⟨choice, finalFound, isReason⟩ :=
      Option.bind_eq_some_iff.mp found
    rw [Option.ite_none_right_eq_some, Option.some.injEq] at isReason
    obtain ⟨different, rfl⟩ := isReason
    refine ⟨(docId, document), ⟨member, isExact, ?_⟩, rfl, rfl⟩
    rw [CurationTables.IsFinalChoice, finalFound, Option.map_some,
      Option.some.injEq]
    exact fun same => different same.symm
  · rintro ⟨row, loser, rfl, rfl⟩
    have chosen : row ∈ exactChoiceRows (choose base) :=
      mem_exactChoiceRows.mpr ⟨loser.member, loser.exact⟩
    obtain ⟨final, isFinal⟩ := exists_isLeastRow
      Document.finalCluster (ranked_exactChoiceRows ranked) chosen
    have finalFound := (finalChoice_choose_iff ranked).mpr
      ⟨final, isFinal, rfl⟩
    refine ⟨row.2, loser.member, ?_⟩
    rw [if_pos loser.exact, finalFound, Option.bind_some, if_pos]
    intro same
    apply loser.loses
    rw [CurationTables.IsFinalChoice, finalFound, Option.map_some, same]

/-- The reasons after the residual passes. -/
theorem mem_reasons_rejectOthers_iff (ranked : Ranked base)
    {docId : Digest} {reason : Reason} :
    (docId, reason) ∈ (rejectOthers setting (choose base)).reasons ↔
      (docId, reason) ∈ base.reasons ∨
        (∃ row, LosesExact base row ∧ row.1 = docId ∧
          reason = .residualExactDuplicate) ∨
        ∃ row, LosesFinal base row ∧ row.1 = docId ∧
          reason = residualFinalReason setting row.2.bucket := by
  have sameReasons : (choose base).reasons = base.reasons := rfl
  rw [rejectOthers, mem_addReasons, mem_addReasons,
    mem_selectResidualExact_iff ranked, mem_selectResidualFinal_iff ranked,
    sameReasons]
  exact ⟨fun either => either.elim (.inr ∘ .inr)
      fun rest => rest.elim (.inr ∘ .inl) .inl,
    fun either => either.elim (.inr ∘ .inr)
      fun rest => rest.elim (.inr ∘ .inl) .inl⟩

/-- An exact choice has no reasons. -/
theorem reasonFree_of_isExactChoice (ranked : Ranked base)
    {row : Digest × Document} (member : row ∈ base.documents.rows)
    (isExact : (choose base).IsExactChoice row) : base.ReasonFree row.1 := by
  have isLeast := (isExactChoice_choose_iff ranked member).mp isExact
  exact (mem_acceptedRows.mp isLeast.member).2

theorem residualFinalReason_mem (bucket : Bucket) :
    residualFinalReason setting bucket ∈ residualReasons setting := by
  unfold residualFinalReason residualReasons
  split <;> simp

/-- Documents without reasons at the end are those chosen twice. -/
theorem reasonFree_rejectOthers_iff (ranked : Ranked base)
    {row : Digest × Document} (member : row ∈ base.documents.rows) :
    (rejectOthers setting (choose base)).ReasonFree row.1 ↔
      (choose base).IsExactChoice row ∧ (choose base).IsFinalChoice row := by
  constructor
  · intro free
    have absent (reason : Reason) :
        (row.1, reason) ∉ (rejectOthers setting (choose base)).reasons :=
      fun entry => free _ entry rfl
    have baseFree : base.ReasonFree row.1 := by
      rintro ⟨docId, reason⟩ entry rfl
      exact absent reason
        ((mem_reasons_rejectOthers_iff ranked).mpr (.inl entry))
    have isExact : (choose base).IsExactChoice row := by
      by_contra loses
      exact absent _ ((mem_reasons_rejectOthers_iff ranked).mpr
        (.inr (.inl ⟨row, ⟨member, baseFree, loses⟩, rfl, rfl⟩)))
    refine ⟨isExact, ?_⟩
    by_contra loses
    exact absent _ ((mem_reasons_rejectOthers_iff ranked).mpr
      (.inr (.inr ⟨row, ⟨member, isExact, loses⟩, rfl, rfl⟩)))
  · rintro ⟨isExact, isFinal⟩ ⟨docId, reason⟩ entry same
    have baseFree := reasonFree_of_isExactChoice ranked member isExact
    rcases (mem_reasons_rejectOthers_iff ranked).mp entry with
      inBase | ⟨loser, loses, isDoc, -⟩ | ⟨loser, loses, isDoc, -⟩
    · exact baseFree _ inBase same
    · have equal := row_eq_of_id loses.member member (isDoc.trans same)
      exact loses.loses (equal ▸ isExact)
    · have equal := row_eq_of_id loses.member member (isDoc.trans same)
      exact loses.loses (equal ▸ isFinal)

/-- Only residual reasons reject the documents that had none before. -/
theorem eligible_rejectOthers_iff (ranked : Ranked base)
    (noResidual : NoResidual setting base) {docId : Digest} :
    (rejectOthers setting (choose base)).Eligible setting docId ↔
      base.ReasonFree docId := by
  constructor
  · rintro eligible ⟨_, reason⟩ entry rfl
    exact noResidual _ entry (eligible _
      ((mem_reasons_rejectOthers_iff ranked).mpr (.inl entry)) rfl)
  · rintro free ⟨_, reason⟩ entry rfl
    rcases (mem_reasons_rejectOthers_iff ranked).mp entry with
      inBase | ⟨loser, -, -, rfl⟩ | ⟨loser, -, -, rfl⟩
    · exact absurd rfl (free _ inBase)
    · exact List.mem_cons_self ..
    · exact residualFinalReason_mem _

/-- Final choices end without reasons. -/
theorem IsFinalOf.reasonFree (ranked : Ranked base)
    {row exact final : Digest × Document}
    (isFinal : IsFinalOf base row exact final) :
    (rejectOthers setting (choose base)).ReasonFree final.1 := by
  obtain ⟨member, chosen⟩ := isFinal.chosen ranked
  exact (reasonFree_rejectOthers_iff ranked member).mpr chosen

/-- Documents without reasons with one content hash or one final cluster are
the same. -/
theorem survivor_unique (ranked : Ranked base)
    {first second : Digest × Document}
    (firstMember : first ∈ base.documents.rows)
    (secondMember : second ∈ base.documents.rows)
    (firstFree : (rejectOthers setting (choose base)).ReasonFree first.1)
    (secondFree : (rejectOthers setting (choose base)).ReasonFree second.1)
    (shared : first.2.contentHash = second.2.contentHash ∨
      first.2.finalCluster = second.2.finalCluster) :
    first = second := by
  obtain ⟨firstExact, firstFinal⟩ :=
    (reasonFree_rejectOthers_iff ranked firstMember).mp firstFree
  obtain ⟨secondExact, secondFinal⟩ :=
    (reasonFree_rejectOthers_iff ranked secondMember).mp secondFree
  apply row_eq_of_id firstMember secondMember
  apply Option.some.inj
  rcases shared with same | same
  · rw [CurationTables.IsExactChoice, same] at firstExact
    exact firstExact.symm.trans secondExact
  · rw [CurationTables.IsFinalChoice, same] at firstFinal
    exact firstFinal.symm.trans secondFinal

end Rejected

/-! ## The validation -/

/-- Tables with the same keys have the same number of rows. -/
theorem Table.length_eq_of_keys
    {first : Table Digest α} {second : Table Digest β}
    (same : ∀ key, key ∈ first.keys ↔ key ∈ second.keys) :
    first.rows.length = second.rows.length := by
  have permuted : first.keys.Perm second.keys :=
    (List.perm_ext_iff_of_nodup first.keys_nodup second.keys_nodup).mpr same
  simpa [Table.keys] using permuted.length_eq

/-- A table with one row for each of some keys has as many rows. -/
theorem Table.length_eq_of_nodup
    {table : Table Digest α} {keys : List Digest}
    (distinct : keys.Nodup) (same : ∀ key, key ∈ table.keys ↔ key ∈ keys) :
    table.rows.length = keys.length := by
  have permuted : table.keys.Perm keys :=
    (List.perm_ext_iff_of_nodup table.keys_nodup distinct).mpr same
  simpa [Table.keys] using permuted.length_eq

section Validation

variable {setting : CurationSetting} {base : CurationTables}

theorem eligibleRows_rejectOthers (ranked : Ranked base)
    (noResidual : NoResidual setting base) :
    eligibleRows setting (rejectOthers setting (choose base)) =
      acceptedRows base := by
  apply List.filter_congr
  intro row _
  apply decide_eq_decide.mpr
  exact eligible_rejectOthers_iff ranked noResidual

/-- Choices of a table of least choices are the wanted ones. -/
theorem invalidChoices_self (choices : Table Digest Choice) :
    invalidChoices choices choices = 0 := by
  rw [invalidChoices, List.length_eq_zero_iff, List.filter_eq_nil_iff]
  intro row member
  have found := choices.lookup_eq_some_iff.mpr member
  simp [found]

theorem length_leastChoices
    (column : Document -> Digest) (rows : List (Digest × Document)) :
    (leastChoices column rows).rows.length =
      (Table.distinct (rows.map fun row => column row.2)).rows.length := by
  apply Table.length_eq_of_keys
  intro key
  rw [mem_keys_leastChoices_iff, Table.mem_keys_distinct]

/-- Rows of a table, filtered, have different keys. -/
theorem nodup_filter_keys (table : Table Digest α)
    (keep : Digest × α -> Bool) :
    ((table.rows.filter keep).map Prod.fst).Nodup := by
  have sublist : ((table.rows.filter keep).map Prod.fst).Sublist table.keys :=
    (List.filter_sublist).map Prod.fst
  exact table.keys_nodup.sublist sublist

/-- The mapped documents are the eligible ones. -/
theorem length_canonicalMap (ranked : Ranked base) :
    (choose base).canonicalMap.rows.length = (acceptedRows base).length := by
  have lengths : ((acceptedRows base).map Prod.fst).length =
      (acceptedRows base).length := List.length_map _
  rw [← lengths]
  apply Table.length_eq_of_nodup (nodup_filter_keys _ _)
  intro docId
  rw [Table.mem_keys_iff, List.mem_map]
  simp only [canonicalMap_choose_iff ranked]
  constructor
  · rintro ⟨_, row, exact, final, accepted, same, -, -⟩
    exact ⟨row, accepted, same⟩
  · rintro ⟨row, accepted, same⟩
    obtain ⟨exact, final, isFinal⟩ := exists_isFinalOf ranked accepted
    exact ⟨final.1, row, exact, final, accepted, same, isFinal, rfl⟩

/-- There is one accepted document for each final choice. -/
theorem length_acceptedRows (ranked : Ranked base) :
    (choose base).finalChoice.rows.length =
      (acceptedRows (rejectOthers setting (choose base))).length := by
  have sameDocuments : (rejectOthers setting (choose base)).documents =
      base.documents := rfl
  have lengths : ((acceptedRows (rejectOthers setting (choose base))).map
      fun row => row.2.finalCluster).length =
        (acceptedRows (rejectOthers setting (choose base))).length :=
    List.length_map _
  rw [← lengths]
  apply Table.length_eq_of_nodup
  · apply List.Nodup.map_on
    · intro first firstMember second secondMember same
      obtain ⟨firstIn, firstFree⟩ := mem_acceptedRows.mp firstMember
      obtain ⟨secondIn, secondFree⟩ := mem_acceptedRows.mp secondMember
      exact survivor_unique ranked firstIn secondIn firstFree secondFree
        (.inr same)
    · exact (nodup_filter_keys _ _).of_map
  · intro cluster
    rw [Table.mem_keys_iff, List.mem_map]
    simp only [finalChoice_choose_iff ranked]
    constructor
    · rintro ⟨_, row, isLeast, rfl⟩
      obtain ⟨member, isExact⟩ := mem_exactChoiceRows.mp isLeast.member
      refine ⟨row, mem_acceptedRows.mpr ⟨member, ?_⟩, isLeast.column_eq⟩
      apply (reasonFree_rejectOthers_iff ranked member).mpr
      refine ⟨isExact, (isFinalChoice_choose_iff ranked member).mpr ?_⟩
      rw [isLeast.column_eq]
      exact isLeast
    · rintro ⟨row, accepted, rfl⟩
      obtain ⟨member, free⟩ := mem_acceptedRows.mp accepted
      rw [sameDocuments] at member
      have chosen := (reasonFree_rejectOthers_iff ranked member).mp free
      exact ⟨_, row, (isFinalChoice_choose_iff ranked member).mp chosen.2,
        rfl⟩

/-- Every eligible document is mapped to its final choice. -/
theorem not_wronglyMapped (ranked : Ranked base)
    {row : Digest × Document} (accepted : row ∈ acceptedRows base) :
    wronglyMapped (rejectOthers setting (choose base)) row.1 row.2 =
      false := by
  obtain ⟨exact, final, isFinal⟩ := exists_isFinalOf ranked accepted
  have mapped := (canonicalMap_choose_iff ranked).mpr
    ⟨row, exact, final, accepted, rfl, isFinal, rfl⟩
  have joined := isFinal.finalOfContent_eq ranked
  have sameMap : (rejectOthers setting (choose base)).canonicalMap =
      (choose base).canonicalMap := rfl
  have sameJoin : (rejectOthers setting (choose base)).finalOfContent
      row.2.contentHash = (choose base).finalOfContent row.2.contentHash :=
    rfl
  rw [wronglyMapped, sameMap, sameJoin, mapped, joined]
  simp [choiceOf]

/-- The residual reasons of a document that had none before. -/
theorem residualCount_eq (ranked : Ranked base)
    (noResidual : NoResidual setting base)
    {row : Digest × Document} {reasons : Finset Reason}
    (others : ∀ reason,
      ((∃ loser, LosesExact base loser ∧ loser.1 = row.1 ∧
          reason = .residualExactDuplicate) ∨
        ∃ loser, LosesFinal base loser ∧ loser.1 = row.1 ∧
          reason = residualFinalReason setting loser.2.bucket) ↔
        reason ∈ reasons) :
    residualCount setting (rejectOthers setting (choose base)) row.1 =
      reasons.card := by
  have entries : (rejectOthers setting (choose base)).reasons.filter
      (fun entry => entry.1 = row.1 ∧ entry.2 ∈ residualReasons setting) =
        reasons.image fun reason => (row.1, reason) := by
    ext ⟨docId, reason⟩
    rw [Finset.mem_filter, Finset.mem_image,
      mem_reasons_rejectOthers_iff ranked]
    constructor
    · rintro ⟨inReasons, rfl, residual⟩
      rcases inReasons with inBase | rest
      · exact absurd residual (noResidual _ inBase)
      · exact ⟨reason, (others reason).mp rest, rfl⟩
    · rintro ⟨_, isOther, equal⟩
      obtain ⟨rfl, rfl⟩ := Prod.mk.inj equal
      have rest := (others _).mpr isOther
      refine ⟨.inr rest, rfl, ?_⟩
      rcases rest with ⟨_, -, -, rfl⟩ | ⟨_, -, -, rfl⟩
      · exact List.mem_cons_self ..
      · exact residualFinalReason_mem _
  rw [residualCount, entries, Finset.card_image_of_injective]
  exact fun first second equal => (Prod.mk.inj equal).2

/-- Every eligible document has the residual reasons of its choices. -/
theorem not_wronglyRejected (ranked : Ranked base)
    (noResidual : NoResidual setting base)
    {row exact final : Digest × Document}
    (accepted : row ∈ acceptedRows base)
    (isFinal : IsFinalOf base row exact final) :
    ¬wronglyRejected setting (rejectOthers setting (choose base)) row.1 row.2
      (choiceOf exact) (choiceOf final) := by
  obtain ⟨member, free⟩ := mem_acceptedRows.mp accepted
  have exactFound := (exactChoice_choose_iff ranked).mpr
    ⟨exact, isFinal.exactLeast, rfl⟩
  have isExact_iff : (choose base).IsExactChoice row ↔ row.1 = exact.1 := by
    rw [CurationTables.IsExactChoice, exactFound, Option.map_some,
      Option.some.injEq]
    exact eq_comm
  have isFinal_iff (same : row = exact) :
      (choose base).IsFinalChoice row ↔ row.1 = final.1 := by
    have finalFound := (finalChoice_choose_iff ranked).mpr
      ⟨final, isFinal.finalLeast, rfl⟩
    rw [CurationTables.IsFinalChoice, same, finalFound, Option.map_some,
      Option.some.injEq]
    exact eq_comm
  have ofId {loser : Digest × Document}
      (inDocuments : loser ∈ base.documents.rows)
      (same : loser.1 = row.1) : loser = row :=
    row_eq_of_id inDocuments member same
  unfold wronglyRejected choiceOf
  simp only
  by_cases isExact : row.1 = exact.1
  · have sameRow : row = exact :=
      row_eq_of_id member (mem_acceptedRows.mp isFinal.exactLeast.member).1
        isExact
    have chosen := isExact_iff.mpr isExact
    by_cases isLast : row.1 = final.1
    · have count : residualCount setting (rejectOthers setting (choose base))
          row.1 = (∅ : Finset Reason).card :=
        residualCount_eq ranked noResidual fun reason => by
          rw [iff_false_right (Finset.notMem_empty _)]
          rintro (⟨loser, loses, same, -⟩ | ⟨loser, loses, same, -⟩)
          · exact loses.loses (ofId loses.member same ▸ chosen)
          · exact loses.loses (ofId loses.member same ▸
              (isFinal_iff sameRow).mpr isLast)
      rintro (wrong | ⟨different, -⟩ | ⟨-, different, -⟩)
      · rw [count, if_neg (not_not.mpr isExact), if_neg (not_not.mpr isLast)]
          at wrong
        exact wrong rfl
      · exact different isExact
      · exact different isLast
    · have loses : LosesFinal base row :=
        ⟨member, chosen, fun isChoice =>
          isLast ((isFinal_iff sameRow).mp isChoice)⟩
      have count : residualCount setting (rejectOthers setting (choose base))
          row.1 = Finset.card {residualFinalReason setting row.2.bucket} :=
        residualCount_eq ranked noResidual fun reason => by
          rw [Finset.mem_singleton]
          constructor
          · rintro (⟨loser, lost, same, -⟩ | ⟨loser, lost, same, isReason⟩)
            · exact absurd (ofId lost.member same ▸ chosen) lost.loses
            · rw [isReason, ofId lost.member same]
          · rintro rfl
            exact .inr ⟨row, loses, rfl, rfl⟩
      have entry : (row.1, residualFinalReason setting row.2.bucket) ∈
          (rejectOthers setting (choose base)).reasons :=
        (mem_reasons_rejectOthers_iff ranked).mpr
          (.inr (.inr ⟨row, loses, rfl, rfl⟩))
      rintro (wrong | ⟨different, -⟩ | ⟨-, -, missing⟩)
      · rw [count, if_neg (not_not.mpr isExact), if_pos isLast] at wrong
        exact wrong rfl
      · exact different isExact
      · exact missing entry
  · have loses : LosesExact base row :=
      ⟨member, free, fun isChoice => isExact (isExact_iff.mp isChoice)⟩
    have count : residualCount setting (rejectOthers setting (choose base))
        row.1 = Finset.card {Reason.residualExactDuplicate} :=
      residualCount_eq ranked noResidual fun reason => by
        rw [Finset.mem_singleton]
        constructor
        · rintro (⟨loser, -, -, rfl⟩ | ⟨loser, lost, same, -⟩)
          · rfl
          · exact absurd (ofId lost.member same ▸ lost.exact) loses.loses
        · rintro rfl
          exact .inl ⟨row, loses, rfl, rfl⟩
    have entry : (row.1, Reason.residualExactDuplicate) ∈
        (rejectOthers setting (choose base)).reasons :=
      (mem_reasons_rejectOthers_iff ranked).mpr
        (.inr (.inl ⟨row, loses, rfl, rfl⟩))
    rintro (wrong | ⟨-, missing⟩ | ⟨same, -⟩)
    · rw [count, if_pos isExact] at wrong
      exact wrong rfl
    · exact missing entry
    · exact isExact same

/-- The final choices that the validation counts for every cluster of an exact
choice. -/
theorem length_finalChoice (ranked : Ranked base) :
    (choose base).finalChoice.rows.length =
      (Table.distinct ((exactChoiceRows (choose base)).map fun row =>
        row.2.finalCluster)).rows.length := by
  rw [finalChoice_choose ranked]
  exact length_leastChoices _ _

/-- No mapped document has residual reasons other than those of its
choices. -/
theorem invalidResidual_eq_zero (ranked : Ranked base)
    (noResidual : NoResidual setting base) :
    invalidResidual setting (rejectOthers setting (choose base)) = 0 := by
  rw [invalidResidual, List.length_eq_zero_iff, List.filter_eq_nil_iff]
  intro row member wrong
  simp only [Bool.and_eq_true, decide_eq_true_eq, Option.any_eq_true]
    at wrong
  obtain ⟨⟨eligible, -⟩, choice, exactFound, last, finalFound, wrong⟩ := wrong
  have free := (eligible_rejectOthers_iff ranked noResidual).mp eligible
  have accepted : row ∈ acceptedRows base :=
    mem_acceptedRows.mpr ⟨member, free⟩
  obtain ⟨exact, final, isFinal⟩ := exists_isFinalOf ranked accepted
  have isExact : (choose base).exactChoice.lookup row.2.contentHash =
      some (choiceOf exact) :=
    (exactChoice_choose_iff ranked).mpr ⟨exact, isFinal.exactLeast, rfl⟩
  have isLast := isFinal.finalOfContent_eq ranked
  have sameExact : choiceOf exact = choice :=
    Option.some.inj (isExact.symm.trans exactFound)
  have sameFinal : choiceOf final = last :=
    Option.some.inj (isLast.symm.trans finalFound)
  rw [← sameExact, ← sameFinal] at wrong
  exact not_wronglyRejected ranked noResidual accepted isFinal wrong

end Validation

/-! ## Canonicalization as a whole -/

/-- What the nine passes make of the tables they start from. -/
def canonicalTables (setting : CurationSetting) (base : CurationTables) :
    CurationTables :=
  rejectOthers setting (choose (contaminate base))

section Whole

variable {setting : CurationSetting} {base : CurationTables}

theorem Prepared.ranked_contaminate (prepared : Prepared base) :
    Ranked (contaminate base) :=
  prepared.ranked

theorem residualReason_not_initial {reason : Reason}
    (residual : reason ∈ residualReasons setting) :
    reason.isInitial = false ∧ reason ≠ .benchmarkClusterContamination := by
  unfold residualReasons CurationSetting.englishFinalDuplicateReason at residual
  simp only [List.mem_cons, List.not_mem_nil, or_false] at residual
  rcases residual with rfl | rfl | isEnglish
  · exact ⟨rfl, nofun⟩
  · exact ⟨rfl, nofun⟩
  · split at isEnglish
    · subst isEnglish
      exact ⟨rfl, nofun⟩
    · subst isEnglish
      exact ⟨rfl, nofun⟩

theorem Prepared.noResidual (prepared : Prepared base) :
    NoResidual setting (contaminate base) := by
  intro entry member residual
  obtain ⟨notInitial, notContaminated⟩ := residualReason_not_initial residual
  rcases mem_reasons_contaminate_iff.mp member with inBase | ⟨isMark, -⟩
  · rw [prepared.initial entry inBase] at notInitial
    cases notInitial
  · exact notContaminated isMark

/-- Reasons that are not residual are those after the benchmark passes. -/
theorem Prepared.mem_canonical_reasons_iff (prepared : Prepared base)
    {docId : Digest} {reason : Reason}
    (notResidual : reason ∉ residualReasons setting) :
    (docId, reason) ∈ (canonicalTables setting base).reasons ↔
      (docId, reason) ∈ (contaminate base).reasons := by
  rw [canonicalTables,
    mem_reasons_rejectOthers_iff prepared.ranked_contaminate]
  constructor
  · rintro (inBase | ⟨_, -, -, rfl⟩ | ⟨_, -, -, rfl⟩)
    · exact inBase
    · exact absurd (List.mem_cons_self ..) notResidual
    · exact absurd (residualFinalReason_mem _) notResidual
  · exact .inl

theorem contamination_notResidual :
    Reason.benchmarkClusterContamination ∉ residualReasons setting :=
  fun residual => (residualReason_not_initial residual).2 rfl

/-- Exactly the documents of benchmark clusters are marked. -/
theorem Prepared.contaminated_iff (prepared : Prepared base)
    {row : Digest × Document} (member : row ∈ base.documents.rows) :
    (row.1, Reason.benchmarkClusterContamination) ∈
        (canonicalTables setting base).reasons ↔
      (contaminate base).InBenchmarkCluster row.2 := by
  have found := base.documents.lookup_eq_some_iff.mpr member
  rw [prepared.mem_canonical_reasons_iff contamination_notResidual,
    mem_reasons_contaminate_iff]
  constructor
  · rintro (inBase | ⟨-, document, isDocument, inCluster⟩)
    · have := prepared.initial _ inBase
      cases this
    · rw [found] at isDocument
      cases isDocument
      exact inCluster
  · intro inCluster
    exact .inr ⟨rfl, row.2, found, inCluster⟩

/-- The validation accepts what the passes have written. -/
theorem Prepared.validate_eq_ok (prepared : Prepared base) :
    validateCanonicalization setting (canonicalTables setting base) =
      .ok () := by
  have ranked := prepared.ranked_contaminate
  have noResidual : NoResidual setting (contaminate base) :=
    prepared.noResidual
  have eligible : eligibleRows setting (canonicalTables setting base) =
      acceptedRows (contaminate base) :=
    eligibleRows_rejectOthers ranked noResidual
  have wantedFinal : leastChoices Document.finalCluster
      (exactChoiceRows (canonicalTables setting base)) =
        (canonicalTables setting base).finalChoice :=
    (finalChoice_choose ranked).symm
  unfold validateCanonicalization
  refine require_bind ⟨?_, ?_, ?_, ?_, ?_, ?_, ?_, ?_, ?_, ?_⟩ _
  · rw [eligible]
    exact length_leastChoices _ _
  · exact length_finalChoice ranked
  · rw [eligible]
    exact length_canonicalMap ranked
  · exact (length_acceptedRows ranked).symm
  · rw [eligible]
    exact invalidChoices_self _
  · rw [wantedFinal]
    exact invalidChoices_self _
  · rw [eligible, List.length_eq_zero_iff, List.filter_eq_nil_iff]
    intro row accepted
    rw [canonicalTables, not_wronglyMapped ranked accepted]
    exact Bool.false_ne_true
  · exact invalidResidual_eq_zero ranked noResidual
  · rw [benchmarkMissing, List.length_eq_zero_iff, List.filter_eq_nil_iff]
    intro row member
    rw [Bool.and_eq_true, decide_eq_true_eq, decide_eq_true_eq]
    rintro ⟨inCluster, unmarked⟩
    exact unmarked ((prepared.contaminated_iff member).mpr inCluster)
  · rw [benchmarkExtra, List.length_eq_zero_iff, List.filter_eq_nil_iff]
    intro row member
    rw [Bool.and_eq_true, decide_eq_true_eq, Bool.not_eq_true',
      decide_eq_false_iff_not]
    rintro ⟨marked, outside⟩
    exact outside ((prepared.contaminated_iff member).mp marked)

end Whole

end CodingLlm
