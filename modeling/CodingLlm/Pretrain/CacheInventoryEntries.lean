import CodingLlm.Pretrain.CacheInventory

/-!
# The entries of a cache inventory

What the loop over `archives` accepts, and that the descriptors of certified
caches are among it.
-/

namespace CodingLlm

open JsonTree Words

/-! ## Fields -/

section Fields

variable {tree : JsonTree} {key : String}

/-- A field that is the same as an object is there. -/
theorem getField_same_object
    {fields : List (String × JsonTree)} :
    (getField tree key).Same (.object fields) ↔
      ∃ item, tree.field? key = some item ∧ item.Same (.object fields) := by
  rw [getField]
  cases tree.field? key with
  | some item => simp
  | none =>
      refine ⟨fun same => ?_, nofun⟩
      cases same.node_eq

theorem requirePositiveField_eq_ok {value : Nat} :
    requirePositiveField tree key = .ok value ↔
      tree.field? key = some (.int value) ∧ 1 ≤ value := by
  unfold requirePositiveField
  constructor
  · intro read
    obtain ⟨number, found, read⟩ := checked_bind_eq_ok.mp read
    obtain ⟨positive, read⟩ := require_then_eq_ok.mp read
    obtain rfl := checked_pure_eq_ok.mp read
    rw [requireObject_eq_ok, bind_int?_eq_some] at found
    rw [found, Int.toNat_of_nonneg (by omega)]
    exact ⟨rfl, by omega⟩
  · rintro ⟨found, positive⟩
    refine checked_bind_eq_ok.mpr ⟨(value : Int),
      requireObject_eq_ok.mpr (bind_int?_eq_some.mpr found), ?_⟩
    exact require_then_eq_ok.mpr ⟨by omega, by simp⟩

theorem requireSha256Field_eq_ok {digest : String} :
    requireSha256Field tree key = .ok digest ↔
      tree.field? key = some (.str digest) ∧ IsSha256 digest := by
  unfold requireSha256Field
  rw [requireObject_eq_ok, Option.bind_eq_some_iff]
  constructor
  · rintro ⟨item, found, read⟩
    rw [sha256?, Option.filter_eq_some_iff] at read
    obtain ⟨text, isDigest⟩ := read
    match item, text with
    | .scalar (.str value), text =>
        cases text
        exact ⟨found, of_decide_eq_true isDigest⟩
  · rintro ⟨found, isDigest⟩
    refine ⟨_, found, ?_⟩
    rw [sha256?, Option.filter_eq_some_iff]
    exact ⟨rfl, decide_eq_true isDigest⟩

end Fields

/-! ## Paths -/

/-- The characters of the name of a part. -/
theorem mem_partName {index : Nat} {character : Char}
    (member : character ∈ (partName index).toList) :
    character ∈ "part-".toList ∨ character.isDigit = true := by
  rw [partName, String.toList_append, List.mem_append] at member
  rcases member with label | digit
  · exact Or.inl label
  · rw [sixDigits, String.toList_ofList, List.mem_append] at digit
    rcases digit with padding | digit
    · rw [(List.mem_replicate.mp padding).2]
      exact Or.inr rfl
    · exact Or.inr
        (Nat.isDigit_of_mem_toDigits (by decide) (by decide) digit)

theorem not_mem_partName {index : Nat} {character : Char}
    (label : character ∉ "part-".toList)
    (digit : character.isDigit = false) :
    character ∉ (partName index).toList := by
  intro member
  rcases mem_partName member with inside | isDigit
  · exact label inside
  · rw [digit] at isDigit
    cases isDigit

theorem toList_cacheDirectory (archive : ArchiveAuthority) :
    archive.cacheDirectory.toList = "archives".toList ++
      '/' :: (archive.bucket.name.toList ++
        '/' :: (partName archive.index).toList) := by
  simp only [ArchiveAuthority.cacheDirectory, String.toList_append]
  simp

/-- The directory of a cache is a safe path. -/
theorem safeRelative_cacheDirectory (archive : ArchiveAuthority) :
    SafeRelative archive.cacheDirectory := by
  have noSlash : '/' ∉ archive.bucket.name.toList := by
    cases archive.bucket <;> decide
  have part (character : Char) (label : character ∉ "part-".toList)
      (digit : character.isDigit = false) :
      character ∉ (partName archive.index).toList :=
    not_mem_partName label digit
  have absent (character : Char) (first : character ∉ "archives".toList)
      (slash : character ≠ '/')
      (bucket : ∀ bucket : Bucket, character ∉ bucket.name.toList)
      (label : character ∉ "part-".toList)
      (digit : character.isDigit = false) :
      character ∉ archive.cacheDirectory.toList := by
    rw [toList_cacheDirectory]
    simp only [List.mem_append, List.mem_cons, not_or]
    exact ⟨first, slash, bucket _, slash, part character label digit⟩
  refine ⟨fun empty => ?_, ?_, ?_, Or.inr ?_⟩
  · have chars := congrArg String.toList empty
    rw [toList_cacheDirectory] at chars
    simp at chars
  · refine absent _ (by decide) (by decide) (fun bucket => ?_) (by decide) rfl
    cases bucket <;> decide
  · refine absent _ (by decide) (by decide) (fun bucket => ?_) (by decide) rfl
    cases bucket <;> decide
  · rw [toList_cacheDirectory,
      List.splitOn_append_cons_self_of_not_mem (by decide),
      List.splitOn_append_cons_self_of_not_mem noSlash,
      List.splitOn_eq_singleton (part '/' (by decide) rfl)]
    refine List.forall_mem_cons.mpr ⟨by decide, ?_⟩
    refine List.forall_mem_cons.mpr ⟨?_, ?_⟩
    · cases archive.bucket <;> decide
    · have start : (partName archive.index).toList =
          "part-".toList ++ (sixDigits archive.index).toList := by
        rw [partName, String.toList_append]
      rw [start]
      simp

/-! ## One entry -/

/-- What the fields of an entry say of one another. -/
structure EntryValid
    (tokenizer : TokenizerAuthority)
    (entry : CacheInventoryEntry) : Prop where
  directory : entry.cacheDirectory = entry.archive.cacheDirectory
  manifestPath : entry.cacheManifest.path =
    entry.cacheDirectory ++ "/" ++ cacheManifestFile
  sidecarPath : entry.cacheSidecar.path =
    entry.cacheDirectory ++ "/" ++ cacheSidecarFile
  manifestBytes : entry.authority.cacheManifestBytes =
    entry.cacheManifest.bytes
  manifestSha256 : entry.authority.cacheManifestSha256 =
    entry.cacheManifest.sha256
  tokenizer : entry.authority.tokenizer = tokenizer

/-- A payload that is the descriptor of an entry, up to the spelling of its
ordinal. -/
structure EntryReads
    (payload : JsonTree) (entry : CacheInventoryEntry) : Prop where
  names : payload.HasExactly inventoryEntryKeys
  ordinal : payload.fieldEquals "ordinal" (.int entry.ordinal) = true
  directory : payload.field? "cache_directory" =
    some (.str entry.cacheDirectory)
  manifest : (getField payload "cache_manifest").Same
    entry.cacheManifest.asdict
  sidecar : (getField payload "cache_sidecar").Same entry.cacheSidecar.asdict
  archive : (getField payload "archive").Same entry.archive.asdict
  report : (getField payload "preprocess_report").Same
    entry.authority.preprocessReport.asdict
  fingerprint : (getField payload "fingerprint").Same
    entry.authority.fingerprint.asdict
  documents : (getField payload "documents").Same entry.documents

section Entries

variable {tokenizer : TokenizerAuthority} {payload : JsonTree}
  {entry : CacheInventoryEntry}

theorem same_documents_iff {tree : JsonTree} :
    tree.Same entry.documents ↔
      tree.HasExactly ["records", "clean_bytes", "content_tokens"] ∧
        tree.field? "records" = some (.int entry.authority.records) ∧
        tree.field? "clean_bytes" = some (.int entry.authority.cleanBytes) ∧
        tree.field? "content_tokens" =
          some (.int entry.authority.contentTokens) := by
  rw [CacheInventoryEntry.documents, same_object_iff (by simp)]
  simp only [List.forall_mem_cons, exists_same_scalar, int]
  simp

/-- What one turn of the loop over `archives` accepts. -/
theorem readEntry_eq_ok
    {ordinal : Nat} {archivesSeen directoriesSeen : List String} :
    readEntry tokenizer ordinal archivesSeen directoriesSeen payload =
        .ok entry ↔
      entry.ordinal = ordinal ∧ EntryReads payload entry ∧
        EntryValid tokenizer entry ∧ entry.archive.path ∉ archivesSeen ∧
          entry.cacheDirectory ∉ directoriesSeen := by
  unfold readEntry
  constructor
  · intro read
    obtain ⟨names, read⟩ := require_then_eq_ok.mp read
    obtain ⟨ordinalEq, read⟩ := require_then_eq_ok.mp read
    obtain ⟨archive, archiveRead, read⟩ := checked_bind_eq_ok.mp read
    obtain ⟨archiveNew, read⟩ := require_then_eq_ok.mp read
    obtain ⟨directory, directoryRead, read⟩ := checked_bind_eq_ok.mp read
    obtain ⟨-, read⟩ := require_then_eq_ok.mp read
    obtain ⟨canonical, read⟩ := require_then_eq_ok.mp read
    obtain ⟨directoryNew, read⟩ := require_then_eq_ok.mp read
    obtain ⟨manifest, manifestRead, read⟩ := checked_bind_eq_ok.mp read
    obtain ⟨sidecar, sidecarRead, read⟩ := checked_bind_eq_ok.mp read
    obtain ⟨⟨manifestPath, sidecarPath⟩, read⟩ := require_then_eq_ok.mp read
    obtain ⟨report, reportRead, read⟩ := checked_bind_eq_ok.mp read
    obtain ⟨fingerprint, fingerprintRead, read⟩ := checked_bind_eq_ok.mp read
    obtain ⟨documents, read⟩ := require_then_eq_ok.mp read
    obtain ⟨records, recordsRead, read⟩ := checked_bind_eq_ok.mp read
    obtain ⟨cleanBytes, cleanRead, read⟩ := checked_bind_eq_ok.mp read
    obtain ⟨tokens, tokensRead, read⟩ := checked_bind_eq_ok.mp read
    obtain ⟨authority, built, read⟩ := checked_bind_eq_ok.mp read
    obtain rfl := checked_pure_eq_ok.mp read
    obtain ⟨bytesEq, shaEq, rfl, rfl, rfl, tokenizerEq, rfl, rfl, rfl⟩ :=
      RawTokenCacheAuthority.of_eq_ok.mp (mapError_eq_ok.mp built)
    rw [archiveAuthority_eq_ok] at archiveRead
    rw [fileAuthority_eq_ok] at manifestRead sidecarRead
    rw [fileAuthority_eq_ok] at reportRead fingerprintRead
    rw [requireObject_eq_ok, bind_str?_eq_some] at directoryRead
    rw [requirePositiveField_eq_ok] at recordsRead cleanRead tokensRead
    exact ⟨rfl, ⟨names, ordinalEq, directoryRead, manifestRead, sidecarRead,
      archiveRead, reportRead, fingerprintRead, same_documents_iff.mpr
        ⟨documents, recordsRead.1, cleanRead.1, tokensRead.1⟩⟩,
      ⟨canonical, manifestPath, sidecarPath, bytesEq, shaEq, tokenizerEq⟩,
      archiveNew, directoryNew⟩
  · rintro ⟨rfl, reads, valid, archiveNew, directoryNew⟩
    obtain ⟨documents, records, cleanBytes, tokens⟩ :=
      same_documents_iff.mp reads.documents
    refine require_then_eq_ok.mpr ⟨reads.names, ?_⟩
    refine require_then_eq_ok.mpr ⟨reads.ordinal, ?_⟩
    refine checked_bind_eq_ok.mpr ⟨entry.archive,
      archiveAuthority_eq_ok.mpr reads.archive, ?_⟩
    refine require_then_eq_ok.mpr ⟨archiveNew, ?_⟩
    refine checked_bind_eq_ok.mpr ⟨entry.cacheDirectory,
      requireObject_eq_ok.mpr (bind_str?_eq_some.mpr reads.directory), ?_⟩
    refine require_then_eq_ok.mpr
      ⟨valid.directory ▸ safeRelative_cacheDirectory _, ?_⟩
    refine require_then_eq_ok.mpr ⟨valid.directory, ?_⟩
    refine require_then_eq_ok.mpr ⟨directoryNew, ?_⟩
    refine checked_bind_eq_ok.mpr ⟨entry.cacheManifest,
      fileAuthority_eq_ok.mpr reads.manifest, ?_⟩
    refine checked_bind_eq_ok.mpr ⟨entry.cacheSidecar,
      fileAuthority_eq_ok.mpr reads.sidecar, ?_⟩
    refine require_then_eq_ok.mpr
      ⟨⟨valid.manifestPath, valid.sidecarPath⟩, ?_⟩
    refine checked_bind_eq_ok.mpr ⟨_,
      fileAuthority_eq_ok.mpr reads.report, ?_⟩
    refine checked_bind_eq_ok.mpr ⟨_,
      fileAuthority_eq_ok.mpr reads.fingerprint, ?_⟩
    refine require_then_eq_ok.mpr ⟨documents, ?_⟩
    refine checked_bind_eq_ok.mpr ⟨_, requirePositiveField_eq_ok.mpr
      ⟨records, entry.authority.records_pos⟩, ?_⟩
    refine checked_bind_eq_ok.mpr ⟨_, requirePositiveField_eq_ok.mpr
      ⟨cleanBytes, entry.authority.cleanBytes_pos⟩, ?_⟩
    refine checked_bind_eq_ok.mpr ⟨_, requirePositiveField_eq_ok.mpr
      ⟨tokens, entry.authority.contentTokens_pos⟩, ?_⟩
    exact checked_bind_eq_ok.mpr ⟨entry.authority, mapError_eq_ok.mpr
      (RawTokenCacheAuthority.of_eq_ok.mpr ⟨valid.manifestBytes,
        valid.manifestSha256, rfl, rfl, rfl, valid.tokenizer, rfl, rfl, rfl⟩),
      rfl⟩

/-! ## All entries -/

/-- What the loop over `archives` accepts. -/
theorem readEntries_eq_ok
    {ordinal : Nat} {archivesSeen directoriesSeen : List String}
    {payloads : List JsonTree} {entries : List CacheInventoryEntry} :
    readEntries tokenizer ordinal archivesSeen directoriesSeen payloads =
        .ok entries ↔
      List.Forall₂ EntryReads payloads entries ∧
        entries.map CacheInventoryEntry.ordinal =
          List.range' ordinal payloads.length ∧
        (∀ entry ∈ entries, EntryValid tokenizer entry) ∧
        (entries.map fun entry => entry.archive.path).Nodup ∧
        (∀ entry ∈ entries, entry.archive.path ∉ archivesSeen) ∧
        (entries.map CacheInventoryEntry.cacheDirectory).Nodup ∧
        ∀ entry ∈ entries, entry.cacheDirectory ∉ directoriesSeen := by
  induction payloads generalizing ordinal archivesSeen directoriesSeen
      entries with
  | nil =>
      rw [readEntries, checked_pure_eq_ok]
      constructor
      · rintro rfl
        simp
      · rintro ⟨related, -⟩
        cases related
        rfl
  | cons payload payloads inductionHypothesis =>
      rw [readEntries]
      constructor
      · intro read
        obtain ⟨entry, first, read⟩ := checked_bind_eq_ok.mp read
        obtain ⟨others, rest, read⟩ := checked_bind_eq_ok.mp read
        obtain rfl := checked_pure_eq_ok.mp read
        obtain ⟨rfl, reads, valid, archiveNew, directoryNew⟩ :=
          readEntry_eq_ok.mp first
        obtain ⟨related, ordinals, valids, archives, archivesNew, directories,
          directoriesNew⟩ := inductionHypothesis.mp rest
        refine ⟨.cons reads related, ?_, List.forall_mem_cons.mpr
          ⟨valid, valids⟩, ?_, ?_, ?_, ?_⟩
        · rw [List.map_cons, ordinals, List.length_cons, List.range'_succ]
        · refine List.nodup_cons.mpr ⟨fun repeated => ?_, archives⟩
          obtain ⟨other, listed, equal⟩ := List.mem_map.mp repeated
          exact archivesNew other listed (equal ▸ List.mem_cons_self)
        · refine List.forall_mem_cons.mpr ⟨archiveNew, fun other listed =>
            fun seen => archivesNew other listed
              (List.mem_cons_of_mem _ seen)⟩
        · refine List.nodup_cons.mpr ⟨fun repeated => ?_, directories⟩
          obtain ⟨other, listed, equal⟩ := List.mem_map.mp repeated
          exact directoriesNew other listed (equal ▸ List.mem_cons_self)
        · refine List.forall_mem_cons.mpr ⟨directoryNew, fun other listed =>
            fun seen => directoriesNew other listed
              (List.mem_cons_of_mem _ seen)⟩
      · rintro ⟨related, ordinals, valids, archives, archivesNew, directories,
          directoriesNew⟩
        cases related with
        | @cons _ entry _ others reads related =>
            rw [List.map_cons, List.length_cons, List.range'_succ,
              List.cons.injEq] at ordinals
            obtain ⟨rfl, ordinals⟩ := ordinals
            rw [List.map_cons, List.nodup_cons] at archives directories
            rw [List.forall_mem_cons] at valids archivesNew directoriesNew
            refine checked_bind_eq_ok.mpr ⟨entry, readEntry_eq_ok.mpr
              ⟨rfl, reads, valids.1, archivesNew.1, directoriesNew.1⟩, ?_⟩
            refine checked_bind_eq_ok.mpr ⟨others, inductionHypothesis.mpr
              ⟨related, ordinals, valids.2, archives.2, ?_, directories.2, ?_⟩,
              rfl⟩
            · intro other listed seen
              rcases List.mem_cons.mp seen with equal | before
              · exact archives.1 (List.mem_map.mpr ⟨other, listed, equal⟩)
              · exact archivesNew.2 other listed before
            · intro other listed seen
              rcases List.mem_cons.mp seen with equal | before
              · exact directories.1 (List.mem_map.mpr ⟨other, listed, equal⟩)
              · exact directoriesNew.2 other listed before

/-- A payload is the descriptor exactly when its ordinal is an integer too. -/
theorem same_descriptor_iff :
    payload.Same entry.descriptor ↔ EntryReads payload entry ∧
      ∃ ordinal, payload.field? "ordinal" = some (.int ordinal) := by
  rw [CacheInventoryEntry.descriptor, same_object_iff (by simp)]
  simp only [List.forall_mem_cons, exists_same_scalar, int, str]
  constructor
  · rintro ⟨names, ordinal, directory, manifest, sidecar, archive, report,
      fingerprint, documents, -⟩
    refine ⟨⟨names, ?_, directory, getField_same_object.mpr manifest,
      getField_same_object.mpr sidecar, getField_same_object.mpr archive,
      getField_same_object.mpr report, getField_same_object.mpr fingerprint,
      getField_same_object.mpr documents⟩, _, ordinal⟩
    rw [fieldEquals, ordinal, Option.any_some]
    exact equals_int_int.mpr rfl
  · rintro ⟨reads, ordinal, found⟩
    have equal := reads.ordinal
    rw [fieldEquals, found, Option.any_some] at equal
    have same := equals_int_int.mp equal
    subst same
    exact ⟨reads.names, found, reads.directory,
      getField_same_object.mp reads.manifest,
      getField_same_object.mp reads.sidecar,
      getField_same_object.mp reads.archive,
      getField_same_object.mp reads.report,
      getField_same_object.mp reads.fingerprint,
      getField_same_object.mp reads.documents, List.forall_mem_nil _⟩

end Entries

end CodingLlm
