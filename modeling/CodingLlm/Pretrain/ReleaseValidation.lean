import CodingLlm.Pretrain.ReleaseWrites
import Mathlib.Data.List.Dedup

/-!
# Validation of a release

Which directories `validate_release_package` accepts, and what
`verify_source_export` has established of the public names.
-/

namespace CodingLlm

open JsonTree

variable {Bytes : Type} {codec : ReleaseCodec Bytes}
variable {root : FlatDirectory Bytes} {name : String} {bytes : Bytes}
variable {record : JsonTree}

/-! ## Names and records -/

/-- A flat filename. -/
def IsFlatName (name : String) : Prop :=
  name ≠ "" ∧ name ≠ "." ∧ name ≠ ".." ∧ '/' ∉ name.toList ∧
    '\\' ∉ name.toList

instance (name : String) : Decidable (IsFlatName name) :=
  inferInstanceAs (Decidable (_ ∧ _))

theorem flatName_eq_ok {value : JsonTree} :
    flatName value = .ok name ↔
      value.str? = some name ∧ IsFlatName name := by
  rw [flatName, requireObject_eq_ok, Option.filter_eq_some_iff,
    decide_eq_true_iff]
  rfl

theorem read_eq_ok :
    root.read name = .ok bytes ↔ root.files.lookup name = some bytes :=
  requireObject_eq_ok

theorem loadJson_eq_ok {tree : JsonTree} :
    codec.loadJson root name = .ok tree ↔
      ∃ bytes, root.files.lookup name = some bytes ∧
        codec.decodeJson bytes = .ok tree ∧ tree.IsMapping := by
  simp only [ReleaseCodec.loadJson, checked_bind_eq_ok, exists_require,
    checked_pure_eq_ok, read_eq_ok]
  constructor
  · rintro ⟨bytes, found, _, decoded, mapping, rfl⟩
    exact ⟨bytes, found, decoded, mapping⟩
  · rintro ⟨bytes, found, decoded, mapping⟩
    exact ⟨bytes, found, tree, decoded, mapping, rfl⟩

theorem verifyFileRecord_eq_ok :
    codec.verifyFileRecord root record = .ok name ↔
      ((record.field? "path").getD null).str? = some name ∧
      IsFlatName name ∧
      ∃ bytes, root.files.lookup name = some bytes ∧
        (record.field? "bytes").bind JsonTree.int? =
          some (codec.size bytes : Int) ∧
        (record.field? "sha256").bind JsonTree.sha256? =
          some (codec.sha256 bytes) := by
  simp only [ReleaseCodec.verifyFileRecord, checked_bind_eq_ok, exists_require,
    checked_pure_eq_ok, flatName_eq_ok, read_eq_ok, requireObject_eq_ok]
  constructor
  · rintro ⟨_, ⟨path, flat⟩, bytes, found, size, _, digest, rfl, rfl⟩
    exact ⟨path, flat, bytes, found, size, digest⟩
  · rintro ⟨path, flat, bytes, found, size, digest⟩
    exact ⟨name, ⟨path, flat⟩, bytes, found, size, _, digest, rfl, rfl⟩

theorem sha256?_str {digest : String} (isDigest : IsSha256 digest) :
    (JsonTree.str digest).sha256? = some digest := by
  rw [sha256?, Option.filter_eq_some_iff]
  exact ⟨rfl, decide_eq_true isDigest⟩

/-- A record that reads as the one of a file is verified by that file. -/
theorem verifyFileRecord_of_same
    (same : record.Same (codec.fileRecord name bytes))
    (flat : IsFlatName name)
    (found : root.files.lookup name = some bytes) :
    codec.verifyFileRecord root record = .ok name := by
  have path := same.field?_eq_scalar (rfl :
    (codec.fileRecord name bytes).field? "path" = some (.str name))
  have size := same.field?_eq_scalar (rfl :
    (codec.fileRecord name bytes).field? "bytes" =
      some (.int (codec.size bytes)))
  have digest := same.field?_eq_scalar (rfl :
    (codec.fileRecord name bytes).field? "sha256" =
      some (.str (codec.sha256 bytes)))
  refine verifyFileRecord_eq_ok.mpr
    ⟨by rw [path]; rfl, flat, bytes, found, by rw [size]; rfl, ?_⟩
  rw [digest]
  exact sha256?_str (codec.isSha256 bytes)

/-- Such a record verifies no other file. -/
theorem eq_of_verifyFileRecord
    {other : String}
    (same : record.Same (codec.fileRecord name bytes))
    (verified : codec.verifyFileRecord root record = .ok other) :
    other = name := by
  have path := same.field?_eq_scalar (rfl :
    (codec.fileRecord name bytes).field? "path" = some (.str name))
  obtain ⟨named, -⟩ := verifyFileRecord_eq_ok.mp verified
  rw [path] at named
  exact (Option.some.inj named).symm

/-! ## Records of a release -/

/-- What the loop over the records asks of each. -/
theorem verifyRecords_names
    {records : List JsonTree} {names result : List String}
    (verified : codec.verifyRecords root records names = .ok result) :
    ∀ record ∈ records, ∃ name,
      codec.verifyFileRecord root record = .ok name ∧ name ∉ names ∧
        name ∉ internalOnlyNames := by
  induction records generalizing names with
  | nil => simp
  | cons first records inductionHypothesis =>
      simp only [ReleaseCodec.verifyRecords, checked_bind_eq_ok,
        exists_require] at verified
      obtain ⟨-, name, checked, ⟨fresh, isPublic⟩, rest⟩ := verified
      intro record member
      rcases List.mem_cons.mp member with rfl | later
      · exact ⟨name, checked, fresh, isPublic⟩
      · obtain ⟨other, found, distinct, allowed⟩ :=
          inductionHypothesis rest record later
        exact ⟨other, found,
          fun known => distinct (List.mem_append_left _ known), allowed⟩

/-- The loop over the records of files that are there. -/
theorem verifyRecords_of_same
    {records : List JsonTree} {rows : List (String × Bytes)}
    {names : List String}
    (same : List.Forall₂ Same records
      (rows.map fun row => codec.fileRecord row.1 row.2))
    (distinct : (rows.map Prod.fst).Nodup)
    (stored : ∀ row ∈ rows, IsFlatName row.1 ∧
      root.files.lookup row.1 = some row.2 ∧ row.1 ∉ names ∧
        row.1 ∉ internalOnlyNames) :
    codec.verifyRecords root records names =
      .ok (names ++ rows.map Prod.fst) := by
  induction rows generalizing records names with
  | nil =>
      cases same
      rw [List.map_nil, List.append_nil]
      rfl
  | cons row rows inductionHypothesis =>
      cases same with
      | @cons record _ records _ first rest =>
          rw [List.map_cons, List.nodup_cons] at distinct
          obtain ⟨flat, found, fresh, isPublic⟩ :=
            stored row (List.mem_cons_self ..)
          have exactly : record.HasExactly ["path", "bytes", "sha256"] :=
            first.hasExactly_iff.mpr
              ⟨rfl, List.Subset.refl _, List.Subset.refl _⟩
          rw [ReleaseCodec.verifyRecords, require_bind exactly,
            verifyFileRecord_of_same first flat found, checked_ok_bind,
            require_bind ⟨fresh, isPublic⟩]
          refine (inductionHypothesis rest distinct.2 ?_).trans ?_
          · intro other member
            obtain ⟨flat, found, fresh, isPublic⟩ :=
              stored other (List.mem_cons_of_mem _ member)
            refine ⟨flat, found, fun known => ?_, isPublic⟩
            rcases List.mem_append.mp known with before | same
            · exact fresh before
            · exact distinct.1 (List.mem_singleton.mp same ▸
                List.mem_map_of_mem member)
          · rw [List.map_cons, List.append_assoc]
            rfl

/-! ## Whole releases -/

section Releases

variable {tree manifest : JsonTree} {rows : List (String × Bytes)}

/-- What is read of a manifest that lists the records of files. -/
theorem exists_records
    (listed : tree.field? "files" = some (.array
      (rows.map fun row => codec.fileRecord row.1 row.2)))
    (same : manifest.Same tree) :
    ∃ records, manifest.field? "files" = some (.array records) ∧
      List.Forall₂ Same records
        (rows.map fun row => codec.fileRecord row.1 row.2) := by
  have related := same.field "files"
  rw [listed] at related
  generalize manifest.field? "files" = found at related
  cases related with
  | some equal =>
      obtain ⟨records, rfl, each⟩ := equal.exists_items
      exact ⟨records, rfl, each⟩

theorem exists_record_of_mem
    {records : List JsonTree} {row : String × Bytes}
    (same : List.Forall₂ Same records
      (rows.map fun row => codec.fileRecord row.1 row.2))
    (member : row ∈ rows) :
    ∃ record ∈ records, record.Same (codec.fileRecord row.1 row.2) := by
  induction rows generalizing records with
  | nil => simp at member
  | cons first rows inductionHypothesis =>
      cases same with
      | @cons record _ records _ head tail =>
          rcases List.mem_cons.mp member with rfl | later
          · exact ⟨record, List.mem_cons_self .., head⟩
          · obtain ⟨other, there, equal⟩ := inductionHypothesis tail later
            exact ⟨other, List.mem_cons_of_mem _ there, equal⟩

/-- An accepted release has no record of its manifest or of an internal
file. -/
theorem names_of_validateReleasePackage
    {requirePublicReady : Bool} {allowedExtra : List String}
    (validated : codec.validateReleasePackage root requirePublicReady
      allowedExtra = .ok manifest)
    (stored : root.files.lookup releaseManifestName =
      some (codec.encodeJson tree))
    (listed : tree.field? "files" = some (.array
      (rows.map fun row => codec.fileRecord row.1 row.2))) :
    ∀ row ∈ rows,
      row.1 ∉ [releaseManifestName, releaseManifestSidecarName] ∧
        row.1 ∉ internalOnlyNames := by
  simp only [ReleaseCodec.validateReleasePackage, checked_bind_eq_ok,
    requireObject_eq_ok] at validated
  obtain ⟨loaded, load, _, -, _, -, items, found, _, -, names, verified, -⟩ :=
    validated
  obtain ⟨bytes, same, decoded, -⟩ := loadJson_eq_ok.mp load
  obtain rfl := Option.some.inj (stored.symm.trans same)
  obtain ⟨other, reads, equal⟩ := codec.decode_encode tree
  obtain rfl := Except.ok.inj (reads.symm.trans decoded)
  obtain ⟨records, listedAs, each⟩ := exists_records listed equal
  rw [listedAs] at found
  obtain rfl := Option.some.inj found
  intro row member
  obtain ⟨record, there, recorded⟩ := exists_record_of_mem each member
  obtain ⟨name, checked, fresh, isPublic⟩ :=
    verifyRecords_names verified record there
  obtain rfl := eq_of_verifyFileRecord recorded checked
  exact ⟨fresh, isPublic⟩

/-- A directory as a release leaves it. -/
structure IsRelease
    (codec : ReleaseCodec Bytes) (root : FlatDirectory Bytes)
    (tree : JsonTree) (rows : List (String × Bytes)) (card : String) :
    Prop where
  manifest : root.files.lookup releaseManifestName =
    some (codec.encodeJson tree)
  sidecar : root.files.lookup releaseManifestSidecarName =
    some (codec.encodeText (sidecarText
      (codec.sha256 (codec.encodeJson tree)) releaseManifestName))
  cardFile : root.files.lookup modelCardName = some (codec.encodeText card)
  newlines : '\r' ∉ card.toList
  format : tree.field? "format" = some (.str "hugging-face-model-release")
  version : tree.field? "format_version" = some (.int 1)
  state : tree.field? "publication_state" =
    some (.str (publicationState (codec.publicationBlockers card)))
  blockers : tree.field? "publication_blockers" = some (.array
    ((codec.publicationBlockers card).map JsonTree.str))
  listed : tree.field? "files" = some (.array
    (rows.map fun row => codec.fileRecord row.1 row.2))
  distinct : (rows.map Prod.fst).Nodup
  stored : ∀ row ∈ rows, IsFlatName row.1 ∧
    root.files.lookup row.1 = some row.2 ∧
      row.1 ∉ [releaseManifestName, releaseManifestSidecarName] ∧
        row.1 ∉ internalOnlyNames
  required : requiredReleaseNames ⊆ rows.map Prod.fst
  weights : ∃ name ∈ rows.map Prod.fst, endsWithText name ".safetensors"
  keys : ∀ name, name ∈ root.files.keys ↔
    name ∈ [releaseManifestName, releaseManifestSidecarName] ∨
      name ∈ rows.map Prod.fst
  others : root.others = []

theorem newlines_sidecarText {digest : String} (isDigest : IsSha256 digest) :
    '\r' ∉ (sidecarText digest releaseManifestName).toList := by
  have noReturn : '\r' ∉ digest.toList := fun member =>
    absurd (isDigest.2 _ member) (by decide)
  simp only [sidecarText, String.toList_append, List.mem_append, not_or]
  exact ⟨⟨⟨noReturn, by decide⟩, by decide⟩, by decide⟩

theorem equals_strs (texts : List String) :
    (array (texts.map JsonTree.str)).equals
      (.array (texts.map JsonTree.str)) = true := by
  rw [equals]
  induction texts with
  | nil => rfl
  | cons text texts inductionHypothesis =>
      rw [List.map_cons, equalsItems, inductionHypothesis, Bool.and_true, str,
        equals]
      exact JsonScalar.equals_refl _

/-- What a release leaves is accepted. -/
theorem IsRelease.validates
    {card : String}
    (release : IsRelease codec root tree rows card) :
    ∃ manifest, codec.validateReleasePackage root false [] = .ok manifest := by
  obtain ⟨decoded, reads, same⟩ := codec.decode_encode tree
  obtain ⟨records, listed, each⟩ := exists_records release.listed same
  have mapping : decoded.IsMapping := by
    cases decoded with
    | object fields => rfl
    | scalar value => cases listed
    | array items => cases listed
  have loads : codec.loadJson root releaseManifestName = .ok decoded :=
    loadJson_eq_ok.mpr ⟨_, release.manifest, reads, mapping⟩
  have format := same.field?_eq_scalar release.format
  have version := same.field?_eq_scalar release.version
  have state := same.field?_eq_scalar release.state
  have blockers : decoded.field? "publication_blockers" = some (.array
      ((codec.publicationBlockers card).map JsonTree.str)) := by
    have related := same.field "publication_blockers"
    rw [release.blockers] at related
    generalize decoded.field? "publication_blockers" = other at related
    cases related with
    | some equal => exact congrArg some equal.eq_strings
  have sidecar : codec.verifySidecar root releaseManifestName
      releaseManifestSidecarName =
        .ok (codec.sha256 (codec.encodeJson tree)) := by
    have text := codec.read_encode _ (newlines_sidecarText
      (codec.isSha256 (codec.encodeJson tree)))
    rw [ReleaseCodec.verifySidecar, read_eq_ok.mpr release.manifest,
      checked_ok_bind, read_eq_ok.mpr release.sidecar, checked_ok_bind, text,
      checked_ok_bind, require_bind rfl]
    rfl
  have verified := verifyRecords_of_same each release.distinct release.stored
  have keys (name : String) : name ∈ root.files.keys ↔
      name ∈ [releaseManifestName, releaseManifestSidecarName] ++
        rows.map Prod.fst :=
    (release.keys name).trans List.mem_append.symm
  have exactTree : root.verifyExactTree
      ([releaseManifestName, releaseManifestSidecarName] ++
        rows.map Prod.fst) [] = .ok () := by
    have others : root.others ⊆ [] := by
      rw [release.others]
      exact List.Subset.refl _
    rw [FlatDirectory.verifyExactTree, require_bind others]
    refine (require_bind ⟨fun name member => ?_, fun name member => ?_⟩
      _).trans rfl
    · exact (keys name).mp (List.mem_of_mem_filter member)
    · exact List.mem_filter.mpr ⟨(keys name).mpr member, by simp⟩
  have nonempty : records ≠ [] := by
    obtain ⟨name, member, -⟩ := release.weights
    obtain ⟨row, there, -⟩ := List.mem_map.mp member
    obtain ⟨record, listed, -⟩ := exists_record_of_mem each there
    exact List.ne_nil_of_mem listed
  have contract :
      ((decoded.field? "format").getD null).EqualsStr
          "hugging-face-model-release" ∧
        ((decoded.field? "format_version").getD null).equals (.int 1) := by
    rw [format, version]
    exact ⟨rfl, by decide⟩
  have required : ∀ name ∈ requiredReleaseNames,
      name ∈ [releaseManifestName, releaseManifestSidecarName] ++
        rows.map Prod.fst := fun name member =>
    List.mem_append_right _ (release.required member)
  have weights : ∃ name ∈ [releaseManifestName, releaseManifestSidecarName] ++
      rows.map Prod.fst, endsWithText name ".safetensors" := by
    obtain ⟨name, member, ending⟩ := release.weights
    exact ⟨name, List.mem_append_right _ member, ending⟩
  have published :
      ((decoded.field? "publication_state").getD null).EqualsStr
          (publicationState (codec.publicationBlockers card)) ∧
        ((decoded.field? "publication_blockers").getD null).equals
          (.array ((codec.publicationBlockers card).map JsonTree.str)) := by
    rw [state, blockers]
    exact ⟨rfl, equals_strs _⟩
  have notAsked : false = true -> codec.publicationBlockers card = [] := nofun
  refine ⟨decoded, ?_⟩
  rw [ReleaseCodec.validateReleasePackage, loads, checked_ok_bind,
    require_bind contract, sidecar, checked_ok_bind, listed]
  rw [show requireObject ((some (array records)).bind items?)
      (releaseError "HF release manifest has no file inventory") =
        .ok records from rfl, checked_ok_bind, require_bind nonempty,
    verified, checked_ok_bind, require_bind required, require_bind weights,
    exactTree, checked_ok_bind, read_eq_ok.mpr release.cardFile,
    checked_ok_bind, codec.read_encode _ release.newlines, checked_ok_bind]
  dsimp only
  rw [require_bind published, require_bind notAsked]
  rfl

end Releases

/-! ## The public names of an export -/

theorem verifyWeights_names
    {records : List JsonTree} {names tensors result : List String}
    (verified : codec.verifyWeights root records names tensors =
      .ok result) :
    ∃ weights, result = names ++ weights ∧
      weights.length = records.length ∧ ∀ name ∈ weights,
        IsFlatName name ∧ endsWithText name ".safetensors" := by
  induction records generalizing names tensors with
  | nil => exact ⟨[], by cases verified; simp⟩
  | cons record records inductionHypothesis =>
      simp only [ReleaseCodec.verifyWeights, checked_bind_eq_ok,
        exists_require] at verified
      obtain ⟨-, name, checked, ⟨ending, -⟩, _, -, -, rest⟩ := verified
      obtain ⟨weights, rfl, count, each⟩ := inductionHypothesis rest
      refine ⟨name :: weights, by simp, by simp [count], ?_⟩
      intro other member
      rcases List.mem_cons.mp member with rfl | later
      · exact ⟨(verifyFileRecord_eq_ok.mp checked).2.1, ending⟩
      · exact each other later

theorem publicIndex_flat
    {weights : JsonTree} {names index : List String}
    (indexed : publicIndex weights names = .ok index) :
    ∀ name ∈ index, IsFlatName name := by
  unfold publicIndex at indexed
  simp only at indexed
  split at indexed
  · obtain ⟨-, same⟩ := require_then_eq_ok.mp indexed
    cases same
    simp only [List.mem_singleton, forall_eq]
    decide
  · obtain ⟨-, same⟩ := require_then_eq_ok.mp indexed
    cases same
    simp

@[simp] theorem mem_sortedNames {names : List String} :
    name ∈ sortedNames names ↔ name ∈ names := by
  rw [sortedNames, List.mem_insertionSort, List.mem_dedup]

/-- What `verify_source_export` has established of the export and of its public
names. -/
structure IsVerified
    (root : FlatDirectory Bytes) (verified : VerifiedSourceExport) :
    Prop where
  others : root.others = []
  flat : ∀ name ∈ verified.publicFiles, IsFlatName name
  config : "config.json" ∈ verified.publicFiles
  weights : ∃ name ∈ verified.publicFiles, endsWithText name ".safetensors"

theorem isVerified_of_verifySourceExport
    {verified : VerifiedSourceExport}
    (accepts : codec.verifySourceExport root = .ok verified) :
    IsVerified root verified := by
  simp only [ReleaseCodec.verifySourceExport, checked_bind_eq_ok,
    exists_require, checked_pure_eq_ok, requireObject_eq_ok] at accepts
  obtain ⟨_, -, -, _, -, -, records, -, nonempty, weightNames, checked, _, -,
    _, -, _, exactTree, index, indexed, _, -, -, -, -, _, -, -, _, -, -,
    tokenizerNames, tokenizers, _, -, rfl⟩ := accepts
  obtain ⟨weights, rfl, count, each⟩ := verifyWeights_names checked
  simp only [FlatDirectory.verifyExactTree, checked_bind_eq_ok, exists_require]
    at exactTree
  constructor
  case others => exact List.subset_nil.mp exactTree.1
  case flat =>
    intro name member
    simp only [mem_sortedNames, List.mem_append] at member
    rcases member with (((weight | listed) | config) | native) | tokenizer
    · exact (each name weight).1
    · exact publicIndex_flat indexed name listed
    · rw [List.mem_singleton.mp config]
      decide
    · rw [List.mem_singleton.mp (List.mem_of_mem_filter native)]
      decide
    · obtain ⟨file, -, named⟩ := exists_item_of_mapM tokenizers tokenizer
      simp only [ReleaseCodec.verifyTokenizerFile, checked_bind_eq_ok,
        exists_require, checked_pure_eq_ok] at named
      obtain ⟨_, flat, _, -, _, -, -, rfl⟩ := named
      exact (flatName_eq_ok.mp flat).2
  case config => simp
  case weights =>
    have some : weights ≠ [] := by
      rintro rfl
      exact nonempty (List.length_eq_zero_iff.mp count.symm)
    obtain ⟨name, member⟩ := List.exists_mem_of_ne_nil weights some
    refine ⟨name, ?_, (each name member).2⟩
    simp only [mem_sortedNames, List.mem_append]
    exact .inl (.inl (.inl (.inl member)))

end CodingLlm
