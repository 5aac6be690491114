import CodingLlm.Pretrain.HfRelease

/-!
# Writes of a release

What the writes of a release leave in the staged directory and, through hard
links, in the sealed export.
-/

namespace CodingLlm

open CrashLogic JsonTree

variable {Bytes : Type}

/-! ## One write -/

namespace Staging

variable (staging : Staging Bytes)

/-- The staged file is the hard link to a public file. -/
def IsLinked (name : String) : Prop :=
  staging.files.lookup name = some .link

variable (name other : String) (bytes : Bytes)

theorem put_of_linked (linked : staging.IsLinked name) :
    staging.put name bytes =
      { staging with source :=
          { staging.source with
            files := staging.source.files.upsert name bytes } } := by
  rw [put, show staging.files.lookup name = some .link from linked]

theorem put_of_not_linked (unlinked : ¬staging.IsLinked name) :
    staging.put name bytes =
      { staging with files := staging.files.upsert name (.own bytes) } := by
  unfold put
  split
  · rename_i linked
    exact absurd linked unlinked
  · rfl

@[simp] theorem others_put :
    (staging.put name bytes).source.others = staging.source.others := by
  by_cases linked : staging.IsLinked name
  · rw [put_of_linked _ _ _ linked]
  · rw [put_of_not_linked _ _ _ linked]

/-- A write keeps the links. -/
@[simp] theorem isLinked_put :
    (staging.put name bytes).IsLinked other ↔ staging.IsLinked other := by
  by_cases linked : staging.IsLinked name
  · rw [put_of_linked _ _ _ linked]
    rfl
  · rw [put_of_not_linked _ _ _ linked, IsLinked, Table.lookup_upsert]
    split
    · rename_i same
      subst same
      exact iff_of_false nofun linked
    · rfl

/-- A write is read back, and leaves what is staged under other names. -/
theorem content?_put :
    (staging.put name bytes).content? other =
      if other = name then some bytes else staging.content? other := by
  by_cases linked : staging.IsLinked name
  · rw [put_of_linked _ _ _ linked]
    by_cases same : other = name
    · subst same
      rw [if_pos rfl]
      unfold content?
      rw [show staging.files.lookup other = some .link from linked]
      exact (Table.lookup_upsert _ _ _ _).trans (if_pos rfl)
    · rw [if_neg same]
      unfold content?
      dsimp only
      rw [Table.lookup_upsert, if_neg same]
  · rw [put_of_not_linked _ _ _ linked]
    unfold content?
    dsimp only
    rw [Table.lookup_upsert]
    by_cases same : other = name
    · rw [if_pos same, if_pos same]
    · rw [if_neg same, if_neg same]

/-- A write changes the export only through a link. -/
theorem lookup_source_put :
    (staging.put name bytes).source.files.lookup other =
      open Classical in
      if other = name ∧ staging.IsLinked name then some bytes
      else staging.source.files.lookup other := by
  by_cases linked : staging.IsLinked name
  · rw [put_of_linked _ _ _ linked]
    dsimp only
    rw [Table.lookup_upsert]
    simp [linked]
  · rw [put_of_not_linked _ _ _ linked]
    simp [linked]

/-! ## Several writes -/

/-- Write after write. -/
def putAll (staging : Staging Bytes) (writes : List (String × Bytes)) :
    Staging Bytes :=
  writes.foldl (fun current write => current.put write.1 write.2) staging

@[simp] theorem putAll_nil : staging.putAll [] = staging := rfl

@[simp] theorem putAll_cons
    (write : String × Bytes)
    (writes : List (String × Bytes)) :
    staging.putAll (write :: writes) =
      (staging.put write.1 write.2).putAll writes := rfl

theorem putAll_append (first second : List (String × Bytes)) :
    staging.putAll (first ++ second) =
      (staging.putAll first).putAll second :=
  List.foldl_append

variable {staging} {writes : List (String × Bytes)}

@[simp] theorem others_putAll :
    (staging.putAll writes).source.others = staging.source.others := by
  induction writes generalizing staging with
  | nil => rfl
  | cons write writes inductionHypothesis =>
      rw [putAll_cons, inductionHypothesis, others_put]

@[simp] theorem isLinked_putAll :
    (staging.putAll writes).IsLinked name ↔ staging.IsLinked name := by
  induction writes generalizing staging with
  | nil => rfl
  | cons write writes inductionHypothesis =>
      rw [putAll_cons, inductionHypothesis, isLinked_put]

/-- Other names keep what they had. -/
theorem content?_putAll_of_notMem
    (absent : name ∉ writes.map Prod.fst) :
    (staging.putAll writes).content? name = staging.content? name := by
  induction writes generalizing staging with
  | nil => rfl
  | cons write writes inductionHypothesis =>
      rw [List.map_cons, List.mem_cons, not_or] at absent
      rw [putAll_cons, inductionHypothesis absent.2, content?_put,
        if_neg absent.1]

/-- Each name has what was written to it. -/
theorem content?_putAll
    {name : String} {bytes : Bytes}
    (distinct : (writes.map Prod.fst).Nodup)
    (written : (name, bytes) ∈ writes) :
    (staging.putAll writes).content? name = some bytes := by
  induction writes generalizing staging with
  | nil => simp at written
  | cons write writes inductionHypothesis =>
      rw [List.map_cons, List.nodup_cons] at distinct
      rw [putAll_cons]
      rcases List.mem_cons.mp written with rfl | later
      · rw [content?_putAll_of_notMem _ distinct.1, content?_put, if_pos rfl]
      · exact inductionHypothesis distinct.2 later

theorem lookup_source_putAll_of_notMem
    (absent : name ∉ writes.map Prod.fst) :
    (staging.putAll writes).source.files.lookup name =
      staging.source.files.lookup name := by
  induction writes generalizing staging with
  | nil => rfl
  | cons write writes inductionHypothesis =>
      rw [List.map_cons, List.mem_cons, not_or] at absent
      rw [putAll_cons, inductionHypothesis absent.2, lookup_source_put,
        if_neg fun both => absent.1 both.1]

theorem lookup_source_putAll_of_linked
    {name : String} {bytes : Bytes}
    (distinct : (writes.map Prod.fst).Nodup)
    (written : (name, bytes) ∈ writes)
    (linked : staging.IsLinked name) :
    (staging.putAll writes).source.files.lookup name = some bytes := by
  have content := @content?_putAll _ staging _ _ _ distinct written
  have still : (staging.putAll writes).IsLinked name :=
    (isLinked_putAll name).mpr linked
  unfold content? at content
  rwa [show (staging.putAll writes).files.lookup name = some .link from still]
    at content

theorem lookup_source_putAll_of_not_linked
    (unlinked : ¬staging.IsLinked name) :
    (staging.putAll writes).source.files.lookup name =
      staging.source.files.lookup name := by
  induction writes generalizing staging with
  | nil => rfl
  | cons write writes inductionHypothesis =>
      rw [putAll_cons, inductionHypothesis
        fun linked => unlinked ((isLinked_put ..).mp linked),
        lookup_source_put, if_neg]
      rintro ⟨rfl, linked⟩
      exact unlinked linked

/-- The writes keep the export exactly when what goes through a link is what
was there. -/
theorem source_putAll_eq_iff
    (distinct : (writes.map Prod.fst).Nodup) :
    (staging.putAll writes).source = staging.source ↔
      ∀ write ∈ writes, staging.IsLinked write.1 ->
        staging.source.files.lookup write.1 = some write.2 := by
  constructor
  · intro kept write member linked
    rw [← kept]
    exact lookup_source_putAll_of_linked distinct member linked
  · intro harmless
    have files : (staging.putAll writes).source.files =
        staging.source.files := by
      refine Table.ext_lookup fun name => ?_
      by_cases linked : staging.IsLinked name
      · by_cases member : name ∈ writes.map Prod.fst
        · obtain ⟨write, there, rfl⟩ := List.mem_map.mp member
          rw [harmless write there linked]
          exact lookup_source_putAll_of_linked distinct there linked
        · exact lookup_source_putAll_of_notMem _ member
      · exact lookup_source_putAll_of_not_linked _ linked
    calc (staging.putAll writes).source
        = ⟨(staging.putAll writes).source.files,
            (staging.putAll writes).source.others⟩ := rfl
      _ = ⟨staging.source.files, staging.source.others⟩ := by
          rw [files, others_putAll]

/-! ## The staged directory -/

theorem lookup_directory (staging : Staging Bytes) (name : String) :
    staging.directory.files.lookup name = staging.content? name := by
  refine Option.ext fun bytes => ?_
  rw [Table.lookup_eq_some_iff, directory, List.mem_filterMap]
  constructor
  · rintro ⟨row, -, found⟩
    obtain ⟨_, content, equal⟩ := Option.map_eq_some_iff.mp found
    cases equal
    exact content
  · intro content
    have staged : ∃ file, staging.files.lookup name = some file := by
      unfold content? at content
      split at content
      · exact ⟨_, ‹_›⟩
      · exact ⟨_, ‹_›⟩
      · cases content
    obtain ⟨file, found⟩ := staged
    exact ⟨_, (Table.lookup_eq_some_iff _).mp found, by rw [content]; rfl⟩

theorem mem_keys_directory (staging : Staging Bytes) (name : String) :
    name ∈ staging.directory.files.keys ↔ (staging.content? name).isSome := by
  rw [Table.mem_keys_iff, ← Option.isSome_iff_exists, lookup_directory]

end Staging
end CodingLlm
