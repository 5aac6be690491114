import CodingLlm.Pretrain.FinalizerReuse
import CodingLlm.Scripts.FinalizedSupply

/-!
# Supplies of one size

For every sequence length and every number of rows there is a packed supply
whose domains all have that many rows.
-/

namespace CodingLlm
namespace CorpusQualification

open Words PackedStream

variable {split : Split} {domain : Domain} {sequenceLength rows : Nat}

/-- The writer of a split and domain. -/
def uniformArguments
    (sequenceLength : Nat) (split : Split) (domain : Domain) :
    WriterArguments (List Byte) :=
  { smallArguments with
    domain := domain.name, split := split.name, sequenceLength }

/-- The configuration that the constructor makes of it. -/
def uniformConfig
    (sequenceLength : Nat) (wide : 2 ≤ sequenceLength)
    (split : Split) (domain : Domain) : WriterConfig (List Byte) :=
  { smallConfig.withSequenceLength sequenceLength wide with
    domain
    split := split.name
    split_ne_empty := by cases split <;> decide }

/-- One document that fills a number of rows. -/
def filler (sequenceLength rows : Nat) : List (List Nat) :=
  [List.replicate (rows * sequenceLength) 1]

/-- The directory that packing it leaves. -/
def uniformDirectory
    (sequenceLength rows : Nat) (split : Split) (domain : Domain) :
    Directory (List Byte) Unit :=
  ((packDocuments id (uniformArguments sequenceLength split domain) .default
    (filler sequenceLength rows)).run ∅).final

/-- The directories of all cells under their paths. -/
def uniformStore (sequenceLength rows : Nat) : PackedStore (List Byte) Unit :=
  fun path =>
    ((Split.all.flatMap fun split => Domain.order.map (Prod.mk split)).find?
      fun cell => (packedPath cell.1 cell.2).path = path).map fun cell =>
        uniformDirectory sequenceLength rows cell.1 cell.2

theorem uniformStore_packedPath (split : Split) (domain : Domain) :
    uniformStore sequenceLength rows (packedPath split domain).path =
      some (uniformDirectory sequenceLength rows split domain) := by
  cases split <;> cases domain <;> rfl

theorem uniformArguments_check (wide : 2 ≤ sequenceLength) :
    (uniformArguments sequenceLength split domain).check =
      .ok (uniformConfig sequenceLength wide split domain) := by
  have long : (2 : Int) ≤ sequenceLength := Int.ofNat_le.mpr wide
  have named : requireString (.str domain.name) Domain.ofName?
      (.valueError "Unsupported domain") = .ok domain := by
    cases domain <;> rfl
  have filled : split.name ≠ "" := by cases split <;> decide
  have vocabulary : (1 : Int) ≤ 4 ∧ (4 : Int) ≤ tokenValues := by decide
  have eos : (0 : Int) ≤ 0 ∧ (0 : Int) < 4 := by decide
  simp only [WriterArguments.check, uniformArguments, smallArguments,
    DigestField.requireSha256, DigestField.optionalSha256, named,
    checked_ok_bind]
  exact (require_bind filled _).trans <| (require_bind long _).trans <|
    (require_bind vocabulary _).trans <| (require_bind eos _).trans <|
    (require_bind (le_refl (1 : Int)) _).trans rfl

/-- The construction that packs the filler of a cell. -/
def uniformConstruction
    (wide : 2 ≤ sequenceLength) (positive : 1 ≤ rows)
    (split : Split) (domain : Domain) : Construction (List Byte) Unit :=
  packing id (uniformConfig sequenceLength wide split domain)
    (filler sequenceLength rows)
    (by
      intro document member
      obtain rfl := List.mem_singleton.mp member
      rw [Ne, List.replicate_eq_nil_iff]
      exact Nat.mul_ne_zero (by omega) (by omega))
    (by
      intro document member token inside
      obtain rfl := List.mem_singleton.mp member
      obtain rfl := List.eq_of_mem_replicate inside
      exact (by decide : 1 < 4))

/-- The filler is as many rows as it should. -/
theorem rowsAt_uniformConstruction
    (wide : 2 ≤ sequenceLength) (positive : 1 ≤ rows)
    (split : Split) (domain : Domain) :
    (uniformConstruction wide positive split domain).rowsAt
      (filler sequenceLength rows).length = rows := by
  have fed : (uniformConstruction wide positive split domain).fed 1 =
      rows * sequenceLength + 1 := by
    change position (filler sequenceLength rows) 1 = _
    simp [position, filler]
  change rowCount sequenceLength
    ((uniformConstruction wide positive split domain).fed 1) = rows
  rw [fed, rowCount, Nat.add_sub_cancel]
  exact Nat.mul_div_cancel _ (by omega)

/-- Packing the filler completes its construction. -/
theorem uniformDirectory_complete
    (wide : 2 ≤ sequenceLength) (positive : 1 ≤ rows)
    (split : Split) (domain : Domain) :
    ∃ cursor, (uniformConstruction wide positive split domain).Complete cursor
      (uniformDirectory sequenceLength rows split domain) := by
  obtain ⟨_, cursor, -, complete⟩ :=
    (uniformConstruction wide positive split domain).exists_complete
      (uniformArguments_check wide) .default
  exact ⟨cursor, complete⟩

/-- There is a supply of any sequence length with any addressable number of
rows in each cell. -/
theorem exists_uniformSupply
    (wide : 2 ≤ sequenceLength) (positive : 1 ≤ rows)
    (addressable : rows ≤ maxRowId) :
    ∃ supply : PackedSupply smallFinalizer,
      supply.sequenceLength = sequenceLength ∧
        ∀ split domain, supply.rows split domain = rows := by
  choose cursors complete using
    @uniformDirectory_complete sequenceLength rows wide positive
  have count := @rowsAt_uniformConstruction sequenceLength rows wide positive
  refine ⟨{
    authority := {
      journal := ⟨⟨sequenceLength, ()⟩, ()⟩
      external := ⟨(), [], (), (), [], []⟩
      archives := [⟨"part-000000.tar", [], 1, 2⟩]
      packed := fun split domain => {
        directory := uniformDirectory sequenceLength rows split domain
        document := (uniformConstruction wide positive split domain).manifest
          (cursors split domain)
        manifest := (uniformConstruction wide positive split
          domain).packedManifest (cursors split domain) }
      documentIndexes := fun _ _ => ⟨.int 1, .int 1, ()⟩
      archives_ne_nil := by simp }
    store := uniformStore sequenceLength rows
    directories := uniformDirectory sequenceLength rows
    manifests := fun split domain => (uniformConstruction wide positive split
      domain).packedManifest (cursors split domain)
    inputs := fun split => {
      stored := fun domain => uniformStore_packedPath split domain
      validated := fun domain => (complete split domain).validates true
      domain_eq := fun _ => rfl
      agrees := fun _ => ⟨rfl, rfl, rfl, rfl, rfl⟩ }
    read := fun _ _ => rfl
    split_eq := fun _ _ => rfl
    sequenceLength_eq := fun _ _ => rfl
    addressable := fun split domain =>
      (count split domain).le.trans addressable }, rfl, count⟩

end CorpusQualification
end CodingLlm
