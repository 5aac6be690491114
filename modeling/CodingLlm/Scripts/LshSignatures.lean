import CodingLlm.Library.BigEndian
import CodingLlm.Library.Densification
import CodingLlm.Pretrain.Values
import Mathlib.Data.Finset.Card

/-!
# LSH signatures

`densified_one_permutation_signature` and `candidate_bands` hash the shingles
of a document into bins, keep the least rank of each bin and densify the empty
ones.  The bin of a shingle and its rank are the remainder and the quotient of
its hash.
-/

namespace CodingLlm

open Words Densification

/-! ## Hashing -/

/-- `xxhash.xxh3_64_intdigest`, as any function of the bytes and the seed into
64 bits. -/
structure Hash64 where
  intdigest : List Byte -> Nat -> Nat
  intdigest_lt : ∀ bytes seed, intdigest bytes seed < 256 ^ 8

/-- `struct.pack` of an unsigned big-endian number. -/
def structPack (width value : Nat) : Checked (List Byte) := do
  let _ ← require (value < 256 ^ width)
    (.structError "format requires a smaller number")
  return bigEndian width value

variable (hash : Hash64)

/-- Offer a hash to the bins: the least rank of each bin stays. -/
def offerRank (values : List (Option Nat)) (hashed : Nat) :
    List (Option Nat) :=
  let bucket := hashed % values.length
  let rank := hashed / values.length
  match valueAt values bucket with
  | none => values.set bucket (some rank)
  | some current =>
      if rank < current then values.set bucket (some rank) else values

/-- The bins that the shingles leave. -/
def binnedShingles (bins hashSeed : Nat) (shingles : List (List Byte)) :
    List (Option Nat) :=
  shingles.foldl (fun values shingle =>
    offerRank values (hash.intdigest shingle hashSeed))
    (List.replicate bins none)

/-- What an empty bin takes from its donor. -/
def donorDigest (densifySeed index donor value : Nat) : Checked Nat := do
  let indexBytes ← structPack 2 index
  let donorBytes ← structPack 2 donor
  let valueBytes ← structPack 8 value
  return hash.intdigest (indexBytes ++ donorBytes ++ valueBytes) densifySeed

/-- `tuple(int(value) for value in values)`. -/
def intTuple (values : List (Option Nat)) : Checked (List Nat) :=
  values.mapM fun value => match value with
    | some number => .ok number
    | none => .error (.typeError
        "int() argument must be a string or a number, not 'NoneType'")

/-- The `densify` of `candidate_bands`, and the end of
`densified_one_permutation_signature`. -/
def densifyBins (values : List (Option Nat)) (densifySeed : Nat) :
    Checked (List Nat) :=
  if values.all Option.isNone then
    (List.range values.length).mapM fun index => do
      let bytes ← structPack 2 index
      return hash.intdigest bytes densifySeed
  else do
    let filled ← densify (donorDigest hash densifySeed) values
    intTuple filled

/-- `densified_one_permutation_signature`. -/
def densifiedOnePermutationSignature
    (shingles : List (List Byte)) (bins hashSeed densifySeed : Nat) :
    Checked (List Nat) :=
  densifyBins hash (binnedShingles hash bins hashSeed shingles) densifySeed

/-! ## Candidate bands -/

/-- A table of `config["candidate_signature"]["tables"]`. -/
structure CandidateTable where
  bins : Nat
  bands : Nat
  rowsPerBand : Nat
  hashSeed : Nat
  densifySeed : Nat
  bins_pos : 0 < bins
  bins_eq : bins = bands * rowsPerBand

/-- What `candidate_bands` reads of the configuration. -/
structure CandidateConfig where
  tables : List CandidateTable
  shingleHashSeed : Nat
  bandKeySeed : Nat

/-- `config["_total_bands"]`. -/
def CandidateConfig.totalBands (config : CandidateConfig) : Nat :=
  (config.tables.map CandidateTable.bands).sum

/-- The key of a band. -/
def bandKey
    (config : CandidateConfig) (tableIndex band globalBand : Nat)
    (values : List Nat) : Checked Nat := do
  let tableBytes ← structPack 2 tableIndex
  let bandBytes ← structPack 2 band
  let valueBytes ← values.mapM (structPack 8)
  return hash.intdigest (tableBytes ++ bandBytes ++ valueBytes.flatten)
    ((config.bandKeySeed + globalBand) % 2 ^ 64)

/-- The bands of a table, from its signature. -/
def tableBands
    (config : CandidateConfig) (tableIndex globalBand : Nat)
    (table : CandidateTable) (signature : List Nat) :
    Checked (List (Nat × Nat)) :=
  (List.range table.bands).mapM fun band => do
    let key ← bandKey hash config tableIndex band (globalBand + band)
      ((signature.drop (band * table.rowsPerBand)).take table.rowsPerBand)
    return (globalBand + band, key)

/-- The bands of the tables from an index on, from their signatures. -/
def bandsFrom
    (config : CandidateConfig) :
    (tableIndex globalBand : Nat) ->
      List (CandidateTable × Checked (List Nat)) ->
        Checked (List (Nat × Nat) × Nat)
  | _, globalBand, [] => .ok ([], globalBand)
  | tableIndex, globalBand, (table, signature) :: rest => do
      let signature ← signature
      let bands ← tableBands hash config tableIndex globalBand table signature
      let (others, last) ←
        bandsFrom config (tableIndex + 1) (globalBand + table.bands) rest
      return (bands ++ others, last)

/-- The bins of all tables after one more shingle. -/
def offerShingle
    (tables : List CandidateTable) (tableBins : List (List (Option Nat)))
    (shingle : List Byte) : List (List (Option Nat)) :=
  List.zipWith (fun table values =>
    offerRank values (hash.intdigest shingle table.hashSeed)) tables tableBins

/-- `candidate_bands`, from the shingles of the text on. -/
def candidateBands
    (config : CandidateConfig) (shingles : List (List Byte)) :
    Checked (List (Nat × Nat) × Nat) := do
  let exactValues : Finset Nat := shingles.foldl (fun values shingle =>
    insert (hash.intdigest shingle config.shingleHashSeed) values) ∅
  let tableBins := shingles.foldl (offerShingle hash config.tables)
    (config.tables.map fun table => List.replicate table.bins none)
  let (result, globalBand) ← bandsFrom hash config 0 0
    (List.zipWith (fun table values =>
      (table, densifyBins hash values table.densifySeed))
      config.tables tableBins)
  let _ ← require (globalBand = config.totalBands)
    (.assertionError "candidate band count changed")
  return (result, exactValues.card)

/-! ## The bins -/

section Bins

variable {hash} {bins hashSeed : Nat} {shingles : List (List Byte)}

@[simp] theorem length_offerRank (values : List (Option Nat)) (hashed : Nat) :
    (offerRank values hashed).length = values.length := by
  unfold offerRank
  dsimp only
  split
  · exact List.length_set
  · split
    · exact List.length_set
    · rfl

@[simp] theorem length_binnedShingles :
    (binnedShingles hash bins hashSeed shingles).length = bins := by
  unfold binnedShingles
  induction shingles using List.reverseRecOn with
  | nil => exact List.length_replicate
  | append_singleton shingles shingle inductionHypothesis =>
      rw [List.foldl_append]
      exact (length_offerRank _ _).trans inductionHypothesis

/-- The least of the ranks that a bin is offered. -/
theorem valueAt_offerRank
    {values : List (Option Nat)} {hashed index : Nat}
    (inside : index < values.length) :
    valueAt (offerRank values hashed) index =
      if hashed % values.length = index then
        some (match valueAt values index with
          | none => hashed / values.length
          | some current => min current (hashed / values.length))
      else valueAt values index := by
  have set (value : Option Nat) :
      valueAt (values.set (hashed % values.length) value) index =
        if hashed % values.length = index then value
        else valueAt values index := by
    unfold valueAt
    rw [List.getElem?_set]
    by_cases here : hashed % values.length = index
    · simp [here, inside]
    · simp [here]
  unfold offerRank
  dsimp only
  by_cases here : hashed % values.length = index
  · rw [if_pos here]
    rw [here] at set ⊢
    simp only [if_true] at set
    cases own : valueAt values index with
    | none =>
        dsimp only
        rw [set]
    | some current =>
        dsimp only
        by_cases less : hashed / values.length < current
        · rw [if_pos less, set, min_eq_right less.le]
        · rw [if_neg less, own, min_eq_left (not_lt.mp less)]
  · rw [if_neg here]
    cases valueAt values (hashed % values.length) with
    | none =>
        dsimp only
        rw [set, if_neg here]
    | some current =>
        dsimp only
        split
        · rw [set, if_neg here]
        · rfl

/-- A rank that a bin holds is the least one that a shingle offers it. -/
theorem valueAt_binnedShingles {index rank : Nat}
    (inside : index < bins) :
    valueAt (binnedShingles hash bins hashSeed shingles) index = some rank ↔
      (∃ shingle ∈ shingles,
        hash.intdigest shingle hashSeed % bins = index ∧
          hash.intdigest shingle hashSeed / bins = rank) ∧
      ∀ shingle ∈ shingles, hash.intdigest shingle hashSeed % bins = index ->
        rank ≤ hash.intdigest shingle hashSeed / bins := by
  induction shingles using List.reverseRecOn generalizing rank with
  | nil => simp [binnedShingles, valueAt, inside]
  | append_singleton shingles shingle inductionHypothesis =>
      have step : binnedShingles hash bins hashSeed (shingles ++ [shingle]) =
          offerRank (binnedShingles hash bins hashSeed shingles)
            (hash.intdigest shingle hashSeed) := by
        unfold binnedShingles
        rw [List.foldl_append]
        rfl
      rw [step, valueAt_offerRank (by rwa [length_binnedShingles]),
        length_binnedShingles]
      by_cases here : hash.intdigest shingle hashSeed % bins = index
      · rw [if_pos here]
        cases before : valueAt (binnedShingles hash bins hashSeed shingles)
            index with
        | none =>
            have none (other : List Byte) (member : other ∈ shingles) :
                hash.intdigest other hashSeed % bins ≠ index := by
              intro met
              -- Any offer would have left a rank.
              have some : ∃ rank, rank ∈ (shingles.filter fun other =>
                  hash.intdigest other hashSeed % bins = index).map fun
                    other => hash.intdigest other hashSeed / bins :=
                ⟨_, List.mem_map.mpr ⟨other, List.mem_filter.mpr
                  ⟨member, decide_eq_true met⟩, rfl⟩⟩
              classical
              have least := Nat.find_spec some
              obtain ⟨chosen, kept, equal⟩ := List.mem_map.mp least
              obtain ⟨isMember, isHere⟩ := List.mem_filter.mp kept
              have holds := (@inductionHypothesis (Nat.find some)).mpr
                ⟨⟨chosen, isMember, of_decide_eq_true isHere, equal⟩,
                  fun more inList same => Nat.find_min' some
                    (List.mem_map.mpr ⟨more, List.mem_filter.mpr
                      ⟨inList, decide_eq_true same⟩, rfl⟩)⟩
              rw [before] at holds
              cases holds
            simp only [Option.some.injEq, List.mem_append,
              List.mem_singleton]
            constructor
            · rintro rfl
              refine ⟨⟨shingle, .inr rfl, here, rfl⟩, ?_⟩
              rintro other (member | rfl) met
              · exact absurd met (none other member)
              · exact le_refl _
            · rintro ⟨⟨other, member | rfl, met, rfl⟩, -⟩
              · exact absurd met (none other member)
              · rfl
        | some current =>
            obtain ⟨⟨holder, isHolder, holds, rfl⟩, least⟩ :=
              inductionHypothesis.mp before
            simp only [Option.some.injEq, List.mem_append,
              List.mem_singleton]
            constructor
            · rintro rfl
              constructor
              · rcases le_total (hash.intdigest holder hashSeed / bins)
                  (hash.intdigest shingle hashSeed / bins) with less | less
                · exact ⟨holder, .inl isHolder, holds,
                    (min_eq_left less).symm⟩
                · exact ⟨shingle, .inr rfl, here, (min_eq_right less).symm⟩
              · rintro other (member | rfl) met
                · exact (min_le_left _ _).trans (least other member met)
                · exact min_le_right _ _
            · rintro ⟨⟨other, member, met, rfl⟩, below⟩
              apply le_antisymm
              · rcases member with inside | rfl
                · exact (min_le_left _ _).trans (least other inside met)
                · exact min_le_right _ _
              · exact le_min (below holder (.inl isHolder) holds)
                  (below shingle (.inr rfl) here)
      · rw [if_neg here, inductionHypothesis]
        constructor
        · rintro ⟨⟨other, member, met, equal⟩, least⟩
          refine ⟨⟨other, List.mem_append_left _ member, met, equal⟩, ?_⟩
          intro more inList same
          rcases List.mem_append.mp inList with inside | last
          · exact least more inside same
          · obtain rfl := List.mem_singleton.mp last
            exact absurd same here
        · rintro ⟨⟨other, member, met, equal⟩, least⟩
          refine ⟨⟨other, ?_, met, equal⟩, fun more inList same =>
            least more (List.mem_append_left _ inList) same⟩
          rcases List.mem_append.mp member with inside | last
          · exact inside
          · obtain rfl := List.mem_singleton.mp last
            exact absurd met here

/-- The bins depend on the set of the shingles only. -/
theorem binnedShingles_congr
    {first second : List (List Byte)}
    (same : ∀ shingle, shingle ∈ first ↔ shingle ∈ second) :
    binnedShingles hash bins hashSeed first =
      binnedShingles hash bins hashSeed second := by
  have value (index : Nat) (inside : index < bins) :
      valueAt (binnedShingles hash bins hashSeed first) index =
        valueAt (binnedShingles hash bins hashSeed second) index := by
    apply Option.ext
    intro rank
    simp only [valueAt_binnedShingles inside, same]
  apply List.ext_getElem
  · rw [length_binnedShingles, length_binnedShingles]
  · intro index isFirst isSecond
    have equal := value index (by rwa [length_binnedShingles] at isFirst)
    rwa [valueAt, valueAt, List.getElem?_eq_getElem isFirst,
      List.getElem?_eq_getElem isSecond, Option.join_some,
      Option.join_some] at equal

/-- A shingle fills a bin. -/
theorem exists_filled
    (positive : 0 < bins) (nonempty : shingles ≠ []) :
    ∃ index, (valueAt (binnedShingles hash bins hashSeed shingles)
      index).isSome := by
  obtain ⟨shingle, member⟩ := List.exists_mem_of_ne_nil shingles nonempty
  refine ⟨hash.intdigest shingle hashSeed % bins, ?_⟩
  by_contra missing
  have inside : hash.intdigest shingle hashSeed % bins < bins :=
    Nat.mod_lt _ positive
  -- The least rank that the shingles offer to this bin.
  have offered : ∃ rank, ∃ other ∈ shingles,
      hash.intdigest other hashSeed % bins =
          hash.intdigest shingle hashSeed % bins ∧
        hash.intdigest other hashSeed / bins = rank :=
    ⟨_, shingle, member, rfl, rfl⟩
  classical
  have holds := (valueAt_binnedShingles inside).mpr
    ⟨Nat.find_spec offered, fun other isMember same =>
      Nat.find_min' offered ⟨other, isMember, same, rfl⟩⟩
  rw [holds] at missing
  exact missing rfl

/-- Ranks are 64-bit numbers. -/
theorem valueAt_binnedShingles_lt {index rank : Nat}
    (found : valueAt (binnedShingles hash bins hashSeed shingles) index =
      some rank) :
    rank < 256 ^ 8 := by
  have inside : index < bins := by
    by_contra beyond
    rw [valueAt_of_length_le (by
      rw [length_binnedShingles]
      exact not_lt.mp beyond)] at found
    cases found
  obtain ⟨⟨shingle, -, -, rfl⟩, -⟩ := (valueAt_binnedShingles inside).mp found
  exact (Nat.div_le_self _ _).trans_lt (hash.intdigest_lt _ _)

end Bins

/-! ## Signatures -/

section Signatures

variable {hash} {values : List (Option Nat)} {densifySeed : Nat}

theorem intTuple_eq_ok {filled : List (Option Nat)} {signature : List Nat} :
    intTuple filled = .ok signature ↔ filled = signature.map some := by
  rw [intTuple, checked_mapM_eq_ok]
  constructor
  · intro each
    induction each with
    | nil => rfl
    | @cons value number rest numbers first _ inductionHypothesis =>
        cases value with
        | none => cases first
        | some found =>
            cases first
            rw [List.map_cons, inductionHypothesis]
  · rintro rfl
    rw [List.forall₂_map_left_iff]
    exact List.forall₂_same.mpr fun _ _ => rfl

/-- With a filled bin, every bin of a signature is what its donor gives. -/
theorem densifyBins_eq_ok
    {filled : Nat} {signature : List Nat}
    (found : (valueAt values filled).isSome) :
    densifyBins hash values densifySeed = .ok signature ↔
      signature.length = values.length ∧
        ∀ index < values.length, ∃ donor rank number,
          IsDonor values index donor rank ∧
            donated (donorDigest hash densifySeed) index donor rank =
              .ok number ∧
            signature[index]? = some number := by
  have some' : ¬values.all Option.isNone := by
    intro all
    obtain ⟨rank, holds⟩ := Option.isSome_iff_exists.mp found
    have member : some rank ∈ values :=
      List.mem_of_getElem? (valueAt_eq_some.mp holds)
    exact absurd (List.all_eq_true.mp all _ member) (by simp)
  rw [densifyBins, if_neg some', densify_eq]
  simp only [checked_bind_eq_ok, intTuple_eq_ok, mapM_range_eq_ok_iff]
  constructor
  · rintro ⟨_, ⟨length, each⟩, rfl⟩
    rw [List.length_map] at length
    refine ⟨length, fun index inside => ?_⟩
    obtain ⟨value, there, given⟩ := each index inside
    obtain ⟨⟨donor, rank⟩, donates⟩ :=
      Option.isSome_iff_exists.mp (search_isSome found index 0)
    rw [List.getElem?_map, Option.map_eq_some_iff] at there
    obtain ⟨number, there, rfl⟩ := there
    rw [donatedAt, show donor? values index = _ from donates] at given
    dsimp only at given
    cases gave : donated (donorDigest hash densifySeed) index donor rank with
    | error error =>
        rw [gave] at given
        cases given
    | ok made =>
        rw [gave] at given
        cases given
        exact ⟨donor, rank, _, donor?_eq_some.mp donates, gave, there⟩
  · rintro ⟨length, each⟩
    refine ⟨_, ⟨by rw [List.length_map, length], fun index inside => ?_⟩, rfl⟩
    obtain ⟨donor, rank, number, donates, gave, there⟩ := each index inside
    refine ⟨some number, by rw [List.getElem?_map, there]; rfl, ?_⟩
    rw [donatedAt, donor?_eq_some.mpr donates]
    dsimp only
    rw [gave]
    rfl

theorem structPack_eq_ok
    {width value : Nat} (fits : value < 256 ^ width) :
    structPack width value = .ok (bigEndian width value) :=
  require_bind fits _

/-- A donation from 64-bit numbers between bins that two bytes can tell apart
is a 64-bit number. -/
theorem exists_donated
    {index donor rank : Nat}
    (indexFits : index < 256 ^ 2) (donorFits : donor < 256 ^ 2)
    (rankFits : rank < 256 ^ 8) :
    ∃ number, donated (donorDigest hash densifySeed) index donor rank =
      .ok number := by
  have digests (first second : Nat) {value : Nat} (one : first < 256 ^ 2)
      (two : second < 256 ^ 2) (three : value < 256 ^ 8) :
      ∃ number, donorDigest hash densifySeed first second value =
        .ok number ∧ number < 256 ^ 8 := by
    simp only [donorDigest, structPack_eq_ok one, structPack_eq_ok two,
      structPack_eq_ok three, checked_ok_bind]
    exact ⟨_, rfl, hash.intdigest_lt _ _⟩
  unfold donated
  split
  · exact ⟨rank, rfl⟩
  · split
    · obtain ⟨number, digest, -⟩ := digests index donor indexFits donorFits
        rankFits
      exact ⟨number, digest⟩
    · obtain ⟨first, digest, small⟩ := digests 0 donor (by decide) donorFits
        rankFits
      obtain ⟨number, last, -⟩ := digests index 0 indexFits (by decide) small
      exact ⟨number, by simp only [digest, checked_ok_bind, last]⟩

end Signatures

/-! ## Alignment -/

/-- The bins that shingles leave in a table. -/
def CandidateTable.binned
    (hash : Hash64) (table : CandidateTable) (shingles : List (List Byte)) :
    List (Option Nat) :=
  binnedShingles hash table.bins table.hashSeed shingles

/-- `densified_one_permutation_signature` with the settings of a table. -/
def CandidateTable.signature
    (hash : Hash64) (table : CandidateTable) (shingles : List (List Byte)) :
    Checked (List Nat) :=
  densifiedOnePermutationSignature hash shingles table.bins table.hashSeed
    table.densifySeed

/-- `candidate_bands` as the bands of signatures. -/
def bandsOfSignatures
    (hash : Hash64) (config : CandidateConfig)
    (shingles : List (List Byte)) : Checked (List (Nat × Nat) × Nat) := do
  let (result, _) ← bandsFrom hash config 0 0
    (config.tables.map fun table => (table, table.signature hash shingles))
  return (result, (shingles.map fun shingle =>
    hash.intdigest shingle config.shingleHashSeed).toFinset.card)

section Bands

variable {hash : Hash64} {config : CandidateConfig}
variable {shingles : List (List Byte)}

theorem foldl_offerShingle (tables : List CandidateTable) :
    shingles.foldl (offerShingle hash tables)
        (tables.map fun table => List.replicate table.bins none) =
      tables.map fun table => table.binned hash shingles := by
  induction shingles using List.reverseRecOn with
  | nil => rfl
  | append_singleton shingles shingle inductionHypothesis =>
      rw [List.foldl_append, inductionHypothesis]
      change offerShingle hash tables _ shingle = _
      rw [offerShingle, List.zipWith_map_right, List.zipWith_self]
      refine List.map_congr_left fun table _ => ?_
      unfold CandidateTable.binned binnedShingles
      rw [List.foldl_append]
      rfl

theorem foldl_insert (digest : List Byte -> Nat) :
    shingles.foldl (fun values shingle => insert (digest shingle) values) ∅ =
      (shingles.map digest).toFinset := by
  induction shingles using List.reverseRecOn with
  | nil => rfl
  | append_singleton shingles shingle inductionHypothesis =>
      rw [List.foldl_append, inductionHypothesis, List.map_append,
        List.toFinset_append]
      exact Finset.insert_eq _ _ |>.trans (Finset.union_comm _ _)

/-- The bands are numbered through. -/
theorem snd_bandsFrom
    {tableIndex globalBand last : Nat}
    {tables : List (CandidateTable × Checked (List Nat))}
    {bands : List (Nat × Nat)}
    (made : bandsFrom hash config tableIndex globalBand tables =
      .ok (bands, last)) :
    last = globalBand + (tables.map fun table => table.1.bands).sum := by
  induction tables generalizing tableIndex globalBand bands with
  | nil =>
      cases made
      rfl
  | cons table rest inductionHypothesis =>
      simp only [bandsFrom, checked_bind_eq_ok, checked_pure_eq_ok] at made
      obtain ⟨_, -, _, -, ⟨others, final⟩, more, equal⟩ := made
      obtain ⟨-, rfl⟩ := Prod.mk.inj equal
      rw [inductionHypothesis more, List.map_cons, List.sum_cons]
      omega

/-- The two functions make the same signatures. -/
theorem candidateBands_eq :
    candidateBands hash config shingles =
      bandsOfSignatures hash config shingles := by
  unfold candidateBands bandsOfSignatures
  dsimp only
  rw [foldl_offerShingle, foldl_insert, List.zipWith_map_right,
    List.zipWith_self]
  change (bandsFrom hash config 0 0 (config.tables.map fun table =>
    (table, table.signature hash shingles)) >>= _) = _
  cases made : bandsFrom hash config 0 0 (config.tables.map fun table =>
      (table, table.signature hash shingles)) with
  | error error => rfl
  | ok pair =>
      obtain ⟨bands, last⟩ := pair
      have total := snd_bandsFrom made
      rw [List.map_map, Nat.zero_add] at total
      rw [checked_ok_bind, checked_ok_bind]
      exact require_bind total _

end Bands

/-- What signatures are good for: the two functions agree on them, they depend
on the set of the shingles only, and equal donors make equal bins. -/
structure SignaturesAligned (hash : Hash64) : Prop where
  agree : ∀ config shingles, candidateBands hash config shingles =
    bandsOfSignatures hash config shingles
  setOnly : ∀ (table : CandidateTable) first second,
    (∀ shingle, shingle ∈ first ↔ shingle ∈ second) ->
      table.signature hash first = table.signature hash second
  bandsSetOnly : ∀ config first second,
    (∀ shingle, shingle ∈ first ↔ shingle ∈ second) ->
      candidateBands hash config first = candidateBands hash config second
  /-- Each bin is made of its index and its donor. -/
  donates : ∀ (table : CandidateTable) shingles signature, shingles ≠ [] ->
    table.signature hash shingles = .ok signature ->
      signature.length = table.bins ∧
        ∀ index < table.bins, ∃ donor rank number,
          IsDonor (table.binned hash shingles) index donor rank ∧
            donated (donorDigest hash table.densifySeed) index donor rank =
              .ok number ∧
            signature[index]? = some number
  aligned : ∀ (table : CandidateTable) first second one other,
    table.signature hash first = .ok one ->
    table.signature hash second = .ok other ->
      ∀ index donor rank, IsDonor (table.binned hash first) index donor rank ->
        IsDonor (table.binned hash second) index donor rank ->
          one[index]? = other[index]?
  /-- In every ring that densification passes through, the search for a donor
  ends. -/
  terminates : ∀ (table : CandidateTable) shingles, shingles ≠ [] ->
    ∀ count ring,
      (List.range count).foldlM
          (fillBin (donorDigest hash table.densifySeed))
          (table.binned hash shingles) = .ok ring ->
        ∀ index, (search ring index ring.length 1).isSome
  /-- A signature is made when two bytes can number its bins. -/
  total : ∀ (table : CandidateTable) shingles, table.bins ≤ 256 ^ 2 ->
    ∃ signature, table.signature hash shingles = .ok signature

section Signatures

variable {hash : Hash64} {table : CandidateTable}
variable {shingles : List (List Byte)} {signature : List Nat}

theorem CandidateTable.exists_filled (nonempty : shingles ≠ []) :
    ∃ index, (valueAt (table.binned hash shingles) index).isSome :=
  CodingLlm.exists_filled table.bins_pos nonempty

theorem CandidateTable.signature_eq_ok
    {filled : Nat}
    (found : (valueAt (table.binned hash shingles) filled).isSome) :
    table.signature hash shingles = .ok signature ↔
      signature.length = table.bins ∧
        ∀ index < table.bins, ∃ donor rank number,
          IsDonor (table.binned hash shingles) index donor rank ∧
            donated (donorDigest hash table.densifySeed) index donor rank =
              .ok number ∧
            signature[index]? = some number := by
  have bins := @densifyBins_eq_ok hash (table.binned hash shingles)
    table.densifySeed filled signature found
  rwa [show (table.binned hash shingles).length = table.bins from
    length_binnedShingles] at bins

/-- Donors determine the bins of a signature. -/
theorem CandidateTable.getElem?_signature
    {index donor rank : Nat}
    (made : table.signature hash shingles = .ok signature)
    (donates : IsDonor (table.binned hash shingles) index donor rank) :
    signature[index]? =
      if index < table.bins then
        (donated (donorDigest hash table.densifySeed) index donor
          rank).toOption
      else none := by
  obtain ⟨_, -, -, filled, -⟩ := id donates
  obtain ⟨length, each⟩ := (CandidateTable.signature_eq_ok
    (Option.isSome_iff_exists.mpr ⟨_, filled⟩)).mp made
  split
  · rename_i inside
    obtain ⟨other, otherRank, number, also, gave, there⟩ := each index inside
    have same := (donor?_eq_some.mpr also).symm.trans
      (donor?_eq_some.mpr donates)
    obtain ⟨rfl, rfl⟩ := Prod.mk.inj (Option.some.inj same)
    rw [there, gave]
    rfl
  · rename_i beyond
    exact List.getElem?_eq_none (by omega)

/-- Two bytes that can number the bins suffice for a signature. -/
theorem CandidateTable.exists_signature
    (few : table.bins ≤ 256 ^ 2) (shingles : List (List Byte)) :
    ∃ signature, table.signature hash shingles = .ok signature := by
  have size : (table.binned hash shingles).length = table.bins :=
    length_binnedShingles
  by_cases nonempty : shingles = []
  · subst nonempty
    have none : (table.binned hash []).all Option.isNone := by
      rw [List.all_eq_true]
      intro value member
      rw [List.eq_of_mem_replicate member]
      rfl
    refine ⟨_, (if_pos none).trans (@checked_mapM_of_forall _ _
      (List.range _) _ (fun index =>
        hash.intdigest (bigEndian 2 index) table.densifySeed) ?_)⟩
    intro index member
    rw [List.mem_range, length_binnedShingles] at member
    rw [structPack_eq_ok (by omega), checked_ok_bind]
    rfl
  · obtain ⟨filled, found⟩ :=
      @CandidateTable.exists_filled hash table shingles nonempty
    have each (index : Nat) (inside : index < table.bins) :
        ∃ donor rank number,
          IsDonor (table.binned hash shingles) index donor rank ∧
            donated (donorDigest hash table.densifySeed) index donor rank =
              .ok number := by
      obtain ⟨⟨donor, rank⟩, donates⟩ :=
        Option.isSome_iff_exists.mp (search_isSome found index 0)
      obtain ⟨step, _, equal, holds, _⟩ := donor?_eq_some.mp donates
      have donorInside : donor < table.bins := by
        rw [equal, size]
        exact Nat.mod_lt _ table.bins_pos
      obtain ⟨number, gave⟩ := @exists_donated hash table.densifySeed index
        donor rank (by omega) (by omega) (valueAt_binnedShingles_lt holds)
      exact ⟨donor, rank, number, donor?_eq_some.mp donates, gave⟩
    choose! donor rank number donates gave using each
    refine ⟨(List.range table.bins).map number,
      (CandidateTable.signature_eq_ok found).mpr
        ⟨by simp, fun index inside => ⟨_, _, _, donates index inside,
          gave index inside, ?_⟩⟩⟩
    rw [List.getElem?_map, List.getElem?_range inside]
    rfl

end Signatures

/-- Signatures are aligned for every hash function. -/
theorem signatures_aligned (hash : Hash64) : SignaturesAligned hash := by
  have setOnly (table : CandidateTable) (first second : List (List Byte))
      (same : ∀ shingle, shingle ∈ first ↔ shingle ∈ second) :
      table.signature hash first = table.signature hash second := by
    unfold CandidateTable.signature densifiedOnePermutationSignature
    rw [binnedShingles_congr same]
  constructor
  case agree => exact fun _ _ => candidateBands_eq
  case setOnly => exact setOnly
  case bandsSetOnly =>
    intro config first second same
    have digests : (first.map fun shingle =>
          hash.intdigest shingle config.shingleHashSeed).toFinset =
        (second.map fun shingle =>
          hash.intdigest shingle config.shingleHashSeed).toFinset := by
      ext digest
      simp [same]
    simp only [candidateBands_eq, bandsOfSignatures, digests,
      setOnly _ first second same]
  case donates =>
    intro table shingles signature nonempty made
    obtain ⟨filled, found⟩ :=
      @CandidateTable.exists_filled hash table shingles nonempty
    exact (CandidateTable.signature_eq_ok found).mp made
  case aligned =>
    intro table first second one other madeOne madeOther index donor rank
      isFirst isSecond
    rw [CandidateTable.getElem?_signature madeOne isFirst,
      CandidateTable.getElem?_signature madeOther isSecond]
  case terminates =>
    intro table shingles nonempty count ring steps index
    obtain ⟨filled, found⟩ :=
      @CandidateTable.exists_filled hash table shingles nonempty
    exact search_isSome_of_foldlM found steps index 1
  case total =>
    intro table shingles few
    exact CandidateTable.exists_signature few shingles

end CodingLlm
