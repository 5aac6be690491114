import CodingLlm.Library.JsonRoundTrip
import CodingLlm.Scripts.KeepBitmapReaders

/-!
# The round trip of keep-bitmap files

A written file is accepted by both readers exactly when the name of its archive
is plain, and what a reader accepts is a written file exactly when its header
also spells its version and its size as integers and the descriptor gives its
length.
-/

namespace CodingLlm

open Words Slices JsonTree

section RoundTrip

variable {floats : FloatText} {raw : List Byte}
  {descriptor : BitmapDescriptor} {header : JsonTree}

/-! ## The writer -/

theorem describes_header
    (nonempty : descriptor.archive ≠ "")
    (positive : 1 ≤ descriptor.records)
    (below : descriptor.keptDocuments ≤ descriptor.records) :
    Describes descriptor.header descriptor where
  names := ⟨rfl, fun _ => id, fun _ => id⟩
  format := rfl
  formatVersion := by
    change (int allEligibleBitmapFormatVersion).equals
      (int allEligibleBitmapFormatVersion) = true
    exact equals_int_int.mpr rfl
  archive := rfl
  bucket := rfl
  category := rfl
  records := rfl
  kept := rfl
  bitOrder := rfl
  payloadBytes := by
    change (int ((descriptor.records + 7) / 8 : Nat)).equals
      (int ((descriptor.records + 7) / 8 : Nat)) = true
    exact equals_int_int.mpr rfl
  archive_ne := nonempty
  records_pos := positive
  kept_le := below

theorem isText_of_validate
    {checked : JsonTree × Int × Int}
    (valid : validateAllEligibleBitmapHeader header = .ok checked) :
    checked.1 = header ∧ isText header "archive" = true := by
  unfold validateAllEligibleBitmapHeader at valid
  obtain ⟨-, valid⟩ := require_then_eq_ok.mp valid
  obtain ⟨_, -, valid⟩ := checked_bind_eq_ok.mp valid
  obtain ⟨_, -, valid⟩ := checked_bind_eq_ok.mp valid
  obtain ⟨⟨_, _, _, text, _⟩, valid⟩ := require_then_eq_ok.mp valid
  obtain ⟨_, -, valid⟩ := checked_bind_eq_ok.mp valid
  obtain ⟨-, valid⟩ := require_then_eq_ok.mp valid
  obtain rfl := checked_pure_eq_ok.mp valid
  exact ⟨rfl, text⟩

/-- When a file is written, and what it is. -/
theorem writeKeepBitmap_eq_ok
    {archive : String} {bucket : Bucket} {records : Nat} {rejected : List Int}
    {file : KeepBitmapFile} :
    writeKeepBitmap floats archive bucket records rejected = .ok file ↔
      archive ≠ "" ∧ 1 ≤ records ∧ rejected.Nodup ∧
        (∀ index ∈ rejected, 0 ≤ index ∧ index < records) ∧
        file.descriptor = ⟨archive, bucket, file.raw.length, records,
          records - rejected.length⟩ ∧
        (curationCanonicalJsonBytes floats file.descriptor.header).length ≤
          0xFFFFFFFF ∧
        file.raw = framed
          (curationCanonicalJsonBytes floats file.descriptor.header)
          (keepPayload records rejected) := by
  have size := (isPayload_keepPayload records rejected).length_eq
  unfold writeKeepBitmap
  constructor
  · intro written
    obtain ⟨built, built_eq, written⟩ := checked_bind_eq_ok.mp written
    obtain ⟨positive, nodup, range, rfl⟩ :=
      buildAllEligibleKeepBitmap_eq_ok.mp built_eq
    obtain ⟨⟨header, counts⟩, valid, written⟩ := checked_bind_eq_ok.mp written
    obtain ⟨short, written⟩ := require_then_eq_ok.mp written
    obtain rfl := checked_pure_eq_ok.mp written
    obtain ⟨same, text⟩ := isText_of_validate valid
    dsimp only at same size
    rw [size] at same text
    subst same
    refine ⟨?_, positive, nodup, range, rfl, short, rfl⟩
    have field : (bitmapHeader archive bucket records
        (records - rejected.length) ((records + 7) / 8)).field? "archive" =
          some (.str archive) := rfl
    rw [isText, field] at text
    simpa [str, str?] using text
  · obtain ⟨raw, descriptor⟩ := file
    rintro ⟨nonempty, positive, nodup, range, known, short, equal⟩
    dsimp only at known short equal
    refine checked_bind_eq_ok.mpr ⟨_,
      buildAllEligibleKeepBitmap_eq_ok.mpr ⟨positive, nodup, range, rfl⟩, ?_⟩
    dsimp only
    rw [size]
    have described : Describes descriptor.header descriptor := by
      subst known
      exact describes_header nonempty positive (Nat.sub_le _ _)
    have valid := described.validate
    have headerEq : descriptor.header = bitmapHeader archive bucket records
        (records - rejected.length) ((records + 7) / 8) := by
      rw [known]
      rfl
    rw [headerEq] at valid short equal
    refine checked_bind_eq_ok.mpr ⟨_, valid, ?_⟩
    refine require_then_eq_ok.mpr ⟨short, ?_⟩
    rw [← equal, ← known]
    rfl

/-! ## Headers that are read back -/

theorem isExact_header (descriptor : BitmapDescriptor) :
    descriptor.header.IsExact := by
  refine .object _ fun field listed => ?_
  simp only [List.mem_cons, List.not_mem_nil, or_false] at listed
  rcases listed with rfl | rfl | rfl | rfl | rfl | rfl | rfl | rfl | rfl
  all_goals exact .scalar _ fun _ => nofun

theorem isPlain_header (plain : IsPlainText descriptor.archive) :
    descriptor.header.IsPlain := by
  have number (value : Int) : IsPlain (.int value) := .scalar _ fun _ => nofun
  have string {text : String} (known : IsPlainText text) :
      IsPlain (.str text) := .scalar _ fun _ equal => by
    cases equal
    exact known
  have buckets : ∀ bucket : Bucket, IsPlainText bucket.name ∧
      IsPlainText bucket.category.label := by
    intro bucket
    cases bucket <;> decide +kernel
  refine .object _ (fun field listed => ?_) fun field listed => ?_
  · simp only [List.mem_cons, List.not_mem_nil, or_false] at listed
    rcases listed with rfl | rfl | rfl | rfl | rfl | rfl | rfl | rfl | rfl
    all_goals
      dsimp only
      decide +kernel
  · simp only [List.mem_cons, List.not_mem_nil, or_false] at listed
    rcases listed with rfl | rfl | rfl | rfl | rfl | rfl | rfl | rfl | rfl
    · exact string (by decide +kernel)
    · exact number _
    · exact string plain
    · exact string (buckets _).1
    · exact string (buckets _).2
    · exact number _
    · exact number _
    · exact string (by decide +kernel)
    · exact number _

/-- A number that equals a value is a scalar. -/
theorem exists_scalar_of_fieldEquals
    {key : String} {value : Int}
    (equal : fieldEquals header key (.int value) = true) :
    ∃ item, header.field? key = some (.scalar item) := by
  rw [fieldEquals, Option.any_eq_true] at equal
  obtain ⟨item, found, equal⟩ := equal
  cases item with
  | scalar item => exact ⟨item, found⟩
  | array _ => cases equal
  | object _ => cases equal

/-- The same header describes the same. -/
theorem Describes.of_same
    {read : JsonTree}
    (describes : Describes header descriptor)
    (same : read.Same header) : Describes read descriptor := by
  have loose {key : String} {value : Int}
      (equal : fieldEquals header key (.int value) = true) :
      fieldEquals read key (.int value) = true := by
    obtain ⟨item, found⟩ := exists_scalar_of_fieldEquals equal
    rw [fieldEquals, found] at equal
    rw [fieldEquals, same.field?_eq_scalar found]
    exact equal
  exact {
    names := same.hasExactly_iff.mpr describes.names
    format := same.field?_eq_scalar describes.format
    formatVersion := loose describes.formatVersion
    archive := same.field?_eq_scalar describes.archive
    bucket := same.field?_eq_scalar describes.bucket
    category := same.field?_eq_scalar describes.category
    records := same.field?_eq_scalar describes.records
    kept := same.field?_eq_scalar describes.kept
    bitOrder := same.field?_eq_scalar describes.bitOrder
    payloadBytes := loose describes.payloadBytes
    archive_ne := describes.archive_ne
    records_pos := describes.records_pos
    kept_le := describes.kept_le }

/-- A file with the spelling of an exact header is accepted by the reader with
that spelling. -/
theorem exists_accepts
    {ensureAscii : Bool} {payload : List Byte}
    (describes : Describes header descriptor)
    (exact : header.IsExact)
    (valid : IsPayload descriptor.records payload)
    (count : bitCount payload = descriptor.keptDocuments)
    (short : (encodeUtf8 (header.write floats ensureAscii)).length ≤
      0xFFFFFFFF) :
    ∃ read, read.Same header ∧ Accepts floats ensureAscii
      (framed (encodeUtf8 (header.write floats ensureAscii)) payload)
      descriptor read := by
  obtain ⟨read, loaded, same⟩ := loads_write floats ensureAscii exact
  refine ⟨read, same, isFramed_framed short, ?_, describes.of_same same, ?_,
    ?_, ?_⟩
  · rw [headerBytes_framed short, decodeUtf8_encodeUtf8, Option.bind_some,
      loaded]
  · rwa [payloadOf_framed short]
  · rwa [payloadOf_framed short]
  · rw [headerBytes_framed short, write_congr floats ensureAscii same]

/-- A header that both readers spell in the same way is plain. -/
theorem isPlainText_of_write_eq
    (describes : Describes header descriptor)
    (equal : header.write floats false = header.write floats true) :
    IsPlainText descriptor.archive := by
  by_contra high
  obtain ⟨fields, rfl⟩ := describes.exists_fields
  obtain ⟨character, member, other⟩ :
      ∃ character ∈ (object fields).write floats false,
        ¬ IsPlainChar character :=
    exists_of_write describes.archive high
  rw [equal] at member
  exact other (write_plain member)

/-! ## The contract -/

variable (floats)

/-- The reader of the publisher returns a payload. -/
def AcceptedByPublisher
    (raw : List Byte)
    (descriptor : BitmapDescriptor)
    (payload : List Byte) : Prop :=
  ∃ header, readKeepBitmap floats raw descriptor = .ok (header, payload)

/-- The reader of the materializer returns a payload. -/
def AcceptedByMaterializer
    (raw : List Byte)
    (descriptor : BitmapDescriptor)
    (payload : List Byte) : Prop :=
  loadAllEligibleBitmap floats raw descriptor.archiveSpec = .ok payload

/-- The file that is written for the keep set of a payload. -/
def IsPublished
    (raw : List Byte)
    (descriptor : BitmapDescriptor)
    (payload : List Byte) : Prop :=
  ∃ file, writeKeepBitmap floats descriptor.archive descriptor.bucket
    descriptor.records (rejectedOf descriptor.records payload) = .ok file ∧
      file.raw = raw

/-- Both readers return the payload in which exactly the bits of the records
that were not rejected are set. -/
def ReadsBack
    (file : KeepBitmapFile)
    (records : Nat)
    (rejected : List Int) : Prop :=
  ∃ payload, AcceptedByPublisher floats file.raw file.descriptor payload ∧
    AcceptedByMaterializer floats file.raw file.descriptor payload ∧
    ∀ index < records,
      (bitAt payload index = true ↔ (index : Int) ∉ rejected)

/-- The header of a file spells its version and its size as integers. -/
def HeaderSpellsIntegers (raw : List Byte) : Prop :=
  ∀ header ∈ (decodeUtf8 (headerBytes raw)).bind (loads floats),
    SpellsIntegers header

variable {floats}

theorem acceptedByPublisher_iff {payload : List Byte} :
    AcceptedByPublisher floats raw descriptor payload ↔
      payload = payloadOf raw ∧
        ∃ header, Accepts floats true raw descriptor header := by
  unfold AcceptedByPublisher
  simp only [readKeepBitmap_eq_ok]
  constructor
  · rintro ⟨header, accepts, equal⟩
    exact ⟨equal, header, accepts⟩
  · rintro ⟨equal, header, accepts⟩
    exact ⟨header, accepts, equal⟩

/-- Two readers that accept one file read one header, and its archive is
plain. -/
theorem isPlainText_of_accepts
    {other : JsonTree}
    (published : Accepts floats true raw descriptor header)
    (materialized : Accepts floats false raw descriptor other) :
    IsPlainText descriptor.archive := by
  obtain rfl := Option.some.inj
    (published.loads.symm.trans materialized.loads)
  have spelling : header.write floats false = header.write floats true :=
    encodeUtf8_injective
      (materialized.canonical.trans published.canonical.symm)
  exact isPlainText_of_write_eq published.describes spelling

/-- A reader accepts a file with a plain archive in the other spelling too. -/
theorem Accepts.respell
    {ensureAscii : Bool}
    (accepts : Accepts floats ensureAscii raw descriptor header)
    (spells : SpellsIntegers header)
    (plain : IsPlainText descriptor.archive)
    (other : Bool) : Accepts floats other raw descriptor header := by
  have same := accepts.describes.same spells
  have spelling (spelled : Bool) :
      header.write floats spelled = descriptor.header.write floats true := by
    rw [write_congr floats spelled same]
    cases spelled with
    | false => exact (isPlain_header plain).write_eq
    | true => rfl
  have equal : header.write floats other = header.write floats ensureAscii := by
    rw [spelling other, spelling ensureAscii]
  exact { accepts with canonical := by rw [equal, accepts.canonical] }

/-- A written file is read back exactly when the name of its archive is
plain. -/
theorem readsBack_iff
    {archive : String} {bucket : Bucket} {records : Nat} {rejected : List Int}
    {file : KeepBitmapFile}
    (written : writeKeepBitmap floats archive bucket records rejected =
      .ok file) :
    ReadsBack floats file records rejected ↔ IsPlainText archive := by
  obtain ⟨nonempty, positive, nodup, range, known, short, equal⟩ :=
    writeKeepBitmap_eq_ok.mp written
  have archiveEq : file.descriptor.archive = archive := by rw [known]
  constructor
  · rintro ⟨payload, published, materialized, -⟩
    obtain ⟨-, header, published⟩ := acceptedByPublisher_iff.mp published
    obtain ⟨-, -, other, materialized⟩ :=
      loadAllEligibleBitmap_eq_ok.mp materialized
    rw [← archiveEq]
    exact isPlainText_of_accepts published materialized
  · intro plain
    have count : bitCount (keepPayload records rejected) =
        records - rejected.length := by
      have total := sum_popcount_of_isPayload
        (isPayload_keepPayload records rejected)
      rw [length_rejectedOf_keepPayload nodup range] at total
      unfold bitCount
      omega
    have describes : Describes file.descriptor.header file.descriptor := by
      rw [known]
      exact describes_header nonempty positive (Nat.sub_le _ _)
    have valid : IsPayload file.descriptor.records
        (keepPayload records rejected) := by
      rw [known]
      exact isPayload_keepPayload _ _
    have kept : bitCount (keepPayload records rejected) =
        file.descriptor.keptDocuments := by
      rw [known]
      exact count
    have fits : (encodeUtf8 (file.descriptor.header.write floats
        true)).length ≤ 0xFFFFFFFF := short
    obtain ⟨read, same, accepts⟩ := exists_accepts describes
      (isExact_header _) valid kept fits
    have raw : framed (encodeUtf8 (file.descriptor.header.write floats true))
        (keepPayload records rejected) = file.raw := equal.symm
    rw [raw] at accepts
    have spells : SpellsIntegers read :=
      ⟨⟨_, same.field?_eq_scalar rfl⟩, _, same.field?_eq_scalar rfl⟩
    have payload : payloadOf file.raw = keepPayload records rejected := by
      rw [equal, payloadOf_framed short]
    refine ⟨payloadOf file.raw, acceptedByPublisher_iff.mpr
      ⟨rfl, read, accepts⟩, loadAllEligibleBitmap_eq_ok.mpr
        ⟨by rw [known], rfl, read, accepts.respell spells
          (by rwa [archiveEq]) false⟩, fun index inside => ?_⟩
    rw [payload, bitAt_keepPayload, decide_eq_true inside, Bool.true_and,
      decide_eq_true_eq]
    constructor
    · exact fun different listed => different _ listed (by simp)
    · intro absent entry listed same
      have nonnegative := (range entry listed).1
      have entryEq : (index : Int) = entry := by omega
      exact absent (entryEq ▸ listed)

/-- What the publisher accepts with its numbers as integers is what it
writes. -/
theorem Accepts.isPublished
    (accepts : Accepts floats true raw descriptor header)
    (spells : SpellsIntegers header) :
    IsPublished floats raw descriptor (payloadOf raw) := by
  have describes := accepts.describes
  have kept : descriptor.records -
      (rejectedOf descriptor.records (payloadOf raw)).length =
        descriptor.keptDocuments := by
    have total := sum_popcount_of_isPayload accepts.payload
    have count := accepts.count
    unfold bitCount at count
    omega
  have canonical : curationCanonicalJsonBytes floats descriptor.header =
      headerBytes raw := by
    rw [curationCanonicalJsonBytes,
      ← write_congr floats true (describes.same spells), accepts.canonical]
  refine ⟨⟨raw, { descriptor with bytes := raw.length }⟩,
    writeKeepBitmap_eq_ok.mpr ⟨describes.archive_ne, describes.records_pos,
      nodup_rejectedOf _ _, fun index listed => ?_, ?_, ?_, ?_⟩, rfl⟩
  · obtain ⟨nonnegative, inside, -⟩ := mem_rejectedOf_iff.mp listed
    exact ⟨nonnegative, inside⟩
  · rw [kept]
  · change (curationCanonicalJsonBytes floats descriptor.header).length ≤ _
    rw [canonical, accepts.isFramed.length_headerBytes]
    exact headerLength_le raw
  · change raw = framed
      (curationCanonicalJsonBytes floats descriptor.header) _
    rw [canonical, keepPayload_rejectedOf accepts.payload]
    exact accepts.isFramed.eq_framed

/-- A file that a reader accepts is what both accept and the publisher writes
exactly when its header spells its numbers as integers, the archive is plain and
the descriptor has its length. -/
theorem isPublished_iff
    {ensureAscii : Bool}
    (accepts : Accepts floats ensureAscii raw descriptor header) :
    (∃ payload, AcceptedByPublisher floats raw descriptor payload ∧
      AcceptedByMaterializer floats raw descriptor payload ∧
      IsPublished floats raw descriptor payload) ↔
        HeaderSpellsIntegers floats raw ∧ IsPlainText descriptor.archive ∧
          raw.length = descriptor.bytes := by
  constructor
  · rintro ⟨payload, published, materialized, file, written, rfl⟩
    obtain ⟨-, first, published⟩ := acceptedByPublisher_iff.mp published
    obtain ⟨length, -, second, materialized⟩ :=
      loadAllEligibleBitmap_eq_ok.mp materialized
    refine ⟨?_, isPlainText_of_accepts published materialized, length⟩
    obtain ⟨-, -, -, -, -, short, equal⟩ := writeKeepBitmap_eq_ok.mp written
    obtain ⟨read, loaded, same⟩ :=
      loads_write floats true (isExact_header file.descriptor)
    intro other loads
    rw [equal, headerBytes_framed short, curationCanonicalJsonBytes,
      decodeUtf8_encodeUtf8, Option.bind_some, loaded] at loads
    cases loads
    exact ⟨⟨_, same.field?_eq_scalar rfl⟩, _, same.field?_eq_scalar rfl⟩
  · rintro ⟨spells, plain, length⟩
    have integers := spells header accepts.loads
    refine ⟨payloadOf raw, acceptedByPublisher_iff.mpr
      ⟨rfl, header, accepts.respell integers plain true⟩,
      loadAllEligibleBitmap_eq_ok.mpr
        ⟨length, rfl, header, accepts.respell integers plain false⟩, ?_⟩
    exact (accepts.respell integers plain true).isPublished integers

/-! ## The round trip -/

/-- Both parts: what is written, and what is accepted. -/
theorem keepBitmap_iff (floats : FloatText) :
    (∀ archive bucket records rejected file,
      writeKeepBitmap floats archive bucket records rejected = .ok file ->
        (ReadsBack floats file records rejected ↔ IsPlainText archive)) ∧
    ∀ descriptor raw,
      (∃ payload, AcceptedByPublisher floats raw descriptor payload ∨
        AcceptedByMaterializer floats raw descriptor payload) ->
      ((∃ payload, AcceptedByPublisher floats raw descriptor payload ∧
        AcceptedByMaterializer floats raw descriptor payload ∧
        IsPublished floats raw descriptor payload) ↔
          HeaderSpellsIntegers floats raw ∧
            IsPlainText descriptor.archive ∧
              raw.length = descriptor.bytes) := by
  refine ⟨fun _ _ _ _ _ written => readsBack_iff written,
    fun descriptor raw accepted => ?_⟩
  obtain ⟨payload, published | materialized⟩ := accepted
  · obtain ⟨-, header, accepts⟩ := acceptedByPublisher_iff.mp published
    exact isPublished_iff accepts
  · obtain ⟨-, -, header, accepts⟩ :=
      loadAllEligibleBitmap_eq_ok.mp materialized
    exact isPublished_iff accepts

end RoundTrip

/-! ## A version spelled as a boolean -/

/-- A header with `"format_version":true`. -/
def booleanVersionHeader : JsonTree :=
  .object [
    ("format", .str allEligibleBitmapFormat),
    ("format_version", .bool true),
    ("archive", .str "a"),
    ("bucket", .str "python"),
    ("category", .str "python"),
    ("records", .int 1),
    ("kept_documents", .int 1),
    ("bit_order", .str allEligibleBitmapBitOrder),
    ("payload_bytes", .int 1)]

/-- The file of one kept record with that header. -/
def booleanVersionFile : List Byte :=
  framed (curationCanonicalJsonBytes wholeFloats booleanVersionHeader) [1#8]

/-- The descriptor of the file. -/
def booleanVersionDescriptor : BitmapDescriptor :=
  ⟨"a", .python, booleanVersionFile.length, 1, 1⟩

theorem booleanVersion_describes :
    Describes booleanVersionHeader booleanVersionDescriptor where
  names := ⟨rfl, fun _ => id, fun _ => id⟩
  format := rfl
  formatVersion := by decide +kernel
  archive := rfl
  bucket := rfl
  category := rfl
  records := rfl
  kept := rfl
  bitOrder := rfl
  payloadBytes := by
    change fieldEquals booleanVersionHeader "payload_bytes"
      (.int ((1 + 7) / 8 : Nat)) = true
    decide +kernel
  archive_ne := by
    change "a" ≠ ""
    decide
  records_pos := le_rfl
  kept_le := le_rfl

theorem booleanVersion_isExact : booleanVersionHeader.IsExact := by
  refine .object _ fun field listed => ?_
  simp only [List.mem_cons, List.not_mem_nil, or_false] at listed
  rcases listed with rfl | rfl | rfl | rfl | rfl | rfl | rfl | rfl | rfl
  all_goals exact .scalar _ fun _ => nofun

/-- Both readers accept the file, and the publisher does not write it for the
keep set that they read. -/
theorem booleanVersion_accepted :
    AcceptedByPublisher wholeFloats booleanVersionFile
        booleanVersionDescriptor [1#8] ∧
      AcceptedByMaterializer wholeFloats booleanVersionFile
        booleanVersionDescriptor [1#8] ∧
      ¬ IsPublished wholeFloats booleanVersionFile
        booleanVersionDescriptor [1#8] := by
  have payload : IsPayload 1 [1#8] := by
    refine ⟨rfl, fun index past => ?_⟩
    exact bitAt_eq_false_of_highBits rfl (fun _ => by decide) past
  have short : (curationCanonicalJsonBytes wholeFloats
      booleanVersionHeader).length ≤ 0xFFFFFFFF := by
    decide +kernel
  have spelling : booleanVersionHeader.write wholeFloats false =
      booleanVersionHeader.write wholeFloats true := by
    decide +kernel
  have fits : (encodeUtf8 (booleanVersionHeader.write wholeFloats
      true)).length ≤ 0xFFFFFFFF := short
  obtain ⟨read, same, published⟩ := exists_accepts
    booleanVersion_describes booleanVersion_isExact payload (by decide) fits
  have file : framed (encodeUtf8 (booleanVersionHeader.write wholeFloats
      true)) [1#8] = booleanVersionFile := rfl
  rw [file] at published
  have respelled : Accepts wholeFloats false booleanVersionFile _ read :=
    { published with
      canonical := by
        have canonical := published.canonical
        rw [write_congr wholeFloats true same, ← spelling,
          ← write_congr wholeFloats false same] at canonical
        exact canonical }
  have whole : payloadOf booleanVersionFile = [1#8] := payloadOf_framed short
  have first : AcceptedByPublisher wholeFloats booleanVersionFile
      booleanVersionDescriptor [1#8] :=
    acceptedByPublisher_iff.mpr ⟨whole.symm, read, published⟩
  have second : AcceptedByMaterializer wholeFloats booleanVersionFile
      booleanVersionDescriptor [1#8] :=
    loadAllEligibleBitmap_eq_ok.mpr ⟨rfl, whole.symm, read, respelled⟩
  refine ⟨first, second, fun written => ?_⟩
  obtain ⟨spells, -⟩ := (isPublished_iff published).mp
    ⟨[1#8], first, second, written⟩
  obtain ⟨⟨version, found⟩, -⟩ := spells read published.loads
  have boolean : read.field? "format_version" = some (.bool true) :=
    same.field?_eq_scalar rfl
  rw [boolean] at found
  cases found

end CodingLlm
