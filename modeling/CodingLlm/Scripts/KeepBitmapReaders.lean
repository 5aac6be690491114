import CodingLlm.Scripts.KeepBitmapFiles

/-!
# What the readers of a keep bitmap accept

Both readers check the same things of a file, up to the spelling of its header
and the length of the whole.
-/

namespace CodingLlm

open Words Slices JsonTree

/-! ## Frames -/

/-- A file with the magic, and with as many bytes as its header needs. -/
structure IsFramed (raw : List Byte) : Prop where
  magic : allEligibleBitmapMagic <+: raw
  room : bitmapPrefixBytes + headerLength raw ≤ raw.length

section Frames

variable {header payload : List Byte}

theorem headerLength_framed (short : header.length ≤ 0xFFFFFFFF) :
    headerLength (framed header payload) = header.length := by
  have field : slice (framed header payload) allEligibleBitmapMagic.length
      allEligibleBitmapHeaderLengthBytes =
        bigEndian allEligibleBitmapHeaderLengthBytes header.length := by
    rw [framed, slice, List.drop_left, List.take_left' (length_bigEndian _ _)]
  rw [headerLength, field]
  refine fromBigEndian_bigEndian ?_
  have size : 256 ^ allEligibleBitmapHeaderLengthBytes = 0xFFFFFFFF + 1 := rfl
  omega

theorem drop_framed :
    (framed header payload).drop bitmapPrefixBytes = header ++ payload := by
  rw [framed, bitmapPrefixBytes, ← List.drop_drop, List.drop_left,
    List.drop_left' (length_bigEndian _ _)]

theorem headerBytes_framed (short : header.length ≤ 0xFFFFFFFF) :
    headerBytes (framed header payload) = header := by
  rw [headerBytes, headerLength_framed short, slice, drop_framed,
    List.take_left]

theorem payloadOf_framed (short : header.length ≤ 0xFFFFFFFF) :
    payloadOf (framed header payload) = payload := by
  rw [payloadOf, headerLength_framed short, ← List.drop_drop, drop_framed,
    List.drop_left]

theorem length_framed :
    (framed header payload).length =
      bitmapPrefixBytes + header.length + payload.length := by
  rw [framed, List.length_append, List.length_append, List.length_append,
    length_bigEndian, bitmapPrefixBytes]
  omega

theorem isFramed_framed (short : header.length ≤ 0xFFFFFFFF) :
    IsFramed (framed header payload) where
  magic := List.prefix_append _ _
  room := by
    rw [headerLength_framed short, length_framed]
    omega

end Frames

section Unframed

variable {raw : List Byte}

theorem IsFramed.length_headerBytes (isFramed : IsFramed raw) :
    (headerBytes raw).length = headerLength raw :=
  length_slice isFramed.room

theorem headerLength_le (raw : List Byte) : headerLength raw ≤ 0xFFFFFFFF := by
  have below := fromBigEndian_lt (slice raw allEligibleBitmapMagic.length
    allEligibleBitmapHeaderLengthBytes)
  have short : (slice raw allEligibleBitmapMagic.length
      allEligibleBitmapHeaderLengthBytes).length ≤ 4 :=
    List.length_take_le _ _
  have power := Nat.pow_le_pow_right (show 0 < 256 by decide) short
  have size : 256 ^ 4 = 0xFFFFFFFF + 1 := rfl
  unfold headerLength
  omega

/-- A framed file is its header and its payload. -/
theorem IsFramed.eq_framed (isFramed : IsFramed raw) :
    raw = framed (headerBytes raw) (payloadOf raw) := by
  obtain ⟨rest, equal⟩ := isFramed.magic
  have room := isFramed.room
  have long : allEligibleBitmapHeaderLengthBytes ≤ rest.length := by
    rw [← equal, List.length_append, bitmapPrefixBytes] at room
    omega
  have field : slice raw allEligibleBitmapMagic.length
      allEligibleBitmapHeaderLengthBytes =
        rest.take allEligibleBitmapHeaderLengthBytes := by
    rw [← equal, slice, List.drop_left]
  have word : bigEndian allEligibleBitmapHeaderLengthBytes
      (headerBytes raw).length =
        rest.take allEligibleBitmapHeaderLengthBytes := by
    rw [isFramed.length_headerBytes, headerLength, field]
    have inverse := bigEndian_fromBigEndian
      (rest.take allEligibleBitmapHeaderLengthBytes)
    rwa [List.length_take_of_le long] at inverse
  have after : headerBytes raw ++ payloadOf raw =
      rest.drop allEligibleBitmapHeaderLengthBytes := by
    have start : raw.drop bitmapPrefixBytes =
        rest.drop allEligibleBitmapHeaderLengthBytes := by
      rw [← equal, bitmapPrefixBytes, ← List.drop_drop, List.drop_left]
    rw [headerBytes, payloadOf, slice, ← List.drop_drop, start,
      List.take_append_drop]
  rw [framed, word, after, List.take_append_drop, equal]

end Unframed

/-! ## Headers -/

/-- The header of a descriptor, up to the spelling of two of its numbers. -/
structure Describes (header : JsonTree) (descriptor : BitmapDescriptor) :
    Prop where
  names : header.HasExactly allEligibleBitmapHeaderKeys
  format : header.field? "format" = some (.str allEligibleBitmapFormat)
  formatVersion : fieldEquals header "format_version"
    (.int allEligibleBitmapFormatVersion) = true
  archive : header.field? "archive" = some (.str descriptor.archive)
  bucket : header.field? "bucket" = some (.str descriptor.bucket.name)
  category : header.field? "category" =
    some (.str descriptor.bucket.category.label)
  records : header.field? "records" = some (.int descriptor.records)
  kept : header.field? "kept_documents" =
    some (.int descriptor.keptDocuments)
  bitOrder : header.field? "bit_order" = some (.str allEligibleBitmapBitOrder)
  payloadBytes : fieldEquals header "payload_bytes"
    (.int ((descriptor.records + 7) / 8 : Nat)) = true
  archive_ne : descriptor.archive ≠ ""
  records_pos : 1 ≤ descriptor.records
  kept_le : descriptor.keptDocuments ≤ descriptor.records

/-- The header that a descriptor should have. -/
def BitmapDescriptor.header (descriptor : BitmapDescriptor) : JsonTree :=
  bitmapHeader descriptor.archive descriptor.bucket descriptor.records
    descriptor.keptDocuments ((descriptor.records + 7) / 8)

section Headers

variable {header : JsonTree} {descriptor : BitmapDescriptor}

theorem Bucket.name_ne (bucket : Bucket) : bucket.name ≠ "" := by
  cases bucket <;> decide

theorem Category.label_ne (category : Category) : category.label ≠ "" := by
  cases category <;> decide

/-- What the header check and the comparison ask of a header. -/
theorem describes_of_checked
    {checked : JsonTree × Int × Int}
    (valid : validateAllEligibleBitmapHeader header = .ok checked)
    (equal : checked.1.equals descriptor.header = true) :
    checked = (header, (descriptor.records : Int),
      (descriptor.keptDocuments : Int)) ∧ Describes header descriptor := by
  unfold validateAllEligibleBitmapHeader at valid
  obtain ⟨names, valid⟩ := require_then_eq_ok.mp valid
  obtain ⟨records, recordsRead, valid⟩ := checked_bind_eq_ok.mp valid
  obtain ⟨kept, keptRead, valid⟩ := checked_bind_eq_ok.mp valid
  obtain ⟨⟨_, version, _, text, _, _, positive, nonnegative, below⟩, valid⟩ :=
    require_then_eq_ok.mp valid
  obtain ⟨payloadBytes, counted, valid⟩ := checked_bind_eq_ok.mp valid
  obtain ⟨size, valid⟩ := require_then_eq_ok.mp valid
  obtain rfl := checked_pure_eq_ok.mp valid
  have string {key value : String}
      (found : descriptor.header.field? key = some (.str value)) :
      header.field? key = some (.str value) := by
    obtain ⟨item, known, same⟩ := exists_of_equals equal found
    rw [known, equals_str_iff.mp same]
  have number {key : String} {read : Int} {value : Nat}
      (taken : (header.field? key).bind int? = some read)
      (found : descriptor.header.field? key = some (.int value)) :
      read = value ∧ header.field? key = some (.int value) := by
    obtain ⟨item, known, same⟩ := exists_of_equals equal found
    dsimp only at known
    rw [known, Option.bind_some] at taken
    match item, taken with
    | .scalar (.int integer), taken =>
        cases taken
        have equal := equals_int_int.mp same
        exact ⟨equal, by rw [known, equal]; rfl⟩
  have archive : header.field? "archive" = some (.str descriptor.archive) :=
    string rfl
  obtain ⟨rfl, recordsField⟩ := number (requireObject_eq_ok.mp recordsRead) rfl
  obtain ⟨rfl, keptField⟩ := number (requireObject_eq_ok.mp keptRead) rfl
  obtain ⟨-, rfl⟩ := allEligibleBitmapPayloadBytes_eq_ok.mp counted
  rw [Int.toNat_natCast] at size
  refine ⟨rfl, names, string rfl, version, archive, string rfl, string rfl,
    recordsField, keptField, string rfl, size, ?_, by omega, by omega⟩
  rw [isText, archive] at text
  simpa [str, str?] using text

theorem Describes.exists_fields (describes : Describes header descriptor) :
    ∃ fields, header = .object fields := by
  match header, describes with
  | .object fields, _ => exact ⟨fields, rfl⟩
  | .array items, describes => cases describes.format
  | .scalar value, describes => cases describes.format

/-- What is described passes the header check. -/
theorem Describes.validate (describes : Describes header descriptor) :
    validateAllEligibleBitmapHeader header =
      .ok (header, (descriptor.records : Int),
        (descriptor.keptDocuments : Int)) := by
  have text {key value : String}
      (found : header.field? key = some (.str value))
      (nonempty : value ≠ "") : isText header key = true := by
    rw [isText, found]
    simpa [str, str?] using nonempty
  have string {key value : String}
      (found : header.field? key = some (.str value)) :
      fieldEquals header key (.str value) = true := by
    rw [fieldEquals, found, Option.any_some, equals_str_iff]
  have positive := describes.records_pos
  have below := describes.kept_le
  unfold validateAllEligibleBitmapHeader
  refine require_then_eq_ok.mpr ⟨describes.names, ?_⟩
  refine checked_bind_eq_ok.mpr ⟨(descriptor.records : Int), ?_, ?_⟩
  · rw [describes.records]
    rfl
  refine checked_bind_eq_ok.mpr ⟨(descriptor.keptDocuments : Int), ?_, ?_⟩
  · rw [describes.kept]
    rfl
  refine require_then_eq_ok.mpr ⟨⟨string describes.format,
    describes.formatVersion, string describes.bitOrder,
    text describes.archive describes.archive_ne,
    text describes.bucket (Bucket.name_ne _),
    text describes.category (Category.label_ne _),
    by omega, by omega, by omega⟩, ?_⟩
  refine checked_bind_eq_ok.mpr ⟨(descriptor.records + 7) / 8,
    allEligibleBitmapPayloadBytes_eq_ok.mpr ⟨by omega, by simp⟩, ?_⟩
  exact require_then_eq_ok.mpr ⟨describes.payloadBytes, rfl⟩

/-- What is described equals the header of the descriptor. -/
theorem Describes.equals
    {fields : List (String × JsonTree)}
    (describes : Describes (.object fields) descriptor)
    (nodup : (fields.map Prod.fst).Nodup) :
    (object fields).equals descriptor.header = true := by
  refine equals_of_fields nodup (fun name => ?_) fun name item value found
      known => ?_
  · have left : name ∈ (JsonTree.object fields).names ↔ _ := mem_names_iff
    have right : name ∈ descriptor.header.names ↔ _ := mem_names_iff
    have keys : descriptor.header.names = allEligibleBitmapHeaderKeys := rfl
    rw [keys] at right
    rw [← field?_object, ← field?_object, ← left]
    refine Iff.trans ?_ right
    exact ⟨fun listed => describes.names.2.1 listed,
      fun listed => describes.names.2.2 listed⟩
  · have string {key text : String}
        (read : (object fields).field? key = some (.str text))
        (found : fields.lookup key = some item) :
        item.equals (.str text) = true := by
      rw [field?_object, found] at read
      exact equals_str_iff.mpr (Option.some.inj read)
    have number {key : String} {count : Nat}
        (read : (object fields).field? key = some (.int count))
        (found : fields.lookup key = some item) :
        item.equals (.int count) = true := by
      rw [field?_object, found] at read
      rw [Option.some.inj read]
      exact equals_int_int.mpr rfl
    have loose {key : String} {other : JsonTree}
        (equal : fieldEquals (object fields) key other = true)
        (found : fields.lookup key = some item) :
        item.equals other = true := by
      rwa [fieldEquals, field?_object, found, Option.any_some] at equal
    have listed := mem_of_lookup known
    simp only [List.mem_cons, Prod.mk.injEq, List.not_mem_nil, or_false]
      at listed
    rcases listed with ⟨rfl, rfl⟩ | ⟨rfl, rfl⟩ | ⟨rfl, rfl⟩ | ⟨rfl, rfl⟩ |
      ⟨rfl, rfl⟩ | ⟨rfl, rfl⟩ | ⟨rfl, rfl⟩ | ⟨rfl, rfl⟩ | ⟨rfl, rfl⟩
    · exact string describes.format found
    · exact loose describes.formatVersion found
    · exact string describes.archive found
    · exact string describes.bucket found
    · exact string describes.category found
    · exact number describes.records found
    · exact number describes.kept found
    · exact string describes.bitOrder found
    · exact loose describes.payloadBytes found

/-- The two numbers that are only compared are spelled as integers. -/
def SpellsIntegers (header : JsonTree) : Prop :=
  (∃ version, header.field? "format_version" = some (.int version)) ∧
    ∃ bytes, header.field? "payload_bytes" = some (.int bytes)

/-- A described header with integers is the one of the descriptor. -/
theorem Describes.same
    (describes : Describes header descriptor)
    (spells : SpellsIntegers header) : header.Same descriptor.header := by
  obtain ⟨⟨version, versionRead⟩, bytes, bytesRead⟩ := spells
  have versionEq := describes.formatVersion
  rw [fieldEquals, versionRead, Option.any_some, equals_int_int] at versionEq
  have bytesEq := describes.payloadBytes
  rw [fieldEquals, bytesRead, Option.any_some, equals_int_int] at bytesEq
  subst versionEq bytesEq
  have keys : descriptor.header.names = allEligibleBitmapHeaderKeys := rfl
  have agree (name : String) :
      header.field? name = descriptor.header.field? name := by
    by_cases listed : name ∈ allEligibleBitmapHeaderKeys
    · simp only [allEligibleBitmapHeaderKeys, List.mem_cons,
        List.not_mem_nil, or_false] at listed
      rcases listed with rfl | rfl | rfl | rfl | rfl | rfl | rfl | rfl | rfl
      · exact describes.format
      · exact versionRead
      · exact describes.archive
      · exact describes.bucket
      · exact describes.category
      · exact describes.records
      · exact describes.kept
      · exact describes.bitOrder
      · exact bytesRead
    · have left : name ∉ header.names := fun member =>
        listed (describes.names.2.1 member)
      have right : name ∉ descriptor.header.names := by rwa [keys]
      rw [mem_names_iff, Bool.not_eq_true, Option.isSome_eq_false_iff,
        Option.isNone_iff_eq_none] at left right
      rw [left, right]
  obtain ⟨fields, rfl⟩ := describes.exists_fields
  refine same_of_lookup fun name => ?_
  have equal := agree name
  rw [field?_object] at equal
  rw [equal]
  change Option.Rel Same _ (descriptor.header.field? name)
  cases descriptor.header.field? name with
  | none => exact .none
  | some item => exact .some (.refl item)

end Headers

/-! ## Acceptance -/

section Acceptance

variable {floats : FloatText} {raw : List Byte}
  {descriptor : BitmapDescriptor}

/-- What both readers check of a file, with the header that they read; they
differ in how they spell it again. -/
structure Accepts
    (floats : FloatText)
    (ensureAscii : Bool)
    (raw : List Byte)
    (descriptor : BitmapDescriptor)
    (header : JsonTree) : Prop where
  isFramed : IsFramed raw
  loads : (decodeUtf8 (headerBytes raw)).bind (loads floats) = some header
  describes : Describes header descriptor
  payload : IsPayload descriptor.records (payloadOf raw)
  count : bitCount (payloadOf raw) = descriptor.keptDocuments
  canonical : encodeUtf8 (header.write floats ensureAscii) = headerBytes raw

theorem Accepts.equals
    {ensureAscii : Bool} {header : JsonTree}
    (accepts : Accepts floats ensureAscii raw descriptor header) :
    header.equals descriptor.header = true := by
  obtain ⟨fields, rfl⟩ := accepts.describes.exists_fields
  obtain ⟨text, -, read⟩ := Option.bind_eq_some_iff.mp accepts.loads
  exact accepts.describes.equals (nodup_of_loads read)

/-- A written object has its two braces. -/
theorem two_le_length_write
    (ensureAscii : Bool)
    (fields : List (String × JsonTree)) :
    2 ≤ ((JsonTree.object fields).write floats ensureAscii).length := by
  rw [write, List.length_cons, List.length_append, List.length_singleton]
  omega

theorem Accepts.two_le
    {ensureAscii : Bool} {header : JsonTree}
    (accepts : Accepts floats ensureAscii raw descriptor header) :
    2 ≤ headerLength raw := by
  obtain ⟨fields, rfl⟩ := accepts.describes.exists_fields
  rw [← accepts.isFramed.length_headerBytes, ← accepts.canonical]
  exact (two_le_length_write ensureAscii fields).trans (length_le_encodeUtf8 _)

/-- What the reader of the publisher accepts. -/
theorem readKeepBitmap_eq_ok
    {result : JsonTree × List Byte} :
    readKeepBitmap floats raw descriptor = .ok result ↔
      Accepts floats true raw descriptor result.1 ∧
        result.2 = payloadOf raw := by
  unfold readKeepBitmap loadsHeader
  dsimp only
  constructor
  · intro read
    obtain ⟨⟨long, magic⟩, read⟩ := require_then_eq_ok.mp read
    obtain ⟨⟨_, room⟩, read⟩ := require_then_eq_ok.mp read
    obtain ⟨header, loaded, read⟩ := checked_bind_eq_ok.mp read
    obtain ⟨⟨checkedHeader, records, kept⟩, valid, read⟩ :=
      checked_bind_eq_ok.mp read
    obtain ⟨⟨⟩, payload, read⟩ := checked_bind_eq_ok.mp read
    obtain ⟨canonical, read⟩ := require_then_eq_ok.mp read
    obtain ⟨payloadBytes, counted, read⟩ := checked_bind_eq_ok.mp read
    obtain ⟨⟨equal, count⟩, read⟩ := require_then_eq_ok.mp read
    obtain rfl := checked_pure_eq_ok.mp read
    obtain ⟨positive, rfl⟩ := allEligibleBitmapPayloadBytes_eq_ok.mp counted
    obtain ⟨same, describes⟩ :=
      describes_of_checked (mapError_eq_ok.mp valid) equal
    injection same with headerEq counts
    injection counts with recordsEq keptEq
    subst headerEq recordsEq keptEq
    rw [mapError_eq_ok, Int.toNat_natCast,
      validateAllEligibleBitmapPayload_eq_ok] at payload
    exact ⟨⟨⟨magic, room⟩, requireObject_eq_ok.mp loaded, describes,
      payload.2, Int.ofNat_inj.mp count, canonical⟩, rfl⟩
  · obtain ⟨header, bits⟩ := result
    rintro ⟨accepts, rfl⟩
    have positive := accepts.describes.records_pos
    have room := accepts.isFramed.room
    refine require_then_eq_ok.mpr ⟨⟨by omega, accepts.isFramed.magic⟩, ?_⟩
    refine require_then_eq_ok.mpr ⟨⟨accepts.two_le, room⟩, ?_⟩
    refine checked_bind_eq_ok.mpr ⟨header,
      requireObject_eq_ok.mpr accepts.loads, ?_⟩
    refine checked_bind_eq_ok.mpr ⟨_,
      mapError_eq_ok.mpr accepts.describes.validate, ?_⟩
    refine checked_bind_eq_ok.mpr ⟨(), mapError_eq_ok.mpr ?_, ?_⟩
    · rw [Int.toNat_natCast]
      exact validateAllEligibleBitmapPayload_eq_ok.mpr
        ⟨positive, accepts.payload⟩
    refine require_then_eq_ok.mpr ⟨accepts.canonical, ?_⟩
    refine checked_bind_eq_ok.mpr ⟨_,
      allEligibleBitmapPayloadBytes_eq_ok.mpr ⟨positive, rfl⟩, ?_⟩
    exact require_then_eq_ok.mpr
      ⟨⟨accepts.equals, congrArg Nat.cast accepts.count⟩, rfl⟩

/-- What the reader of the materializer accepts. -/
theorem loadAllEligibleBitmap_eq_ok
    {payload : List Byte} :
    loadAllEligibleBitmap floats raw descriptor.archiveSpec = .ok payload ↔
      raw.length = descriptor.bytes ∧ payload = payloadOf raw ∧
        ∃ header, Accepts floats false raw descriptor header := by
  unfold loadAllEligibleBitmap loadsHeader
  dsimp only
  constructor
  · intro read
    obtain ⟨-, read⟩ := require_then_eq_ok.mp read
    obtain ⟨decisionBytes, sized, read⟩ := checked_bind_eq_ok.mp read
    obtain ⟨kept, keptRead, read⟩ := checked_bind_eq_ok.mp read
    cases requireObject_eq_ok.mp sized
    cases requireObject_eq_ok.mp keptRead
    obtain ⟨⟨length, _⟩, read⟩ := require_then_eq_ok.mp read
    obtain ⟨magic, read⟩ := require_then_eq_ok.mp read
    obtain ⟨payloadBytes, counted, read⟩ := checked_bind_eq_ok.mp read
    obtain ⟨⟨_, whole⟩, read⟩ := require_then_eq_ok.mp read
    obtain ⟨header, loaded, read⟩ := checked_bind_eq_ok.mp read
    obtain ⟨checked, valid, read⟩ := checked_bind_eq_ok.mp read
    obtain ⟨⟨⟩, payload, read⟩ := checked_bind_eq_ok.mp read
    obtain ⟨canonical, read⟩ := require_then_eq_ok.mp read
    obtain ⟨equal, read⟩ := require_then_eq_ok.mp read
    obtain ⟨count, read⟩ := require_then_eq_ok.mp read
    obtain rfl := checked_pure_eq_ok.mp read
    obtain ⟨positive, rfl⟩ := allEligibleBitmapPayloadBytes_eq_ok.mp counted
    obtain ⟨same, describes⟩ :=
      describes_of_checked (mapError_eq_ok.mp valid) equal
    have headerEq := congrArg Prod.fst same
    rw [headerEq] at canonical
    rw [mapError_eq_ok, validateAllEligibleBitmapPayload_eq_ok] at payload
    refine ⟨length, rfl, header, ⟨?_, by omega⟩,
      requireObject_eq_ok.mp loaded, describes, payload.2, count, canonical⟩
    exact List.prefix_iff_eq_take.mpr magic.symm
  · rintro ⟨length, rfl, header, accepts⟩
    have positive := accepts.describes.records_pos
    have room := accepts.isFramed.room
    have two := accepts.two_le
    have rest : (payloadOf raw).length =
        raw.length - (bitmapPrefixBytes + headerLength raw) :=
      List.length_drop
    have size := accepts.payload.length_eq
    refine require_then_eq_ok.mpr ⟨⟨rfl, rfl⟩, ?_⟩
    refine checked_bind_eq_ok.mpr ⟨_, rfl, ?_⟩
    refine checked_bind_eq_ok.mpr ⟨_, rfl, ?_⟩
    refine require_then_eq_ok.mpr ⟨⟨length, by omega⟩, ?_⟩
    refine require_then_eq_ok.mpr
      ⟨(List.prefix_iff_eq_take.mp accepts.isFramed.magic).symm, ?_⟩
    refine checked_bind_eq_ok.mpr ⟨_,
      allEligibleBitmapPayloadBytes_eq_ok.mpr ⟨positive, rfl⟩, ?_⟩
    refine require_then_eq_ok.mpr ⟨⟨by omega, ?_⟩, ?_⟩
    · change bitmapPrefixBytes + headerLength raw +
        (descriptor.records + 7) / 8 = raw.length
      omega
    refine checked_bind_eq_ok.mpr ⟨header,
      requireObject_eq_ok.mpr accepts.loads, ?_⟩
    refine checked_bind_eq_ok.mpr ⟨_,
      mapError_eq_ok.mpr accepts.describes.validate, ?_⟩
    refine checked_bind_eq_ok.mpr ⟨(), mapError_eq_ok.mpr
      (validateAllEligibleBitmapPayload_eq_ok.mpr
        ⟨positive, accepts.payload⟩), ?_⟩
    refine require_then_eq_ok.mpr ⟨accepts.canonical, ?_⟩
    refine require_then_eq_ok.mpr ⟨accepts.equals, ?_⟩
    exact require_then_eq_ok.mpr ⟨accepts.count, rfl⟩

end Acceptance

end CodingLlm
