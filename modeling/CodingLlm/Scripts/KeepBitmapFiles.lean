import CodingLlm.Library.BigEndian
import CodingLlm.Library.JsonReader
import CodingLlm.Pretrain.JsonAccess
import CodingLlm.Scripts.KeepBitmaps
import CodingLlm.Scripts.QualifySelectionSupply

/-!
# Keep-bitmap files

`_write_archive_decisions` as far as the bytes of the file go, and its two
readers: `_read_keep_bitmap` of the publisher, and `_load_all_eligible_bitmap`
of the materializer.  The three spell their headers with `canonical_json_bytes`
of their own module.
-/

namespace CodingLlm

open Words Slices JsonTree

/-! ## The frozen contract -/

/-- `ALL_ELIGIBLE_BITMAP_FORMAT`. -/
def allEligibleBitmapFormat : String := "all-eligible-keep-bitmap"

/-- `ALL_ELIGIBLE_BITMAP_FORMAT_VERSION`. -/
def allEligibleBitmapFormatVersion : Int := 1

/-- `ALL_ELIGIBLE_BITMAP_MAGIC`: `AEKEEP01`. -/
def allEligibleBitmapMagic : List Byte :=
  [0x41#8, 0x45#8, 0x4b#8, 0x45#8, 0x45#8, 0x50#8, 0x30#8, 0x31#8]

/-- `ALL_ELIGIBLE_BITMAP_BIT_ORDER`. -/
def allEligibleBitmapBitOrder : String := "manifest-index-lsb0"

/-- `ALL_ELIGIBLE_BITMAP_HEADER_LENGTH_BYTES`. -/
def allEligibleBitmapHeaderLengthBytes : Nat := 4

/-- `ALL_ELIGIBLE_BITMAP_HEADER_KEYS`. -/
def allEligibleBitmapHeaderKeys : List String :=
  ["format", "format_version", "archive", "bucket", "category", "records",
    "kept_documents", "bit_order", "payload_bytes"]

/-- The value of `BUCKET_CATEGORY`, which `BUCKET_DOMAIN` repeats. -/
def Category.label : Category -> String
  | .python => "python"
  | .otherCode => "other_code"
  | .english => "english"

/-- What a publication knows of the bitmap of an archive. -/
structure BitmapDescriptor where
  archive : String
  bucket : Bucket
  bytes : Nat
  records : Nat
  keptDocuments : Nat
  deriving DecidableEq, Repr

/-- The header as the writer and both readers build it. -/
def bitmapHeader
    (archive : String)
    (bucket : Bucket)
    (records keptDocuments payloadBytes : Nat) : JsonTree :=
  .object [
    ("format", .str allEligibleBitmapFormat),
    ("format_version", .int allEligibleBitmapFormatVersion),
    ("archive", .str archive),
    ("bucket", .str bucket.name),
    ("category", .str bucket.category.label),
    ("records", .int records),
    ("kept_documents", .int keptDocuments),
    ("bit_order", .str allEligibleBitmapBitOrder),
    ("payload_bytes", .int payloadBytes)]

/-- `isinstance(header.get(key), str) and header[key]`. -/
def isText (header : JsonTree) (key : String) : Bool :=
  ((header.field? key).bind str?).any fun text => text ≠ ""

/-- `validate_all_eligible_bitmap_header`: the header, and its counts. -/
def validateAllEligibleBitmapHeader (value : JsonTree) :
    Checked (JsonTree × Int × Int) := do
  let _ ← require (value.HasExactly allEligibleBitmapHeaderKeys) (.valueError
    "all-eligible bitmap header does not have the exact v1 schema")
  let invalid := .valueError "invalid all-eligible bitmap v1 header"
  let records ← requireObject ((value.field? "records").bind int?) invalid
  let kept ← requireObject ((value.field? "kept_documents").bind int?) invalid
  let _ ← require
    (fieldEquals value "format" (.str allEligibleBitmapFormat) ∧
      fieldEquals value "format_version"
        (.int allEligibleBitmapFormatVersion) ∧
      fieldEquals value "bit_order" (.str allEligibleBitmapBitOrder) ∧
      isText value "archive" ∧ isText value "bucket" ∧
      isText value "category" ∧ 1 ≤ records ∧ 0 ≤ kept ∧ kept ≤ records)
    invalid
  let payloadBytes ← allEligibleBitmapPayloadBytes records.toNat
  let _ ← require (fieldEquals value "payload_bytes" (.int payloadBytes))
    invalid
  return (value, records, kept)

section Files

variable (floats : FloatText)

/-! ## The writer -/

/-- `canonical_json_bytes` of the curation scripts. -/
def curationCanonicalJsonBytes (value : JsonTree) : List Byte :=
  encodeUtf8 (value.write floats true)

/-- The file of an archive, and its descriptor. -/
structure KeepBitmapFile where
  raw : List Byte
  descriptor : BitmapDescriptor

/-- A file from its header and its payload. -/
def framed (header payload : List Byte) : List Byte :=
  allEligibleBitmapMagic ++
    (bigEndian allEligibleBitmapHeaderLengthBytes header.length ++
      (header ++ payload))

/-- `_write_archive_decisions`, from the counts and the rejections of an
archive to the bytes of its file. -/
def writeKeepBitmap
    (archive : String)
    (bucket : Bucket)
    (records : Nat)
    (rejected : List Int) : Checked KeepBitmapFile := do
  let (bits, kept) ← buildAllEligibleKeepBitmap records rejected
  let (header, _) ← validateAllEligibleBitmapHeader
    (bitmapHeader archive bucket records kept bits.length)
  let headerBytes := curationCanonicalJsonBytes floats header
  let _ ← require (headerBytes.length ≤ 0xFFFFFFFF)
    (publicationError "All-eligible bitmap header is too large")
  let raw := framed headerBytes bits
  return ⟨raw, ⟨archive, bucket, raw.length, records, kept⟩⟩

/-! ## The reader of the publisher -/

/-- `json.loads` on the bytes of a header.  A text in UTF-16 or UTF-32, or
with a byte-order mark, is not read here: such a header is never canonical. -/
def loadsHeader (headerBytes : List Byte) (error : PyError) :
    Checked JsonTree :=
  requireObject ((decodeUtf8 headerBytes).bind (loads floats)) error

/-- `sum(byte.bit_count() for byte in bits)`. -/
def bitCount (bits : List Byte) : Nat := (bits.map popcount).sum

/-- The length that a file gives for its header. -/
def headerLength (raw : List Byte) : Nat :=
  fromBigEndian (slice raw allEligibleBitmapMagic.length
    allEligibleBitmapHeaderLengthBytes)

/-- Where the header of a file starts. -/
def bitmapPrefixBytes : Nat :=
  allEligibleBitmapMagic.length + allEligibleBitmapHeaderLengthBytes

/-- The header of a file, as its length gives it. -/
def headerBytes (raw : List Byte) : List Byte :=
  slice raw bitmapPrefixBytes (headerLength raw)

/-- What follows the header of a file. -/
def payloadOf (raw : List Byte) : List Byte :=
  raw.drop (bitmapPrefixBytes + headerLength raw)

/-- `_read_keep_bitmap`. -/
def readKeepBitmap
    (payload : List Byte)
    (expected : BitmapDescriptor) : Checked (JsonTree × List Byte) := do
  let _ ← require (bitmapPrefixBytes ≤ payload.length ∧
      allEligibleBitmapMagic <+: payload)
    (publicationError "Invalid all-eligible bitmap framing")
  let _ ← require (2 ≤ headerLength payload ∧
      bitmapPrefixBytes + headerLength payload ≤ payload.length)
    (publicationError "Invalid all-eligible bitmap header length")
  let authority := publicationError "Invalid all-eligible bitmap authority"
  let header ← loadsHeader floats (headerBytes payload) authority
  let (header, records, kept) ←
    (validateAllEligibleBitmapHeader header).mapError fun _ => authority
  let bits := payloadOf payload
  (validateAllEligibleBitmapPayload bits records.toNat).mapError
    fun _ => authority
  let _ ← require
    (curationCanonicalJsonBytes floats header = headerBytes payload)
    (publicationError "All-eligible bitmap header is not canonical JSON")
  let payloadBytes ← allEligibleBitmapPayloadBytes expected.records
  let expectedHeader := bitmapHeader expected.archive expected.bucket
    expected.records expected.keptDocuments payloadBytes
  let _ ← require
    (header.equals expectedHeader ∧ (bitCount bits : Int) = kept)
    (publicationError "All-eligible bitmap header/count mismatch")
  return (header, bits)

/-! ## The reader of the materializer -/

/-- `canonical_json_bytes` of the materializer. -/
def materializerCanonicalJsonBytes (value : JsonTree) : List Byte :=
  encodeUtf8 (value.write floats false)

/-- The fields of `ArchiveSpec` that locate its bitmap. -/
structure ArchiveSpec where
  archive : String
  bucket : String
  domain : String
  documents : Nat
  decisionFormat : Option String
  decisionFormatVersion : Option Int
  decisionBytes : Option Nat
  decisionKeptDocuments : Option Nat
  deriving DecidableEq, Repr

/-- The archive of an authenticated descriptor. -/
def BitmapDescriptor.archiveSpec (descriptor : BitmapDescriptor) :
    ArchiveSpec where
  archive := descriptor.archive
  bucket := descriptor.bucket.name
  domain := descriptor.bucket.category.label
  documents := descriptor.records
  decisionFormat := some allEligibleBitmapFormat
  decisionFormatVersion := some allEligibleBitmapFormatVersion
  decisionBytes := some descriptor.bytes
  decisionKeptDocuments := some descriptor.keptDocuments

/-- `_load_all_eligible_bitmap`. -/
def loadAllEligibleBitmap
    (raw : List Byte)
    (archive : ArchiveSpec) : Checked (List Byte) := do
  let missing := materializationError
    "All-eligible archive has no authenticated bitmap descriptor"
  let _ ← require
    (archive.decisionFormat = some allEligibleBitmapFormat ∧
      archive.decisionFormatVersion = some allEligibleBitmapFormatVersion)
    missing
  let decisionBytes ← requireObject archive.decisionBytes missing
  let keptDocuments ← requireObject archive.decisionKeptDocuments missing
  let _ ← require
    (raw.length = decisionBytes ∧ bitmapPrefixBytes + 1 ≤ raw.length)
    (materializationError
      "All-eligible decision bitmap file length is inconsistent")
  let _ ← require
    (raw.take allEligibleBitmapMagic.length = allEligibleBitmapMagic)
    (materializationError "All-eligible decision bitmap magic mismatch")
  let expectedPayloadBytes ← allEligibleBitmapPayloadBytes archive.documents
  let _ ← require
    (1 ≤ headerLength raw ∧
      bitmapPrefixBytes + headerLength raw + expectedPayloadBytes = raw.length)
    (materializationError
      "All-eligible decision bitmap header length is inconsistent")
  let payload := payloadOf raw
  let invalid := materializationError
    "Invalid all-eligible decision bitmap header/payload"
  let header ← loadsHeader floats (headerBytes raw) invalid
  let (header, _) ←
    (validateAllEligibleBitmapHeader header).mapError fun _ => invalid
  (validateAllEligibleBitmapPayload payload archive.documents).mapError
    fun _ => invalid
  let _ ← require
    (materializerCanonicalJsonBytes floats header = headerBytes raw)
    (materializationError
      "All-eligible decision bitmap header is not canonical JSON")
  let expectedHeader : JsonTree := .object [
    ("format", .str allEligibleBitmapFormat),
    ("format_version", .int allEligibleBitmapFormatVersion),
    ("archive", .str archive.archive),
    ("bucket", .str archive.bucket),
    ("category", .str archive.domain),
    ("records", .int archive.documents),
    ("kept_documents", .int keptDocuments),
    ("bit_order", .str allEligibleBitmapBitOrder),
    ("payload_bytes", .int expectedPayloadBytes)]
  let _ ← require (header.equals expectedHeader)
    (materializationError
      "All-eligible decision bitmap header differs from its descriptor")
  let _ ← require (bitCount payload = keptDocuments)
    (materializationError
      "All-eligible decision bitmap kept-document count mismatch")
  return payload

end Files
end CodingLlm
