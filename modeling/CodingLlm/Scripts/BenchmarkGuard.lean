import CodingLlm.Library.TextLines
import CodingLlm.Pretrain.GeometryWaiver
import Mathlib.Data.List.Dedup
import Mathlib.Data.String.Basic

/-!
# Benchmark deny list

`benchmark_guard.py` takes fingerprints of the programs, the texts and the tests
of a benchmark and reports every file that has some of them.
-/

namespace CodingLlm
namespace BenchmarkGuard

open TextLines

/-- What texts are given to: `digest`, `str.lower`, and `str.isalnum` beyond
ASCII. -/
structure TextFunctions where
  digest : List Char -> String
  lower : List Char -> List Char
  alphanumeric : Char -> Bool

variable (functions : TextFunctions)

/-! ## Function names -/

/-- `[A-Za-z_]`. -/
def isNameStart (character : Char) : Bool :=
  character.isAlpha || character == '_'

/-- `\w`. -/
def isWordCharacter (character : Char) : Bool :=
  character.isAlphanum || character == '_' ||
    (127 < character.toNat && !pythonSpace character &&
      functions.alphanumeric character)

/-- A literal. -/
def literal : List Char -> List Char -> Option (List Char)
  | [], text => some text
  | expected :: more, character :: text =>
      if character = expected then literal more text else none
  | _ :: _, [] => none

/-- `\s+`. -/
def spaces (text : List Char) : Option (List Char) :=
  match text with
  | character :: rest =>
      if pythonSpace character then some (rest.dropWhile pythonSpace) else none
  | [] => none

/-- `(?:async\s+)?`. -/
def matchAsync (text : List Char) : List Char :=
  (literal "async".toList text >>= spaces).getD text

/-- `\s*(?:async\s+)?def\s+([A-Za-z_]\w*)\s*\(`: the name and the text after
the bracket. -/
def matchDefinition (text : List Char) : Option (List Char × List Char) := do
  let text := matchAsync (text.dropWhile pythonSpace)
  let text ← literal "def".toList text >>= spaces
  let name := text.takeWhile (isWordCharacter functions)
  let _ ← name.head?.filter isNameStart
  let text ← literal ['(']
    ((text.dropWhile (isWordCharacter functions)).dropWhile pythonSpace)
  return (name, text)

/-- `FUNCTION_RE.findall`: a definition is looked for at the start and after
every line feed that no definition before it has taken; `taken` characters of
the last one still stand in the text. -/
def findNames : (taken : Nat) -> (atStart : Bool) -> List Char ->
    List (List Char)
  | _, _, [] => []
  | taken + 1, _, character :: text =>
      findNames taken (character == '\n') text
  | 0, atStart, character :: text =>
      match (if atStart then matchDefinition functions (character :: text)
        else none) with
      | some (name, rest) =>
          name :: findNames (text.length - rest.length) (character == '\n') text
      | none => findNames 0 (character == '\n') text

/-- `FUNCTION_RE.findall(text)`. -/
def functionNames (text : List Char) : List (List Char) :=
  findNames functions 0 true text

/-! ## Fingerprints -/

/-- `normalized_lines`. -/
def normalizedLines (text : List Char) : List (List Char) :=
  ((linesOf text).filter fun line => line.any fun character =>
    !pythonSpace character).map fun line =>
      [' '].intercalate (words pythonSpace line)

/-- `normalized_code_digest`. -/
def normalizedCodeDigest (text : List Char) : String :=
  functions.digest (['\n'].intercalate (normalizedLines text))

/-- The pairs of adjacent lines that are long enough. -/
def qualifyingPairs (lines : List (List Char)) :
    List (List Char × List Char) :=
  (lines.zip lines.tail).filter fun pair =>
    40 ≤ pair.1.length + pair.2.length

/-- `f"{left}\n{right}"`. -/
def pairText (pair : List Char × List Char) : List Char :=
  pair.1 ++ '\n' :: pair.2

/-- The digests of the qualifying pairs. -/
def linePairDigests (lines : List (List Char)) : List String :=
  (qualifyingPairs lines).map fun pair => functions.digest (pairText pair)

/-- `code_pair_digests`. -/
def codePairDigests (text : List Char) : List String :=
  linePairDigests functions (normalizedLines text)

/-- The digests of the long lines. -/
def longLineDigests (lines : List (List Char)) : List String :=
  (lines.filter fun line => 32 ≤ line.length).map functions.digest

/-- `strong_line_digests`. -/
def strongLineDigests (text : List Char) : List String :=
  longLineDigests functions (normalizedLines text)

/-! ## The deny list -/

/-- What is read of a row of the benchmark. -/
structure Row where
  code : List Char
  text : List Char
  testList : List (List Char)
  challengeTestList : List (List Char)

/-- The text and the tests of a row. -/
def Row.texts (row : Row) : List (List Char) :=
  row.text :: (row.testList ++ row.challengeTestList)

/-- The deny list. -/
structure Manifest where
  manifestVersion : Nat
  benchmark : String
  sourceUrl : String
  sourceSha256 : String
  items : Nat
  exactCodeSha256 : List String
  codeLinePairSha256 : List String
  strongLineSha256 : List String
  functionNames : List String

/-- `sorted` of a set of strings. -/
def sortedSet (items : List String) : List String :=
  items.dedup.mergeSort fun left right => decide (left ≤ right)

@[simp] theorem mem_sortedSet {item : String} {items : List String} :
    item ∈ sortedSet items ↔ item ∈ items := by
  rw [sortedSet, List.mem_mergeSort, List.mem_dedup]

/-- `build_mbpp_manifest`. -/
def buildMbppManifest
    (rows : List Row)
    (sourceSha256 sourceUrl : String) :
    Manifest :=
  let coded := rows.filter fun row => !row.code.isEmpty
  { manifestVersion := 1
    benchmark := "MBPP"
    sourceUrl := sourceUrl
    sourceSha256 := sourceSha256
    items := rows.length
    exactCodeSha256 := sortedSet
      (coded.map fun row => normalizedCodeDigest functions row.code)
    codeLinePairSha256 := sortedSet
      (coded.flatMap fun row => codePairDigests functions row.code)
    strongLineSha256 := sortedSet
      (rows.flatMap fun row => row.texts.flatMap (strongLineDigests functions))
    functionNames := sortedSet
      (coded.flatMap fun row =>
        (functionNames functions row.code).map String.ofList) }

/-- `BenchmarkGuard`. -/
structure Guard where
  exactCodes : List String
  codePairs : List String
  strongLines : List String
  functionNames : List String

/-- The sets of a deny list. -/
def Manifest.toGuard (manifest : Manifest) : Guard where
  exactCodes := manifest.exactCodeSha256
  codePairs := manifest.codeLinePairSha256
  strongLines := manifest.strongLineSha256
  functionNames := manifest.functionNames

/-- `BenchmarkGuard.__init__`. -/
def load (manifest : Manifest) : Checked Guard := do
  let _ ← require
    (manifest.manifestVersion = 1 ∧ manifest.benchmark = "MBPP")
    (PyError.valueError "Unsupported benchmark denylist")
  let _ ← require (manifest.items = 974)
    (PyError.valueError "Expected 974 canonical MBPP items")
  let guard := manifest.toGuard
  let _ ← require
    (guard.exactCodes ≠ [] ∧ guard.codePairs ≠ [] ∧ guard.strongLines ≠ [])
    (PyError.valueError "Incomplete benchmark denylist")
  return guard

/-! ## Scanning -/

/-- `re.search(r"\bmbpp\b", text)`; `previous` tells whether a word character
stands before the text. -/
def searchMarker : Bool -> List Char -> Bool
  | _, [] => false
  | previous, character :: text =>
      (!previous &&
        ((literal "mbpp".toList (character :: text)).map fun rest =>
          !(rest.head?.any (isWordCharacter functions))).getD false) ||
        searchMarker (isWordCharacter functions character) text

/-- The texts that a row of the benchmark has as JSON. -/
def jsonMarkers : List String :=
  ["\"task_id\"", "\"test_list\"", "\"challenge_test_list\""]

/-- `BenchmarkGuard.contamination_reason`. -/
def contaminationReason
    (guard : Guard)
    (language : String)
    (content : List Char) :
    Option String :=
  if language ≠ "Python" ∧ language ≠ "English" then none
  else
    let lowered := functions.lower content
    if "mostly basic python problems".toList <:+: lowered ∨
        searchMarker functions false lowered then
      some "mbpp-marker"
    else if ∀ marker ∈ jsonMarkers, marker.toList <:+: lowered then
      some "mbpp-json-shape"
    else
      let lines := normalizedLines content
      if functions.digest (['\n'].intercalate lines) ∈ guard.exactCodes then
        some "mbpp-exact-code"
      else if ∃ line ∈ longLineDigests functions lines,
          line ∈ guard.strongLines then
        some "mbpp-problem-or-test"
      else
        let defined := (functionNames functions content).map String.ofList
        let pairMatches := ((linePairDigests functions lines).dedup.filter
          fun pair => pair ∈ guard.codePairs).length
        if 2 ≤ pairMatches ∨ (1 ≤ pairMatches ∧
            ∃ name ∈ defined, name ∈ guard.functionNames) then
          some "mbpp-embedded-code"
        else none

end BenchmarkGuard
end CodingLlm
