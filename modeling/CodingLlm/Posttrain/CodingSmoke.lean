import CodingLlm.Library.JsonWriter
import CodingLlm.Pretrain.Values

/-!
# Scoring a coding task

`verify.py` runs one submitted function in a child process and compares what
the child prints with the answers of an oracle; `taskset.py` turns its record
into metrics and a reward.  What the child does is a parameter: any bytes on
its standard output, any exit code, or no end in time.
-/

namespace CodingLlm
namespace CodingSmoke

open Words

/-! ## Decoded JSON -/

/-- A character of the text of a number. -/
def isNumberChar (character : Char) : Bool :=
  character.isDigit || character ∈ ['-', '+', '.', 'e', 'E']

/-- A character of the text of an integer. -/
def isIntegerChar (character : Char) : Bool :=
  character.isDigit || character == '-'

/-- A finite float, by its `repr`, which no integer has. -/
structure FiniteFloat where
  repr : List Char
  isNumber : ∀ character ∈ repr, isNumberChar character = true
  notInteger : ∃ character ∈ repr, isIntegerChar character = false

/-- What `json.loads` yields.  A string is a list of code points, which may be
lone surrogates; `NaN` and the infinities are one value. -/
inductive Decoded
  | null
  | bool (value : Bool)
  | int (value : Int)
  | float (value : FiniteFloat)
  | nonFinite
  | text (codePoints : List Nat)
  | array (items : List Decoded)
  | object (fields : List (List Nat × Decoded))

/-- The code points of a string. -/
def codePoints (text : String) : List Nat := text.toList.map Char.toNat

namespace Decoded

/-- `payload.get(name)` of a dictionary. -/
def get (fields : List (List Nat × Decoded)) (name : String) : Decoded :=
  (fields.lookup (codePoints name)).getD .null

/-- The items of a list. -/
def items? : Decoded -> Option (List Decoded)
  | .array items => some items
  | _ => none

/-- The items of a dictionary. -/
def fields? : Decoded -> Option (List (List Nat × Decoded))
  | .object fields => some fields
  | _ => none

/-- `value is True`. -/
def isTrue : Decoded -> Bool
  | .bool true => true
  | _ => false

/-- A code point in a text that is ASCII only. -/
def escapePoint (codePoint : Nat) : List Char :=
  if codePoint.isValidChar then
    JsonTree.writeChar true (Char.ofNat codePoint)
  else JsonTree.unitEscape codePoint

/-- A quoted string. -/
def quoted (codePoints : List Nat) : List Char :=
  '\x22' :: (codePoints.flatMap escapePoint ++ ['\x22'])

mutual

/-- The text that `canonical_json` returns for a value that it encodes. -/
def write : Decoded -> List Char
  | .null => "null".toList
  | .bool true => "true".toList
  | .bool false => "false".toList
  | .int value => JsonTree.writeInt value
  | .float value => value.repr
  | .nonFinite => "NaN".toList
  | .text codePoints => quoted codePoints
  | .array items => '[' :: (JsonTree.joined (writeItems items) ++ [']'])
  | .object fields =>
      '\x7b' :: (JsonTree.joined ((writeFields fields).rows.map fun row =>
        quoted row.1 ++ ':' :: row.2) ++ ['\x7d'])

def writeItems : List Decoded -> List (List Char)
  | [] => []
  | item :: items => write item :: writeItems items

/-- The texts of the values, by the sorted names of the fields. -/
def writeFields : List (List Nat × Decoded) -> Table (List Nat) (List Char)
  | [] => Table.empty
  | (name, value) :: fields => (writeFields fields).upsert name (write value)

end

@[simp]
theorem write_null : Decoded.null.write = "null".toList := rfl

@[simp]
theorem write_true : (Decoded.bool true).write = "true".toList := rfl

@[simp]
theorem write_false : (Decoded.bool false).write = "false".toList := rfl

@[simp]
theorem write_int (value : Int) :
    (Decoded.int value).write = JsonTree.writeInt value := rfl

@[simp]
theorem write_float (value : FiniteFloat) :
    (Decoded.float value).write = value.repr := rfl

@[simp]
theorem write_nonFinite : Decoded.nonFinite.write = "NaN".toList := rfl

@[simp]
theorem write_text (codePoints : List Nat) :
    (Decoded.text codePoints).write = quoted codePoints := rfl

@[simp]
theorem write_array (items : List Decoded) :
    (Decoded.array items).write =
      '[' :: (JsonTree.joined (writeItems items) ++ [']']) := rfl

@[simp]
theorem write_object (fields : List (List Nat × Decoded)) :
    (Decoded.object fields).write =
      '\x7b' :: (JsonTree.joined ((writeFields fields).rows.map fun row =>
        quoted row.1 ++ ':' :: row.2) ++ ['\x7d']) := rfl

@[simp]
theorem writeItems_cons (item : Decoded) (items : List Decoded) :
    writeItems (item :: items) = item.write :: writeItems items := rfl

mutual

/-- Whether every float of a value is finite. -/
def isFinite : Decoded -> Bool
  | .nonFinite => false
  | .array items => itemsFinite items
  | .object fields => fieldsFinite fields
  | _ => true

def itemsFinite : List Decoded -> Bool
  | [] => true
  | item :: items => isFinite item && itemsFinite items

def fieldsFinite : List (List Nat × Decoded) -> Bool
  | [] => true
  | (_, value) :: fields => isFinite value && fieldsFinite fields

end

@[simp]
theorem isFinite_array (items : List Decoded) :
    (Decoded.array items).isFinite = itemsFinite items := rfl

@[simp]
theorem itemsFinite_cons (item : Decoded) (items : List Decoded) :
    itemsFinite (item :: items) = (item.isFinite && itemsFinite items) := rfl

mutual

/-- How deep lists and dictionaries are nested. -/
def depth : Decoded -> Nat
  | .array items => itemsDepth items + 1
  | .object fields => fieldsDepth fields + 1
  | _ => 0

def itemsDepth : List Decoded -> Nat
  | [] => 0
  | item :: items => max (depth item) (itemsDepth items)

def fieldsDepth : List (List Nat × Decoded) -> Nat
  | [] => 0
  | (_, value) :: fields => max (depth value) (fieldsDepth fields)

end

@[simp]
theorem depth_array (items : List Decoded) :
    (Decoded.array items).depth = itemsDepth items + 1 := rfl

@[simp]
theorem itemsDepth_cons (item : Decoded) (items : List Decoded) :
    itemsDepth (item :: items) = max item.depth (itemsDepth items) := rfl

end Decoded

/-! ## Generated cases -/

/-- `StableRng`. -/
abbrev StableRng (α : Type) : Type := StateM Nat α

/-- `StableRng._next`. -/
def next : StableRng Nat := do
  let state ← get
  let state := (1664525 * state + 1013904223) % 2 ^ 32
  set state
  return state

/-- `StableRng.randint`. -/
def randint (low high : Int) : StableRng Int := do
  let word ← next
  return low + word % (high - low + 1)

/-- `StableRng.choice`. -/
def choice (values : List Char) : StableRng Char := do
  let word ← next
  return values.getD (word % values.length) default

/-- `[draw() for _ in range(count)]`. -/
def draws (draw : StableRng α) : Nat -> StableRng (List α)
  | 0 => return []
  | count + 1 => do
      let value ← draw
      let others ← draws draw count
      return value :: others

/-- A list whose length is drawn first. -/
def drawList (draw : StableRng α) (low high : Int) : StableRng (List α) := do
  let count ← randint low high
  draws draw count.toNat

def strideNegateCases : StableRng (List (List Int × Int)) := do
  let drawn ← draws (do
    let values ← drawList (randint (-50) 50) 0 30
    let stride ← randint 1 9
    return (values, stride)) 13
  return [([], 1), ([0], 1), ([1, -2, 3, 4], 2)] ++ drawn

def chunkMirrorCases : StableRng (List (List Char × Int)) := do
  let drawn ← draws (do
    let text ← drawList (choice "abCD09_- ".toList) 0 48
    let width ← randint 1 11
    return (text, width)) 13
  return [([], 1), ("abcdefg".toList, 3), (['x'], 8)] ++ drawn

def neighborDeltaCases : StableRng (List (List Int)) := do
  let drawn ← draws (drawList (randint (-100) 100) 0 35) 13
  return [[], [8], [3, 3, -2, 10]] ++ drawn

def zipBiasCases : StableRng (List (List Int × List Int × Int)) := do
  let drawn ← draws (do
    let left ← drawList (randint (-30) 30) 0 24
    let right ← drawList (randint (-30) 30) 0 24
    let bias ← randint (-20) 20
    return (left, right, bias)) 13
  return [([], [], 3), ([1, 2], [9], -1), ([0], [0], 0)] ++ drawn

def borderCountCases : StableRng (List (List (List Char) × Char)) := do
  let alphabet := "xyz.".toList
  let drawn ← draws (do
    let height ← randint 1 9
    let width ← randint 1 10
    let grid ← draws (draws (choice alphabet) width.toNat) height.toNat
    let marker ← choice alphabet
    return (grid, marker)) 13
  return [([['x']], 'x'), (["xxx".toList], 'x'), ([['x'], ['x'], ['x']], 'x')]
    ++ drawn

def runTotalsCases : StableRng (List (List Int)) := do
  let drawn ← draws (do
    let runs ← drawList (do
      let value ← randint (-8) 8
      let length ← randint 1 7
      return List.replicate length.toNat value) 0 12
    return runs.flatten) 13
  return [[], [5], [2, 2, 3, 3, 3, -1]] ++ drawn

/-! ## Oracles -/

/-- An answer that is a list of integers. -/
def intsAnswer (values : List Int) : Decoded := .array (values.map .int)

/-- `_stride_negate`. -/
def strideNegate (arguments : List Int × Int) : Decoded :=
  intsAnswer (arguments.1.zipIdx.map fun (value, index) =>
    if (index : Int) % arguments.2 = 0 then -value else value)

/-- The chunks that `range(0, len(text), width)` starts. -/
def chunks (width : Nat) (text : List Char) : List (List Char) :=
  (List.range ((text.length + width - 1) / width)).map fun chunk =>
    (text.drop (chunk * width)).take width

/-- `_chunk_mirror`. -/
def chunkMirror (arguments : List Char × Int) : Decoded :=
  .text (((chunks arguments.2.toNat arguments.1).flatMap List.reverse).map
    Char.toNat)

/-- `_neighbor_delta`. -/
def neighborDelta (values : List Int) : Decoded :=
  intsAnswer (values.take 1 ++
    List.zipWith (fun previous current => current - previous) values
      values.tail)

/-- `_zip_bias`. -/
def zipBias (arguments : List Int × List Int × Int) : Decoded :=
  intsAnswer (List.zipWith (fun left right => left + right + arguments.2.2)
    arguments.1 arguments.2.1)

/-- `_border_count`. -/
def borderCount (arguments : List (List Char) × Char) : Decoded :=
  let height := arguments.1.length
  let width := (arguments.1.headD []).length
  .int ((List.range height).flatMap fun row =>
    (List.range width).filter fun column =>
      (row = 0 || row = height - 1 || column = 0 || column = width - 1) &&
        (arguments.1.getD row []).getD column default == arguments.2).length

/-- Maximal runs of one value, the last one first. -/
def runs : List Int -> List (Int × Nat) -> List (Int × Nat)
  | [], found => found
  | value :: values, [] => runs values [(value, 1)]
  | value :: values, (last, count) :: found =>
      if last = value then runs values ((last, count + 1) :: found)
      else runs values ((value, 1) :: (last, count) :: found)

/-- `_run_totals`. -/
def runTotals (values : List Int) : Decoded :=
  intsAnswer ((runs values []).reverse.map fun (value, count) =>
    value * count)

/-- A value of `TASKS`. -/
structure TaskDefinition where
  entrypoint : String
  Arguments : Type
  cases : StableRng (List Arguments)
  oracle : Arguments -> Decoded

/-- `TASKS`. -/
def tasks : List (String × TaskDefinition) :=
  [("stride-negate",
      ⟨"pi_smoke_stride_negate", _, strideNegateCases, strideNegate⟩),
    ("chunk-mirror",
      ⟨"pi_smoke_chunk_mirror", _, chunkMirrorCases, chunkMirror⟩),
    ("neighbor-delta",
      ⟨"pi_smoke_neighbor_delta", _, neighborDeltaCases, neighborDelta⟩),
    ("zip-bias", ⟨"pi_smoke_zip_bias", _, zipBiasCases, zipBias⟩),
    ("border-count",
      ⟨"pi_smoke_border_count", _, borderCountCases, borderCount⟩),
    ("run-totals",
      ⟨"pi_smoke_run_totals", _, runTotalsCases, runTotals⟩)]

/-- `_seed`. -/
def seed (taskId : String) : Nat :=
  0xC0D10000 + (tasks.map Prod.fst).idxOf taskId

/-- `expected` of a task. -/
def expectedAnswers (taskId : String) (definition : TaskDefinition) :
    List Decoded :=
  (definition.cases.run (seed taskId % 2 ^ 32)).1.map definition.oracle

/-! ## The child's output -/

/-- What became of the child: whether it was killed after the time-out, its
exit code and what it wrote to its standard output. -/
structure ChildOutcome where
  timedOut : Bool
  returnCode : Int
  stdout : List Byte

/-- Where the decoder stands inside a character: the bytes still to come, the
bounds of the next one, and the bits so far. -/
structure PendingChar where
  remaining : Nat
  low : Nat
  high : Nat
  bits : Nat

/-- The first byte of a character. -/
def leadByte (byte : Nat) : Option Char × Option PendingChar :=
  if byte < 0x80 then (some (Char.ofNat byte), none)
  else if 0xC2 ≤ byte ∧ byte ≤ 0xDF then
    (none, some ⟨1, 0x80, 0xBF, byte - 0xC0⟩)
  else if byte = 0xE0 then (none, some ⟨2, 0xA0, 0xBF, 0⟩)
  else if byte = 0xED then (none, some ⟨2, 0x80, 0x9F, 0xD⟩)
  else if 0xE1 ≤ byte ∧ byte ≤ 0xEF then
    (none, some ⟨2, 0x80, 0xBF, byte - 0xE0⟩)
  else if byte = 0xF0 then (none, some ⟨3, 0x90, 0xBF, 0⟩)
  else if 0xF1 ≤ byte ∧ byte ≤ 0xF3 then
    (none, some ⟨3, 0x80, 0xBF, byte - 0xF0⟩)
  else if byte = 0xF4 then (none, some ⟨3, 0x80, 0x8F, 4⟩)
  else (some '\uFFFD', none)

/-- `bytes.decode("utf-8", errors="replace")` from inside a character. -/
def decodeFrom : Option PendingChar -> List Byte -> List Char
  | none, [] => []
  | some _, [] => ['\uFFFD']
  | none, byte :: rest =>
      let (character, pending) := leadByte byte.toNat
      character.toList ++ decodeFrom pending rest
  | some pending, byte :: rest =>
      if pending.low ≤ byte.toNat ∧ byte.toNat ≤ pending.high then
        let bits := 64 * pending.bits + (byte.toNat - 0x80)
        if pending.remaining = 1 then Char.ofNat bits :: decodeFrom none rest
        else decodeFrom (some ⟨pending.remaining - 1, 0x80, 0xBF, bits⟩) rest
      else
        let (character, restarted) := leadByte byte.toNat
        '\uFFFD' :: character.toList ++ decodeFrom restarted rest

/-- A character after which `str.splitlines` ends a line. -/
def isLineBreak (character : Char) : Bool :=
  character ∈ ['\n', '\r', '\x0b', '\x0c', '\x1c', '\x1d', '\x1e', '\u0085',
    '\u2028', '\u2029']

/-- `str.splitlines`, with the characters of the line that is open. -/
def splitLines : List Char -> List Char -> List (List Char)
  | [], [] => []
  | [], line => [line.reverse]
  | '\r' :: '\n' :: rest, line => line.reverse :: splitLines rest []
  | character :: rest, line =>
      if isLineBreak character then line.reverse :: splitLines rest []
      else splitLines rest (character :: line)

/-- `RESULT_MARKER`. -/
def resultMarker : List Char := "__VF_CODING_SMOKE_RESULT__=".toList

/-- `marker_lines`.  The newline translation of `read_text` does not change
the lines. -/
def markerLines (stdout : List Byte) : List (List Char) :=
  (splitLines (decodeFrom none stdout) []).filterMap fun line =>
    if resultMarker.isPrefixOf line then some (line.drop resultMarker.length)
    else none

/-! ## Metrics -/

/-- A dictionary of metrics. -/
abbrev MetricRecord : Type := List (String × Rat)

/-- `record[name] = value`. -/
def MetricRecord.set : MetricRecord -> String -> Rat -> MetricRecord
  | [], name, value => [(name, value)]
  | entry :: rest, name, value =>
      if entry.1 = name then (name, value) :: rest
      else entry :: MetricRecord.set rest name value

/-- `record.update(updates)`. -/
def MetricRecord.update (record updates : MetricRecord) : MetricRecord :=
  updates.foldl (fun current entry => current.set entry.1 entry.2) record

/-- `record.get(name, 0.0)`. -/
def MetricRecord.metric (record : MetricRecord) (name : String) : Rat :=
  (record.lookup name).getD 0

/-- `_metrics`. -/
def metrics (updates : MetricRecord) : MetricRecord :=
  MetricRecord.update
    [("syntax_valid", 0), ("entrypoint_present", 0), ("tests_passed", 0),
      ("tests_total", 0), ("pass_rate", 0), ("timed_out", 0),
      ("runtime_error", 0), ("all_tests_passed", 0)] updates

/-- `_empty_metrics`. -/
def emptyMetrics (sourceBytes : Nat) : MetricRecord :=
  [("source_bytes", (sourceBytes : Rat)), ("syntax_valid", 0),
    ("entrypoint_present", 0), ("tests_passed", 0), ("tests_total", 0),
    ("pass_rate", 0), ("timed_out", 0), ("runtime_error", 0),
    ("all_tests_passed", 0)]

/-! ## The verifier -/

/-- How `compile` ends. -/
inductive Compilation
  | compiled
  | syntaxError
  | raised (error : PyError)

/-- How `json.loads` ends.  A text may also raise something else: a number
with too many digits a `ValueError`, too deep a nesting a `RecursionError`. -/
inductive Loaded
  | value (decoded : Decoded)
  | jsonDecodeError
  | raised (error : PyError)

/-- What the verifier runs on: the encoding of sources, the compiler, what
becomes of the child for an entrypoint and a source, the JSON decoder, and how
deep a value may be for the encoder. -/
structure Verifier where
  encodeSource : String -> String
  decodeSource : String -> Option String
  compile : String -> Compilation
  child : String -> String -> ChildOutcome
  loads : List Char -> Loaded
  encoderDepth : Nat
  decode_encode : ∀ source, decodeSource (encodeSource source) = some source
  one_le_encoderDepth : 1 ≤ encoderDepth

/-- `MAX_SOURCE_BYTES`. -/
def maxSourceBytes : Nat := 32 * 1024

section Verifying

variable (verifier : Verifier)

/-- `canonical_json`. -/
def canonicalJson (value : Decoded) : Checked (List Char) := do
  let _ ← require (value.isFinite = true)
    (.valueError "Out of range float values are not JSON compliant")
  let _ ← require (value.depth ≤ verifier.encoderDepth)
    (.runtimeError "maximum recursion depth exceeded")
  return value.write

/-- Whether a record passes its case; only dictionaries are looked at. -/
def recordPasses (record answer : Decoded) : Checked Bool :=
  match record.fields? with
  | none => return false
  | some fields =>
      if (Decoded.get fields "ok").isTrue then do
        let value ← canonicalJson verifier (Decoded.get fields "value")
        let expected ← canonicalJson verifier answer
        return value == expected
      else return false

/-- `passed`. -/
def countPassed (records answers : List Decoded) : Checked Nat := do
  let passes ← (records.zip answers).mapM fun pair =>
    recordPasses verifier pair.1 pair.2
  return passes.count true

/-- The record for an answer of the child that is a dictionary. -/
def scorePayload (payload : List (List Nat × Decoded))
    (answers : List Decoded) : Checked MetricRecord :=
  let total : Rat := answers.length
  let present := (Decoded.get payload "entrypoint_present").isTrue
  let entrypointPresent : Rat := if present then 1 else 0
  match (Decoded.get payload "records").items? with
  | none =>
      return metrics [("syntax_valid", 1),
        ("entrypoint_present", entrypointPresent), ("tests_total", total),
        ("runtime_error", 1)]
  | some records =>
      if present = false ∧ records.isEmpty = true then
        return metrics [("syntax_valid", 1), ("tests_total", total)]
      else if records.length ≠ answers.length then
        return metrics [("syntax_valid", 1),
          ("entrypoint_present", entrypointPresent), ("tests_total", total),
          ("runtime_error", 1)]
      else do
        let passed ← countPassed verifier records answers
        return metrics [("syntax_valid", 1),
          ("entrypoint_present", entrypointPresent), ("tests_passed", passed),
          ("tests_total", total),
          ("pass_rate", if total = 0 then 0 else passed / total),
          ("all_tests_passed",
            if present = true ∧ (passed : Rat) = total then 1 else 0)]

/-- What follows the end of the child. -/
def scoreChild (child : ChildOutcome) (answers : List Decoded) :
    Checked MetricRecord :=
  let total : Rat := answers.length
  let failed := metrics [("syntax_valid", 1), ("tests_total", total),
    ("runtime_error", 1)]
  if child.timedOut then
    return metrics [("syntax_valid", 1), ("tests_total", total),
      ("timed_out", 1)]
  else
    match (markerLines child.stdout).getLast? with
    | none => return failed
    | some line =>
        if child.returnCode ≠ 0 then return failed
        else
          match verifier.loads line with
          | .jsonDecodeError => return failed
          | .raised error => throw error
          | .value decoded =>
              match decoded.fields? with
              | some payload => scorePayload verifier payload answers
              | none =>
                  throw (.attributeError "object has no attribute 'get'")

/-- `evaluate`. -/
def evaluate (taskId encodedSource : String) : Checked MetricRecord :=
  match tasks.lookup taskId with
  | none => throw (.valueError ("unknown task id: " ++ taskId))
  | some definition =>
      match verifier.decodeSource encodedSource with
      | none => throw (.valueError "invalid source encoding")
      | some source =>
          if source.utf8ByteSize = 0 ∨ maxSourceBytes < source.utf8ByteSize
          then return metrics []
          else
            match verifier.compile source with
            | .syntaxError => return metrics []
            | .raised error => throw error
            | .compiled =>
                scoreChild verifier
                  (verifier.child definition.entrypoint source)
                  (expectedAnswers taskId definition)

/-- `CodingSmokeTask._score_source`.  The script prints the record as JSON,
and its exit code is not 0 if `evaluate` raises. -/
def scoreSource (taskId source : String) : Checked MetricRecord :=
  let empty := emptyMetrics source.utf8ByteSize
  if source.utf8ByteSize = 0 ∨ maxSourceBytes < source.utf8ByteSize then
    return empty
  else
    match evaluate verifier taskId (verifier.encodeSource source) with
    | .error _ => throw (.runtimeError "coding-smoke verifier failed")
    | .ok scored => do
        let expected := empty.map Prod.fst |>.erase "source_bytes"
        let _ ← require (List.Perm (scored.map Prod.fst) expected)
          (.runtimeError
            "coding-smoke verifier returned an invalid metric schema")
        return empty.update (expected.map fun name =>
          (name, scored.metric name))

/-- `CodingSmokeTask.correct`. -/
def correct (scored : MetricRecord) : Rat := scored.metric "all_tests_passed"

end Verifying

end CodingSmoke
end CodingLlm
