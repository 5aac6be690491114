import CodingLlm.Library.MaskedRows
import CodingLlm.Pretrain.PackedBatchCollator

/-!
# The language model

`CausalLM.forward` with its masks and its losses.  Tensors are lists of rows
of columns.  The learned maps are parameters: an embedding, norms,
projections, rotary maps of a position id, the combination of a query with the
keys and values it may attend to, the feed-forward map and the cross entropy
of a token.  Losses are exact.
-/

namespace CodingLlm

open Slices

/-! ## Configuration -/

/-- `AttentionBackend`. -/
inductive AttentionBackend
  | auto
  | flex
  | sdpa
  deriving DecidableEq, Repr

/-- The fields of `ModelConfig` that `forward` reads. -/
structure ModelConfig where
  maxSeqLen : Nat
  attentionBackend : AttentionBackend
  lossChunkSize : Nat
  chunkPositive : 0 < lossChunkSize

/-- Where tensors are, and whether the graph is being captured. -/
structure ExecutionMode where
  isCuda : Bool
  isCompiling : Bool
  deriving DecidableEq, Repr

namespace AttentionBackend

/-- `"auto"` selects by the device. -/
def select (backend : AttentionBackend) (isCuda : Bool) : AttentionBackend :=
  match backend with
  | .auto => if isCuda then .flex else .sdpa
  | other => other

end AttentionBackend

/-! ## Masks -/

/-- `_dense_document_causal_mask`, a tensor `[B, 1, T, T]`. -/
def denseDocumentCausalMask (documentIds : List (List Int)) :
    List (List (List (List Bool))) :=
  documentIds.map fun ids =>
    [ids.mapIdx fun query queryId => ids.mapIdx fun key keyId =>
      decide (queryId = keyId) && decide (key ≤ query)]

/-- What `create_block_mask` makes. -/
structure BlockMask where
  batches : Nat
  queryLength : Nat
  keyLength : Nat
  maskMod : Nat -> Nat -> Nat -> Nat -> Bool

/-- `document_causal_mask`. -/
def documentCausalMask (documentIds : List (List Int))
    (batch _head queryIndex keyIndex : Nat) : Bool :=
  decide (queryIndex ≥ keyIndex) &&
    decide ((documentIds.getD batch []).getD queryIndex 0 =
      (documentIds.getD batch []).getD keyIndex 0)

/-- `_create_flex_document_mask`. -/
def createFlexDocumentMask (documentIds : List (List Int)) : BlockMask where
  batches := documentIds.length
  queryLength := (documentIds.headD []).length
  keyLength := (documentIds.headD []).length
  maskMod := documentCausalMask documentIds

/-- The pairs that a dense mask allows in a row. -/
def denseAllows (mask : List (List (List (List Bool))))
    (batch query key : Nat) : Bool :=
  (((mask.getD batch []).getD 0 []).getD query []).getD key false

/-- The pairs that a block mask allows in a row; without one all are. -/
def blockAllows (mask : Option BlockMask) (batch query key : Nat) : Bool :=
  mask.all fun mask => mask.maskMod batch 0 query key

/-- The dense mask and the mask of blocks. -/
structure AttentionMasks where
  dense : Option (List (List (List (List Bool))))
  flex : Option BlockMask

/-- `_attention_masks`. -/
def attentionMasks (mode : ExecutionMode) (backend : AttentionBackend)
    (documentIds : List (List Int)) : AttentionMasks :=
  if backend.select mode.isCuda = .flex then
    ⟨none, some (createFlexDocumentMask documentIds)⟩
  else ⟨some (denseDocumentCausalMask documentIds), none⟩

/-! ## Blocks -/

/-- `CausalSelfAttention`, with all heads of a column together. -/
structure CausalSelfAttention (Hidden Query Key Value Attended : Type) where
  qProj : Hidden -> Query
  kProj : Hidden -> Key
  vProj : Hidden -> Value
  ropeQuery : Int -> Query -> Query
  ropeKey : Int -> Key -> Key
  attend : Query -> Multiset (Key × Value) -> Attended
  oProj : Attended -> Hidden

/-- `TransformerBlock`. -/
structure TransformerBlock (Hidden Query Key Value Attended : Type) where
  attention : CausalSelfAttention Hidden Query Key Value Attended
  feedForward : Hidden -> Hidden
  attentionNorm : Hidden -> Hidden
  ffnNorm : Hidden -> Hidden

section Blocks

variable {Hidden Query Key Value Attended : Type}

namespace CausalSelfAttention

/-- A row with the pairs of its positions that may attend to each other. -/
def row
    (attention : CausalSelfAttention Hidden Query Key Value Attended)
    (allowed : Nat -> Nat -> Bool)
    (positions : List Int)
    (x : List Hidden) : List Hidden :=
  let query := List.zipWith attention.ropeQuery positions
    (x.map attention.qProj)
  let key := List.zipWith attention.ropeKey positions (x.map attention.kProj)
  let value := x.map attention.vProj
  (Masked.aggregate attention.attend allowed query (key.zip value)).map
    attention.oProj

/-- The pairs that the selected backend allows. -/
def allowedPairs (mode : ExecutionMode) (backend : AttentionBackend)
    (masks : AttentionMasks) : Checked (Nat -> Nat -> Nat -> Bool) :=
  if backend.select mode.isCuda = .flex then do
    let _ ← require (mode.isCuda = true)
      (.runtimeError "FlexAttention training backend requires CUDA")
    return blockAllows masks.flex
  else
    match masks.dense with
    | none => .error (.assertionError "SDPA requires a dense document mask")
    | some mask => .ok (denseAllows mask)

/-- `forward`. -/
def forward
    (attention : CausalSelfAttention Hidden Query Key Value Attended)
    (mode : ExecutionMode)
    (backend : AttentionBackend)
    (masks : AttentionMasks)
    (positions : List (List Int))
    (x : List (List Hidden)) : Checked (List (List Hidden)) := do
  let allowed ← allowedPairs mode backend masks
  return (positions.zip x).mapIdx fun batch row =>
    attention.row (allowed batch) row.1 row.2

end CausalSelfAttention

/-- Sum of two tensors. -/
def addRows [Add Hidden] (first second : List (List Hidden)) :
    List (List Hidden) :=
  List.zipWith (List.zipWith (· + ·)) first second

/-- `TransformerBlock.forward`. -/
def TransformerBlock.forward [Add Hidden]
    (block : TransformerBlock Hidden Query Key Value Attended)
    (mode : ExecutionMode)
    (backend : AttentionBackend)
    (masks : AttentionMasks)
    (positions : List (List Int))
    (x : List (List Hidden)) : Checked (List (List Hidden)) := do
  let attended ← block.attention.forward mode backend masks positions
    (x.map fun row => row.map block.attentionNorm)
  let x := addRows x attended
  return addRows x
    (x.map fun row => row.map fun column =>
      block.feedForward (block.ffnNorm column))

end Blocks

/-! ## The model -/

/-- `CausalLM`; the cross entropy is that of one column. -/
structure CausalLM
    (Hidden Query Key Value Attended Logits Loss : Type) where
  config : ModelConfig
  tokEmbeddings : Nat -> Hidden
  layers : List (TransformerBlock Hidden Query Key Value Attended)
  norm : Hidden -> Hidden
  lmHead : Hidden -> Logits
  crossEntropy : Logits -> Int -> Loss

/-- `CausalLMOutput`. -/
structure CausalLMOutput (Logits Loss : Type) where
  loss : Option Loss
  logits : Option (List (List Logits))
  lossSum : Option Loss
  numLossTokens : Option Nat
  lossSumsPerRow : Option (List Loss)

namespace CausalLM

variable {Hidden Query Key Value Attended Logits Loss : Type}

/-- The hidden states after the last norm. -/
def hiddenStates [Add Hidden]
    (model : CausalLM Hidden Query Key Value Attended Logits Loss)
    (mode : ExecutionMode)
    (inputIds : List (List Nat))
    (positionIds documentIds : List (List Int)) :
    Checked (List (List Hidden)) := do
  let masks := attentionMasks mode model.config.attentionBackend documentIds
  let hidden ← model.layers.foldlM
    (fun hidden layer => layer.forward mode model.config.attentionBackend
      masks positionIds hidden)
    (inputIds.map fun row => row.map model.tokEmbeddings)
  return hidden.map fun row => row.map model.norm

/-- The logits of every column. -/
def logits
    (model : CausalLM Hidden Query Key Value Attended Logits Loss)
    (hidden : List (List Hidden)) : List (List Logits) :=
  hidden.map fun row => row.map model.lmHead

section Losses

variable [Zero Loss]

/-- `F.cross_entropy(..., ignore_index=-100, reduction="none")`, at one
column. -/
def tokenLoss
    (model : CausalLM Hidden Query Key Value Attended Logits Loss)
    (logits : Logits)
    (label : Int) : Loss :=
  if label = ignoreIndex then 0 else model.crossEntropy logits label

/-- The token losses of a row. -/
def tokenLosses
    (model : CausalLM Hidden Query Key Value Attended Logits Loss)
    (hidden : List Hidden)
    (labels : List Int) : List Loss :=
  List.zipWith model.tokenLoss (hidden.map model.lmHead) labels

variable [Add Loss]

/-- `loss_sums_per_row` from all logits. -/
def lossSums
    (model : CausalLM Hidden Query Key Value Attended Logits Loss)
    (hidden : List (List Hidden))
    (labels : List (List Int)) : List Loss :=
  List.zipWith (fun hidden labels => (model.tokenLosses hidden labels).sum)
    hidden labels

/-- The columns `[begin:end]` of a chunk of a row. -/
def chunkOf (model : CausalLM Hidden Query Key Value Attended Logits Loss)
    (width first : Nat) (row : List α) : List α :=
  slice row first (min (first + model.config.lossChunkSize) width - first)

/-- `loss_sums_per_row` from one chunk of columns at a time. -/
def chunkedLossSums
    (model : CausalLM Hidden Query Key Value Attended Logits Loss)
    (width : Nat)
    (hidden : List (List Hidden))
    (labels : List (List Int)) : List Loss :=
  List.zipWith
    (fun hidden labels =>
      ((chunkBegins width model.config.lossChunkSize).map fun first =>
        (model.tokenLosses (model.chunkOf width first hidden)
          (model.chunkOf width first labels)).sum).sum)
    hidden labels

end Losses

/-- The number of labels that count. -/
def countLossTokens (labels : List (List Int)) : Nat :=
  (labels.map fun row =>
    row.countP fun label => decide (label ≠ ignoreIndex)).sum

/-- The losses of `forward`. -/
def losses [DivisionRing Loss]
    (model : CausalLM Hidden Query Key Value Attended Logits Loss)
    (mode : ExecutionMode)
    (returnLogits : Bool)
    (width : Nat)
    (hidden : List (List Hidden))
    (labels : List (List Int)) :
    Checked (CausalLMOutput Logits Loss) := do
  let numLossTokens := countLossTokens labels
  let _ ← require
    (mode.isCompiling = true ∨ mode.isCuda = true ∨ numLossTokens ≠ 0)
    (.valueError "Batch contains no supervised tokens")
  let lossSumsPerRow :=
    if returnLogits then model.lossSums hidden labels
    else model.chunkedLossSums width hidden labels
  let lossSum := lossSumsPerRow.sum
  return ⟨some (lossSum / (max numLossTokens 1 : Nat)),
    if returnLogits then some (model.logits hidden) else none,
    some lossSum, some numLossTokens, some lossSumsPerRow⟩

/-- Shapes `[B, T]` of two tensors agree. -/
def SameShape (first : List (List α)) (second : List (List β)) : Prop :=
  first.map List.length = second.map List.length

instance (first : List (List α)) (second : List (List β)) :
    Decidable (SameShape first second) :=
  inferInstanceAs (Decidable (_ = _))

/-- `forward`. -/
def forward [Add Hidden] [DivisionRing Loss]
    (model : CausalLM Hidden Query Key Value Attended Logits Loss)
    (mode : ExecutionMode)
    (inputIds : List (List Nat))
    (positionIds documentIds : List (List Int))
    (labels : Option (List (List Int)))
    (returnLogits : Option Bool) :
    Checked (CausalLMOutput Logits Loss) := do
  let width := (inputIds.headD []).length
  let _ ← require (inputIds ≠ [] ∧ width ≠ 0)
    (.valueError "input_ids must have non-empty dimensions")
  let _ ← require
    (SameShape positionIds inputIds ∧ SameShape documentIds inputIds)
    (.valueError "position_ids and document_ids must match input_ids")
  let _ ← require (width ≤ model.config.maxSeqLen)
    (.valueError "Input sequence exceeds max_seq_len")
  let _ ← require (∀ tensor ∈ labels, SameShape tensor inputIds)
    (.valueError "labels must match input_ids")
  let returnLogits := returnLogits.getD labels.isNone
  let _ ← require
    (mode.isCompiling = true ∨ mode.isCuda = true ∨
      ∀ row ∈ positionIds, ∀ position ∈ row,
        0 ≤ position ∧ position < model.config.maxSeqLen)
    (.valueError "position_ids exceed the configured RoPE cache")
  let hidden ← model.hiddenStates mode inputIds positionIds documentIds
  match labels with
  | none =>
      return ⟨none, if returnLogits then some (model.logits hidden) else none,
        none, none, none⟩
  | some labels => model.losses mode returnLogits width hidden labels

end CausalLM
end CodingLlm
