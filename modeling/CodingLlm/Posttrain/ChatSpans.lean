import CodingLlm.Library.Occurrences
import CodingLlm.Posttrain.ChatFormat
import Mathlib.Algebra.Ring.Nat
import Mathlib.Data.List.Induction

/-!
# Counts, spans and responses

What `RenderedChat` recomputes from its lists, and how a sampled response is
cut at the terminal token and decoded.
-/

namespace CodingLlm

/-! ## Counts and spans -/

namespace RenderedChat

variable (rendered : RenderedChat)

/-- The body of the loop of `tokens_per_message`. -/
def countToken (count : Int) (sampledOnly : Bool) (result : List Nat)
    (token : Int × Bool) : List Nat :=
  if ¬(0 ≤ token.1 ∧ token.1 < count) then result
  else if sampledOnly && !token.2 then result
  else result.modify token.1.toNat (· + 1)

/-- `tokens_per_message`; `sampled_mask` is parallel to `message_indices`. -/
def tokensPerMessage (nMessages : Option Int) (sampledOnly : Bool) :
    List Nat :=
  let count := nMessages.getD rendered.messageRoles.length
  let count := min (max count 0) (rendered.messageRoles.length : Int)
  (rendered.messageIndices.zip rendered.sampledMask).foldl
    (countToken count sampledOnly) (List.replicate count.toNat 0)

/-- The lists `first` and `last` of `message_token_spans`. -/
structure SpanEnds where
  first : List Int
  last : List Int

/-- The body of the loop of `message_token_spans`. -/
def SpanEnds.record (count : Nat) (ends : SpanEnds)
    (occurrence : Int × Nat) : SpanEnds :=
  let messageIndex := occurrence.1
  if 0 ≤ messageIndex ∧ messageIndex < count then
    { first :=
        if ends.first.getD messageIndex.toNat (-1) = -1 then
          ends.first.set messageIndex.toNat occurrence.2
        else ends.first
      last := ends.last.set messageIndex.toNat occurrence.2 }
  else ends

/-- The loop of `message_token_spans`. -/
def spanEnds (count : Nat) (messageIndices : List Int) : SpanEnds :=
  messageIndices.zipIdx.foldl (SpanEnds.record count)
    ⟨List.replicate count (-1), List.replicate count (-1)⟩

/-- The comprehension at the end of `message_token_spans`. -/
def SpanEnds.spans (ends : SpanEnds) : List (Option (Int × Int)) :=
  List.zipWith (fun start last =>
    if start = -1 then none else some (start, last + 1)) ends.first ends.last

/-- `message_token_spans`. -/
def messageTokenSpans : List (Option (Int × Int)) :=
  (spanEnds rendered.messageRoles.length rendered.messageIndices).spans

/-- The sampled ids that are attributed to a message. -/
def sampledIds (messageIndex : Int) : List Int :=
  ((rendered.tokenIds.zip
      (rendered.messageIndices.zip rendered.sampledMask)).filter fun token =>
    token.2.1 = messageIndex ∧ token.2.2 = true).map Prod.fst

end RenderedChat

/-! ## Responses -/

/-- What `decode` returns: a text, or a value of another type. -/
inductive Decoded
  | text (content : String)
  | other (typeName : String)
  deriving DecidableEq, Repr

/-- The decoding side of a tokenizer: the call with both keywords, with
`skip_special_tokens` alone, and without keywords. -/
structure TokenizerDecode where
  decodeVerbatim : List Int -> Checked Decoded
  decodeSpecial : List Int -> Checked Decoded
  decodePlain : List Int -> Checked Decoded

/-- The loop of `_decode` over the call forms. -/
def decodeVariants (tokenIds : List Int) :
    List (List Int -> Checked Decoded) -> Checked String
  | [] => .error (chatFormatError
      "tokenizer.decode rejected all supported call forms")
  | variant :: rest =>
      match variant tokenIds with
      | .ok (.text content) => .ok content
      | .ok (.other typeName) => .error (chatFormatError
          ("tokenizer.decode returned " ++ typeName ++ ", expected str"))
      | .error error =>
          if error.errorClass = .typeError then decodeVariants tokenIds rest
          else .error error

/-- `_decode`. -/
def decode (tokenizer : TokenizerDecode) (tokenIds : List Int) :
    Checked String :=
  decodeVariants tokenIds [tokenizer.decodeVerbatim, tokenizer.decodeSpecial,
    tokenizer.decodePlain]

/-- `ParsedChatResponse`; the format has neither reasoning nor tool calls. -/
structure ParsedChatResponse where
  content : String
  reasoningContent : Option String := none
  toolCalls : List String := []
  deriving DecidableEq, Repr

/-- The loop of `parse_response`, which stops at the terminal token. -/
def responseIds : Nat -> List EncodedId -> Checked (List Int)
  | _, [] => .ok []
  | index, .other :: _ => .error (chatFormatError ("response token_ids[" ++
      toString index ++ "] must be a non-negative integer"))
  | index, .int value :: rest =>
      if value < 0 then .error (chatFormatError ("response token_ids[" ++
        toString index ++ "] must be a non-negative integer"))
      else if value = eosTokenId then .ok []
      else do
        let ids ← responseIds (index + 1) rest
        return value :: ids

/-- `parse_response`. -/
def parseResponse (tokenizer : TokenizerDecode) (tokenIds : List EncodedId) :
    Checked ParsedChatResponse := do
  let ids ← responseIds 0 tokenIds
  let content ← decode tokenizer ids
  return { content }

/-- Nothing after the first terminal token is read. -/
theorem responseIds_eos
    {ids : List Int} (positive : ∀ id ∈ ids, 0 < id) (index : Nat)
    (further : List EncodedId) :
    responseIds index ((ids ++ [eosTokenId]).map EncodedId.int ++ further) =
      .ok ids := by
  induction ids generalizing index with
  | nil => rfl
  | cons id rest inductionHypothesis =>
      have here : 0 < id := positive id (List.mem_cons_self)
      have notEos : id ≠ eosTokenId := by
        rintro rfl
        exact Int.lt_irrefl 0 here
      have others := inductionHypothesis
        (fun other member => positive other (List.mem_cons_of_mem id member))
        (index + 1)
      simp only [List.cons_append, List.map_cons, responseIds,
        if_neg (Int.not_lt.mpr (Int.le_of_lt here)), if_neg notEos]
      rw [others]
      rfl

/-- A response is decoded up to its terminal token. -/
theorem parseResponse_eos
    (tokenizer : TokenizerDecode) {ids : List Int}
    (positive : ∀ id ∈ ids, 0 < id) (further : List EncodedId) :
    parseResponse tokenizer
        ((ids ++ [eosTokenId]).map EncodedId.int ++ further) =
      (decode tokenizer ids).map fun content => { content } := by
  unfold parseResponse
  rw [responseIds_eos positive]
  rfl

/-! ## What the loops compute -/

namespace RenderedChat

/-- One more occurrence raises the sum of the counts by one. -/
theorem sum_modify_succ {counts : List Nat} {index : Nat}
    (inside : index < counts.length) :
    (counts.modify index (· + 1)).sum = counts.sum + 1 := by
  induction counts generalizing index with
  | nil => exact absurd inside (Nat.not_lt_zero _)
  | cons count rest inductionHypothesis =>
      cases index with
      | zero => simp only [List.modify_zero_cons, List.sum_cons]; omega
      | succ index =>
          have below := inductionHypothesis (Nat.lt_of_succ_lt_succ inside)
          simp only [List.modify_succ_cons, List.sum_cons, below]
          omega

/-- The counts sum up to the tokens that are counted. -/
theorem sum_countTokens
    {count : Nat} {sampledOnly : Bool} {result : List Nat}
    (size : result.length = count) (tokens : List (Int × Bool)) :
    (tokens.foldl (countToken count sampledOnly) result).sum =
      result.sum + tokens.countP fun token =>
        decide (0 ≤ token.1 ∧ token.1 < (count : Int)) &&
          (!sampledOnly || token.2) := by
  induction tokens generalizing result with
  | nil => rfl
  | cons token rest inductionHypothesis =>
      have kept : (countToken count sampledOnly result token).length =
          count := by
        unfold countToken
        split
        · exact size
        · split
          · exact size
          · rw [List.length_modify, size]
      rw [List.foldl_cons, inductionHypothesis kept, List.countP_cons]
      unfold countToken
      by_cases inside : 0 ≤ token.1 ∧ token.1 < (count : Int)
      · rw [if_neg (not_not.mpr inside), decide_eq_true inside]
        have below : token.1.toNat < result.length := by omega
        cases sampledOnly <;> cases token.2 <;>
          simp [sum_modify_succ below] <;> omega
      · rw [if_pos inside, decide_eq_false inside]
        rfl

/-- What the lists of `message_token_spans` hold about the labels so far. -/
structure SpanEnds.Found (ends : SpanEnds) (count : Nat)
    (labels : List Int) : Prop where
  firstLength : ends.first.length = count
  lastLength : ends.last.length = count
  absent : ∀ index < count, (index : Int) ∉ labels ->
    ends.first[index]? = some (-1)
  present : ∀ index < count, (index : Int) ∈ labels ->
    ∃ first last, OccursFirst labels (index : Int) first ∧
      OccursLast labels (index : Int) last ∧
      ends.first[index]? = some (first : Int) ∧
      ends.last[index]? = some (last : Int)

/-- One more label. -/
theorem SpanEnds.Found.record
    {ends : SpanEnds} {count : Nat} {labels : List Int}
    (found : ends.Found count labels) (label : Int) :
    (ends.record count (label, labels.length)).Found count
      (labels ++ [label]) := by
  obtain ⟨firstLength, lastLength, absent, present⟩ := found
  unfold SpanEnds.record
  dsimp only
  by_cases inside : 0 ≤ label ∧ label < count
  · rw [if_pos inside]
    obtain ⟨own, rfl⟩ := Int.eq_ofNat_of_zero_le inside.1
    have below : own < count := by omega
    rw [Int.toNat_natCast]
    constructor
    case firstLength => dsimp only; split <;> simp [firstLength]
    case lastLength => simp [lastLength]
    case absent =>
      intro index bounded fresh
      rw [List.mem_append, List.mem_singleton, not_or] at fresh
      have other : own ≠ index := fun same => fresh.2 (by rw [same])
      dsimp only
      split
      · rw [List.getElem?_set_ne other, absent index bounded fresh.1]
      · exact absent index bounded fresh.1
    case present =>
      intro index bounded member
      by_cases same : index = own
      · subst same
        by_cases seen : (index : Int) ∈ labels
        · obtain ⟨first, last, isFirst, -, atFirst, -⟩ :=
            present index bounded seen
          refine ⟨first, labels.length, isFirst.concat _,
            occursLast_concat_self, ?_, ?_⟩
          · have known : ends.first.getD index (-1) ≠ -1 := by
              rw [List.getD_eq_getElem?_getD, atFirst, Option.getD_some]
              omega
            dsimp only
            rw [if_neg known, atFirst]
          · exact List.getElem?_set_self (by omega)
        · refine ⟨labels.length, labels.length, occursFirst_concat_self seen,
            occursLast_concat_self, ?_, ?_⟩
          · have unknown : ends.first.getD index (-1) = -1 := by
              rw [List.getD_eq_getElem?_getD, absent index bounded seen,
                Option.getD_some]
            dsimp only
            rw [if_pos unknown]
            exact List.getElem?_set_self (by omega)
          · exact List.getElem?_set_self (by omega)
      · have other : (own : Int) ≠ index := by omega
        have seen : (index : Int) ∈ labels := by
          rcases List.mem_append.mp member with seen | last
          · exact seen
          · exact absurd (List.mem_singleton.mp last).symm other
        obtain ⟨first, last, isFirst, isLast, atFirst, atLast⟩ :=
          present index bounded seen
        refine ⟨first, last, isFirst.concat _, isLast.concat other, ?_, ?_⟩
        · dsimp only
          split
          · rw [List.getElem?_set_ne (Ne.symm same), atFirst]
          · exact atFirst
        · rw [List.getElem?_set_ne (Ne.symm same), atLast]
  · rw [if_neg inside]
    have other (index : Nat) (bounded : index < count) :
        label ≠ (index : Int) := by omega
    refine ⟨firstLength, lastLength, ?_, ?_⟩
    · intro index bounded fresh
      exact absent index bounded fun seen =>
        fresh (List.mem_append_left _ seen)
    · intro index bounded member
      have seen : (index : Int) ∈ labels := by
        rcases List.mem_append.mp member with seen | last
        · exact seen
        · exact absurd (List.mem_singleton.mp last).symm (other index bounded)
      obtain ⟨first, last, isFirst, isLast, atBoth⟩ :=
        present index bounded seen
      exact ⟨first, last, isFirst.concat _, isLast.concat (other index bounded),
        atBoth⟩

/-- The loop finds the first and the last occurrence of every label. -/
theorem found_spanEnds (count : Nat) (labels : List Int) :
    (spanEnds count labels).Found count labels := by
  induction labels using List.reverseRecOn with
  | nil =>
      refine ⟨List.length_replicate, List.length_replicate, ?_, ?_⟩
      · intro index bounded _
        exact List.getElem?_replicate_of_lt bounded
      · intro index _ member
        exact absurd member List.not_mem_nil
  | append_singleton labels label inductionHypothesis =>
      have step : spanEnds count (labels ++ [label]) =
          (spanEnds count labels).record count (label, labels.length) := by
        unfold spanEnds
        rw [List.zipIdx_append, List.foldl_append, Nat.zero_add]
        rfl
      rw [step]
      exact inductionHypothesis.record label

theorem getElem?_spans
    {ends : SpanEnds} {index : Nat} {first last : Int}
    (atFirst : ends.first[index]? = some first)
    (atLast : ends.last[index]? = some last) :
    ends.spans[index]? =
      some (if first = -1 then none else some (first, last + 1)) := by
  rw [SpanEnds.spans, List.getElem?_zipWith, atFirst, atLast]

/-- The span of a label that fills an interval is that interval. -/
theorem getElem?_messageTokenSpans
    {rendered : RenderedChat} {index start stop : Nat}
    (bounded : index < rendered.messageRoles.length)
    (fills : ∀ offset, rendered.messageIndices[offset]? = some (index : Int) ↔
      start ≤ offset ∧ offset < stop) :
    rendered.messageTokenSpans[index]? =
      some (if start < stop then some ((start : Int), (stop : Int))
        else none) := by
  have found := found_spanEnds rendered.messageRoles.length
    rendered.messageIndices
  by_cases nonempty : start < stop
  · rw [if_pos nonempty]
    have seen : (index : Int) ∈ rendered.messageIndices :=
      List.mem_of_getElem? ((fills start).mpr ⟨Nat.le_refl _, nonempty⟩)
    obtain ⟨first, last, isFirst, isLast, atFirst, atLast⟩ :=
      found.present index bounded seen
    rw [messageTokenSpans, getElem?_spans atFirst atLast, if_neg (by omega),
      isFirst.eq_start fills, ← isLast.eq_stop fills]
    rfl
  · rw [if_neg nonempty]
    have fresh : (index : Int) ∉ rendered.messageIndices := by
      intro seen
      obtain ⟨offset, there⟩ := List.mem_iff_getElem?.mp seen
      have inside := (fills offset).mp there
      omega
    have atFirst := found.absent index bounded fresh
    obtain ⟨last, atLast⟩ : ∃ last, (spanEnds rendered.messageRoles.length
        rendered.messageIndices).last[index]? = some last := by
      have inside : index < (spanEnds rendered.messageRoles.length
          rendered.messageIndices).last.length := by
        rw [found.lastLength]
        exact bounded
      exact ⟨_, List.getElem?_eq_getElem inside⟩
    rw [messageTokenSpans, getElem?_spans atFirst atLast, if_pos rfl]

end RenderedChat

end CodingLlm
