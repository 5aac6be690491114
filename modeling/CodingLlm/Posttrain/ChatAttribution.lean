import CodingLlm.Posttrain.ChatAgreement
import CodingLlm.Posttrain.ChatSpans

/-!
# Attribution of a render

The four lists of a render are the columns of one list of tokens, and that list
is a block for every message with scaffold between the blocks.  Masks, spans,
counts and parsed responses follow from where the blocks lie.
-/

namespace CodingLlm

open StarCoder2CodingChatFormat

/-! ## Tokens -/

/-- A token of a render with what is known about it. -/
structure ChatToken where
  id : Int
  index : Int
  sampled : Bool
  content : Bool

/-- The four lists as columns. -/
def Emitted.ofTokens (tokens : List ChatToken) : Emitted where
  tokenIds := tokens.map ChatToken.id
  indices := tokens.map ChatToken.index
  sampled := tokens.map ChatToken.sampled
  contentMask := tokens.map ChatToken.content

theorem Emitted.emit_ofTokens
    (tokens : List ChatToken) (ids : List Int) (index : Int)
    (isSampled isContent : Bool) :
    (Emitted.ofTokens tokens).emit ids index isSampled isContent =
      Emitted.ofTokens
        (tokens ++ ids.map fun id => ⟨id, index, isSampled, isContent⟩) := by
  simp [Emitted.emit, Emitted.ofTokens, Function.comp_def]

/-- Tokens that belong to no message. -/
def gapTokens (ids : List Int) : List ChatToken :=
  ids.map fun id => ⟨id, -1, false, false⟩

namespace StarCoder2CodingChatFormat

variable (format : StarCoder2CodingChatFormat)

/-- The tokens of a message. -/
def messageTokens (index : Nat) (message : Role × List Int) :
    List ChatToken :=
  (format.openerIds message.1).map (fun id => ⟨id, index, false, false⟩) ++
    (message.2.map (fun id => ⟨id, index, message.1 = .assistant, true⟩) ++
      if message.1 = .assistant then
        [⟨CodingLlm.eosTokenId, index, true, true⟩]
      else [])

/-- The tokens of the messages from an index on. -/
def tokensFrom : Nat -> List (Role × List Int) -> List ChatToken
  | _, [] => []
  | index, message :: rest =>
      (if index = 0 then [] else gapTokens format.separatorIds) ++
        format.messageTokens index message ++ tokensFrom (index + 1) rest

/-- The tokens of a render. -/
def renderedTokens (encoded : List (Role × List Int))
    (addGenerationPrompt : Bool) : List ChatToken :=
  format.tokensFrom 0 encoded ++
    if addGenerationPrompt then gapTokens format.promptIds else []

variable {format}

theorem renderMessage_ofTokens
    {index : Nat} {tokens : List ChatToken} {message : Role × String}
    {bodyIds : List Int}
    (encodes : Encodes format.tokenizer message.2 bodyIds) :
    format.renderMessage index (Emitted.ofTokens tokens) message =
      .ok (Emitted.ofTokens (tokens ++
        ((if index = 0 then [] else gapTokens format.separatorIds) ++
          format.messageTokens index (message.1, bodyIds)))) := by
  rw [renderMessage_eq_ok encodes]
  unfold emitSeparator emitBody messageTokens gapTokens
  by_cases first : index = 0 <;> by_cases assistant : message.1 = .assistant <;>
    simp [first, assistant, Emitted.emit_ofTokens]

theorem renderFrom_ofTokens
    {index : Nat} {tokens : List ChatToken} {messages : List (Role × String)}
    {encoded : List (Role × List Int)}
    (bodies : format.EncodedMessages messages encoded) :
    format.renderFrom index (Emitted.ofTokens tokens) messages =
      .ok (Emitted.ofTokens (tokens ++ format.tokensFrom index encoded)) := by
  induction bodies generalizing index tokens with
  | nil => rw [tokensFrom, List.append_nil]; rfl
  | @cons message body messages encoded same _ inductionHypothesis =>
      obtain ⟨sameRole, encodes⟩ := same
      rw [renderFrom, renderMessage_ofTokens encodes, checked_ok_bind,
        inductionHypothesis, tokensFrom, ← sameRole]
      simp only [List.append_assoc]

/-- The lists of a render are the columns of its tokens. -/
structure IsColumns (rendered : RenderedChat) (tokens : List ChatToken) :
    Prop where
  tokenIds : rendered.tokenIds = tokens.map ChatToken.id
  messageIndices : rendered.messageIndices = tokens.map ChatToken.index
  sampledMask : rendered.sampledMask = tokens.map ChatToken.sampled
  isContent : rendered.isContent = tokens.map ChatToken.content

/-- What a render is made of. -/
theorem tokens_of_render
    {messages : List Message} {addGenerationPrompt : Bool}
    {rendered : RenderedChat}
    (ran : format.render messages addGenerationPrompt = .ok rendered) :
    ∃ normalised encoded, validateMessages messages = .ok normalised ∧
      format.EncodedMessages normalised encoded ∧
      rendered.messageRoles = encoded.map Prod.fst ∧
      IsColumns rendered
        (format.renderedTokens encoded addGenerationPrompt) := by
  obtain ⟨normalised, encoded, valid, prompted, bodies, -⟩ :=
    encoded_of_render ran
  have emitted := @renderFrom_ofTokens format 0 [] normalised encoded bodies
  rw [List.nil_append] at emitted
  have finished : format.emitGenerationPrompt addGenerationPrompt
      (Emitted.ofTokens (format.tokensFrom 0 encoded)) =
        Emitted.ofTokens
          (format.renderedTokens encoded addGenerationPrompt) := by
    unfold emitGenerationPrompt renderedTokens gapTokens promptIds
    cases addGenerationPrompt <;> simp [Emitted.emit_ofTokens]
  have roles : normalised.map Prod.fst = encoded.map Prod.fst := by
    clear valid prompted emitted finished
    induction bodies with
    | nil => rfl
    | cons same _ inductionHypothesis =>
        rw [List.map_cons, List.map_cons, same.1, inductionHypothesis]
  have start : (⟨[], [], [], []⟩ : Emitted) = Emitted.ofTokens [] := rfl
  simp only [render, valid, checked_ok_bind, require_bind prompted, start,
    emitted, finished] at ran
  rw [RenderedChat.create_eq_ok (by simp [Emitted.ofTokens]) (by simp)] at ran
  obtain rfl := Except.ok.inj ran
  exact ⟨normalised, encoded, valid, bodies, roles, rfl, rfl, rfl, rfl⟩

/-! ## Blocks -/

variable (format)

/-- Where a message starts. -/
def messageStart (encoded : List (Role × List Int)) (index : Nat) : Nat :=
  (format.conversationIds (encoded.take index)).length +
    if index = 0 then 0 else format.separatorIds.length

/-- Where the body of a message starts. -/
def bodyStart (encoded : List (Role × List Int)) (index : Nat)
    (role : Role) : Nat :=
  format.messageStart encoded index + (format.openerIds role).length

/-- Where a message stops. -/
def messageStop (encoded : List (Role × List Int)) (index : Nat) : Nat :=
  (format.conversationIds (encoded.take (index + 1))).length

variable {format}

theorem ids_messageTokens (index : Nat) (message : Role × List Int) :
    (format.messageTokens index message).map ChatToken.id =
      format.messageIds message := by
  unfold messageTokens messageIds
  by_cases assistant : message.1 = .assistant <;>
    simp [assistant, Function.comp_def]

theorem ids_tokensFrom (index : Nat) (encoded : List (Role × List Int)) :
    (format.tokensFrom index encoded).map ChatToken.id =
      format.idsFrom index encoded := by
  induction encoded generalizing index with
  | nil => unfold idsFrom; split <;> rfl
  | cons message rest inductionHypothesis =>
      rw [tokensFrom, idsFrom_cons, List.map_append, List.map_append,
        ids_messageTokens, inductionHypothesis]
      split <;> simp [gapTokens, Function.comp_def]

theorem length_tokensFrom (encoded : List (Role × List Int)) :
    (format.tokensFrom 0 encoded).length =
      (format.conversationIds encoded).length := by
  have ids := congrArg List.length
    (@ids_tokensFrom format 0 encoded)
  rwa [List.length_map] at ids

theorem tokensFrom_append
    (index : Nat) (front back : List (Role × List Int)) :
    format.tokensFrom index (front ++ back) =
      format.tokensFrom index front ++
        format.tokensFrom (index + front.length) back := by
  induction front generalizing index with
  | nil => rfl
  | cons message rest inductionHypothesis =>
      rw [List.cons_append, tokensFrom, tokensFrom, inductionHypothesis,
        List.length_cons]
      simp only [List.append_assoc]
      rw [Nat.add_right_comm, Nat.add_assoc]

theorem index_of_mem_messageTokens
    {index : Nat} {message : Role × List Int} {token : ChatToken}
    (member : token ∈ format.messageTokens index message) :
    token.index = index := by
  rcases List.mem_append.mp member with opener | rest
  · obtain ⟨id, -, rfl⟩ := List.mem_map.mp opener
    rfl
  · rcases List.mem_append.mp rest with body | terminal
    · obtain ⟨id, -, rfl⟩ := List.mem_map.mp body
      rfl
    · split at terminal
      · rw [List.mem_singleton.mp terminal]
      · exact absurd terminal List.not_mem_nil

/-- A token belongs to a message, or to no message and is scaffold. -/
theorem mem_tokensFrom
    {index : Nat} {encoded : List (Role × List Int)} {token : ChatToken}
    (member : token ∈ format.tokensFrom index encoded) :
    token ∈ gapTokens format.separatorIds ∨
      ∃ offset message, encoded[offset]? = some message ∧
        token ∈ format.messageTokens (index + offset) message := by
  induction encoded generalizing index with
  | nil => exact absurd member List.not_mem_nil
  | cons message rest inductionHypothesis =>
      rw [tokensFrom, List.append_assoc, List.mem_append,
        List.mem_append] at member
      rcases member with gap | here | later
      · split at gap
        · exact absurd gap List.not_mem_nil
        · exact .inl gap
      · exact .inr ⟨0, message, rfl, here⟩
      · rcases inductionHypothesis later with gap | ⟨offset, other, there, block⟩
        · exact .inl gap
        · refine .inr ⟨offset + 1, other, there, ?_⟩
          rwa [Nat.add_right_comm, Nat.add_assoc] at block

theorem mem_renderedTokens
    {encoded : List (Role × List Int)} {addGenerationPrompt : Bool}
    {token : ChatToken}
    (member : token ∈ format.renderedTokens encoded addGenerationPrompt) :
    (∃ ids, (ids = format.separatorIds ∨ ids = format.promptIds) ∧
        token ∈ gapTokens ids) ∨
      ∃ index message, encoded[index]? = some message ∧
        token ∈ format.messageTokens index message := by
  rcases List.mem_append.mp member with inside | prompt
  · rcases mem_tokensFrom inside with gap | ⟨index, message, there, block⟩
    · exact .inl ⟨_, .inl rfl, gap⟩
    · rw [Nat.zero_add] at block
      exact .inr ⟨index, message, there, block⟩
  · split at prompt
    · exact .inl ⟨_, .inr rfl, prompt⟩
    · exact absurd prompt List.not_mem_nil

/-- The tokens from an index on belong to no earlier message. -/
theorem index_tokensFrom
    {index : Nat} {encoded : List (Role × List Int)} {token : ChatToken}
    (member : token ∈ format.tokensFrom index encoded) :
    token.index = -1 ∨
      (index : Int) ≤ token.index ∧ token.index < index + encoded.length := by
  rcases mem_tokensFrom member with gap | ⟨offset, message, there, block⟩
  · obtain ⟨id, -, rfl⟩ := List.mem_map.mp gap
    exact .inl rfl
  · have inside := (List.getElem?_eq_some_iff.mp there).1
    rw [index_of_mem_messageTokens block]
    right
    omega

/-- The block of a message among the tokens of a render. -/
theorem renderedTokens_split
    {encoded : List (Role × List Int)} {addGenerationPrompt : Bool}
    {index : Nat} {message : Role × List Int}
    (there : encoded[index]? = some message) :
    ∃ before after,
      format.renderedTokens encoded addGenerationPrompt =
        before ++ format.messageTokens index message ++ after ∧
      before.length = format.messageStart encoded index ∧
      (∀ token ∈ before, token.index ≠ index) ∧
      ∀ token ∈ after, token.index ≠ index := by
  obtain ⟨inside, isMessage⟩ := List.getElem?_eq_some_iff.mp there
  have size : (encoded.take index).length = index :=
    List.length_take_of_le inside.le
  have parted : encoded =
      encoded.take index ++ message :: encoded.drop (index + 1) := by
    rw [← isMessage, List.getElem_cons_drop, List.take_append_drop]
  have blocks : format.tokensFrom 0 encoded =
      format.tokensFrom 0 (encoded.take index) ++
        ((if index = 0 then [] else gapTokens format.separatorIds) ++
          format.messageTokens index message ++
            format.tokensFrom (index + 1) (encoded.drop (index + 1))) := by
    conv_lhs => rw [parted]
    rw [tokensFrom_append, tokensFrom, size, Nat.zero_add]
  refine ⟨format.tokensFrom 0 (encoded.take index) ++
      (if index = 0 then [] else gapTokens format.separatorIds),
    format.tokensFrom (index + 1) (encoded.drop (index + 1)) ++
      (if addGenerationPrompt then gapTokens format.promptIds else []),
    ?_, ?_, ?_, ?_⟩
  · rw [renderedTokens, blocks]
    simp only [List.append_assoc]
  · rw [List.length_append, length_tokensFrom, messageStart]
    split <;> simp [gapTokens]
  · intro token member
    rcases List.mem_append.mp member with earlier | gap
    · rcases index_tokensFrom earlier with scaffold | ⟨-, below⟩ <;> omega
    · split at gap
      · exact absurd gap List.not_mem_nil
      · obtain ⟨id, -, rfl⟩ := List.mem_map.mp gap
        dsimp only
        omega
  · intro token member
    rcases List.mem_append.mp member with later | prompt
    · rcases index_tokensFrom later with scaffold | ⟨above, -⟩ <;> omega
    · split at prompt
      · obtain ⟨id, -, rfl⟩ := List.mem_map.mp prompt
        dsimp only
        omega
      · exact absurd prompt List.not_mem_nil

theorem length_conversationIds_take_succ
    {encoded : List (Role × List Int)} {index : Nat}
    {message : Role × List Int} (there : encoded[index]? = some message) :
    format.messageStop encoded index = format.messageStart encoded index +
      (format.messageIds message).length := by
  obtain ⟨inside, isMessage⟩ := List.getElem?_eq_some_iff.mp there
  unfold messageStop messageStart
  rw [List.take_add_one, there, Option.toList_some]
  by_cases first : index = 0
  · subst first
    simp [conversationIds]
  · have nonempty : encoded.take index ≠ [] := by
      rw [ne_eq, List.take_eq_nil_iff, not_or]
      exact ⟨first, List.ne_nil_of_length_pos (by omega)⟩
    rw [conversationIds_append format nonempty, if_neg first]
    simp [turnIds, Nat.add_assoc]

/-- Messages lie one after the other. -/
theorem messageStop_le_start
    {encoded : List (Role × List Int)} {index other : Nat}
    (before : index < other) (inside : other < encoded.length) :
    format.messageStop encoded index ≤
      format.messageStart encoded other := by
  induction other, before using Nat.le_induction with
  | base => exact Nat.le_add_right _ _
  | succ other _ inductionHypothesis =>
      have earlier := inductionHypothesis (Nat.lt_of_succ_lt inside)
      have there : encoded[other]? = some encoded[other] :=
        List.getElem?_eq_getElem _
      have stops := @length_conversationIds_take_succ format encoded other _
        there
      have starts : format.messageStop encoded other ≤
          format.messageStart encoded (other + 1) := by
        unfold messageStop messageStart
        omega
      omega

section Offsets

variable {encoded : List (Role × List Int)} {addGenerationPrompt : Bool}
variable {index offset : Nat} {message : Role × List Int}

/-- Between its start and its stop a render has the tokens of a message. -/
theorem getElem?_renderedTokens
    (there : encoded[index]? = some message)
    (after : format.messageStart encoded index ≤ offset)
    (before : offset < format.messageStop encoded index) :
    (format.renderedTokens encoded addGenerationPrompt)[offset]? =
      (format.messageTokens index message)[
        offset - format.messageStart encoded index]? := by
  obtain ⟨front, back, whole, size, -, -⟩ :=
    @renderedTokens_split format encoded addGenerationPrompt index message there
  have stops := @length_conversationIds_take_succ format encoded index message
    there
  have length := congrArg List.length (@ids_messageTokens format index message)
  rw [List.length_map] at length
  rw [whole, List.append_assoc, List.getElem?_append_right (by omega), size,
    List.getElem?_append_left (by omega)]

/-- The tokens of a message are nowhere else. -/
theorem inside_of_index
    (there : encoded[index]? = some message) {token : ChatToken}
    (found : (format.renderedTokens encoded addGenerationPrompt)[offset]? =
      some token)
    (belongs : token.index = index) :
    format.messageStart encoded index ≤ offset ∧
      offset < format.messageStop encoded index := by
  obtain ⟨front, back, whole, size, others, rest⟩ :=
    @renderedTokens_split format encoded addGenerationPrompt index message there
  have stops := @length_conversationIds_take_succ format encoded index message
    there
  have length := congrArg List.length (@ids_messageTokens format index message)
  rw [List.length_map] at length
  rw [whole, List.append_assoc] at found
  by_cases after : front.length ≤ offset
  · rw [List.getElem?_append_right after] at found
    by_cases before :
        offset - front.length < (format.messageTokens index message).length
    · omega
    · rw [List.getElem?_append_right (Nat.le_of_not_lt before)] at found
      exact absurd belongs (rest token (List.mem_of_getElem? found))
  · rw [List.getElem?_append_left (by omega)] at found
    exact absurd belongs (others token (List.mem_of_getElem? found))

/-- A message is attributed what lies between its start and its stop. -/
theorem index_iff (there : encoded[index]? = some message) :
    ((format.renderedTokens encoded addGenerationPrompt).map
        ChatToken.index)[offset]? = some (index : Int) ↔
      format.messageStart encoded index ≤ offset ∧
        offset < format.messageStop encoded index := by
  rw [List.getElem?_map, Option.map_eq_some_iff]
  constructor
  · rintro ⟨token, found, belongs⟩
    exact inside_of_index there found belongs
  · rintro ⟨after, before⟩
    have stops := @length_conversationIds_take_succ format encoded index message
      there
    have length :=
      congrArg List.length (@ids_messageTokens format index message)
    rw [List.length_map] at length
    have found := @getElem?_renderedTokens format encoded addGenerationPrompt
      index offset message there after before
    have inner : offset - format.messageStart encoded index <
        (format.messageTokens index message).length := by omega
    rw [List.getElem?_eq_getElem inner] at found
    exact ⟨_, found, index_of_mem_messageTokens (List.getElem_mem _)⟩

theorem sampled_messageTokens :
    ((format.messageTokens index message).map ChatToken.sampled)[offset]? =
        some true ↔
      message.1 = .assistant ∧ (format.openerIds message.1).length ≤ offset ∧
        offset ≤ (format.openerIds message.1).length + message.2.length := by
  have columns : (format.messageTokens index message).map ChatToken.sampled =
      List.replicate (format.openerIds message.1).length false ++
        (List.replicate message.2.length (decide (message.1 = .assistant)) ++
          if message.1 = .assistant then [true] else []) := by
    unfold messageTokens
    split <;> simp [Function.comp_def]
  rw [columns, List.getElem?_append, List.length_replicate,
    List.getElem?_append, List.length_replicate]
  by_cases opener : offset < (format.openerIds message.1).length
  · rw [if_pos opener, List.getElem?_replicate_of_lt opener]
    simp only [Option.some.injEq, Bool.false_eq_true, false_iff]
    omega
  · rw [if_neg opener]
    split
    · rename_i body
      rw [List.getElem?_replicate_of_lt body, Option.some.injEq,
        decide_eq_true_eq]
      constructor
      · exact fun assistant => ⟨assistant, by omega, by omega⟩
      · exact fun sampled => sampled.1
    · rename_i beyond
      split
      · rename_i assistant
        rw [List.getElem?_singleton]
        split
        · exact iff_of_true rfl ⟨assistant, by omega, by omega⟩
        · exact iff_of_false (Option.some_ne_none _).symm
            fun sampled => absurd sampled.2.2 (by omega)
      · rename_i other
        simp [other]

theorem eos_messageIds
    (positive : ∀ role, ∀ id ∈ format.openerIds role, 0 < id)
    (bodyPositive : ∀ id ∈ message.2, 0 < id) :
    (format.messageIds message)[offset]? = some CodingLlm.eosTokenId ↔
      message.1 = .assistant ∧
        offset = (format.openerIds message.1).length + message.2.length := by
  have scaffold : CodingLlm.eosTokenId ∉
      format.openerIds message.1 ++ message.2 := by
    intro member
    rcases List.mem_append.mp member with opener | body
    · exact absurd (positive _ _ opener) (Int.lt_irrefl 0)
    · exact absurd (bodyPositive _ body) (Int.lt_irrefl 0)
  unfold messageIds
  rw [List.getElem?_append]
  split
  · rename_i inside
    rw [List.length_append] at inside
    constructor
    · exact fun found => absurd (List.mem_of_getElem? found) scaffold
    · rintro ⟨-, atEnd⟩
      omega
  · rename_i beyond
    rw [List.length_append] at beyond ⊢
    split
    · rename_i assistant
      rw [List.getElem?_singleton]
      split
      · exact iff_of_true rfl ⟨assistant, by omega⟩
      · exact iff_of_false (Option.some_ne_none _).symm
          fun closes => absurd closes.2 (by omega)
    · rename_i other
      simp [other]

/-- A column of a render between the start and the stop of a message. -/
theorem getElem?_column {β : Type*} (column : ChatToken -> β)
    (there : encoded[index]? = some message)
    (after : format.messageStart encoded index ≤ offset)
    (before : offset < format.messageStop encoded index) :
    ((format.renderedTokens encoded addGenerationPrompt).map column)[offset]? =
      ((format.messageTokens index message).map column)[
        offset - format.messageStart encoded index]? := by
  rw [List.getElem?_map, getElem?_renderedTokens there after before,
    List.getElem?_map]

/-- Every token is scaffold or lies in the interval of a message. -/
theorem located {token : ChatToken}
    (found : (format.renderedTokens encoded addGenerationPrompt)[offset]? =
      some token) :
    (∃ ids, (ids = format.separatorIds ∨ ids = format.promptIds) ∧
        token ∈ gapTokens ids) ∨
      ∃ (index : Nat) (message : Role × List Int),
        encoded[index]? = some message ∧
        token.index = index ∧ format.messageStart encoded index ≤ offset ∧
        offset < format.messageStop encoded index := by
  rcases mem_renderedTokens (List.mem_of_getElem? found) with
    gap | ⟨index, message, there, block⟩
  · exact .inl gap
  · have belongs := index_of_mem_messageTokens block
    exact .inr ⟨index, message, there, belongs,
      inside_of_index there found belongs⟩

end Offsets

/-- Scaffold never contains the terminal token. -/
theorem positive_of_create
    {tokenizer : TokenizerLike} {format : StarCoder2CodingChatFormat}
    (created : StarCoder2CodingChatFormat.create tokenizer = .ok format) :
    (∀ id ∈ format.separatorIds, 0 < id) ∧
      ∀ role, ∀ id ∈ format.openerIds role, 0 < id := by
  simp only [StarCoder2CodingChatFormat.create, checked_bind_eq_ok,
    exists_require, checked_pure_eq_ok, encode_eq_ok] at created
  obtain ⟨-, separator, separates, system, isSystem, user, isUser, assistant,
    isAssistant, -, rfl⟩ := created
  refine ⟨separates.positive, ?_⟩
  rintro (_ | _ | _)
  · exact isSystem.positive
  · exact isUser.positive
  · exact isAssistant.positive

end StarCoder2CodingChatFormat

/-! ## Exact attribution -/

/-- Every list of a render says the same about which tokens were sampled and
whose they are.  The bodies of the conversation are given as encoded. -/
structure ExactAttribution
    (format : StarCoder2CodingChatFormat) (tokenizer : TokenizerDecode)
    (encoded : List (Role × List Int)) (rendered : RenderedChat) : Prop where
  /-- Exactly the assistant's bodies and their terminal tokens are sampled. -/
  sampled : ∀ offset, rendered.sampledMask[offset]? = some true ↔
    ∃ index body, encoded[index]? = some (.assistant, body) ∧
      format.bodyStart encoded index .assistant ≤ offset ∧
      offset ≤ format.bodyStart encoded index .assistant + body.length
  /-- The terminal token closes every message of the assistant. -/
  terminal : ∀ offset, rendered.tokenIds[offset]? = some eosTokenId ↔
    ∃ index body, encoded[index]? = some (.assistant, body) ∧
      offset = format.bodyStart encoded index .assistant + body.length ∧
      offset + 1 = format.messageStop encoded index
  /-- A message is attributed an interval of tokens. -/
  attributed : ∀ index < encoded.length, ∀ offset,
    rendered.messageIndices[offset]? = some (index : Int) ↔
      format.messageStart encoded index ≤ offset ∧
        offset < format.messageStop encoded index
  /-- What is attributed to no message is scaffold. -/
  labelled : ∀ (offset : Nat) (label : Int),
    rendered.messageIndices[offset]? = some label ->
    label = -1 ∨ ∃ index < encoded.length, label = index
  /-- The interval of a message holds opener, body and terminal token. -/
  ids : ∀ index message, encoded[index]? = some message ->
    (rendered.tokenIds.drop (format.messageStart encoded index)).take
        (format.messageStop encoded index -
          format.messageStart encoded index) = format.messageIds message
  /-- The span of a message is its interval. -/
  spans : ∀ index < encoded.length, rendered.messageTokenSpans[index]? =
    some (if format.messageStart encoded index <
        format.messageStop encoded index then
      some ((format.messageStart encoded index : Int),
        (format.messageStop encoded index : Int))
    else none)
  spanCount : rendered.messageTokenSpans.length = encoded.length
  /-- Intervals are disjoint, in the order of the messages. -/
  ordered : ∀ index other, index < other -> other < encoded.length ->
    format.messageStop encoded index ≤ format.messageStart encoded other
  /-- Counting by message counts every sampled token. -/
  counted : (rendered.tokensPerMessage none true).sum =
    rendered.sampledMask.count true
  /-- What was sampled for a message parses to its body. -/
  parsed : ∀ (index : Nat) body, encoded[index]? = some (.assistant, body) ->
    rendered.sampledIds index = body ++ [eosTokenId] ∧
      ∀ further, parseResponse tokenizer
          ((rendered.sampledIds index).map EncodedId.int ++ further) =
        (decode tokenizer body).map fun content => { content }

section Exactness

variable {format : StarCoder2CodingChatFormat} {tokenizer : TokenizerDecode}
variable {encoded : List (Role × List Int)} {addGenerationPrompt : Bool}

/-- Sampled tokens belong to messages. -/
theorem index_of_sampled {token : ChatToken}
    (member : token ∈ format.renderedTokens encoded addGenerationPrompt)
    (sampled : token.sampled = true) :
    0 ≤ token.index ∧ token.index < (encoded.length : Int) := by
  rcases mem_renderedTokens member with
    ⟨ids, -, gap⟩ | ⟨index, message, there, block⟩
  · obtain ⟨id, -, rfl⟩ := List.mem_map.mp gap
    cases sampled
  · have inside := (List.getElem?_eq_some_iff.mp there).1
    rw [index_of_mem_messageTokens block]
    omega

/-- The sampled tokens of an assistant's message are its body and the terminal
token. -/
theorem filter_renderedTokens
    {index : Nat} {body : List Int}
    (there : encoded[index]? = some (.assistant, body)) :
    ((format.renderedTokens encoded addGenerationPrompt).filter fun token =>
        token.index = (index : Int) ∧ token.sampled = true).map ChatToken.id =
      body ++ [eosTokenId] := by
  obtain ⟨before, after, whole, -, others, rest⟩ :=
    @renderedTokens_split format encoded addGenerationPrompt index _ there
  have noneBefore : (before.filter fun token =>
      token.index = (index : Int) ∧ token.sampled = true) = [] := by
    rw [List.filter_eq_nil_iff]
    intro token member
    simp [others token member]
  have noneAfter : (after.filter fun token =>
      token.index = (index : Int) ∧ token.sampled = true) = [] := by
    rw [List.filter_eq_nil_iff]
    intro token member
    simp [rest token member]
  rw [whole, List.filter_append, List.filter_append, noneBefore, noneAfter,
    List.nil_append, List.append_nil]
  simp [messageTokens, List.filter_map, Function.comp_def]

/-- A render with such columns attributes its tokens exactly. -/
theorem exactAttribution_of_columns
    {rendered : RenderedChat}
    (openers : ∀ role, ∀ id ∈ format.openerIds role, 0 < id)
    (separators : ∀ id ∈ format.separatorIds, 0 < id)
    (bodies : ∀ message ∈ encoded, ∀ id ∈ message.2, 0 < id)
    (roles : rendered.messageRoles = encoded.map Prod.fst)
    (columns : IsColumns rendered
      (format.renderedTokens encoded addGenerationPrompt)) :
    ExactAttribution format tokenizer encoded rendered := by
  have size : rendered.messageRoles.length = encoded.length := by
    rw [roles, List.length_map]
  have attributed : ∀ index < encoded.length, ∀ offset,
      rendered.messageIndices[offset]? = some (index : Int) ↔
        format.messageStart encoded index ≤ offset ∧
          offset < format.messageStop encoded index := by
    intro index inside offset
    rw [columns.messageIndices]
    exact index_iff (List.getElem?_eq_getElem inside)
  constructor
  case attributed => exact attributed
  case ordered => exact fun _ _ => messageStop_le_start
  case spans =>
    intro index inside
    exact RenderedChat.getElem?_messageTokenSpans (size.symm ▸ inside)
      (attributed index inside)
  case spanCount =>
    have found := RenderedChat.found_spanEnds rendered.messageRoles.length
      rendered.messageIndices
    rw [RenderedChat.messageTokenSpans, RenderedChat.SpanEnds.spans,
      List.length_zipWith, found.firstLength, found.lastLength, Nat.min_self,
      size]
  case sampled =>
    intro offset
    rw [columns.sampledMask]
    constructor
    · intro sampled
      obtain ⟨token, found, isSampled⟩ := Option.map_eq_some_iff.mp
        (List.getElem?_map ▸ sampled)
      rcases located found with
        ⟨ids, -, gap⟩ | ⟨index, ⟨role, body⟩, there, -, after, before⟩
      · obtain ⟨id, -, rfl⟩ := List.mem_map.mp gap
        cases isSampled
      · rw [getElem?_column _ there after before,
          sampled_messageTokens] at sampled
        obtain ⟨rfl, opened, closed⟩ := sampled
        dsimp only at opened closed
        refine ⟨index, body, there, ?_, ?_⟩ <;> unfold bodyStart <;> omega
    · rintro ⟨index, body, there, opened, closed⟩
      unfold bodyStart at opened closed
      have stops := @length_conversationIds_take_succ format encoded index _
        there
      have length : (format.messageIds (.assistant, body)).length =
          (format.openerIds .assistant).length + body.length + 1 := by
        simp [messageIds]; omega
      rw [getElem?_column _ there (by omega) (by omega),
        sampled_messageTokens]
      dsimp only
      exact ⟨rfl, by omega, by omega⟩
  case terminal =>
    intro offset
    rw [columns.tokenIds]
    have closes (index : Nat) (body : List Int)
        (there : encoded[index]? = some (.assistant, body)) :
        format.bodyStart encoded index .assistant + body.length + 1 =
          format.messageStop encoded index := by
      rw [length_conversationIds_take_succ there]
      simp [messageIds, bodyStart]; omega
    constructor
    · intro terminal
      obtain ⟨token, found, isTerminal⟩ := Option.map_eq_some_iff.mp
        (List.getElem?_map ▸ terminal)
      rcases located found with
        ⟨ids, scaffold, gap⟩ | ⟨index, ⟨role, body⟩, there, -, after, before⟩
      · obtain ⟨id, member, rfl⟩ := List.mem_map.mp gap
        dsimp only at isTerminal
        subst isTerminal
        have positive : 0 < eosTokenId := by
          rcases scaffold with rfl | rfl
          · exact separators _ member
          · rcases List.mem_append.mp member with separator | opener
            · exact separators _ separator
            · exact openers _ _ opener
        exact absurd positive (Int.lt_irrefl 0)
      · rw [getElem?_column _ there after before, ids_messageTokens,
          eos_messageIds openers (bodies _ (List.mem_of_getElem? there))]
          at terminal
        obtain ⟨rfl, atEnd⟩ := terminal
        have last := closes index body there
        have place : offset =
            format.bodyStart encoded index .assistant + body.length := by
          unfold bodyStart
          dsimp only at atEnd
          omega
        exact ⟨index, body, there, place, by omega⟩
    · rintro ⟨index, body, there, place, last⟩
      unfold bodyStart at place
      rw [getElem?_column _ there (by omega) (by omega), ids_messageTokens,
        eos_messageIds openers (bodies _ (List.mem_of_getElem? there))]
      exact ⟨rfl, by dsimp only; omega⟩
  case labelled =>
    intro offset label found
    rw [columns.messageIndices, List.getElem?_map,
      Option.map_eq_some_iff] at found
    obtain ⟨token, found, rfl⟩ := found
    rcases located found with
      ⟨ids, -, gap⟩ | ⟨index, message, there, belongs, -, -⟩
    · obtain ⟨id, -, rfl⟩ := List.mem_map.mp gap
      exact .inl rfl
    · exact .inr ⟨index, (List.getElem?_eq_some_iff.mp there).1, belongs⟩
  case ids =>
    intro index message there
    obtain ⟨before, after, whole, length, -, -⟩ :=
      @renderedTokens_split format encoded addGenerationPrompt index _ there
    have stops := @length_conversationIds_take_succ format encoded index _
      there
    rw [columns.tokenIds, whole, stops, List.map_append, List.map_append,
      ids_messageTokens, List.append_assoc, ← length, Nat.add_sub_cancel_left,
      List.drop_left' (List.length_map _), List.take_left]
  case counted =>
    have zipped : rendered.messageIndices.zip rendered.sampledMask =
        (format.renderedTokens encoded addGenerationPrompt).map fun token =>
          (token.index, token.sampled) := by
      rw [columns.messageIndices, columns.sampledMask, List.zip_map']
    have count : min (max (((none : Option Int).getD
        (rendered.messageRoles.length : Int))) 0)
          (rendered.messageRoles.length : Int) = (encoded.length : Int) := by
      rw [Option.getD_none, size]
      omega
    unfold RenderedChat.tokensPerMessage
    dsimp only
    rw [count, Int.toNat_natCast,
      RenderedChat.sum_countTokens List.length_replicate, List.sum_replicate_nat,
      Nat.mul_zero, Nat.zero_add, zipped, List.countP_map, columns.sampledMask,
      List.count, List.countP_map]
    refine List.countP_congr ?_
    intro token member
    simp only [Function.comp_apply, Bool.not_true, Bool.false_or,
      Bool.and_eq_true, decide_eq_true_eq, beq_iff_eq]
    exact ⟨fun both => both.2,
      fun sampled => ⟨index_of_sampled member sampled, sampled⟩⟩
  case parsed =>
    intro index body there
    have sampledIds : rendered.sampledIds index = body ++ [eosTokenId] := by
      rw [← filter_renderedTokens there, RenderedChat.sampledIds,
        columns.tokenIds, columns.messageIndices, columns.sampledMask,
        List.zip_map', List.zip_map', List.filter_map, List.map_map]
      rfl
    refine ⟨sampledIds, fun further => ?_⟩
    rw [sampledIds]
    exact parseResponse_eos tokenizer
      (bodies _ (List.mem_of_getElem? there)) further

end Exactness

/-- Renders are attributed exactly, and with a tokenizer that never emits the
terminal token every valid conversation has one. -/
theorem chat_attribution
    {tokenizer : TokenizerLike} {format : StarCoder2CodingChatFormat}
    (created : StarCoder2CodingChatFormat.create tokenizer = .ok format)
    (decoder : TokenizerDecode) :
    (∀ messages addGenerationPrompt rendered,
      format.render messages addGenerationPrompt = .ok rendered ->
        ∃ normalised encoded, validateMessages messages = .ok normalised ∧
          format.EncodedMessages normalised encoded ∧
          ExactAttribution format decoder encoded rendered) ∧
    (tokenizer.NeverEmitsEos ->
      ∀ messages normalised addGenerationPrompt,
        validateMessages messages = .ok normalised ->
        (addGenerationPrompt = true ->
          normalised.getLast?.map Prod.fst = some .user) ->
        ∃ rendered,
          format.render messages addGenerationPrompt = .ok rendered) := by
  obtain ⟨separators, openers⟩ := positive_of_create created
  constructor
  · intro messages addGenerationPrompt rendered ran
    obtain ⟨normalised, encoded, valid, bodies, roles, columns⟩ :=
      tokens_of_render ran
    have positive : ∀ message ∈ encoded, ∀ id ∈ message.2, 0 < id := by
      clear roles columns valid
      induction bodies with
      | nil => exact List.forall_mem_nil _
      | cons same _ inductionHypothesis =>
          exact List.forall_mem_cons.mpr
            ⟨same.2.positive, inductionHypothesis⟩
    exact ⟨normalised, encoded, valid, bodies,
      exactAttribution_of_columns openers separators positive roles columns⟩
  · intro never messages normalised addGenerationPrompt valid prompted
    have bound : format.tokenizer = tokenizer := create_tokenizer created
    exact render_succeeds (bound.symm ▸ never) valid prompted

theorem characterFormat_created :
    (StarCoder2CodingChatFormat.create characterTokenizer).isOk = true := by
  decide +kernel

/-- The inverse of `characterTokenizer`. -/
def characterDecode : TokenizerDecode where
  decodeVerbatim := fun ids =>
    .ok (.text (String.ofList (ids.map fun id => Char.ofNat (id.toNat - 1))))
  decodeSpecial := fun _ => .error (.typeError "unexpected call")
  decodePlain := fun _ => .error (.typeError "unexpected call")

theorem chat_attribution_character :
    ∃ format rendered encoded,
      StarCoder2CodingChatFormat.create characterTokenizer = .ok format ∧
      format.render [userMessage "question", assistantMessage "answer"] false =
        .ok rendered ∧
      ExactAttribution format characterDecode encoded rendered := by
  obtain ⟨format, created⟩ := exists_of_isOk characterFormat_created
  have attribution := chat_attribution created characterDecode
  have valid : validateMessages
      [userMessage "question", assistantMessage "answer"] =
        .ok [(.user, "question"), (.assistant, "answer")] := by
    decide +kernel
  obtain ⟨rendered, ran⟩ := attribution.2 characterTokenizer_never _ _ false
    valid Bool.noConfusion
  obtain ⟨-, encoded, -, -, attributed⟩ := attribution.1 _ _ _ ran
  exact ⟨format, rendered, encoded, created, ran, attributed⟩

end CodingLlm
