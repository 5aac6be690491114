import CodingLlm.Posttrain.ChatFormat

/-!
# The renderer and its bridge

`posttrain/prime/renderer.py` without the pinned package around it: a completed
turn is extended by list surgery on its token ids instead of a new render.
-/

namespace CodingLlm

/-- `StarCoder2CodingRenderer`. -/
structure StarCoder2CodingRenderer where
  format : StarCoder2CodingChatFormat

namespace StarCoder2CodingRenderer

/-- `StarCoder2CodingRenderer.__init__`. -/
def create (tokenizer : TokenizerLike) : Checked StarCoder2CodingRenderer := do
  let format ← StarCoder2CodingChatFormat.create tokenizer
  return ⟨format⟩

/-- `_reject_tools`, given whether there are tools. -/
def rejectTools (hasTools : Bool) : Checked Unit := do
  let _ ← require (hasTools = false) (chatFormatError
    "starcoder2-coding-chat-v1 has no tool-call grammar; tools must be empty")
  return ()

/-- `render`. -/
def render (renderer : StarCoder2CodingRenderer) (messages : List Message)
    (hasTools addGenerationPrompt : Bool) : Checked RenderedChat := do
  rejectTools hasTools
  renderer.format.render messages addGenerationPrompt

/-- `eos_positions`. -/
def eosPositions (completion : List Int) : List Nat :=
  (completion.zipIdx.filter fun token => token.1 = eosTokenId).map Prod.snd

/-- Whether the only new message is a user's. -/
def isUserMessage : Message -> Bool
  | .mapping (.str name) _ => name = "user"
  | _ => false

/-- Whether a prompt ends with the generation prompt. -/
def endsWithPrompt (generationPrompt promptIds : List Int) : Bool :=
  decide (generationPrompt.length ≤ promptIds.length) &&
    promptIds.drop (promptIds.length - generationPrompt.length) ==
      generationPrompt

/-- Prompt and completion, closed if the completion was truncated. -/
def closeTurn (promptIds completionIds : List Int) : List Int :=
  let previous := promptIds ++ completionIds
  if eosPositions completionIds = [] then previous ++ [eosTokenId]
  else previous

/-- The render after the closed turn. -/
def extendRender (format : StarCoder2CodingChatFormat) (previous : List Int)
    (extension : RenderedChat) : Checked RenderedChat :=
  let tokenIds := previous ++ format.separatorIds ++ extension.tokenIds
  let priorScaffold := previous.length + format.separatorIds.length
  RenderedChat.create tokenIds
    (List.replicate priorScaffold (-1) ++ extension.messageIndices)
    (List.replicate tokenIds.length false)
    (List.replicate priorScaffold false ++ extension.isContent)
    extension.messageRoles extension.messageToolNames

/-- The conditions under which a turn is extended at all. -/
def bridgeable (format : StarCoder2CodingChatFormat)
    (promptIds completionIds : List Int) (newMessages : List Message) : Bool :=
  match newMessages with
  | [message] =>
      !promptIds.isEmpty && isUserMessage message &&
        endsWithPrompt format.generationPromptIds promptIds &&
        (eosPositions completionIds == [] ||
          eosPositions completionIds == [completionIds.length - 1])
  | _ => false

/-- `bridge_to_next_turn`; `none` asks for a full render. -/
def bridgeToNextTurn (renderer : StarCoder2CodingRenderer)
    (promptIds completionIds : List Int) (newMessages : List Message)
    (hasTools : Bool) : Checked (Option RenderedChat) := do
  rejectTools hasTools
  if bridgeable renderer.format promptIds completionIds newMessages then
    match renderer.format.render newMessages true with
    | .error error =>
        if error.errorClass = .chatFormatError then return none
        else .error error
    | .ok extension => do
        let bridged ← extendRender renderer.format
          (closeTurn promptIds completionIds) extension
        return some bridged
  else return none

end StarCoder2CodingRenderer

end CodingLlm
