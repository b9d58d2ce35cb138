import ChatTurn.Codec.Message
import ChatTurn.Request

namespace ChatTurn

open Json (Reader Value)

namespace Sampling

def ofUInt32 (n : UInt32) : Value := .number (.integer n.toNat)

def toJson (s : Sampling) : Value :=
  .object <| Json.field? "temperature" (s.temperature.map Value.ofDouble) ++
    Json.field? "top_p" (s.topP.map Value.ofDouble) ++
    Json.field? "top_k" (s.topK.map ofUInt32) ++
    Json.field? "max_tokens" (s.maxTokens.map ofUInt32) ++
    Json.field? "repetition_penalty" (s.repetitionPenalty.map Value.ofDouble)

def read : Reader Sampling := fun p n => do
  let names := ["temperature", "top_p", "top_k", "max_tokens", "repetition_penalty"]
  let r ← Json.Record.ofNode names p n
  let temperature ← r.optional "temperature" Reader.double
  let topP ← r.optional "top_p" Reader.double
  let topK ← r.optional "top_k" Reader.uint32
  let maxTokens ← r.optional "max_tokens" Reader.uint32
  let repetitionPenalty ← r.optional "repetition_penalty" Reader.double
  some ⟨temperature, topP, topK, maxTokens, repetitionPenalty⟩

end Sampling

namespace Request

def toJson (r : Request) : Value :=
  .object <| [("model", .string r.model), ("messages", .array (r.messages.map Message.toJson)),
      ("sampling_params", r.sampling.toJson)] ++
    (if r.tools.isEmpty then [] else [("tools", .array (r.tools.map ToolDefinition.toJson))]) ++
    Json.field? "tool_prompt_format" (r.format.map PromptFormat.toJson) ++
    [("stream", .bool r.stream)]

def read : Reader Request := fun p n => do
  let names := ["model", "messages", "sampling_params", "tools", "tool_prompt_format", "stream"]
  let r ← Json.Record.ofNode names p n
  let model ← r.required "model" Reader.string
  let messages ← r.required "messages" (Reader.list Message.read)
  let sampling ← r.defaulted "sampling_params" {} Sampling.read
  let tools ← r.defaulted "tools" [] (Reader.list ToolDefinition.read)
  let format ← r.optional "tool_prompt_format" PromptFormat.read
  let stream ← r.defaulted "stream" false Reader.bool
  some ⟨model, messages, sampling, tools, format, stream⟩

end Request

end ChatTurn
