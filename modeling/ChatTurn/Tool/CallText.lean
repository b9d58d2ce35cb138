import ChatTurn.Tool.FunctionTag

namespace ChatTurn

namespace CallText

def parse (raw : List Char) : Except MalformedCall (List Invocation) :=
  let cs := Text.trim raw
  if cs.isEmpty then .error ⟨String.ofList raw, .empty⟩
  else if Text.startsWith FunctionTag.opening cs then
    match FunctionTag.extract cs with
    | .error e => .error e
    | .ok (prose, calls) =>
      if Text.isBlank prose then .ok calls else .error ⟨String.ofList raw, .textAroundTag⟩
  else if Text.startsWith ['{'] cs then (JsonCall.parse cs).map ([·])
  else if Text.startsWith ['['] cs then CallExpression.list cs
  else (CallExpression.builtin cs).map ([·])

end CallText

end ChatTurn
