namespace ChatTurn

inductive CallFault
  | empty
  | textAroundTag
  | unterminatedTag
  | notATag
  | openTagName
  | functionName (name : String)
  | json
  | notAnObject
  | noName
  | parameters
  | argumentsJson
  | argumentsNotAnObject
  | unterminatedCall
  | unterminatedList
  | emptyList
  | notACall (text : String)
  | unterminatedCallTo (name : String)
  | notAPair (text : String)
  | argumentName (key : String)
  | repeatedArgument (key : String)
  | mapping
  | argumentValue (text : String)
  | danglingEscape
  | textAfterString (text : String)
  | unterminatedString (text : String)
  | unbalanced (bracket : Char) (text : String)
  | openString (text : String)
  | openBrackets (text : String)
  | noFunctionName
  | unparsed
  | unparsable
  | reported (text : String)
  deriving DecidableEq

def CallFault.message : CallFault → String
  | empty => "empty tool call"
  | textAroundTag => "unexpected text around function tag"
  | unterminatedTag => "unterminated function tag"
  | notATag => "not a function tag"
  | openTagName => "function tag name is not closed with '>'"
  | functionName name => "invalid function name '" ++ name ++ "'"
  | json => "invalid JSON: not a JSON text"
  | notAnObject => "tool call must be a JSON object"
  | noName => "tool call has no valid \"name\""
  | parameters => "tool call parameters must be an object"
  | argumentsJson => "invalid JSON arguments: not a JSON text"
  | argumentsNotAnObject => "arguments must be a JSON object"
  | unterminatedCall => "unterminated call expression"
  | unterminatedList => "unterminated call list"
  | emptyList => "empty call list"
  | notACall text => "'" ++ text ++ "' is not a call expression"
  | unterminatedCallTo name => "unterminated call to '" ++ name ++ "'"
  | notAPair text => "expected key=value, found '" ++ text ++ "'"
  | argumentName key => "invalid argument name '" ++ key ++ "'"
  | repeatedArgument key => "argument '" ++ key ++ "' given twice"
  | mapping => "invalid mapping literal: not a JSON text"
  | argumentValue text => "unsupported argument value '" ++ text ++ "'"
  | danglingEscape => "dangling escape in string literal"
  | textAfterString text => "unexpected text after string literal in '" ++ text ++ "'"
  | unterminatedString text => "unterminated string literal '" ++ text ++ "'"
  | unbalanced bracket text => "unbalanced '" ++ bracket.toString ++ "' in '" ++ text ++ "'"
  | openString text => "unterminated string literal in '" ++ text ++ "'"
  | openBrackets text => "unbalanced brackets in '" ++ text ++ "'"
  | noFunctionName => "tool call has no function name"
  | unparsed => "model output could not be parsed as a tool call"
  | unparsable => "model emitted an unparseable tool call"
  | reported text => text

structure MalformedCall where
  raw : String
  fault : CallFault
  deriving DecidableEq

end ChatTurn
