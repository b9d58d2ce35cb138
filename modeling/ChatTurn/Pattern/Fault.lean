namespace ChatTurn.Pattern

inductive Fault
  | form
  | nesting
  | size
  deriving DecidableEq

/-- How deep groups, classes, repetitions and rows of parts may nest. -/
def nestingLimit : Nat := 250

def sizeLimit : Nat := 10 <<< 20

def Fault.message : Fault → String
  | form => "regex parse error: not a pattern"
  | nesting => "regex parse error: nested too deep"
  | size => "Compiled regex exceeds size limit of " ++ Nat.repr sizeLimit ++ " bytes."

end ChatTurn.Pattern
