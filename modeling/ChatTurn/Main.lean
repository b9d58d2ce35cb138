import ChatTurn.Cli.Run

namespace ChatTurn.Program

def lookUp (name : String) : IO (String × Option String) := return (name, ← IO.getEnv name)

def environmentOf (found : List (String × Option String)) : Environment := fun name =>
  (Ordered.get? name found).join

def cause : IO.Error → String
  | .noFileOrDirectory .. => "No such file or directory (os error 2)"
  | e => toString e

def readFile (path : String) : IO (String × Except String String) := do
  try return (path, .ok (← IO.FS.readFile path))
  catch e => return (path, .error (cause e))

def filesOf (found : List (String × Except String String)) (path : String) : Except String String :=
  (Ordered.get? path found).getD (.error "")

def hexText (bytes : List UInt8) : String :=
  String.ofList (bytes.flatMap fun b => [Nat.digitChar (b.toNat / 16), Nat.digitChar (b.toNat % 16)])

def randomLead : IO String := do
  let bytes := (← IO.getRandomBytes 6).toList
  return hexText (bytes.take 4) ++ "-" ++ hexText (bytes.drop 4) ++ "-4000-8000-"

def report (o : Options) (found : List (String × Option String)) : IO Report := do
  let files ← (o.config :: o.tools.toList).mapM readFile
  let names := match filesOf files o.config with
    | .ok text => Placeholder.names text.toList
    | .error _ => []
  let env := environmentOf (found ++ (← names.mapM lookUp))
  let unreachable : Remote.Transport Unit := fun _ => pure none
  return (o.run env (filesOf files) unreachable (.counting (← randomLead)) false ()).1

end ChatTurn.Program

open ChatTurn in
def main (args : List String) : IO UInt32 := do
  let found ← ["INFER_CONFIG", "INFER_MODEL"].mapM Program.lookUp
  let report ← match Options.parse? (Program.environmentOf found) args with
    | none => pure { failure := some .usage }
    | some o => Program.report o found
  IO.print report.output
  if let some f := report.failure then
    unless f.isCrash do IO.eprintln ("Error: " ++ f.message)
  return .ofNat report.status
