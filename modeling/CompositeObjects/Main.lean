import CompositeObjects.CommandLine.Commands

open CompositeObjects CommandLine

/-- The number of a failure, which some calls give as a negative one. -/
def failureNumber (code : UInt32) : UInt32 := if code < 0x80000000 then code else 0 - code

/-- The failures that the program names; all others are told as they are. -/
def fileError : IO.Error → FileError
  | .noFileOrDirectory .. | .resourceVanished .. => .notFound
  | .inappropriateType _ code _ => if failureNumber code = 20 then .notDirectory else .isDirectory
  | .invalidArgument _ code details =>
    if failureNumber code = 36 then .nameTooLong else .other details
  | .resourceExhausted _ code details =>
    if failureNumber code = 28 then .noSpace else .other details
  | .userError _ => .notText
  | error => .other error.toString

/-- The paths that a command may read. -/
def readPaths (args : List String) : List String :=
  match Invocation.ofArguments args with
  | .ok i => i.config.toList ++ [i.command.project]
  | .error _ => []

def readFile (path : String) : IO (Except FileError String) :=
  try return .ok (← IO.FS.readFile path)
  catch error => return .error (fileError error)

def writeFile (path text : String) : IO (Option FileError) :=
  try
    IO.FS.writeFile path text
    return none
  catch error => return some (fileError error)

/-- Reads the files, finds out what is to be done, and does it. Where a file cannot be written, the
outcome is found anew with that in the way. -/
def main (args : List String) : IO UInt32 := do
  let texts ← (readPaths args).mapM fun path => return (path, ← readFile path)
  let read (path : String) : Except FileError String := (texts.lookup path).getD (.error .notFound)
  let noColor := (← IO.getEnv "NO_COLOR").isSome
  let terminal ← IO.getEnv "TERM"
  let wanted ← IO.getEnv "MOSAIC_LOG"
  let outcomeWith (obstacle : Option FileError) : Outcome :=
    run ⟨⟨read, fun _ => obstacle, fun _ => false⟩, noColor, terminal, wanted⟩ args
  let planned := outcomeWith none
  let obstacles ← planned.written.mapM fun file => writeFile file.1 file.2
  let outcome := match obstacles.findSome? id with
    | some error => outcomeWith (some error)
    | none => planned
  outcome.diagnostics.forM fun line => IO.eprintln (line.level.name ++ " " ++ line.text)
  IO.print outcome.printed
  outcome.errorLines.forM fun line => IO.eprintln line
  return outcome.code.toUInt32
