import TurnRouter.CommandLine.Run

/-! # The command line program

Reads what the arguments ask for, times each report, and prints the result.
-/
namespace TurnRouter.CommandLine

/-- The number of a system error, which may come with either sign. -/
def systemNumber (code : UInt32) : UInt32 := min code (0 - code)

def readError : IO.Error → ReadError
  | .noFileOrDirectory .. => .notFound
  | .permissionDenied .. => .permissionDenied
  | .inappropriateType _ code _ => if systemNumber code = 20 then .notDirectory else .isDirectory
  | .invalidArgument _ code details =>
    if systemNumber code = 36 then .nameTooLong else .other details.toList
  | .userError _ => .notText
  | e => .other (toString e).toList

def readFile (path : Text) : IO (Except ReadError Text) := do
  try return .ok (← IO.FS.readFile (String.ofList path)).toList
  catch e => return .error (readError e)

/-- Reads only what the settings name. -/
def readInputs (color : Bool) (args : List Text) : IO Inputs := do
  let stdin ← IO.getStdin
  let standard : IO (Option Text) := do
    if ← stdin.isTty then return none else return some (← stdin.readToEnd).toList
  match parse color args with
  | .ok (.evaluate settings) =>
    match settings.requestPath, settings.intent with
    | some ['-'], _ => return ⟨fun _ => .ok [], some (← stdin.readToEnd).toList⟩
    | some path, _ => let content ← readFile path; return ⟨fun _ => content, none⟩
    | none, some _ => return ⟨fun _ => .ok [], none⟩
    | none, none => return ⟨fun _ => .ok [], ← standard⟩
  | _ => return ⟨fun _ => .ok [], none⟩

def timed (settings : Settings) (turn : Turn) (rule : Text) : IO TimedReport := do
  let start ← IO.monoNanosNow
  let report ← IO.lazyPure fun _ => Rule.report turn.toContext settings.options rule
  let micros := ((← IO.monoNanosNow) - start) / 1000
  return ⟨report, Text.ofNat micros ++ ['µ', 's'], micros⟩

end TurnRouter.CommandLine

open TurnRouter TurnRouter.CommandLine in
def main (args : List String) : IO UInt32 := do
  let stdout ← IO.getStdout
  let color ← stdout.isTty
  let args := args.map String.toList
  let result ← (prepare color (← readInputs color args) args).finish timed
  stdout.putStr (String.ofList result.output)
  (← IO.getStderr).putStr (String.ofList result.errors)
  return result.exit.toUInt32
