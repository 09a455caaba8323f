import TurnRouter.CommandLine.Output

/-! # A run of the command line

The arguments settle whether there is anything to evaluate; then the request is loaded, each rule
is reported on, and the reports are printed. What cannot be understood ends the run with status 2.
-/
namespace TurnRouter.CommandLine

structure Result where
  exit : Nat
  output : Text
  errors : Text
deriving DecidableEq

def Result.success (output : Text) : Result := ⟨0, output, []⟩
def Result.failure (message : Text) : Result := ⟨2, [], message ++ ['\n']⟩

def Settings.options (settings : Settings) : Options := { sessionDefault := settings.sessionDefault }

/-- A run that has a request to evaluate rules against, or one that is already over. -/
inductive Stage
  | evaluate (settings : Settings) (turn : Turn)
  | done (result : Result)

def prepare (color : Bool) (inputs : Inputs) (args : List Text) : Stage :=
  match parse color args with
  | .error e => .done (.failure e.message)
  | .ok .help => .done (.success (unlines [help]))
  | .ok .version => .done (.success (unlines [versionLine]))
  | .ok (.evaluate settings) =>
    match loadRequest settings inputs with
    | .error e => .done (.failure e.message)
    | .ok request => .evaluate settings request.toTurn

def render (settings : Settings) (turn : Turn) (reports : List TimedReport) : Result :=
  .success (if settings.json then jsonOutput reports
    else textOutput settings.color turn.toContext reports)

/-- A report that took the given time. -/
def timedReport (timing : Timing) (settings : Settings) (turn : Turn) (rule : Text) : TimedReport :=
  ⟨Rule.report turn.toContext settings.options rule, timing⟩

/-- Ends a run: what is left to evaluate is reported on, rule by rule, and printed. -/
def Stage.finish {m : Type → Type} [Monad m] (report : Settings → Turn → Text → m TimedReport) :
    Stage → m Result
  | .done result => pure result
  | .evaluate settings turn => do
    let reports ← settings.rules.mapM (report settings turn)
    return render settings turn reports

/-- The whole run, with one timing shown for every report. -/
def run (color : Bool) (timing : Timing) (inputs : Inputs) (args : List Text) : Result :=
  Id.run <| (prepare color inputs args).finish fun settings turn rule =>
    pure (timedReport timing settings turn rule)

end TurnRouter.CommandLine
