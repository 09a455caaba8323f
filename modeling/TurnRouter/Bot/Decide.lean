import TurnRouter.Bot.Config
import TurnRouter.Request

/-! # Deciding a turn

An intent request that was not understood is declined, unless a listener waits for it. Any other
turn goes through the interceptors' `before` hooks up to the first conclusive answer, is routed
if there was none, and ends with all `after` hooks, each given the answer of the one before.
-/
namespace TurnRouter

inductive Decision
  | default
  | routed (answer : Option Json)

variable {ω : Type}

/-- The answers of the hooks before routing, up to the first conclusive one. -/
def runBefore (turn : Turn) : List (Interceptor ω) → Work ω (Option Json)
  | [] => pure none
  | i :: is => do
    let answer ← i.before turn
    if Json.inconclusive answer then runBefore turn is else pure answer

def runAfter (turn : Turn) (answer : Option Json) : List (Interceptor ω) → Work ω (Option Json)
  | [] => pure answer
  | i :: is => do runAfter turn (← i.after turn answer) is

namespace Config

def declines (config : Config ω) (turn : Turn) : Bool :=
  turn.requestType = RequestType.intent && !turn.understood && (config.listener? turn).isNone

/-- Dispatch over the handlers, which get no argument. -/
def dispatch (config : Config ω) (app : Application ω) (turn : Turn) : Work ω Outcome :=
  TurnRouter.dispatch turn.toContext config.options (fun f => f.invoke app turn none) config.handlers

/-- The bound listener alone, or else the handlers. -/
def route (config : Config ω) (app : Application ω) (turn : Turn) : Work ω (Option Json) :=
  match config.listener? turn with
  | some listener => listener.invoke app turn turn.eventData
  | none => do return (← config.dispatch app turn).answer

def decide (config : Config ω) (app : Application ω) (turn : Turn) : Work ω Decision :=
  if config.declines turn then pure .default
  else do
    let early ← runBefore turn config.interceptors
    let answer ← if Json.inconclusive early then config.route app turn else pure early
    return .routed (← runAfter turn answer config.interceptors)

end Config
end TurnRouter
