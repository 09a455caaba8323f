import TurnRouter.Bot.Config

/-! # Scripted callbacks

A script is a list of actions on the turn's state. It ends at the first action that answers or
fails, and at its end it hands on the answer that was routed before, if any.
-/
namespace TurnRouter

inductive Action
  | set (path : Text) (value : Json)
  | remove (path : Text)
  | increment (path : Text)
  | clearSession
  | awaitAnswer
  | endDialog
  | answer (value : Json)
  | silence
  | slot (name : Text)
  | stateValue (path : Text) (default : Json)
  | turnValue (path : Text) (default : Json)
  | argument
  | fail (message : Text)
  | failOther (message : Text)
  | wrap (key : Text)

/-- What a script can look at beside the state. -/
structure Script.Input where
  turn : Turn
  argument : Option Json := none
  routed : Option Json := none

namespace Script
variable {ω : Type}

def state : Work ω TurnState := do return (← get).1
def update (f : TurnState → TurnState) : Work ω Unit := modify fun s => (f s.1, s.2)

def write (path : Text) (value : Json) : Work ω Unit := do
  match (← state).set path value with
  | .ok next => update fun _ => next
  | .error e => throw (.session e)

/-- The value one above a signed 64-bit integer; the greatest is followed by the least. -/
def successor (v : Json) : Json := .ofInt (Int.bmod (v.integer64?.getD 0 + 1) Json.wordLimit)

def removePath (path : Text) (s : TurnState) : TurnState :=
  match Path.parse path with
  | .ok p => { s with session := s.session.remove p }
  | .error _ => s

def run (input : Input) : List Action → Work ω (Option Json)
  | [] => pure input.routed
  | .set path value :: rest => do write path value; run input rest
  | .remove path :: rest => do update (removePath path); run input rest
  | .increment path :: rest => do
    write path (successor ((← state).get path .null)); run input rest
  | .clearSession :: rest => do update TurnState.clearSession; run input rest
  | .awaitAnswer :: rest => do update TurnState.awaitAnswer; run input rest
  | .endDialog :: rest => do update TurnState.endDialog; run input rest
  | .answer value :: _ => pure (some value)
  | .silence :: _ => pure none
  | .slot name :: _ => pure ((input.turn.slot name).map .str)
  | .stateValue path default :: _ => do return some ((← state).get path default)
  | .turnValue path default :: _ => pure (some (input.turn.sessionValue path default))
  | .argument :: _ => pure input.argument
  | .fail message :: _ => throw (.failed message)
  | .failOther message :: _ => throw (.other message)
  | .wrap key :: _ => pure (some (.obj [(key, .ofOption input.routed)]))

end Script
end TurnRouter
