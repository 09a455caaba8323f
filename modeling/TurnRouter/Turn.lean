import TurnRouter.Session.Basic

/-! # Turns of a conversation

What rules may read about a turn, what routing needs beside it, and the reply state that the
callbacks of a turn share. Rules never see the reply state.
-/
namespace TurnRouter

/-- The lookups behind the placeholders of a rule. -/
structure Context where
  intent : Option Text
  requestType : Text
  slot : Text → Option Text
  /-- The session value at a dotted path, or the given default. -/
  sessionValue : Text → Json → Json

/-- The type that an event's data names. -/
def eventType (data : Option Json) : Option Text := do
  let key ← (← (← data).member? "type".toList).text?
  if key = [] then none else some key

structure Turn extends Context where
  /-- Whether language understanding found an intent. -/
  understood : Bool
  eventData : Option Json
  session : Option Session
  /-- The key under which a listener to the turn's event is bound. -/
  eventKey : Option Text := eventType eventData

structure TurnState where
  session : Session
  /-- Whether the conversation ends with this reply, once a callback has said so. -/
  ending : Option Bool

namespace TurnState

def start (session : Session) : TurnState := ⟨session, none⟩

def ofTurn (turn : Turn) : TurnState := start (turn.session.getD .empty)

def get (state : TurnState) (path : Text) (default : Json) : Json :=
  state.session.getText path default

def set (state : TurnState) (path : Text) (value : Json) : Except InvalidPath TurnState :=
  (state.session.setText path value).map fun session => { state with session }

def clearSession (state : TurnState) : TurnState := { state with session := .empty }
def awaitAnswer (state : TurnState) : TurnState := { state with ending := some false }
def endDialog (state : TurnState) : TurnState := { state with ending := some true }

def isFresh (state : TurnState) : Bool := state.session.attributes.isEmpty && state.ending.isNone

end TurnState
end TurnRouter
