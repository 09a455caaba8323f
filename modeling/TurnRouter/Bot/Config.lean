import TurnRouter.Dispatch
import TurnRouter.Text.Quoted

/-! # What a bot is made of

Handlers with their rules, listeners for events, and interceptors around both. Callbacks share
the reply state of the turn and a memory of the application's own, of any type.
-/
namespace TurnRouter

/-- Work within a turn. -/
abbrev Work (ω : Type) := Effect (TurnState × ω)

/-- A callback reads the turn and, if it listens to an event, the event's data. -/
abbrev Callback (ω : Type) := Turn → Option Json → Work ω (Option Json)

/-- The methods that callbacks may name. -/
abbrev Application (ω : Type) := Text → Callback ω

inductive Invocable (ω : Type)
  | method (name : Text)
  | direct (f : Callback ω)

variable {ω : Type}

/-- An application without methods. -/
def Application.empty : Application ω := fun name _ _ => throw (.unknownMethod name)

def Invocable.invoke (app : Application ω) : Invocable ω → Callback ω
  | method name => app name
  | direct f => f

def Invocable.describe : Invocable ω → Text
  | method name => "NamedMethod(".toList ++ Text.quoted name ++ [')']
  | direct _ => "DirectCallable(<function>)".toList

structure Interceptor (ω : Type) where
  /-- A conclusive answer takes the place of routing. -/
  before : Turn → Work ω (Option Json) := fun _ => pure none
  after : Turn → Option Json → Work ω (Option Json) := fun _ answer => pure answer

structure Config (ω : Type) where
  handlers : List (Handler (Invocable ω)) := []
  listeners : Fields (Invocable ω) := []
  interceptors : List (Interceptor ω) := []
  options : Options := {}

namespace Config

/-- Binds a listener to an event type in place of an earlier one; the empty type names no event. -/
def listen (config : Config ω) (key : Text) (listener : Invocable ω) : Config ω :=
  if key = [] then config
  else { config with listeners := Fields.insert key listener config.listeners }

def listener? (config : Config ω) (turn : Turn) : Option (Invocable ω) :=
  turn.eventKey.bind (Fields.find? · config.listeners)

end Config
end TurnRouter
