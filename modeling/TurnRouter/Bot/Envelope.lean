import TurnRouter.Bot.Decide

/-! # Replies

The reply to a routed turn carries the answer and the session attributes, which the platform
sends back with the next turn of the conversation. The default reply carries no session.
-/
namespace TurnRouter

def Json.object (fields : List (String × Json)) : Json :=
  .obj (Fields.ofList (fields.map fun f => (f.1.toList, f.2)))

/-- `ends` tells whether the conversation ends when no callback has said so. -/
structure Envelope where
  ends : Bool := false

namespace Envelope

def version : Json := .str "2.0".toList

def reply (envelope : Envelope) (state : TurnState) (answer : Option Json) : Json :=
  .object [
    ("version", version),
    ("session", .object [("attributes", state.session.toJson)]),
    ("response", .object [
      ("shouldEndSession", .bool (state.ending.getD envelope.ends)),
      ("result", .ofOption answer)])]

def defaultReply : Json :=
  .object [
    ("version", version),
    ("response", .object [("shouldEndSession", .bool true), ("result", .null)])]

end Envelope

variable {ω : Type}

/-- Decides a turn that starts from the session it came with, and wraps up the decision. -/
def Config.run (config : Config ω) (app : Application ω) (envelope : Envelope) (turn : Turn)
    (memory : ω) : Except CallbackError Json × ω :=
  match Effect.result (config.decide app turn) (TurnState.ofTurn turn, memory) with
  | (.error e, _, memory) => (.error e, memory)
  | (.ok .default, _, memory) => (.ok Envelope.defaultReply, memory)
  | (.ok (.routed answer), state, memory) => (.ok (envelope.reply state answer), memory)

/-- The body of a later turn: an object gets the remembered attributes as its session. -/
def carrySession (attributes : Option (Fields Json)) (body : Json) : Json :=
  match attributes, body with
  | some as, .obj fs => .obj (Fields.insert "session".toList (.object [("attributes", .obj as)]) fs)
  | _, _ => body

end TurnRouter
