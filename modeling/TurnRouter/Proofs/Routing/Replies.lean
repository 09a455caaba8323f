import TurnRouter.Bot.Envelope

/-! # Reading replies

What the platform finds in a reply under the keys where it looks. A reply to a turn that was
declined says nothing of the session.
-/
namespace TurnRouter

theorem Fields.find?_map_toList (key : String) (fields : List (String × Json)) :
    Fields.find? key.toList (fields.map fun f => (f.1.toList, f.2)) =
      (fields.find? fun f => f.1 == key).map Prod.snd := by
  induction fields with
  | nil => rfl
  | cons f fields ih =>
    rw [List.map_cons, Fields.find?_cons, List.find?_cons]
    cases hkey : f.1 == key with
    | true => exact if_pos (congrArg String.toList (beq_iff_eq.mp hkey))
    | false =>
      have hne : f.1.toList ≠ key.toList := mt String.toList_inj.mp (beq_eq_false_iff_ne.mp hkey)
      rw [if_neg hne, ih]

theorem Json.child?_object (key : String) (fields : List (String × Json)) :
    (Json.object fields).child? key.toList =
      (fields.reverse.find? fun f => f.1 == key).map Prod.snd := by
  rw [Json.object, Json.child?, Fields.find?_ofList, ← List.map_reverse,
    Fields.find?_map_toList]

theorem Json.member?_object (key : Text) (fields : List (String × Json)) :
    (Json.object fields).member? key = (Json.object fields).child? key := rfl

namespace Envelope
variable (envelope : Envelope) (state : TurnState) (answer : Option Json)

/-- What a reply says of the session. -/
def sessionPart (session : Session) : Json := .object [("attributes", session.toJson)]

/-- What a reply says of the answer. -/
def responsePart : Json :=
  .object [("shouldEndSession", .bool (state.ending.getD envelope.ends)),
    ("result", .ofOption answer)]

theorem session_reply : (envelope.reply state answer).child? "session".toList =
    some (sessionPart state.session) := by
  rw [reply, Json.child?_object]
  rfl

theorem response_reply : (envelope.reply state answer).child? "response".toList =
    some (responsePart envelope state answer) := by
  rw [reply, Json.child?_object]
  rfl

theorem session_defaultReply : defaultReply.member? "session".toList = none := by
  rw [defaultReply, Json.member?_object, Json.child?_object]
  rfl

theorem attributes_sessionPart (session : Session) :
    (sessionPart session).child? "attributes".toList = some session.toJson := by
  rw [sessionPart, Json.child?_object]
  rfl

theorem ending_responsePart : (responsePart envelope state answer).child? "shouldEndSession".toList =
    some (.bool (state.ending.getD envelope.ends)) := by
  rw [responsePart, Json.child?_object]
  rfl

theorem attributes_reply : (envelope.reply state answer).at? ["session".toList, "attributes".toList] =
    some state.session.toJson := by
  rw [Json.at?, session_reply, Option.bind_some, Json.at?, attributes_sessionPart,
    Option.bind_some, Json.at?]

theorem ending_reply :
    (envelope.reply state answer).at? ["response".toList, "shouldEndSession".toList] =
      some (.bool (state.ending.getD envelope.ends)) := by
  rw [Json.at?, response_reply, Option.bind_some, Json.at?, ending_responsePart,
    Option.bind_some, Json.at?]

end Envelope

/-- The reply to a turn, once it is decided. -/
def Decision.reply (envelope : Envelope) (state : TurnState) : Decision → Json
  | default => Envelope.defaultReply
  | routed answer => envelope.reply state answer

variable {ω : Type} (config : Config ω) (app : Application ω) (envelope : Envelope)

/-- The reply is made from the state that deciding the turn left. -/
theorem Config.run_of_result {turn : Turn} {memory memory' : ω} {state : TurnState}
    {outcome : Except CallbackError Decision}
    (h : Effect.result (config.decide app turn) (TurnState.ofTurn turn, memory) =
      (outcome, state, memory')) :
    config.run app envelope turn memory = (outcome.map (Decision.reply envelope state), memory') := by
  rw [run, h]
  rcases outcome with e | decision | answer <;> rfl

end TurnRouter
