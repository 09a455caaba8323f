import TurnRouter.Turn

/-! # Platform requests

A request is any JSON value; each part of it is looked up at a fixed place and may be missing.
Only intent requests carry a result of language understanding, and every type of request but
the three standard ones is an event.
-/
namespace TurnRouter

namespace RequestType

def intent : Text := "IntentRequest".toList
def launch : Text := "LaunchRequest".toList
def sessionEnded : Text := "SessionEndedRequest".toList

/-- Types that name no event; a missing type reads as empty. -/
def standard : List Text := [[], intent, launch, sessionEnded]

end RequestType

/-- The intent found in the user's words, and the slots filled from them. -/
structure Understanding where
  intent : Text
  slots : Fields Json

def Understanding.ofJson? (v : Json) : Option Understanding := do
  let name ← (← v.member? "name".toList).text?
  let slots := ((v.member? "slots".toList).bind Json.fields?).getD []
  return ⟨name, slots⟩

def Understanding.slot? (u : Understanding) (name : Text) : Option Text := do
  (← (← Fields.find? name u.slots).member? "value".toList).text?

/-- A slot's other fields are kept; a slot that is no object is replaced. -/
def Understanding.setSlot (u : Understanding) (name value : Text) : Understanding :=
  let fs := ((Fields.find? name u.slots).getD .null).fields
  let fs := Fields.insert "value".toList (.str value) (Fields.insert "name".toList (.str name) fs)
  { u with slots := Fields.insert name (.obj fs) u.slots }

structure Request where
  body : Json
  type : Text
  session : Session
  understanding : Option Understanding

namespace Request

def bodyAt? (body : Json) (steps : List String) : Option Json := body.at? (steps.map String.toList)
def textAt (body : Json) (steps : List String) : Text := ((bodyAt? body steps).bind Json.text?).getD []

def ofJson (body : Json) : Request :=
  let type := textAt body ["request", "type"]
  { body, type
    session := ((bodyAt? body ["session", "attributes"]).map Session.ofJson).getD .empty
    understanding :=
      if type = RequestType.intent then
        (bodyAt? body ["request", "intents", "0"]).bind Understanding.ofJson?
      else none }

def setSlot (r : Request) (name value : Text) : Request :=
  { r with understanding := r.understanding.map (·.setSlot name value) }

/-- The user's words; only an intent request has them. -/
def query (r : Request) : Text :=
  if r.type = RequestType.intent then textAt r.body ["request", "query", "original"] else []

def userId (r : Request) : Text := textAt r.body ["context", "system", "user", "userId"]
def botId (r : Request) : Text := textAt r.body ["context", "system", "bot", "botId"]
def logId (r : Request) : Text := textAt r.body ["log_id"]
def cuid (r : Request) : Text := textAt r.body ["cuid"]
def isLaunch (r : Request) : Bool := r.type = RequestType.launch
def isSessionEnded (r : Request) : Bool := r.type = RequestType.sessionEnded

def eventData (r : Request) : Option Json :=
  if RequestType.standard.contains r.type then none else r.body.member? "request".toList

def toTurn (r : Request) : Turn where
  intent := r.understanding.map (·.intent)
  requestType := r.type
  slot name := r.understanding.bind (·.slot? name)
  sessionValue := r.session.getText
  understood := r.understanding.isSome
  eventData := r.eventData
  session := some r.session

end Request
end TurnRouter
