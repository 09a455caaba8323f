import TurnRouter.CommandLine.Arguments
import TurnRouter.CommandLine.Files
import TurnRouter.Request

/-! # The request that rules are evaluated against

It comes from a file, from standard input, or is made up from an intent and its slots. Session
attributes given as an option are then written into it, key by key.
-/
namespace TurnRouter.CommandLine

inductive LoadError
  | unreadable (path : Text) (reason : ReadError)
  | invalidRequest
  | invalidSessionKey (e : InvalidPath)

/-- What a run can read: files, with the reason why one cannot be read, and standard input, which
is none at a terminal. -/
structure Inputs where
  file : Text → Except ReadError Text
  standard : Option Text

def slotJson (name value : Text) : Json :=
  .obj [("name".toList, .str name), ("value".toList, .str value)]

/-- An intent request; of two values for one slot the later counts. -/
def intentBody (intent : Text) (slots : List (Text × Text)) : Json :=
  let slots := Fields.ofList (slots.map fun s => (s.1, slotJson s.1 s.2))
  let intents := [.obj [("name".toList, .str intent), ("slots".toList, .obj slots)]]
  .obj [("request".toList, .obj [("intents".toList, .arr intents), ("type".toList, .str RequestType.intent)])]

def launchBody : Json :=
  .obj [("request".toList, .obj [("type".toList, .str RequestType.launch)])]

def decode (text : Text) : Except LoadError Request :=
  (Json.parse? text).elim (.error .invalidRequest) fun v => .ok (.ofJson v)

def readStandard (inputs : Inputs) : Except LoadError Request := decode (inputs.standard.getD [])

def baseRequest (settings : Settings) (inputs : Inputs) : Except LoadError Request :=
  match settings.requestPath with
  | some path =>
    if path = ['-'] then readStandard inputs
    else
      match inputs.file path with
      | .error reason => .error (.unreadable path reason)
      | .ok text => decode text
  | none =>
    match settings.intent with
    | some intent => .ok (.ofJson (intentBody intent settings.slots))
    | none => if inputs.standard.isNone then .ok (.ofJson launchBody) else readStandard inputs

/-- Writes attributes into a session in the order of their keys, each of them a dotted path. -/
def mergeSession (session : Session) : Fields Json → Except InvalidPath Session
  | [] => .ok session
  | (key, value) :: rest =>
    match session.setText key value with
    | .ok session => mergeSession session rest
    | .error e => .error e

def loadRequest (settings : Settings) (inputs : Inputs) : Except LoadError Request :=
  match baseRequest settings inputs with
  | .error e => .error e
  | .ok request =>
    match mergeSession request.session ((settings.session.getD .null).fields) with
    | .ok session => .ok { request with session }
    | .error e => .error (.invalidSessionKey e)

end TurnRouter.CommandLine
