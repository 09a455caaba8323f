import TurnRouter.Json.Reader
import TurnRouter.Text.Blank
import TurnRouter.Text.Split

/-! # Arguments of the command line

Options come first and are taken in order; the first argument that is none, or what follows
`--`, is a rule to its end. Asking for help or the version ends the reading.
-/
namespace TurnRouter.CommandLine

structure Settings where
  rules : List Text := []
  requestPath : Option Text := none
  intent : Option Text := none
  slots : List (Text × Text) := []
  session : Option Json := none
  sessionDefault : Json := .null
  json : Bool := false
  color : Bool := false

inductive UsageError
  | missingValue (flag : String)
  | slotWithoutValue (slot : Text)
  | slotWithoutName (slot : Text)
  | invalidJson (flag : String)
  | unknownOption (argument : Text)
  | noRule
  | conflictingRequest

inductive Invocation
  | help
  | version
  | evaluate (settings : Settings)

def parseSlot (s : Text) : Except UsageError (Text × Text) :=
  match s.dropWhile (· != '=') with
  | [] => .error (.slotWithoutValue s)
  | _ :: value =>
    if s.takeWhile (· != '=') = [] then .error (.slotWithoutName s)
    else .ok (s.takeWhile (· != '='), value)

def parseJson (flag : String) (s : Text) : Except UsageError Json :=
  (Json.parse? s).elim (.error (.invalidJson flag)) .ok

/-- Options that take the next argument as their value. -/
inductive ValueOption
  | rule
  | request
  | intent
  | slot
  | session
  | sessionDefault
deriving DecidableEq

namespace ValueOption

def flag : ValueOption → String
  | rule => "--rule"
  | request => "--request"
  | intent => "--intent"
  | slot => "--slot"
  | session => "--session"
  | sessionDefault => "--session-default"

def all : List ValueOption := [rule, request, intent, slot, session, sessionDefault]

def ofArgument? (arg : Text) : Option ValueOption :=
  if arg = ['-', 'r'] then some rule else all.find? fun o => o.flag.toList = arg

def apply (settings : Settings) (value : Text) : ValueOption → Except UsageError Settings
  | rule => .ok { settings with rules := settings.rules ++ [value] }
  | request => .ok { settings with requestPath := some value }
  | intent => .ok { settings with intent := some value }
  | slot => (parseSlot value).map fun s => { settings with slots := settings.slots ++ [s] }
  | session => (parseJson session.flag value).map fun v => { settings with session := some v }
  | sessionDefault =>
    (parseJson sessionDefault.flag value).map fun v => { settings with sessionDefault := v }

end ValueOption

/-- Checks what no single argument shows. -/
def finish (settings : Settings) : Except UsageError Invocation :=
  if settings.rules.isEmpty then .error .noRule
  else if settings.requestPath.isSome && (settings.intent.isSome || !settings.slots.isEmpty) then
    .error .conflictingRequest
  else .ok (.evaluate settings)

def parseFrom (settings : Settings) : List Text → Except UsageError Invocation
  | [] => finish settings
  | arg :: rest =>
    if arg = "-h".toList ∨ arg = "--help".toList then .ok .help
    else if arg = "-V".toList ∨ arg = "--version".toList then .ok .version
    else if arg = "--color".toList then parseFrom { settings with color := true } rest
    else if arg = "--no-color".toList then parseFrom { settings with color := false } rest
    else if arg = "--json".toList then parseFrom { settings with json := true } rest
    else match ValueOption.ofArgument? arg with
      | some option =>
        match rest with
        | [] => .error (.missingValue option.flag)
        | value :: rest =>
          match option.apply settings value with
          | .ok settings => parseFrom settings rest
          | .error e => .error e
      | none =>
        if arg = "--".toList then
          let rule := Text.join ' ' rest
          finish (if rule.all isBlank then settings else { settings with rules := settings.rules ++ [rule] })
        else if arg.head? = some '-' ∧ arg ≠ ['-'] then .error (.unknownOption arg)
        else finish { settings with rules := settings.rules ++ [Text.join ' ' (arg :: rest)] }

/-- `color` tells whether the output is coloured unless an option says otherwise. -/
def parse (color : Bool) (args : List Text) : Except UsageError Invocation :=
  parseFrom { color } args

end TurnRouter.CommandLine
