import TurnRouter.Bot.Config
import TurnRouter.Json.Writer

/-! # Descriptions of configurations

One line that shows the rules and callbacks of a configuration in order, the event types it
listens to, how many interceptors it has, and its options. Values are shown with their kinds.
-/
namespace TurnRouter

def commaSeparated (items : List Text) : Text := List.intercalate [',', ' '] items

namespace Json

mutual

def describe : Json → Text
  | null => "Null".toList
  | bool b => "Bool(".toList ++ (if b then "true".toList else "false".toList) ++ [')']
  | num n => "Number(".toList ++ n.toText ++ [')']
  | str s => "String(".toList ++ Text.quoted s ++ [')']
  | arr items => "Array [".toList ++ commaSeparated (describeItems items) ++ [']']
  | obj fields => "Object \x7b".toList ++ commaSeparated (describeFields fields) ++ ['\x7d']

def describeItems : List Json → List Text
  | [] => []
  | v :: vs => describe v :: describeItems vs

def describeFields : List (Text × Json) → List Text
  | [] => []
  | (k, v) :: fs => (Text.quoted k ++ ':' :: ' ' :: describe v) :: describeFields fs

end

end Json

def Options.describe (opts : Options) : Text :=
  "Options \x7b session_default: ".toList ++ opts.sessionDefault.describe
    ++ ", max_depth: ".toList ++ Text.ofNat opts.maxDepth ++ " \x7d".toList

variable {ω : Type}

def describeHandler (h : Handler (Invocable ω)) : Text :=
  "HandlerEntry \x7b rule: ".toList ++ Text.quoted h.rule
    ++ ", callback: ".toList ++ h.callback.describe ++ " \x7d".toList

def Config.describe (config : Config ω) : Text :=
  "BotConfig \x7b handlers: [".toList ++ commaSeparated (config.handlers.map describeHandler)
    ++ "], events: [".toList ++ commaSeparated (config.listeners.map fun l => Text.quoted l.1)
    ++ "], intercepts: ".toList ++ Text.ofNat config.interceptors.length
    ++ ", options: ".toList ++ config.options.describe ++ " \x7d".toList

end TurnRouter
