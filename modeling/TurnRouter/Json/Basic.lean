import TurnRouter.Fields
import TurnRouter.Json.Number

/-! # JSON values -/
namespace TurnRouter

inductive Json
  | null
  | bool (b : Bool)
  | num (n : Json.Number)
  | str (s : Text)
  | arr (items : List Json)
  | obj (fields : List (Text × Json))

namespace Json

def ofInt (i : Int) : Json := .num (.integer i)
def ofOption (v : Option Json) : Json := v.getD .null

def fields? : Json → Option (Fields Json)
  | obj fs => some fs
  | _ => none

/-- The fields of an object; any other value has none. -/
def fields (v : Json) : Fields Json := v.fields?.getD []

def text? : Json → Option Text
  | str s => some s
  | _ => none

/-- The value as a signed 64-bit integer. -/
def integer64? : Json → Option Int
  | num (.integer n) => if n < signLimit then some n else none
  | _ => none

def member? (key : Text) : Json → Option Json
  | obj fs => Fields.find? key fs
  | _ => none

/-- The position that a step means in an array. -/
def index? (step : Text) : Option Nat :=
  if step = [] ∨ !step.all Char.isDigit ∨ (step.head? = some '0' ∧ step.length ≠ 1) then none
  else some (digitsValue step)

def child? (step : Text) : Json → Option Json
  | obj fs => Fields.find? step fs
  | arr items => (index? step).bind (items[·]?)
  | _ => none

/-- The value at the end of a list of steps, each a key or a position. -/
def at? : List Text → Json → Option Json
  | [], v => some v
  | step :: steps, v => (v.child? step).bind (at? steps)

/-- Whether a callback's answer settles nothing: no answer, null, false, or an empty value. -/
def inconclusive : Option Json → Bool
  | none | some null | some (bool false) => true
  | some (str s) => s.isEmpty
  | some (arr items) => items.isEmpty
  | some (obj fs) => fs.isEmpty
  | some (bool true) | some (num _) => false

end Json
end TurnRouter
