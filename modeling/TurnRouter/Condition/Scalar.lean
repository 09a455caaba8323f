import TurnRouter.Binary64.Decimal
import TurnRouter.Text.Quoted

/-! # Scalars of a condition

The values a condition computes with, their truth, and the six comparisons. Values of different
kinds are never equal and have no order; texts are ordered by code point.
-/
namespace TurnRouter.Condition

inductive Scalar
  | null
  | boolean (b : Bool)
  | number (x : Binary64)
  | string (s : Text)
deriving DecidableEq

inductive Kind
  | null
  | boolean
  | number
  | string
deriving DecidableEq

def Kind.name : Kind → Text
  | null => "null".toList
  | boolean => "boolean".toList
  | number => "number".toList
  | string => "string".toList

namespace Scalar

def kind : Scalar → Kind
  | null => .null
  | boolean _ => .boolean
  | number _ => .number
  | string _ => .string

/-- Null, false, the zeros, NaN and the empty text are not true. -/
def isTruthy : Scalar → Bool
  | null => false
  | boolean b => b
  | number x => !x.isZero && x ≠ .nan
  | string s => !s.isEmpty

def toText : Scalar → Text
  | null => "null".toList
  | boolean b => if b then "true".toList else "false".toList
  | number x => NumberLayout.message.render x
  | string s => Text.quoted s

def equal : Scalar → Scalar → Bool
  | null, null => true
  | boolean a, boolean b => a == b
  | number x, number y => x.compare? y == some .eq
  | string s, string t => s == t
  | _, _ => false

def order? : Scalar → Scalar → Option Ordering
  | number x, number y => x.compare? y
  | string s, string t => some (compare s t)
  | _, _ => none

end Scalar

inductive Comparison
  | eq
  | ne
  | gt
  | lt
  | ge
  | le
deriving DecidableEq

namespace Comparison

def symbol : Comparison → Text
  | eq => ['=', '=']
  | ne => ['!', '=']
  | gt => ['>']
  | lt => ['<']
  | ge => ['>', '=']
  | le => ['<', '=']

def accepts : Comparison → Ordering → Bool
  | eq, o => o == .eq
  | ne, o => o != .eq
  | gt, o => o == .gt
  | lt, o => o == .lt
  | ge, o => o != .lt
  | le, o => o != .gt

/-- The outcome of a comparison, if the two values can be compared this way. -/
def outcome? : Comparison → Scalar → Scalar → Option Bool
  | eq, l, r => some (l.equal r)
  | ne, l, r => some (!l.equal r)
  | op, l, r => (l.order? r).map op.accepts

end Comparison
end TurnRouter.Condition
