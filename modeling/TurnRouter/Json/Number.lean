import TurnRouter.Binary64.Decimal
import TurnRouter.Numeral

/-! # JSON numbers

A number without fraction and exponent is an integer if 64 bits hold it, signed below zero and
unsigned above. Every other number is a binary64 number computed from a 64-bit significand and
a power of ten in a few rounded steps; `-0` is among these.
-/
namespace TurnRouter.Json

inductive Number
  | integer (n : Int)
  | float (x : Binary64)
deriving DecidableEq

/-- The least natural number that 64 bits do not hold, and half of it. -/
def wordLimit : Nat := 0x10000000000000000
def signLimit : Nat := 0x8000000000000000

/-- Gathers digits while 64 bits hold the value, and keeps the others. -/
def gather (significand : Nat) : Text → Nat × Text
  | [] => (significand, [])
  | c :: s =>
    let more := 10 * significand + (c.toNat - 48)
    if more < wordLimit then gather more s else (significand, c :: s)

/-- `x · 10^exponent`, scaled by one rounded power of ten. -/
def scaleOnce (x : Binary64) (exponent : Int) : Binary64 :=
  let power := Binary64.ofNat (tenPow exponent.natAbs)
  if exponent < 0 then x.div power else x.mul power

/-- Powers of ten beyond 308 are out of reach upward and are divided out in steps downward. -/
def scale? (x : Binary64) (exponent : Int) : Option Binary64 :=
  if exponent.natAbs ≤ 308 then
    let y := scaleOnce x exponent
    if y.isInfinite then none else some y
  else if x.isZero then some x
  else if h : 0 ≤ exponent then none
  else scale? (x.div (.ofNat (tenPow 308))) (exponent + 308)
termination_by exponent.natAbs

def float? (n : Numeral) : Option Binary64 :=
  let (high, dropped) := gather 0 n.whole
  let (significand, unused) := gather high n.fraction
  let used : Int := n.fraction.length - unused.length
  let exponent := dropped.length - used + (n.exponent.map Numeral.Exponent.value).getD 0
  (scale? (.ofNat significand) exponent).map fun x => if n.negative then x.neg else x

def signedValue (n : Numeral) : Int :=
  if n.negative then -(digitsValue n.whole : Int) else digitsValue n.whole

/-- The integer that a numeral is, if it is one that 64 bits hold. -/
def integer? (n : Numeral) : Option Int :=
  let i := signedValue n
  if n.fraction ≠ [] ∨ n.exponent.isSome ∨ (n.negative ∧ i = 0) then none
  else if -signLimit ≤ i ∧ i < wordLimit then some i else none

/-- No number for a superfluous leading zero, nor beyond the range of binary64. -/
def Number.ofNumeral? (n : Numeral) : Option Number :=
  if n.whole.head? = some '0' ∧ n.whole.length ≠ 1 then none
  else match integer? n with
    | some i => some (.integer i)
    | none => (float? n).map .float

def Number.toText : Number → Text
  | integer n => Text.ofInt n
  | float x => NumberLayout.json.render x

end TurnRouter.Json
