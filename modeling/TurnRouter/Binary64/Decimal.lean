import TurnRouter.Binary64.Basic

/-! # Decimal forms of binary64 numbers

The digits of a number are the fewest that still round to it and, among those, the nearest to
it. How the digits are laid out is the business of each format, given as one record.
-/
namespace TurnRouter

/-- Which of two equally near decimals is taken. -/
inductive Tie
  | even
  | up
deriving DecidableEq

/-- The number `0.d₁d₂… · 10^point`, its first digit not zero unless the number is. -/
structure Decimal where
  digits : Text
  point : Int
deriving DecidableEq

namespace Binary64

/-- Half the distance to the next number below and above, counted in half steps. Below a power
of two the numbers lie twice as dense. -/
def halfGaps (units : Nat) : Nat × Nat :=
  let up := twoPow (units.log2 - 52)
  (if 1 < up ∧ units = twoPow units.log2 then up / 2 else up, up)

/-- Whether the decimal `d · 10^(place - 340)` rounds to `units`; the ends of the interval do
when the significand is even. -/
def readsBackAs (units d place : Nat) : Bool :=
  let (below, above) := halfGaps units
  let scaled := 2 * d * tenPow place * unitsOfOne
  let least := (2 * units - below) * tenPow 340
  let most := (2 * units + above) * tenPow 340
  if units / above % 2 = 0 then least ≤ scaled && scaled ≤ most
  else least < scaled && scaled < most

/-- The nearer of the two neighbours of `units` among the multiples of `10^(place - 340)` that
read back, if any does. -/
def nearestAt? (tie : Tie) (units place : Nat) : Option Nat :=
  let exact := units * tenPow 340
  let step := tenPow place * unitsOfOne
  let d := exact / step
  let twice := 2 * (exact % step)
  let preferDown := twice < step || (twice == step && tie == .even && d % 2 == 0)
  match readsBackAs units d place, readsBackAs units (d + 1) place with
  | true, true => some (if preferDown then d else d + 1)
  | true, false => some d
  | false, true => some (d + 1)
  | false, false => none

/-- Number of digits of the value scaled by 10^340, rounded down. -/
def scaledDigits (units : Nat) : Nat := (Text.ofNat (units * tenPow 340 / unitsOfOne)).length

def dropZeros (s : Text) : Text := (s.reverse.dropWhile (· == '0')).reverse

/-- One to seventeen digits are tried; seventeen always read back. -/
def shortest (tie : Tie) (units : Nat) : Decimal :=
  let top := scaledDigits units
  let found := (List.range 17).findSome? fun n =>
    (nearestAt? tie units (top - (n + 1))).map fun d => (d, top - (n + 1))
  let (d, place) := found.getD (units * tenPow 340 / unitsOfOne, 0)
  let written := Text.ofNat d
  ⟨dropZeros written, (written.length + place : Int) - 340⟩

end Binary64

/-- How a format lays a number out. -/
structure NumberLayout where
  tie : Tie
  /-- Whether a number with this decimal point is written without an exponent. -/
  positional : Int → Bool
  /-- What follows the digits of a whole number. -/
  wholeEnd : Text
  infinite : Bool → Text
  nan : Text

namespace NumberLayout

def place (wholeEnd : Text) (d : Decimal) : Text :=
  if d.point ≤ 0 then
    '0' :: '.' :: List.replicate (-d.point).toNat '0' ++ d.digits
  else
    let whole := d.digits.take d.point.toNat
    let zeros := List.replicate (d.point.toNat - d.digits.length) '0'
    match d.digits.drop d.point.toNat with
    | [] => whole ++ zeros ++ wholeEnd
    | fraction => whole ++ '.' :: fraction

/-- One digit before the point, and an exponent that always shows its sign. -/
def scientific (d : Decimal) : Text :=
  let exponent := d.point - 1
  let mantissa := match d.digits with
    | c :: e :: rest => c :: '.' :: e :: rest
    | short => short
  mantissa ++ 'e' :: (if exponent < 0 then '-' else '+') :: Text.ofNat exponent.natAbs

def magnitude (layout : NumberLayout) (units : Nat) : Text :=
  if units = 0 then '0' :: layout.wholeEnd
  else
    let d := Binary64.shortest layout.tie units
    if layout.positional d.point then place layout.wholeEnd d else scientific d

def signed (negative : Bool) (s : Text) : Text := if negative then '-' :: s else s

def render (layout : NumberLayout) : Binary64 → Text
  | .nan => layout.nan
  | .infinite s => layout.infinite s
  | .finite s u _ => signed s (layout.magnitude u)

/-- Messages never use an exponent and do not mark whole numbers. -/
def message : NumberLayout where
  tie := .up
  positional _ := true
  wholeEnd := []
  infinite s := signed s "inf".toList
  nan := "NaN".toList

/-- JSON writes magnitudes from 1e-5 up to below 1e16 without an exponent, shows that a whole
number is not an integer, and has no form for the values that are not finite. -/
def json : NumberLayout where
  tie := .even
  positional point := -4 ≤ point && point ≤ 16
  wholeEnd := ['.', '0']
  infinite _ := "null".toList
  nan := "null".toList

end NumberLayout
end TurnRouter
