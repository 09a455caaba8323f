import TurnRouter.Text.Basic

/-! # Binary64 numbers

Every finite number of the format is a whole count of the smallest step, 2^-1074, so a finite
value is a sign and that count. The count is a product of an integer of at most 53 bits and a
power of two, and stays below 2^2098, which stands for 2^1024. Operations are exact up to one
rounding to the nearest value; a tie goes to the even significand.
-/
namespace TurnRouter

def twoPow (k : Nat) : Nat := Nat.pow 2 k
def tenPow (k : Nat) : Nat := Nat.pow 10 k

theorem twoPow_pos (k : Nat) : 0 < twoPow k := Nat.two_pow_pos k
theorem twoPow_add (j k : Nat) : twoPow (j + k) = twoPow j * twoPow k := Nat.pow_add 2 j k
theorem twoPow_le {j k : Nat} (h : j ≤ k) : twoPow j ≤ twoPow k :=
  Nat.pow_le_pow_right (by decide) h

theorem lt_twoPow_log2 (n : Nat) : n < twoPow (n.log2 + 1) := Nat.lt_log2_self

/-- How many smallest steps make 1, and how many are too many for a finite number. -/
def unitsOfOne : Nat := twoPow 1074
def unitsLimit : Nat := twoPow 2098

/-- Counts of the smallest step that the format can hold. -/
def OnGrid (units : Nat) : Prop := units < unitsLimit ∧ ∃ m e, m ≤ twoPow 53 ∧ units = m * twoPow e

inductive Binary64
  | nan
  | infinite (negative : Bool)
  | finite (negative : Bool) (units : Nat) (onGrid : OnGrid units)
deriving DecidableEq

namespace Binary64

/-- The integer nearest to `num / den`, a tie going to the even one. -/
def divEven (num den : Nat) : Nat :=
  let q := num / den
  let twice := 2 * (num % den)
  if twice < den ∨ (twice = den ∧ q % 2 = 0) then q else q + 1

theorem divEven_le {num den m : Nat} (h : num / den < m) : divEven num den ≤ m := by
  simp only [divEven]
  split <;> omega

/-- The exponent of the grid on which `num / den` is rounded. -/
def gridExponent (num den : Nat) : Nat := (num / den).log2 - 52

theorem scaled_lt (num den : Nat) :
    num / (den * twoPow (gridExponent num den)) < twoPow 53 := by
  rw [← Nat.div_div_eq_div_mul, Nat.div_lt_iff_lt_mul (twoPow_pos _), ← twoPow_add]
  exact Nat.lt_of_lt_of_le (lt_twoPow_log2 _) (twoPow_le (by unfold gridExponent; omega))

/-- Nearest representable count to `num / den`. -/
def roundUnits (num den : Nat) : Nat :=
  let grid := twoPow (gridExponent num den)
  divEven num (den * grid) * grid

theorem roundUnits_onGrid {num den : Nat} (h : roundUnits num den < unitsLimit) :
    OnGrid (roundUnits num den) :=
  ⟨h, _, _, divEven_le (scaled_lt num den), rfl⟩

/-- The number nearest to `num / den` steps; from 2^1024 on it is infinite. -/
def ofUnits (negative : Bool) (num den : Nat) : Binary64 :=
  if h : roundUnits num den < unitsLimit then .finite negative (roundUnits num den) (roundUnits_onGrid h)
  else .infinite negative

def ofRatio (negative : Bool) (num den : Nat) : Binary64 := ofUnits negative (num * unitsOfOne) den
def ofNat (n : Nat) : Binary64 := ofRatio false n 1

theorem zero_onGrid : OnGrid 0 := ⟨twoPow_pos _, 0, 0, Nat.zero_le _, rfl⟩

def zero (negative : Bool) : Binary64 := .finite negative 0 zero_onGrid

def neg : Binary64 → Binary64
  | nan => nan
  | infinite s => infinite (!s)
  | finite s u h => finite (!s) u h

def isZero : Binary64 → Bool
  | finite _ u _ => u == 0
  | _ => false

def isInfinite : Binary64 → Bool
  | infinite _ => true
  | _ => false

def mul : Binary64 → Binary64 → Binary64
  | nan, _ | _, nan => nan
  | infinite s, infinite t => infinite (s != t)
  | infinite s, finite t u _ | finite s u _, infinite t => if u = 0 then nan else infinite (s != t)
  | finite s u _, finite t v _ => ofUnits (s != t) (u * v) unitsOfOne

def div : Binary64 → Binary64 → Binary64
  | nan, _ | _, nan | infinite _, infinite _ => nan
  | infinite s, finite t _ _ => infinite (s != t)
  | finite s _ _, infinite t => zero (s != t)
  | finite s u _, finite t v _ =>
    if v = 0 then (if u = 0 then nan else infinite (s != t)) else ofUnits (s != t) (u * unitsOfOne) v

/-- Place in the order of all values but NaN: the signed count, the infinities at its ends. -/
def rank? : Binary64 → Option Int
  | nan => none
  | infinite s => some (if s then -unitsLimit else unitsLimit)
  | finite s u _ => some (if s then -(u : Int) else u)

/-- NaN compares with nothing, and the two zeros are equal. -/
def compare? (x y : Binary64) : Option Ordering := do
  return compare (← x.rank?) (← y.rank?)

end Binary64
end TurnRouter
