import TurnRouter.Condition.Scalar

/-! # Tokens of a condition -/
namespace TurnRouter.Condition

inductive Connective
  | and
  | or
deriving DecidableEq

namespace Connective

def symbol : Connective → Text
  | and => ['&', '&']
  | or => ['|', '|']

/-- The truth of an operand that settles a chain whatever follows. -/
def decisive : Connective → Bool
  | and => false
  | or => true

end Connective

inductive Token
  | connective (c : Connective)
  | not
  | compare (op : Comparison)
  | opening
  | closing
  | value (v : Scalar)
deriving DecidableEq

namespace Token

def spelling : Token → Text
  | connective c => c.symbol
  | not => ['!']
  | compare op => op.symbol
  | opening => ['(']
  | closing => [')']
  | value v => v.toText

/-- How a message names a token. -/
def description : Token → Text
  | value v => "value ".toList ++ v.toText
  | t => '\'' :: t.spelling ++ ['\'']

/-- All operators, those of two characters first: of two that fit, the longer is meant. -/
def operators : List Token := [
  connective .and, connective .or, compare .eq, compare .ne, compare .ge, compare .le,
  compare .gt, compare .lt, not, opening, closing]

theorem spelling_ne_nil_of_mem {t : Token} (h : t ∈ operators) : t.spelling ≠ [] := by
  revert t; decide

end Token

/-- A token, the part of the text it was read from, and the byte where that part starts. -/
structure Lexeme where
  token : Token
  source : Text
  offset : Nat
deriving DecidableEq

end TurnRouter.Condition
