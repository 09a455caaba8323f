import TurnRouter.Condition.Token

/-! # What can be wrong with a condition -/
namespace TurnRouter.Condition

inductive Error
  | unexpectedChar (c : Char) (offset : Nat)
  | unknownWord (word : Text) (offset : Nat)
  | unterminatedString (offset : Nat)
  /-- What stands where four hexadecimal digits should. -/
  | malformedEscape (group : Text)
  /-- Half of a surrogate pair without the other half. -/
  | loneSurrogate (unit : Nat)
  | unexpectedToken (token : Token) (offset : Nat)
  | unexpectedEnd
  | trailingInput (token : Token) (offset : Nat)
  | typeMismatch (op : Comparison) (left right : Kind)
  | tooDeep (limit : Nat)
deriving DecidableEq

namespace Error

private def atByte (offset : Nat) : Text := " at byte ".toList ++ Text.ofNat offset

private def badEscape (written : Text) : Text :=
  "invalid escape sequence '\\u".toList ++ written ++ ['\'']

def message : Error → Text
  | unexpectedChar c offset => "unexpected character '".toList ++ c :: '\'' :: atByte offset
  | unknownWord word offset => "unexpected identifier '".toList ++ word ++ '\'' :: atByte offset
  | unterminatedString offset => "unexpected unterminated string".toList ++ atByte offset
  | malformedEscape group => badEscape group
  | loneSurrogate unit => badEscape (Text.hex4 unit)
  | unexpectedToken token offset => "unexpected ".toList ++ token.description ++ atByte offset
  | unexpectedEnd => "unexpected end of expression".toList
  | trailingInput token offset => "unexpected trailing ".toList ++ token.description ++ atByte offset
  | typeMismatch op left right =>
    "cannot apply '".toList ++ op.symbol ++ "' to ".toList ++ left.name ++ " and ".toList ++ right.name
  | tooDeep limit => "expression nested deeper than ".toList ++ Text.ofNat limit ++ " levels".toList

end Error
end TurnRouter.Condition
