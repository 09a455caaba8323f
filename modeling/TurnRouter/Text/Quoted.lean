import TurnRouter.Text.Unprintable

/-! # Quoted text in messages

A text is shown between double quotes. The quote, the backslash and the common controls have
short escapes, and other characters without a printed form are written by their code point.
-/
namespace TurnRouter.Text

def quoteChar (c : Char) : Text :=
  if c = '"' ∨ c = '\\' then ['\\', c]
  else if c = '\n' then ['\\', 'n']
  else if c = '\r' then ['\\', 'r']
  else if c = '\t' then ['\\', 't']
  else if c = '\x00' then ['\\', '0']
  else if isUnprintable c then ['\\', 'u', '\x7b'] ++ hex c.toNat ++ ['\x7d']
  else [c]

def quoted (s : Text) : Text := '"' :: s.flatMap quoteChar ++ ['"']

example : quoted "a\"\\\n\x00'é\x7f\u0301".toList
    = "\"a\\\"\\\\\\n\\0'é\\u\x7b7f\x7d\\u\x7b301\x7d\"".toList := by decide +kernel

end TurnRouter.Text
