import TurnRouter.Json.Basic

/-! # JSON text

Two spellings of a value: on one line without blanks, and over several lines with two blanks a
level. In a string only the quote, the backslash and controls below U+0020 are escaped.
-/
namespace TurnRouter.Json

def escapeChar (c : Char) : Text :=
  if c = '"' ∨ c = '\\' then ['\\', c]
  else if c = '\x08' then ['\\', 'b']
  else if c = '\x0c' then ['\\', 'f']
  else if c = '\n' then ['\\', 'n']
  else if c = '\r' then ['\\', 'r']
  else if c = '\t' then ['\\', 't']
  else if c.toNat < 0x20 then '\\' :: 'u' :: Text.hex4 c.toNat
  else [c]

def writeString (s : Text) : Text := '"' :: s.flatMap escapeChar ++ ['"']

mutual

def write : Json → Text
  | null => "null".toList
  | bool b => if b then "true".toList else "false".toList
  | num n => n.toText
  | str s => writeString s
  | arr items => '[' :: writeItems items ++ [']']
  | obj fields => '\x7b' :: writeFields fields ++ ['\x7d']

def writeItems : List Json → Text
  | [] => []
  | v :: vs => write v ++ (if vs.isEmpty then [] else ',' :: writeItems vs)

def writeFields : List (Text × Json) → Text
  | [] => []
  | (k, v) :: fs => writeString k ++ ':' :: write v ++ (if fs.isEmpty then [] else ',' :: writeFields fs)

end

def newline (level : Nat) : Text := '\n' :: List.replicate (2 * level) ' '

mutual

/-- The lines after the first are indented by `level` steps. -/
def writeLines (level : Nat) : Json → Text
  | null => "null".toList
  | bool b => if b then "true".toList else "false".toList
  | num n => n.toText
  | str s => writeString s
  | arr items =>
    if items.isEmpty then ['[', ']']
    else '[' :: writeItemLines (level + 1) items ++ newline level ++ [']']
  | obj fields =>
    if fields.isEmpty then ['\x7b', '\x7d']
    else '\x7b' :: writeFieldLines (level + 1) fields ++ newline level ++ ['\x7d']

def writeItemLines (level : Nat) : List Json → Text
  | [] => []
  | v :: vs => newline level ++ writeLines level v
      ++ (if vs.isEmpty then [] else ',' :: writeItemLines level vs)

def writeFieldLines (level : Nat) : List (Text × Json) → Text
  | [] => []
  | (k, v) :: fs => newline level ++ writeString k ++ ':' :: ' ' :: writeLines level v
      ++ (if fs.isEmpty then [] else ',' :: writeFieldLines level fs)

end

end TurnRouter.Json
