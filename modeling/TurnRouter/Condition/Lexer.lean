import TurnRouter.Condition.StringLiteral
import TurnRouter.Numeral
import TurnRouter.Text.Blank
import TurnRouter.Text.Numeric

/-! # From text to lexemes

Blanks only separate. Each lexeme carries the part of the text it was read from, and that part is
never empty (`splits_of_readToken`), so reading ends.
-/
namespace TurnRouter.Condition

def readOperator? (s : Text) : Option (Reading Token) :=
  Token.operators.findSome? fun t => (Text.drop? t.spelling s).map fun rest => ⟨t, t.spelling, rest⟩

def isWordChar (c : Char) : Bool := isAlphanumeric c || c == '_'
def startsWord (c : Char) : Bool := isAlphabetic c || c == '_'

def keyword? (word : Text) : Option Scalar :=
  if word = "true".toList then some (.boolean true)
  else if word = "false".toList then some (.boolean false)
  else if word = "null".toList then some .null
  else none

def readWord (start : Nat) (s : Text) : Except Error (Reading Token) :=
  match keyword? (s.takeWhile isWordChar) with
  | some v => .ok ⟨.value v, s.takeWhile isWordChar, s.dropWhile isWordChar⟩
  | none => .error (.unknownWord (s.takeWhile isWordChar) start)

def readNumber (start : Nat) (c : Char) (s : Text) : Except Error (Reading Token) :=
  match Numeral.read? (c :: s) with
  | some (n, rest) => .ok ⟨.value (.number n.toBinary64), n.source, rest⟩
  | none => .error (.unexpectedChar c start)

def readString (start : Nat) (quote : Char) (s : Text) : Except Error (Reading Token) :=
  match readBody start quote s with
  | .ok r => .ok ⟨.value (.string r.value), quote :: r.source, r.rest⟩
  | .error e => .error e

/-- Reads the token that starts at the character `c`, no blank, of a text. -/
def readToken (start : Nat) (c : Char) (s : Text) : Except Error (Reading Token) :=
  match readOperator? (c :: s) with
  | some r => .ok r
  | none =>
    if c = '\'' ∨ c = '"' then readString start c s
    else if c = '-' ∨ c.isDigit then readNumber start c s
    else if startsWord c then readWord start (c :: s)
    else .error (.unexpectedChar c start)

theorem splits_of_readOperator? {s : Text} {r : Reading Token} (h : readOperator? s = some r) :
    r.value ∈ Token.operators ∧ r.source = r.value.spelling ∧ r.Splits s := by
  obtain ⟨t, ht, hr⟩ := List.exists_of_findSome?_eq_some h
  obtain ⟨rest, hrest, rfl⟩ := Option.map_eq_some_iff.1 hr
  exact ⟨ht, rfl, Text.drop?_eq_some_iff.1 hrest⟩

theorem keyword?_nil : keyword? [] = none := rfl

theorem splits_of_readWord {start : Nat} {s : Text} {r : Reading Token}
    (h : readWord start s = .ok r) : r.Splits s ∧ r.source ≠ [] := by
  unfold readWord at h
  split at h
  · next v hv =>
    cases h
    refine ⟨List.takeWhile_append_dropWhile.symm, fun hn => ?_⟩
    dsimp only at hn
    simp [hn, keyword?_nil] at hv
  · cases h

theorem splits_of_readNumber {start : Nat} {c : Char} {s : Text} {r : Reading Token}
    (h : readNumber start c s = .ok r) : r.Splits (c :: s) ∧ r.source ≠ [] := by
  unfold readNumber at h
  split at h
  · next n rest hn =>
    cases h
    have := Numeral.eq_source_append_of_read? hn
    exact ⟨this.1, Numeral.source_ne_nil this.2⟩
  · cases h

theorem splits_of_readString {start : Nat} {c : Char} {s : Text} {r : Reading Token}
    (h : readString start c s = .ok r) : r.Splits (c :: s) ∧ r.source ≠ [] := by
  unfold readString at h
  split at h
  · next b hb =>
    cases h
    exact ⟨congrArg (c :: ·) (splits_of_readBody hb), List.cons_ne_nil _ _⟩
  · cases h

theorem splits_of_readToken {start : Nat} {c : Char} {s : Text} {r : Reading Token}
    (h : readToken start c s = .ok r) : r.Splits (c :: s) ∧ r.source ≠ [] := by
  unfold readToken at h
  split at h
  · next t ht =>
    cases h
    obtain ⟨hm, hs, hsplit⟩ := splits_of_readOperator? ht
    exact ⟨hsplit, hs ▸ Token.spelling_ne_nil_of_mem hm⟩
  · split at h
    · exact splits_of_readString h
    · split at h
      · exact splits_of_readNumber h
      · split at h
        · exact splits_of_readWord h
        · cases h

theorem length_lt_of_readToken {start : Nat} {c : Char} {s : Text} {r : Reading Token}
    (h : readToken start c s = .ok r) : r.rest.length < (c :: s).length :=
  (splits_of_readToken h).1.length_lt (splits_of_readToken h).2

/-- Reads a text whose first character stands at the byte `offset`. -/
def lexFrom (offset : Nat) (s : Text) : Except Error (List Lexeme) :=
  match s with
  | [] => .ok []
  | c :: s =>
    if isBlank c then lexFrom (offset + c.utf8Size) s
    else
      match h : readToken offset c s with
      | .error e => .error e
      | .ok r =>
        have := length_lt_of_readToken h
        (lexFrom (offset + Text.width r.source) r.rest).map (⟨r.value, r.source, offset⟩ :: ·)
termination_by s.length
decreasing_by
  · exact Nat.lt_succ_self s.length
  · exact this

def lex (s : Text) : Except Error (List Lexeme) := lexFrom 0 s

end TurnRouter.Condition
