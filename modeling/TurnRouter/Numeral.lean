import TurnRouter.Binary64.Basic

/-! # Numerals

A numeral is an optional minus, digits, an optional fraction and an optional exponent. `read?`
takes the longest one a text starts with: a point or an exponent mark without digits after it
is not part of it. `source` writes a numeral back as it stood (`eq_source_append_of_read?`).
-/
namespace TurnRouter

def digitsValue (digits : Text) : Nat := digits.foldl (fun n c => 10 * n + (c.toNat - 48)) 0

namespace Numeral

structure Exponent where
  mark : Char
  sign : Text
  digits : Text
deriving DecidableEq

def Exponent.source (e : Exponent) : Text := e.mark :: e.sign ++ e.digits

def Exponent.value (e : Exponent) : Int :=
  if e.sign = ['-'] then -(digitsValue e.digits : Int) else digitsValue e.digits

def readDigits (s : Text) : Text × Text := (s.takeWhile Char.isDigit, s.dropWhile Char.isDigit)

theorem readDigits_append (s : Text) : (readDigits s).1 ++ (readDigits s).2 = s :=
  List.takeWhile_append_dropWhile

/-- The digits after a point; none if no digit follows it. -/
def readFraction (s : Text) : Text × Text :=
  match s with
  | '.' :: t => if (readDigits t).1 = [] then ([], s) else readDigits t
  | _ => ([], s)

def readSign (s : Text) : Text × Text :=
  match s with
  | '+' :: t => (['+'], t)
  | '-' :: t => (['-'], t)
  | _ => ([], s)

theorem readSign_append (s : Text) : (readSign s).1 ++ (readSign s).2 = s := by
  unfold readSign; split <;> simp

def readExponent (s : Text) : Option Exponent × Text :=
  match s with
  | [] => (none, s)
  | mark :: t =>
    if mark = 'e' ∨ mark = 'E' then
      let (sign, u) := readSign t
      let (digits, rest) := readDigits u
      if digits = [] then (none, s) else (some ⟨mark, sign, digits⟩, rest)
    else (none, s)

end Numeral

structure Numeral where
  negative : Bool
  whole : Text
  fraction : Text
  exponent : Option Numeral.Exponent
deriving DecidableEq

namespace Numeral

def fractionSource (fraction : Text) : Text := if fraction = [] then [] else '.' :: fraction
def exponentSource (e : Option Exponent) : Text := (e.map Exponent.source).getD []

def source (n : Numeral) : Text :=
  (if n.negative then ['-'] else []) ++ n.whole ++ fractionSource n.fraction
    ++ exponentSource n.exponent

theorem readFraction_append (s : Text) :
    fractionSource (readFraction s).1 ++ (readFraction s).2 = s := by
  unfold readFraction
  split
  · next t =>
    split
    · simp [fractionSource]
    · next h => simp [fractionSource, h, readDigits_append]
  · simp [fractionSource]

theorem readExponent_append (s : Text) :
    exponentSource (readExponent s).1 ++ (readExponent s).2 = s := by
  unfold readExponent
  split
  · rfl
  · next mark t =>
    split
    · dsimp only
      split
      · simp [exponentSource]
      · simp [exponentSource, Exponent.source, readDigits_append, readSign_append]
    · simp [exponentSource]

def readUnsigned? (negative : Bool) (s : Text) : Option (Numeral × Text) :=
  let (whole, t) := readDigits s
  if whole = [] then none
  else
    let (fraction, u) := readFraction t
    let (exponent, rest) := readExponent u
    some (⟨negative, whole, fraction, exponent⟩, rest)

def read? : Text → Option (Numeral × Text)
  | '-' :: s => readUnsigned? true s
  | s => readUnsigned? false s

theorem readUnsigned?_source {negative : Bool} {s rest : Text} {n : Numeral}
    (h : readUnsigned? negative s = some (n, rest)) :
    (if negative then ['-'] else []) ++ s = n.source ++ rest ∧ n.whole ≠ [] := by
  simp only [readUnsigned?] at h
  split at h
  · simp at h
  · next hw =>
    simp only [Option.some.injEq, Prod.mk.injEq] at h
    obtain ⟨rfl, rfl⟩ := h
    refine ⟨?_, hw⟩
    simp only [source, List.append_assoc, readExponent_append, readFraction_append, readDigits_append]

theorem eq_source_append_of_read? {s rest : Text} {n : Numeral} (h : read? s = some (n, rest)) :
    s = n.source ++ rest ∧ n.whole ≠ [] := by
  unfold read? at h
  split at h <;> simpa using readUnsigned?_source h

theorem source_ne_nil {n : Numeral} (h : n.whole ≠ []) : n.source ≠ [] := by
  simp [source, h]

/-- The power of ten that the last digit counts. -/
def scale (n : Numeral) : Int :=
  (n.exponent.map Exponent.value).getD 0 - n.fraction.length

/-- The nearest binary64 number. Far outside the format's reach the power of ten is not needed. -/
def toBinary64 (n : Numeral) : Binary64 :=
  let digits := (n.whole ++ n.fraction).dropWhile (· == '0')
  let point := digits.length + n.scale
  if digits = [] ∨ point < -330 then .zero n.negative
  else if 310 < point then .infinite n.negative
  else if n.scale < 0 then .ofRatio n.negative (digitsValue digits) (tenPow n.scale.natAbs)
  else .ofRatio n.negative (digitsValue digits * tenPow n.scale.natAbs) 1

end Numeral
end TurnRouter
