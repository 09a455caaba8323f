import TurnRouter.Condition.Error
import TurnRouter.Text.CodeUnit
import TurnRouter.Text.Reading

/-! # String literals of a condition

A literal ends at the next copy of its opening quote that no backslash protects. A backslash
before a character without a meaning of its own stands for itself. `\u` takes a group of four
characters, and two such groups make up a surrogate pair.
-/
namespace TurnRouter.Condition

/-- The code unit that a group of four stands for; a plus sign may take the place of its first
digit. -/
def codeUnit? (group : Text) : Option Nat :=
  match group with
  | ['+', a, b, c] => hexValue? [a, b, c]
  | [a, b, c, d] => hexValue? [a, b, c, d]
  | _ => none

def readUnit (s : Text) : Except Error (Reading Nat) :=
  match codeUnit? (s.take 4) with
  | some unit => .ok ⟨unit, s.take 4, s.drop 4⟩
  | none => .error (.malformedEscape (s.take 4))

theorem splits_of_readUnit {s : Text} {r : Reading Nat} (h : readUnit s = .ok r) : r.Splits s := by
  unfold readUnit at h
  split at h
  · cases h; exact (List.take_append_drop 4 s).symm
  · cases h

/-- The character of an escape, after its `\u`. -/
def readCodePoint (s : Text) : Except Error (Reading Char) :=
  match readUnit s with
  | .error e => .error e
  | .ok high =>
    if isHighSurrogate high.value then
      match high.rest with
      | '\\' :: 'u' :: t =>
        match readUnit t with
        | .error e => .error e
        | .ok low =>
          if isLowSurrogate low.value then
            .ok ⟨joinSurrogates high.value low.value, high.source ++ '\\' :: 'u' :: low.source, low.rest⟩
          else .error (.loneSurrogate high.value)
      | _ => .error (.loneSurrogate high.value)
    else if isLowSurrogate high.value then .error (.loneSurrogate high.value)
    else .ok (high.map Char.ofNat)

theorem splits_of_readCodePoint {s : Text} {r : Reading Char} (h : readCodePoint s = .ok r) :
    r.Splits s := by
  unfold readCodePoint at h
  split at h
  · cases h
  · next high hhigh =>
    have hs := splits_of_readUnit hhigh
    split at h
    · split at h
      · next t ht =>
        split at h
        · cases h
        · next low hlow =>
          have hl := splits_of_readUnit hlow
          split at h
          · simp only [Except.ok.injEq] at h
            simp only [Reading.Splits] at hs hl
            simp only [← h, Reading.Splits, List.append_assoc, List.cons_append, ← hl, ← ht, ← hs]
          · cases h
      · cases h
    · split at h
      · cases h
      · cases h; exact hs

/-- What a backslash and this character stand for, `u` apart. -/
def unescape (c : Char) : Text :=
  if c = 'n' then ['\n']
  else if c = 't' then ['\t']
  else if c = 'r' then ['\r']
  else if c = 'b' then ['\x08']
  else if c = 'f' then ['\x0c']
  else if c = '/' ∨ c = '\\' ∨ c = '\'' ∨ c = '"' then [c]
  else ['\\', c]

/-- Reads what follows an opening quote, up to and with the closing one. -/
def readBody (start : Nat) (quote : Char) (s : Text) : Except Error (Reading Text) :=
  match s with
  | [] => .error (.unterminatedString start)
  | c :: s =>
    if c = quote then .ok ⟨[], [c], s⟩
    else if c = '\\' then
      match s with
      | [] => .error (.unterminatedString start)
      | e :: s =>
        if e = 'u' then
          match h : readCodePoint s with
          | .error e => .error e
          | .ok r =>
            have := (splits_of_readCodePoint h).length_le
            Reading.after [r.value] (c :: e :: r.source) (readBody start quote r.rest)
        else Reading.after (unescape e) [c, e] (readBody start quote s)
    else Reading.after [c] [c] (readBody start quote s)
termination_by s.length
decreasing_by
  · exact Nat.lt_succ_of_le (Nat.le_succ_of_le this)
  · exact Nat.lt_succ_of_lt (Nat.lt_succ_self s.length)
  · exact Nat.lt_succ_self s.length

theorem splits_of_readBody {start : Nat} {quote : Char} {s : Text} {r : Reading Text}
    (h : readBody start quote s = .ok r) : r.Splits s := by
  fun_induction readBody start quote s generalizing r with
  | case1 => cases h
  | case2 s => cases h; simp [Reading.Splits]
  | case3 => cases h
  | case4 => cases h
  | case5 s x hr hle hc ih =>
    refine Reading.splits_of_after h ?_ fun r' hr' => ih hr'
    have := splits_of_readCodePoint hr
    simp only [Reading.Splits] at this
    simp [← this]
  | case6 e s he hc ih => exact Reading.splits_of_after h rfl fun r' hr' => ih hr'
  | case7 c s hc hb ih => exact Reading.splits_of_after h rfl fun r' hr' => ih hr'

end TurnRouter.Condition
