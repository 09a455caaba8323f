import TurnRouter.Json.Basic
import TurnRouter.Text.CodeUnit

/-! # Reading JSON text

Strict JSON: no leading zeros, no control characters in strings, no unpaired surrogates, nothing
after the value, and at most 127 arrays and objects around a value. Of two fields with one key
the later counts.
-/
namespace TurnRouter.Json

/-- A value read from the front of `s`, and the shorter text after it. -/
structure Taken (α : Type) (s : Text) where
  value : α
  rest : Text
  rest_lt : rest.length < s.length

abbrev Reader (α : Type) := (s : Text) → Option (Taken α s)

namespace Taken
variable {α β : Type} {s t : Text}

def map (f : α → β) (r : Taken α s) : Taken β s := ⟨f r.value, r.rest, r.rest_lt⟩

/-- What was taken from a part of a text was taken from the text. -/
def widen (r : Taken α s) (h : s.length ≤ t.length) : Taken α t :=
  ⟨r.value, r.rest, Nat.lt_of_lt_of_le r.rest_lt h⟩

/-- What is taken from the rest, after what was taken before. -/
def after (r : Taken α s) (next : Taken β r.rest) : Taken β s :=
  next.widen (Nat.le_of_lt r.rest_lt)

def ofCons (value : α) (c : Char) (s : Text) : Taken α (c :: s) := ⟨value, s, Nat.lt_succ_self _⟩

/-- Puts a character in front. -/
def cons (c : Char) (x : Char) (r : Taken Text s) : Taken Text (c :: s) :=
  ⟨x :: r.value, r.rest, Nat.lt_succ_of_lt r.rest_lt⟩

end Taken

def isSpace (c : Char) : Bool := c == ' ' || c == '\n' || c == '\t' || c == '\r'

def skipSpace (s : Text) : Text := s.dropWhile isSpace

theorem length_skipSpace_le (s : Text) : (skipSpace s).length ≤ s.length :=
  (List.dropWhile_suffix isSpace).length_le

theorem lt_of_skipSpace_eq_cons {s t : Text} {c : Char} (h : skipSpace s = c :: t) :
    t.length < s.length := by
  have := length_skipSpace_le s
  rw [h, List.length_cons] at this
  omega

/-- The next character that is no space. -/
def readChar? (s : Text) : Option (Taken Char s) :=
  match h : skipSpace s with
  | [] => none
  | c :: t => some ⟨c, t, lt_of_skipSpace_eq_cons h⟩

def shortEscape? (c : Char) : Option Char :=
  if c = '"' ∨ c = '\\' ∨ c = '/' then some c
  else if c = 'b' then some '\x08'
  else if c = 'f' then some '\x0c'
  else if c = 'n' then some '\n'
  else if c = 'r' then some '\r'
  else if c = 't' then some '\t'
  else none

theorem lt_length_cons_four (a b c d : Char) (s : Text) :
    s.length < (a :: b :: c :: d :: s).length := by
  simp only [List.length_cons]; omega

def readUnit? : Reader Nat
  | a :: b :: c :: d :: s => (hexValue? [a, b, c, d]).map fun unit => ⟨unit, s, lt_length_cons_four a b c d s⟩
  | _ => none

theorem le_of_rest_eq_cons_cons {α : Type} {s : Text} {r : Taken α s} {a b : Char} {t : Text}
    (h : r.rest = a :: b :: t) : t.length ≤ s.length := by
  have := r.rest_lt
  rw [h, List.length_cons, List.length_cons] at this
  omega

/-- The character of an escape, after its `\u`. -/
def readCodePoint? : Reader Char := fun s => do
  let high ← readUnit? s
  if isLowSurrogate high.value then none
  else if isHighSurrogate high.value then
    match h : high.rest with
    | '\\' :: 'u' :: t => do
      let low ← readUnit? t
      if isLowSurrogate low.value then
        some ((low.map (joinSurrogates high.value)).widen (le_of_rest_eq_cons_cons h))
      else none
    | _ => none
  else some (high.map Char.ofNat)

theorem lt_cons_cons {c e : Char} {s : Text} {α : Type} (r : Taken α s) :
    r.rest.length < (c :: e :: s).length :=
  Nat.lt_succ_of_lt (Nat.lt_succ_of_lt r.rest_lt)

/-- What follows an opening quote, up to and with the closing one. -/
def readBody? (s : Text) : Option (Taken Text s) :=
  match s with
  | [] => none
  | c :: t =>
    if c = '"' then some (.ofCons [] c t)
    else if c = '\\' then
      match t with
      | [] => none
      | e :: u =>
        if e = 'u' then
          (readCodePoint? u).bind fun x => (readBody? x.rest).map fun more =>
            ((x.after more).map (x.value :: ·)).widen (Nat.le_add_right u.length 2)
        else
          (shortEscape? e).bind fun x => (readBody? u).map fun more => (more.cons e x).widen (Nat.le_succ _)
    else if c.toNat < 0x20 then none
    else (readBody? t).map fun more => more.cons c c
termination_by s.length
decreasing_by
  · exact lt_cons_cons x
  · exact Nat.lt_succ_of_lt (Nat.lt_succ_self u.length)
  · exact Nat.lt_succ_self t.length

/-- The items of an array from the first one on, with the closing bracket. -/
def readItems? (item : Reader Json) (s : Text) : Option (Taken (List Json) s) := do
  let v ← item s
  let c ← readChar? v.rest
  let after := v.after c
  if c.value = ']' then some (after.map fun _ => [v.value])
  else if c.value = ',' then
    (readItems? item after.rest).map fun more => (after.after more).map (v.value :: ·)
  else none
termination_by s.length
decreasing_by exact after.rest_lt

/-- A key and the colon after it. -/
def readKey? : Reader Text := fun s => do
  let quote ← readChar? s
  if quote.value = '"' then
    let key ← readBody? quote.rest
    let colon ← readChar? key.rest
    if colon.value = ':' then some (quote.after ((key.after colon).map fun _ => key.value)) else none
  else none

/-- The fields of an object from the first one on, with the closing brace. -/
def readFields? (value : Reader Json) (s : Text) : Option (Taken (List (Text × Json)) s) := do
  let key ← readKey? s
  let v ← value key.rest
  let c ← readChar? v.rest
  let after := key.after (v.after c)
  if c.value = '\x7d' then some (after.map fun _ => [(key.value, v.value)])
  else if c.value = ',' then
    (readFields? value after.rest).map fun more => (after.after more).map ((key.value, v.value) :: ·)
  else none
termination_by s.length
decreasing_by exact after.rest_lt

theorem lt_of_drop?_cons {word s rest : Text} {c : Char} (h : Text.drop? (c :: word) s = some rest) :
    rest.length < s.length := by
  rw [Text.drop?_eq_some_iff.1 h, List.length_append, List.length_cons]
  omega

/-- Reads a word with the value that it stands for. -/
def readWord? (c : Char) (word : Text) (value : Json) (s : Text) : Option (Taken Json s) :=
  match h : Text.drop? (c :: word) s with
  | some rest => some ⟨value, rest, lt_of_drop?_cons h⟩
  | none => none

theorem lt_of_read? {s rest : Text} {n : Numeral} (h : Numeral.read? s = some (n, rest)) :
    rest.length < s.length := by
  have ⟨hs, hn⟩ := Numeral.eq_source_append_of_read? h
  have := List.length_pos_iff.2 (Numeral.source_ne_nil hn)
  rw [hs, List.length_append]
  omega

def readNumber? (s : Text) : Option (Taken Json s) :=
  match h : Numeral.read? s with
  | some (n, rest) => (Number.ofNumeral? n).map fun x => ⟨.num x, rest, lt_of_read? h⟩
  | none => none

/-- Reads up to the closing character if that comes next, or else what stands before it. -/
def orEmpty {α : Type} (close : Char) (empty : α) (full : Reader α) : Reader α := fun s =>
  match readChar? s with
  | some c => if c.value = close then some (c.map fun _ => empty) else full s
  | none => none

def readScalar? : Reader Json
  | '"' :: s => (readBody? s).map fun r => (r.map .str).widen (Nat.le_succ s.length)
  | 'n' :: s => readWord? 'n' "ull".toList .null ('n' :: s)
  | 't' :: s => readWord? 't' "rue".toList (.bool true) ('t' :: s)
  | 'f' :: s => readWord? 'f' "alse".toList (.bool false) ('f' :: s)
  | s => readNumber? s

/-- A value at the first character of a text; `part?` reads the values inside it, if any may be. -/
def readNested? (part? : Option (Reader Json)) : Reader Json
  | [] => none
  | c :: s =>
    if c = '[' then part?.bind fun part =>
      (orEmpty ']' [] (readItems? part) s).map fun r => (r.map .arr).widen (Nat.le_succ s.length)
    else if c = '\x7b' then part?.bind fun part =>
      (orEmpty '\x7d' [] (readFields? part) s).map
        fun r => (r.map (.obj ∘ Fields.ofList)).widen (Nat.le_succ s.length)
    else readScalar? (c :: s)

def skippingSpace {α : Type} (read : Reader α) : Reader α := fun s =>
  (read (skipSpace s)).map (·.widen (length_skipSpace_le s))

/-- A value with at most `depth` arrays and objects around each of its parts. -/
def readValue? : (depth : Nat) → Reader Json
  | 0 => skippingSpace (readNested? none)
  | depth + 1 => skippingSpace (readNested? (some (readValue? depth)))

/-- The value that a whole text stands for, blanks around it aside. -/
def parseWithin? (depth : Nat) (s : Text) : Option Json := do
  let r ← readValue? depth s
  if skipSpace r.rest = [] then some r.value else none

def parse? (s : Text) : Option Json := parseWithin? 127 s

end TurnRouter.Json
