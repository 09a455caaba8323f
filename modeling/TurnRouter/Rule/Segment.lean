import TurnRouter.Text.Basic

/-! # Segments of a rule

A rule is code with quoted literals in it. Each literal has the code before it as a segment of
its own, even if that is empty, so that the segments written one after the other are the rule.
A backslash in a literal protects the character after it.
-/
namespace TurnRouter.Rule

inductive Segment
  | code (text : Text)
  | literal (text : Text)
deriving DecidableEq

def Segment.text : Segment → Text
  | code s => s
  | literal s => s

def Segment.isLiteral : Segment → Bool
  | code _ => false
  | literal _ => true

/-- A literal without an end: its quote, and the byte where that stands. -/
structure Unterminated where
  quote : Char
  offset : Nat
deriving DecidableEq

def Unterminated.message (e : Unterminated) : Text :=
  "unterminated ".toList ++ e.quote :: " literal starting at byte ".toList ++ Text.ofNat e.offset

def isQuote (c : Char) : Bool := c == '\'' || c == '"'

/-- What follows an opening quote, up to and with the closing one, and the rest. -/
def closing? (quote : Char) : Text → Option (Text × Text)
  | [] => none
  | c :: s =>
    if c = quote then some ([c], s)
    else if c = '\\' then
      match s with
      | [] => none
      | e :: s => (closing? quote s).map fun r => (c :: e :: r.1, r.2)
    else (closing? quote s).map fun r => (c :: r.1, r.2)

theorem append_of_closing? {quote : Char} {s body rest : Text}
    (h : closing? quote s = some (body, rest)) : s = body ++ rest := by
  fun_induction closing? quote s generalizing body rest with
  | case1 => cases h
  | case2 => cases h; rfl
  | case3 => cases h
  | case4 e s hq ih =>
    obtain ⟨r, hr, he⟩ := Option.map_eq_some_iff.1 h
    cases he
    simp [← ih hr]
  | case5 c s hc hb ih =>
    obtain ⟨r, hr, he⟩ := Option.map_eq_some_iff.1 h
    cases he
    simp [← ih hr]

def codeOf (s : Text) : Text := s.takeWhile fun c => !isQuote c
def afterCode (s : Text) : Text := s.dropWhile fun c => !isQuote c

theorem codeOf_append_afterCode (s : Text) : codeOf s ++ afterCode s = s :=
  List.takeWhile_append_dropWhile

theorem length_lt_of_closing? {quote : Char} {s t body rest : Text} (h : afterCode s = quote :: t)
    (h' : closing? quote t = some (body, rest)) : rest.length < s.length := by
  rw [← codeOf_append_afterCode s, h, append_of_closing? h', List.length_append, List.length_cons,
    List.length_append]
  omega

/-- Splits a text that starts at the byte `offset` of its rule. -/
def segmentsFrom (offset : Nat) (s : Text) : Except Unterminated (List Segment) :=
  if s = [] then .ok []
  else
    match h : afterCode s with
    | [] => .ok [.code (codeOf s)]
    | quote :: t =>
      let start := offset + Text.width (codeOf s)
      match h' : closing? quote t with
      | none => .error ⟨quote, start⟩
      | some (body, rest) =>
        have := length_lt_of_closing? h h'
        (segmentsFrom (start + quote.utf8Size + Text.width body) rest).map
          fun more => .code (codeOf s) :: .literal (quote :: body) :: more
termination_by s.length
decreasing_by exact this

def segments (rule : Text) : Except Unterminated (List Segment) := segmentsFrom 0 rule

end TurnRouter.Rule
