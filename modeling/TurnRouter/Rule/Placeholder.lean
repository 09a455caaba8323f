import TurnRouter.Text.Name

/-! # Placeholders in the code of a rule

Where placeholders stand is settled by the text alone. Intents are looked for first, session
values in what is left, slots in what is left then. A request type is a placeholder only if it
is the whole code segment. Names are as long as they can be.
-/
namespace TurnRouter.Rule

inductive Family
  | intent
  | session
  | slot
  | requestType
deriving DecidableEq

namespace Family

def marker : Family → Text
  | intent => ['#']
  | session => "session.".toList
  | slot => "slot.".toList
  | requestType => []

def inName : Family → Char → Bool
  | intent | session => isDottedNameChar
  | slot | requestType => isNameChar

/-- The name of the placeholder that a text starts with, and what follows it. -/
def name? (f : Family) (s : Text) : Option (Text × Text) :=
  (Text.drop? f.marker s).bind fun t =>
    if t.takeWhile f.inName = [] then none else some (t.takeWhile f.inName, t.dropWhile f.inName)

theorem append_of_name? {f : Family} {s name rest : Text} (h : f.name? s = some (name, rest)) :
    s = f.marker ++ name ++ rest ∧ name ≠ [] := by
  obtain ⟨t, ht, hn⟩ := Option.bind_eq_some_iff.1 h
  split at hn
  · cases hn
  · next hne =>
    cases hn
    rw [Text.drop?_eq_some_iff.1 ht, List.append_assoc, List.takeWhile_append_dropWhile]
    exact ⟨rfl, hne⟩

theorem length_lt_of_name? {f : Family} {s name rest : Text} (h : f.name? s = some (name, rest)) :
    rest.length < s.length := by
  have ⟨hs, hn⟩ := append_of_name? h
  have := List.length_pos_iff.2 hn
  rw [hs, List.length_append, List.length_append]
  omega

end Family

inductive Span
  | raw (text : Text)
  | placeholder (family : Family) (name : Text)
deriving DecidableEq

def Span.source : Span → Text
  | raw s => s
  | placeholder f name => f.marker ++ name

def Span.consRaw (c : Char) : List Span → List Span
  | raw s :: spans => raw (c :: s) :: spans
  | spans => raw [c] :: spans

/-- The placeholders of one family in a raw text, leftmost first. -/
def scan (f : Family) (s : Text) : List Span :=
  match s with
  | [] => []
  | c :: t =>
    match h : f.name? (c :: t) with
    | some (name, rest) =>
      have := Family.length_lt_of_name? h
      .placeholder f name :: scan f rest
    | none => Span.consRaw c (scan f t)
termination_by s.length
decreasing_by
  · exact this
  · exact Nat.lt_succ_self t.length

def refine (f : Family) (spans : List Span) : List Span :=
  spans.flatMap fun
    | .raw s => scan f s
    | span => [span]

def requestTypes : List Text := ["LaunchRequest".toList, "SessionEndedRequest".toList]

/-- The spans of a code segment. -/
def spans (code : Text) : List Span :=
  if requestTypes.contains code then [.placeholder .requestType code]
  else refine .slot (refine .session (refine .intent [.raw code]))

end TurnRouter.Rule
