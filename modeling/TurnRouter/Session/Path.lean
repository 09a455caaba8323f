import TurnRouter.Text.Split

/-! # Dotted paths

A path is a list of segments written with dots between them. No segment is empty, and a dot
never belongs to one, so a path and its text determine each other.
-/
namespace TurnRouter

theorem proper_of_mem_split {s : Text} (h : ¬(Text.split '.' s).contains []) :
    ∀ piece ∈ Text.split '.' s, piece ≠ [] ∧ '.' ∉ piece := by
  refine fun piece hp => ⟨?_, Text.mark_notMem_of_mem_split hp⟩
  rintro rfl
  exact h (List.contains_iff_mem.2 hp)

structure Path where
  segments : List Text
  ne_nil : segments ≠ []
  proper : ∀ piece ∈ segments, piece ≠ [] ∧ '.' ∉ piece
deriving DecidableEq

/-- The text of a path with an empty segment. -/
structure InvalidPath where
  text : Text
deriving DecidableEq

def InvalidPath.message (e : InvalidPath) : Text :=
  "invalid placeholder path '".toList ++ e.text ++ ['\'']

namespace Path

def parse (s : Text) : Except InvalidPath Path :=
  if h : (Text.split '.' s).contains [] then .error ⟨s⟩
  else .ok ⟨Text.split '.' s, Text.split_ne_nil '.' s, proper_of_mem_split h⟩

def toText (p : Path) : Text := Text.join '.' p.segments

end Path
end TurnRouter
