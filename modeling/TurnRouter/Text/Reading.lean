import TurnRouter.Text.Basic

/-! # Readings

What a reader took from the front of a text: the value, the part it stood for, and what follows.
-/
namespace TurnRouter

structure Reading (α : Type) where
  value : α
  source : Text
  rest : Text
deriving DecidableEq

namespace Reading
variable {α β : Type}

/-- The text that was read is the part taken and the rest, with nothing lost. -/
def Splits (r : Reading α) (s : Text) : Prop := s = r.source ++ r.rest

def map (f : α → β) (r : Reading α) : Reading β := ⟨f r.value, r.source, r.rest⟩

theorem Splits.length_le {r : Reading α} {s : Text} (h : r.Splits s) : r.rest.length ≤ s.length := by
  rw [h, List.length_append]; omega

theorem Splits.length_lt {r : Reading α} {s : Text} (h : r.Splits s) (hne : r.source ≠ []) :
    r.rest.length < s.length := by
  rw [h, List.length_append]
  have := List.length_pos_iff.2 hne
  omega

/-- Puts a piece in front of what is read after it. -/
def after {ε : Type} (value source : Text) : Except ε (Reading Text) → Except ε (Reading Text)
  | .ok r => .ok ⟨value ++ r.value, source ++ r.source, r.rest⟩
  | .error e => .error e

theorem splits_of_after {ε : Type} {value source s t : Text} {x : Except ε (Reading Text)}
    {r : Reading Text} (h : after value source x = .ok r) (hs : s = source ++ t)
    (ht : ∀ r', x = .ok r' → r'.Splits t) : r.Splits s := by
  cases x with
  | error e => cases h
  | ok r' =>
    cases h
    have := ht r' rfl
    simp only [Splits] at this ⊢
    rw [hs, List.append_assoc, ← this]

end Reading
end TurnRouter
