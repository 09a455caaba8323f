import TurnRouter.Text.Basic

/-! # Pieces between marks

A text is cut at every copy of a mark. There is always a piece, no piece holds the mark, and the
pieces written one after the other with the mark between them are the text.
-/
namespace TurnRouter.Text

/-- The pieces of a text; a text without the mark is one piece. -/
def split (mark : Char) : Text → List Text
  | [] => [[]]
  | c :: s =>
    if c = mark then [] :: split mark s
    else match split mark s with
      | [] => [[c]]
      | piece :: pieces => (c :: piece) :: pieces

def join (mark : Char) (pieces : List Text) : Text := List.intercalate [mark] pieces

theorem split_ne_nil (mark : Char) (s : Text) : split mark s ≠ [] := by
  induction s with
  | nil => simp [split]
  | cons c s ih => unfold split; grind

theorem mark_notMem_of_mem_split {mark : Char} {s piece : Text} (h : piece ∈ split mark s) :
    mark ∉ piece := by
  induction s generalizing piece with
  | nil => simp [split] at h; simp [h]
  | cons c s ih =>
    unfold split at h
    split at h
    · rcases List.mem_cons.1 h with rfl | h
      · simp
      · exact ih h
    · next hc =>
      split at h
      · next hs => exact absurd hs (split_ne_nil mark s)
      · next p ps hs =>
        rw [hs] at ih
        rcases List.mem_cons.1 h with rfl | h
        · simpa [Ne.symm hc] using ih (List.mem_cons_self ..)
        · exact ih (List.mem_cons_of_mem _ h)

theorem join_split (mark : Char) (s : Text) : join mark (split mark s) = s := by
  induction s with
  | nil => rfl
  | cons c s ih =>
    unfold split
    split
    · next hc =>
      subst hc
      cases hs : split c s with
      | nil => exact absurd hs (split_ne_nil c s)
      | cons p ps =>
        rw [hs] at ih
        simpa [join, List.intercalate] using ih
    · split
      · next hs => exact absurd hs (split_ne_nil mark s)
      · next p ps hs =>
        rw [hs] at ih
        cases ps <;> simpa [join, List.intercalate] using ih

end TurnRouter.Text
