import TurnRouter.Proofs.Condition.Encoding

/-! # Writing a literal

A literal for any text is the text between two quotes, with a backslash before each quote of that
kind and before each backslash. Splitting a rule finds its end, and the lexer gives the text back.
-/
namespace TurnRouter.Rule
open Condition

def protect (quote c : Char) : Text := if c = '\\' ∨ c = quote then ['\\', c] else [c]

/-- The rest of a literal after its opening quote. -/
def quotedBody (quote : Char) (w : Text) : Text := w.flatMap (protect quote) ++ [quote]

def quoted (quote : Char) (w : Text) : Text := quote :: quotedBody quote w

section Quoted
variable {quote : Char}

theorem quotedBody_cons (c : Char) (w : Text) :
    quotedBody quote (c :: w) = protect quote c ++ quotedBody quote w := by
  rw [quotedBody, List.flatMap_cons, List.append_assoc]
  rfl

theorem closed_quotedBody (w : Text) : Closed quote (quotedBody quote w) := by
  induction w with
  | nil => exact .close
  | cons c w ih =>
    rw [quotedBody_cons, protect]
    split
    · exact .guarded ih
    · next hplain =>
      obtain ⟨hb, hq⟩ := not_or.mp hplain
      exact .plain hq hb ih

variable {start : Nat} (hq : isQuote quote = true)
include hq

theorem spelling_protect (c : Char) : Spelling quote c (protect quote c) := by
  by_cases hc : c = '\\' ∨ c = quote
  · have hprotect : protect quote c = ['\\', c] := if_pos hc
    rw [hprotect]
    refine .self ?_
    obtain rfl | rfl := hc
    · decide
    · obtain rfl | rfl := isQuote_iff.mp hq <;> decide
  · obtain ⟨hb, hquote⟩ := not_or.mp hc
    have hprotect : protect quote c = [c] := if_neg hc
    rw [hprotect]
    exact .raw hquote hb

theorem encodes_protect (w : Text) : Encodes quote w (w.flatMap (protect quote)) := by
  induction w with
  | nil => exact .nil
  | cons c w ih => exact .cons (spelling_protect hq c) ih

theorem readToken_quotedBody (w rest : Text) :
    readToken start quote (quotedBody quote w ++ rest) =
      .ok ⟨.value (.string w), quoted quote w, rest⟩ := by
  have hread : readBody start quote (quotedBody quote w ++ rest) =
      .ok ⟨w, quotedBody quote w, rest⟩ := by
    rw [quotedBody, List.append_assoc]
    exact readBody_encodes hq (encodes_protect hq w) rest
  rw [readToken_quote hq, readString, hread]
  rfl

end Quoted
end TurnRouter.Rule
