import TurnRouter.Proofs.Condition.Scan
import TurnRouter.Proofs.Condition.Template
import TurnRouter.Proofs.Rule.Pieces

/-! # What users say does not change a rule

The texts that a context puts into a rule end up in strings of its condition, one string for each
of them, and nowhere else. Contexts that differ in such texts only give the same condition with
other strings in it.
-/
namespace TurnRouter.Rule
open Condition

namespace Piece

end Piece

section Spelling
variable {ι G : Type} {φ : ι → G → Text} {gs : ι → List G}

variable [Nonempty ι]

end Spelling

section Contexts
variable {ι : Type} [Nonempty ι] {ctx : ι → Context} {opts : Options}

/-- The same values, or two texts. -/
def SameOrTexts (v w : Json) : Prop := v = w ∨ ∃ s t, v = .str s ∧ w = .str t

/-- Two contexts that differ for these segments in texts only. -/
structure Alike (opts : Options) (segs : List Segment) (ctx ctx' : Context) : Prop where
  intent : ctx.intent = ctx'.intent
  requestType : ctx.requestType = ctx'.requestType
  slots : ∀ name, (ctx.slot name).isSome = (ctx'.slot name).isSome
  session : ∀ name, .placeholder .session name ∈ pieces segs →
    SameOrTexts (sessionValue ctx opts name) (sessionValue ctx' opts name)

namespace Alike
variable {segs : List Segment} {ctx ctx' : Context}

theorem value (h : Alike opts segs ctx ctx') {f : Family} {name : Text}
    (hmem : .placeholder f name ∈ pieces segs) :
    SameOrTexts (f.value ctx opts name) (f.value ctx' opts name) := by
  cases f with
  | intent => exact .inl (by simp only [Family.value, h.intent])
  | requestType => exact .inl (by simp only [Family.value, h.requestType])
  | session => exact h.session name hmem
  | slot =>
    have hslot := h.slots name
    cases hs : ctx.slot name with
    | none =>
      rw [hs, Option.isSome_none, eq_comm, Option.isSome_eq_false_iff, Option.isNone_iff_eq_none]
        at hslot
      exact .inl (by simp only [Family.value, hs, hslot])
    | some s =>
      rw [hs, Option.isSome_some, eq_comm, Option.isSome_iff_exists] at hslot
      obtain ⟨t, ht⟩ := hslot
      exact .inr ⟨s, t, by simp only [Family.value, hs, Option.elim_some],
        by simp only [Family.value, ht, Option.elim_some]⟩

end Alike
end Contexts

end TurnRouter.Rule
