import TurnRouter.Json.Writer
import TurnRouter.Proofs.Rule.Canonical

/-! # JSON text without quotes

The text of null, a truth value or a number has no quote in it, the text of a string starts with
one, and any other text starts with a bracket.
-/
namespace TurnRouter

namespace Rule.Quoteless

theorem ofNat (n : Nat) : Quoteless (Text.ofNat n) := by
  intro d hd
  have hdigit : d.isDigit = true := Nat.isDigit_of_mem_toDigits (by decide) (by decide) hd
  rw [← Bool.not_eq_true]
  intro hq
  rcases isQuote_iff.mp hq with rfl | rfl <;> exact absurd hdigit (by decide)

theorem ofInt (i : Int) : Quoteless (Text.ofInt i) := by
  unfold Text.ofInt
  split
  · exact cons (by decide) (ofNat _)
  · exact ofNat _

end Rule.Quoteless

open Rule (Quoteless)

namespace NumberLayout
variable {layout : NumberLayout} {d : Decimal}

theorem place_quoteless (hend : Quoteless layout.wholeEnd) (hd : Quoteless d.digits) :
    Quoteless (place layout.wholeEnd d) := by
  unfold place
  split
  · exact .cons (by decide) (.cons (by decide) (.append (.replicate _ (by decide)) hd))
  · have hwhole : Quoteless (d.digits.take d.point.toNat) := hd.of_subset fun _ => List.mem_of_mem_take
    have hfraction : Quoteless (d.digits.drop d.point.toNat) :=
      hd.of_subset fun _ => List.mem_of_mem_drop
    dsimp only
    split
    · exact .append (.append hwhole (.replicate _ (by decide))) hend
    · exact .append hwhole (.cons (by decide) hfraction)

theorem scientific_quoteless (hd : Quoteless d.digits) : Quoteless (scientific d) := by
  have hsign : Quoteless ((if d.point - 1 < 0 then '-' else '+') ::
      Text.ofNat (d.point - 1).natAbs) := by
    refine .cons ?_ (.ofNat _)
    split <;> decide
  unfold scientific
  refine .append ?_ (.cons (by decide) hsign)
  split
  · next c e rest hdigits =>
    rw [hdigits] at hd
    exact .cons (hd c (by simp)) (.cons (by decide)
      (hd.of_subset fun x hx => List.mem_cons_of_mem _ hx))
  · exact hd

theorem shortest_quoteless (tie : Tie) (units : Nat) :
    Quoteless (Binary64.shortest tie units).digits := by
  have hdrop : ∀ n, Quoteless (Binary64.dropZeros (Text.ofNat n)) := by
    intro n
    refine (Quoteless.ofNat n).of_subset fun c hc => ?_
    unfold Binary64.dropZeros at hc
    exact List.mem_reverse.mp ((List.dropWhile_sublist _).mem (List.mem_reverse.mp hc))
  exact hdrop _

theorem magnitude_quoteless (hend : Quoteless layout.wholeEnd) (units : Nat) :
    Quoteless (layout.magnitude units) := by
  unfold magnitude
  split
  · exact .cons (by decide) hend
  · dsimp only
    split
    · exact place_quoteless hend (shortest_quoteless _ _)
    · exact scientific_quoteless (shortest_quoteless _ _)

theorem json_render_quoteless (x : Binary64) : Quoteless (json.render x) := by
  cases x with
  | nan => decide
  | infinite s => cases s <;> decide
  | finite s u h =>
    have hend : Quoteless json.wholeEnd := by decide
    rw [render, signed]
    split
    · exact .cons (by decide) (magnitude_quoteless hend u)
    · exact magnitude_quoteless hend u

end NumberLayout

namespace Json

/-- Starts of the JSON text of an array or an object. -/
def isBracket (c : Char) : Bool := c == '[' || c == '\x7b'

theorem write_cases (v : Json) :
    (∃ s, v = .str s) ∨ Quoteless v.write ∨ ∃ c s, v.write = c :: s ∧ isBracket c = true := by
  cases v with
  | null => exact .inr (.inl (by decide))
  | bool b => cases b <;> exact .inr (.inl (by decide))
  | str s => exact .inl ⟨s, rfl⟩
  | arr items => exact .inr (.inr ⟨'[', _, by rw [write]; rfl, rfl⟩)
  | obj fields => exact .inr (.inr ⟨'\x7b', _, by rw [write]; rfl, rfl⟩)
  | num n =>
    refine .inr (.inl ?_)
    rw [write]
    cases n with
    | integer i => exact .ofInt i
    | float x => exact NumberLayout.json_render_quoteless x

end Json
end TurnRouter
