import TurnRouter.Numeral

/-! # Values of numerals

A numeral always has a value, if only an infinite one. The digits of an integer are read back as the
numeral of that integer, and its value is a zero only if the integer is: a number of one step or more
is never rounded to zero.
-/
namespace TurnRouter

section Digits
variable {n : Nat}

theorem digitsValue_ofNat (n : Nat) : digitsValue (Text.ofNat n) = n := by
  have hfold : digitsValue (Text.ofNat n) = Nat.ofDigitChars 10 (Nat.toDigits 10 n) 0 := rfl
  rw [hfold, Nat.ofDigitChars_ten_toDigits]

theorem isDigit_of_mem_ofNat {c : Char} (h : c ∈ Text.ofNat n) : c.isDigit = true :=
  Nat.isDigit_of_mem_toDigits (by decide) (by decide) h

theorem digitsValue_dropZeros (s : Text) : digitsValue (s.dropWhile (· == '0')) = digitsValue s := by
  induction s with
  | nil => rfl
  | cons c s ih =>
    rw [List.dropWhile_cons]
    split
    · next hc =>
      obtain rfl : c = '0' := eq_of_beq hc
      exact ih
    · rfl

end Digits

namespace Binary64
variable {num den : Nat}

theorem div_le_divEven (num den : Nat) : num / den ≤ divEven num den := by
  simp only [divEven]
  split <;> omega

/-- The grid is never coarser than the number that is rounded. -/
theorem roundUnits_pos (hden : 0 < den) (h : den ≤ num) : 0 < roundUnits num den := by
  have hquotient : 0 < num / den := Nat.div_pos h hden
  have hgrid : twoPow (gridExponent num den) ≤ num / den := by
    have hle : gridExponent num den ≤ (num / den).log2 := by
      unfold gridExponent
      omega
    exact Nat.le_trans (twoPow_le hle) (Nat.log2_self_le (Nat.ne_of_gt hquotient))
  have hscaled : 0 < num / (den * twoPow (gridExponent num den)) := by
    rw [← Nat.div_div_eq_div_mul]
    exact Nat.div_pos hgrid (twoPow_pos _)
  exact Nat.mul_pos (Nat.lt_of_lt_of_le hscaled (div_le_divEven _ _)) (twoPow_pos _)

theorem isZero_ofUnits {negative : Bool} (hden : 0 < den) (h : den ≤ num) :
    (ofUnits negative num den).isZero = false := by
  have hpos := roundUnits_pos hden h
  unfold ofUnits
  split
  · exact beq_eq_false_iff_ne.mpr (by omega)
  · rfl

theorem ofRatio_ne_nan (negative : Bool) (num den : Nat) : ofRatio negative num den ≠ .nan := by
  unfold ofRatio ofUnits
  split <;> exact Binary64.noConfusion

end Binary64

namespace Numeral

theorem toBinary64_ne_nan (n : Numeral) : n.toBinary64 ≠ .nan := by
  unfold toBinary64
  dsimp only
  split
  · exact Binary64.noConfusion
  · split
    · exact Binary64.noConfusion
    · split <;> exact Binary64.ofRatio_ne_nan _ _ _

/-- The numeral that an integer is written as. -/
def ofInt (i : Int) : Numeral := ⟨decide (i < 0), Text.ofNat i.natAbs, [], none⟩

theorem readUnsigned?_digits {s : Text} (hne : s ≠ []) (h : ∀ c ∈ s, c.isDigit = true)
    (negative : Bool) : readUnsigned? negative s = some (⟨negative, s, [], none⟩, []) := by
  have htake : (s ++ []).takeWhile Char.isDigit = s ++ [].takeWhile Char.isDigit :=
    List.takeWhile_append_of_pos h
  have hdrop : (s ++ []).dropWhile Char.isDigit = [].dropWhile Char.isDigit :=
    List.dropWhile_append_of_pos h
  simp only [List.append_nil, List.takeWhile_nil, List.dropWhile_nil] at htake hdrop
  rw [readUnsigned?, readDigits, htake, hdrop]
  dsimp only
  rw [if_neg hne]
  rfl

theorem read?_ofInt (i : Int) : read? (Text.ofInt i) = some (ofInt i, []) := by
  have hne : Text.ofNat i.natAbs ≠ [] := Nat.toDigits_ne_nil
  have hdigits : ∀ c ∈ Text.ofNat i.natAbs, c.isDigit = true := fun c => isDigit_of_mem_ofNat
  unfold Text.ofInt ofInt
  split
  · next h =>
    rw [read?, readUnsigned?_digits hne hdigits, decide_eq_true h]
  · next h =>
    have hread : read? (Text.ofNat i.natAbs) = readUnsigned? false (Text.ofNat i.natAbs) := by
      unfold read?
      split
      · next t ht =>
        have hminus := hdigits '-' (by rw [ht]; exact List.mem_cons_self)
        cases hminus
      · rfl
    rw [hread, readUnsigned?_digits hne hdigits, decide_eq_false h]

theorem isZero_ofInt (i : Int) : (ofInt i).toBinary64.isZero = decide (i = 0) := by
  by_cases hi : i = 0
  · subst hi
    rfl
  · have hvalue : digitsValue ((Text.ofNat i.natAbs).dropWhile (· == '0')) = i.natAbs := by
      rw [digitsValue_dropZeros, digitsValue_ofNat]
    have hpos : 0 < i.natAbs := Int.natAbs_pos.mpr hi
    have hdigits : (Text.ofNat i.natAbs).dropWhile (· == '0') ≠ [] := by
      intro hnil
      rw [hnil] at hvalue
      exact absurd hvalue (Nat.ne_of_lt hpos)
    have hscale : (ofInt i).scale = 0 := rfl
    rw [decide_eq_false hi, toBinary64, hscale]
    simp only [ofInt, List.append_nil]
    split
    · next h => exact absurd h (not_or.mpr ⟨hdigits, by omega⟩)
    · split
      · rfl
      · rw [if_neg (by decide), hvalue]
        refine Binary64.isZero_ofUnits Nat.one_pos ?_
        exact Nat.mul_pos (Nat.mul_pos hpos (Nat.pow_pos (by decide))) (twoPow_pos _)

end Numeral
end TurnRouter
