/-! # Text

A text is the list of its characters. Positions in messages count the bytes of the UTF-8 form,
so each stretch of text has a width, and a class of characters is a list of ranges of code points.
-/
namespace TurnRouter

abbrev Text := List Char

namespace Text

def width : Text → Nat
  | [] => 0
  | c :: s => c.utf8Size + width s

@[simp] theorem width_nil : width [] = 0 := rfl
@[simp] theorem width_cons (c : Char) (s : Text) : width (c :: s) = c.utf8Size + width s := rfl
@[simp] theorem width_append (s t : Text) : width (s ++ t) = width s + width t := by
  induction s with
  | nil => simp
  | cons c s ih => simp [ih, Nat.add_assoc]

theorem width_pos {s : Text} (h : s ≠ []) : 0 < width s := by
  cases s with
  | nil => exact absurd rfl h
  | cons c s => have := c.utf8Size_pos; simp; omega

/-- Texts are ordered by code point, which is also the order of their UTF-8 forms. -/
def lt (s t : Text) : Bool := compare s t == .lt

theorem lt_iff {s t : Text} : lt s t = true ↔ compare s t = .lt := by
  rw [lt, beq_iff_eq]

theorem lt_trans {s t u : Text} (h : lt s t = true) (h' : lt t u = true) : lt s u = true :=
  lt_iff.2 (Std.TransCmp.lt_trans (lt_iff.1 h) (lt_iff.1 h'))

theorem lt_asymm {s t : Text} (h : lt s t = true) : lt t s = false := by
  have hgt : compare t s = .gt := Std.OrientedCmp.gt_iff_lt.2 (lt_iff.1 h)
  rw [lt, hgt]
  rfl

theorem lt_or_gt_of_ne {s t : Text} (h : s ≠ t) : lt s t = true ∨ lt t s = true := by
  cases hcmp : compare s t with
  | lt => exact .inl (lt_iff.2 hcmp)
  | eq => exact absurd (Std.LawfulEqCmp.eq_of_compare hcmp) h
  | gt => exact .inr (lt_iff.2 (Std.OrientedCmp.gt_iff_lt.1 hcmp))

def ofNat (n : Nat) : Text := Nat.toDigits 10 n
def hex (n : Nat) : Text := Nat.toDigits 16 n

/-- At least four hexadecimal digits. -/
def hex4 (n : Nat) : Text := List.replicate (4 - (hex n).length) '0' ++ hex n

def ofInt (i : Int) : Text := if i < 0 then '-' :: ofNat i.natAbs else ofNat i.natAbs

/-- What follows `start` in a text that starts with it. -/
def drop? : (start s : Text) → Option Text
  | [], s => some s
  | _ :: _, [] => none
  | c :: start, d :: s => if c = d then drop? start s else none

theorem drop?_eq_some_iff {start s rest : Text} :
    drop? start s = some rest ↔ s = start ++ rest := by
  induction start generalizing s with
  | nil => simp [drop?]
  | cons c start ih =>
    cases s with
    | nil => simp [drop?]
    | cons d s =>
      by_cases h : c = d
      · simp [drop?, h, ih]
      · simp [drop?, h, Ne.symm h]

end Text

/-- Both ends of a range belong to it. -/
def inRanges (ranges : List (Nat × Nat)) (c : Char) : Bool :=
  ranges.any fun r => r.1 ≤ c.toNat && c.toNat ≤ r.2

end TurnRouter
