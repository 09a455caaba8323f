import Mathlib.Data.List.Forall2
import TurnRouter.Condition.StringLiteral

/-! # Characters written by their code

After `\u` a character is written as one group of digits, or as the two groups of a surrogate pair
with another `\u` between them. A group is four hexadecimal digits, but the reader takes a plus sign
and three for one too.
-/
namespace TurnRouter.Condition

/-- A hexadecimal digit of either case and its value. -/
def HexDigit (c : Char) (v : Nat) : Prop :=
  "0123456789abcdef".toList[v]? = some c ∨ "0123456789ABCDEF".toList[v]? = some c

instance (c : Char) (v : Nat) : Decidable (HexDigit c v) := inferInstanceAs (Decidable (_ ∨ _))

/-- The number that hexadecimal digits write. -/
def HexNumber (s : Text) (n : Nat) : Prop :=
  ∃ vs, List.Forall₂ HexDigit s vs ∧ vs.foldl (fun n v => 16 * n + v) 0 = n

def HexGroup (s : Text) (n : Nat) : Prop := s.length = 4 ∧ HexNumber s n

/-- The groups that the reader takes for a number. -/
def UnitGroup (s : Text) (n : Nat) : Prop :=
  s.length = 4 ∧ (HexNumber s n ∨ ∃ t, s = '+' :: t ∧ HexNumber t n)

theorem HexGroup.unitGroup {s : Text} {n : Nat} (h : HexGroup s n) : UnitGroup s n := ⟨h.1, .inl h.2⟩

/-- What stands for a character after `\u`, if `group` says how a code unit is written. -/
inductive CodePoint (group : Text → Nat → Prop) : Text → Char → Prop
  | unit {s : Text} {n : Nat} : group s n → isHighSurrogate n = false → isLowSurrogate n = false →
    CodePoint group s (Char.ofNat n)
  | pair {s t : Text} {high low : Nat} : group s high → isHighSurrogate high = true →
    group t low → isLowSurrogate low = true →
    CodePoint group (s ++ '\\' :: 'u' :: t) (joinSurrogates high low)

theorem CodePoint.mono {group group' : Text → Nat → Prop} {e : Text} {c : Char}
    (h : CodePoint group e c) (hgroup : ∀ s n, group s n → group' s n) : CodePoint group' e c := by
  cases h with
  | unit hunit hhigh hlow => exact .unit (hgroup _ _ hunit) hhigh hlow
  | pair hunit hhigh hunit' hlow => exact .pair (hgroup _ _ hunit) hhigh (hgroup _ _ hunit') hlow

section Digits
variable {c : Char} {v : Nat}

theorem toNat_lt_of_hexDigit? (h : hexDigit? c = some v) : c.toNat < 128 := by
  unfold hexDigit? at h
  split at h
  · next hd =>
    simp only [Char.isDigit, Bool.and_eq_true, decide_eq_true_eq] at hd
    exact Nat.lt_of_le_of_lt (UInt32.le_iff_toNat_le.mp hd.2) (by decide)
  · split at h
    · next hd => exact Nat.lt_of_le_of_lt (UInt32.le_iff_toNat_le.mp hd.2) (by decide)
    · split at h
      · next hd => exact Nat.lt_of_le_of_lt (UInt32.le_iff_toNat_le.mp hd.2) (by decide)
      · cases h

theorem hexDigit?_eq_some_iff : hexDigit? c = some v ↔ HexDigit c v := by
  constructor
  · intro h
    have hall : ∀ n < 128, ∀ w ∈ hexDigit? (Char.ofNat n), HexDigit (Char.ofNat n) w := by
      decide +kernel
    have hc := hall c.toNat (toNat_lt_of_hexDigit? h)
    rw [Char.ofNat_toNat] at hc
    exact hc v h
  · have hlower : ∀ i < 16, ("0123456789abcdef".toList[i]?).bind hexDigit? = some i := by decide
    have hupper : ∀ i < 16, ("0123456789ABCDEF".toList[i]?).bind hexDigit? = some i := by decide
    rintro (h | h)
    · have hv := hlower v (List.getElem?_eq_some_iff.mp h).1
      rwa [h] at hv
    · have hv := hupper v (List.getElem?_eq_some_iff.mp h).1
      rwa [h] at hv

theorem hexValue?_eq_some_iff {s : Text} {n : Nat} : hexValue? s = some n ↔ HexNumber s n := by
  unfold hexValue? HexNumber
  generalize 0 = k
  induction s generalizing k with
  | nil => simp
  | cons c s ih =>
    simp only [List.foldlM_cons, Option.bind_eq_bind, Option.bind_eq_some_iff,
      Option.map_eq_some_iff, hexDigit?_eq_some_iff, ih]
    constructor
    · rintro ⟨_, ⟨v, hv, rfl⟩, vs, hvs, rfl⟩
      exact ⟨v :: vs, .cons hv hvs, rfl⟩
    · rintro ⟨_, hall, rfl⟩
      cases hall with
      | cons hv hvs => exact ⟨_, ⟨_, hv, rfl⟩, _, hvs, rfl⟩

instance (s : Text) (n : Nat) : Decidable (HexNumber s n) :=
  decidable_of_iff _ hexValue?_eq_some_iff

instance (s : Text) (n : Nat) : Decidable (HexGroup s n) := inferInstanceAs (Decidable (_ ∧ _))

end Digits

section Groups
variable {s : Text} {n : Nat}

theorem not_hexNumber_plus (s : Text) : ¬ HexNumber ('+' :: s) n := by
  rintro ⟨vs, hall, -⟩
  cases hall with
  | cons hv _ =>
    have hnone : hexDigit? '+' = none := by decide
    cases hnone.symm.trans (hexDigit?_eq_some_iff.mpr hv)

theorem codeUnit?_eq_some_iff : codeUnit? s = some n ↔ UnitGroup s n := by
  unfold codeUnit? UnitGroup
  split
  · next a b c =>
    rw [hexValue?_eq_some_iff]
    constructor
    · intro h
      exact ⟨rfl, .inr ⟨_, rfl, h⟩⟩
    · rintro ⟨-, h | ⟨t, ht, h⟩⟩
      · exact absurd h (not_hexNumber_plus _)
      · obtain rfl := (List.cons_eq_cons.mp ht).2
        exact h
  · next a b c d hplus =>
    rw [hexValue?_eq_some_iff]
    constructor
    · intro h
      exact ⟨rfl, .inl h⟩
    · rintro ⟨-, h | ⟨t, ht, h⟩⟩
      · exact h
      · exact absurd (List.cons_eq_cons.mp ht).1 hplus
  · next hfour =>
    constructor
    · intro h
      cases h
    · rintro ⟨hlength, -⟩
      match s, hlength with
      | [a, b, c, d], _ => exact absurd rfl (hfour a b c d)

theorem readUnit_eq_ok_iff {r : Reading Nat} :
    readUnit s = .ok r ↔ s = r.source ++ r.rest ∧ UnitGroup r.source r.value := by
  constructor
  · intro h
    refine ⟨splits_of_readUnit h, ?_⟩
    unfold readUnit at h
    split at h
    · next hunit =>
      cases h
      exact codeUnit?_eq_some_iff.mp hunit
    · cases h
  · rintro ⟨rfl, hunit⟩
    rw [readUnit, ← hunit.1, List.take_left, List.drop_left, codeUnit?_eq_some_iff.mpr hunit]

theorem readCodePoint_unit (h : UnitGroup s n) (hhigh : isHighSurrogate n = false)
    (hlow : isLowSurrogate n = false) (rest : Text) :
    readCodePoint (s ++ rest) = .ok ⟨Char.ofNat n, s, rest⟩ := by
  have hread : readUnit (s ++ rest) = .ok ⟨n, s, rest⟩ := readUnit_eq_ok_iff.mpr ⟨rfl, h⟩
  simp only [readCodePoint, hread, hhigh, hlow]
  rfl

theorem readCodePoint_pair {t : Text} {low : Nat} (h : UnitGroup s n)
    (hhigh : isHighSurrogate n = true) (h' : UnitGroup t low) (hlow : isLowSurrogate low = true)
    (rest : Text) : readCodePoint (s ++ '\\' :: 'u' :: t ++ rest) =
      .ok ⟨joinSurrogates n low, s ++ '\\' :: 'u' :: t, rest⟩ := by
  have hread : readUnit (s ++ '\\' :: 'u' :: (t ++ rest)) =
      .ok ⟨n, s, '\\' :: 'u' :: (t ++ rest)⟩ := readUnit_eq_ok_iff.mpr ⟨rfl, h⟩
  have hread' : readUnit (t ++ rest) = .ok ⟨low, t, rest⟩ := readUnit_eq_ok_iff.mpr ⟨rfl, h'⟩
  simp only [readCodePoint, List.append_assoc, List.cons_append, hread, hhigh, hread', hlow,
    if_true]

/-- The reader takes exactly the code points, in the wider sense of a group. -/
theorem readCodePoint_eq_ok_iff {c : Char} {source rest : Text} :
    readCodePoint s = .ok ⟨c, source, rest⟩ ↔ s = source ++ rest ∧ CodePoint UnitGroup source c := by
  constructor
  · intro h
    refine ⟨splits_of_readCodePoint h, ?_⟩
    unfold readCodePoint at h
    split at h
    · cases h
    · next high hhigh =>
      have hunit := (readUnit_eq_ok_iff.mp hhigh).2
      split at h
      · next hsurrogate =>
        split at h
        · split at h
          · cases h
          · next low hlow =>
            have hunit' := (readUnit_eq_ok_iff.mp hlow).2
            split at h
            · next hsurrogate' =>
              simp only [Except.ok.injEq, Reading.mk.injEq] at h
              obtain ⟨rfl, rfl, -⟩ := h
              exact .pair hunit hsurrogate hunit' hsurrogate'
            · cases h
        · cases h
      · next hhighfalse =>
        split at h
        · cases h
        · next hlowfalse =>
          cases h
          exact .unit hunit (Bool.eq_false_iff.mpr hhighfalse) (Bool.eq_false_iff.mpr hlowfalse)
  · rintro ⟨rfl, hpoint⟩
    cases hpoint with
    | unit hunit hhigh hlow => exact readCodePoint_unit hunit hhigh hlow rest
    | pair hunit hhigh hunit' hlow => exact readCodePoint_pair hunit hhigh hunit' hlow rest

end Groups

end TurnRouter.Condition
