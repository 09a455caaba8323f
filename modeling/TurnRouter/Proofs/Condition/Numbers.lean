import Mathlib.Computability.Language
import TurnRouter.Proofs.Condition.Scan
import TurnRouter.Proofs.Condition.StringReading

/-! # Numbers of a condition

The numbers of JSON are a language of texts. A condition takes the same texts, but zeros may stand
before the other digits, and each time it takes the longest one.
-/
namespace TurnRouter

/-- The text `p` is in the language, and no longer start of `p ++ rest` is. -/
def Longest (L : Language Char) (p rest : Text) : Prop :=
  p ∈ L ∧ ∀ q ∈ L, q <+: p ++ rest → q.length ≤ p.length

theorem mem_optional_iff {L : Language Char} {s : Text} : s ∈ 1 + L ↔ s = [] ∨ s ∈ L := Iff.rfl

namespace Longest
variable {L M : Language Char} {p q rest : Text} {c : Char}

theorem mono (h : Longest M p rest) (hp : p ∈ L) (hle : ∀ q ∈ L, q ∈ M) : Longest L p rest :=
  ⟨hp, fun q hq hprefix => h.2 q (hle q hq) hprefix⟩

theorem optional (h : Longest L p rest) : Longest (1 + L) p rest := by
  refine ⟨mem_optional_iff.mpr (.inr h.1), fun q hq hprefix => ?_⟩
  obtain rfl | hq := mem_optional_iff.mp hq
  · exact Nat.zero_le _
  · exact h.2 q hq hprefix

theorem absent (h : ∀ q ∈ L, ¬ q <+: rest) : Longest (1 + L) [] rest := by
  refine ⟨mem_optional_iff.mpr (.inl rfl), fun q hq hprefix => ?_⟩
  obtain rfl | hq := mem_optional_iff.mp hq
  · exact le_rfl
  · exact absurd hprefix (h q hq)

/-- The longest words of two languages are one in the product if, where a word stops within the first of
them, no word of the second language goes on. -/
theorem mul (hp : Longest L p (q ++ rest)) (hq : Longest M q rest)
    (hshort : ∀ d ∈ p, ∀ b, d :: b ∉ M) : Longest (L * M) (p ++ q) rest := by
  refine ⟨Language.append_mem_mul hp.1 hq.1, ?_⟩
  rintro w hw hprefix
  obtain ⟨a, ha, b, hb, rfl⟩ := Language.mem_mul.mp hw
  rw [List.append_assoc] at hprefix
  have hle := hp.2 a ha ((List.prefix_append a b).trans hprefix)
  obtain ⟨p', rfl⟩ := List.prefix_of_prefix_length_le ((List.prefix_append a b).trans hprefix)
    (List.prefix_append p (q ++ rest)) hle
  rw [List.append_assoc, List.prefix_append_right_inj] at hprefix
  cases p' with
  | nil =>
    have hrest := hq.2 b hb hprefix
    rw [List.append_nil, List.length_append, List.length_append]
    omega
  | cons d p' =>
    cases b with
    | nil =>
      rw [List.append_nil, List.length_append]
      omega
    | cons d' b =>
      obtain ⟨rfl, -⟩ := List.cons_prefix_cons.mp hprefix
      exact absurd hb (hshort d' (List.mem_append_right a List.mem_cons_self) b)

/-- A character in front that has to be there. -/
theorem mark (hone : ∀ w ∈ L, w.length = 1) (hc : [c] ∈ L) (h : Longest M q rest) :
    Longest (L * M) (c :: q) rest := by
  refine ⟨Language.append_mem_mul hc h.1, ?_⟩
  rintro w hw hprefix
  obtain ⟨a, ha, b, hb, rfl⟩ := Language.mem_mul.mp hw
  obtain ⟨d, rfl⟩ := List.length_eq_one_iff.mp (hone a ha)
  have hrest := h.2 b hb (List.cons_prefix_cons.mp hprefix).2
  rw [List.singleton_append, List.length_cons, List.length_cons]
  omega

end Longest

namespace Number
open Numeral

def digits : Language Char := {s | s ≠ [] ∧ ∀ c ∈ s, c.isDigit = true}

/-- A zero alone, or digits that do not start with a zero. -/
def plainDigits : Language Char := {s | s ∈ digits ∧ (s = ['0'] ∨ s.head? ≠ some '0')}

def minus : Language Char := 1 + {['-']}
def fraction : Language Char := 1 + {['.']} * digits
def sign : Language Char := 1 + {['+'], ['-']}
def exponent : Language Char := 1 + {['e'], ['E']} * (sign * digits)

/-- Numbers, if the language `whole` is what may stand before the point. -/
def withWhole (whole : Language Char) : Language Char := minus * (whole * (fraction * exponent))

/-- The numbers of JSON. -/
def json : Language Char := withWhole plainDigits

/-- A number with a zero before its other digits. -/
def Padded (s : Text) : Prop :=
  ∃ m ∈ minus, ∃ d t, s = m ++ '0' :: d :: t ∧ d.isDigit = true

section Languages
variable {c : Char} {s : Text}

theorem digit_of_cons_mem (h : c :: s ∈ digits) : c.isDigit = true := h.2 c List.mem_cons_self

theorem mark_of_cons_mem_exponent (h : c :: s ∈ exponent) : c = 'e' ∨ c = 'E' := by
  obtain h | h := mem_optional_iff.mp h
  · cases h
  · obtain ⟨a, rfl | rfl, b, -, hsplit⟩ := Language.mem_mul.mp h
    · exact .inl (List.cons_eq_cons.mp hsplit).1.symm
    · exact .inr (List.cons_eq_cons.mp hsplit).1.symm

theorem not_digit_of_mem_sign (h : s ∈ sign) (hc : c ∈ s) : c.isDigit = false := by
  obtain rfl | rfl | rfl := mem_optional_iff.mp h
  · cases hc
  · obtain rfl := List.mem_singleton.mp hc
    decide
  · obtain rfl := List.mem_singleton.mp hc
    decide

theorem point_or_digit_of_mem (h : s ∈ fraction) (hc : c ∈ s) : c = '.' ∨ c.isDigit = true := by
  obtain rfl | h := mem_optional_iff.mp h
  · cases hc
  · obtain ⟨a, rfl, b, hb, rfl⟩ := Language.mem_mul.mp h
    obtain hpoint | hdigit := List.mem_cons.mp hc
    · exact .inl hpoint
    · exact .inr (hb.2 c hdigit)

/-- What may come after the digits before the point starts with no digit. -/
theorem not_digit_of_cons_mem (h : c :: s ∈ fraction * exponent) : c.isDigit = false := by
  obtain ⟨a, ha, b, hb, hsplit⟩ := Language.mem_mul.mp h
  obtain rfl | ha := mem_optional_iff.mp ha
  · obtain rfl := hsplit
    obtain rfl | rfl := mark_of_cons_mem_exponent hb <;> decide
  · obtain ⟨a, rfl, a', -, rfl⟩ := Language.mem_mul.mp ha
    obtain ⟨rfl, -⟩ := List.cons_eq_cons.mp hsplit
    decide

theorem digit_of_cons_mem_mul {L : Language Char} (h : c :: s ∈ digits * L) : c.isDigit = true := by
  obtain ⟨a, ha, b, -, hsplit⟩ := Language.mem_mul.mp h
  cases a with
  | nil => exact absurd rfl ha.1
  | cons d a =>
    obtain ⟨rfl, -⟩ := List.cons_eq_cons.mp hsplit
    exact digit_of_cons_mem ha

theorem mem_withWhole_iff {whole : Language Char} : s ∈ withWhole whole ↔
    ∃ m ∈ minus, ∃ w ∈ whole, ∃ t ∈ fraction * exponent, s = m ++ (w ++ t) := by
  constructor
  · intro h
    obtain ⟨m, hm, u, hu, rfl⟩ := Language.mem_mul.mp h
    obtain ⟨w, hw, t, ht, rfl⟩ := Language.mem_mul.mp hu
    exact ⟨m, hm, w, hw, t, ht, rfl⟩
  · rintro ⟨m, hm, w, hw, t, ht, rfl⟩
    exact Language.append_mem_mul hm (Language.append_mem_mul hw ht)

theorem withWhole_of_json (h : s ∈ json) : s ∈ withWhole digits := by
  obtain ⟨m, hm, w, hw, t, ht, rfl⟩ := mem_withWhole_iff.mp h
  exact mem_withWhole_iff.mpr ⟨m, hm, w, hw.1, t, ht, rfl⟩

theorem not_padded_of_json (h : s ∈ json) : ¬ Padded s := by
  rintro ⟨m', hm', d, u, rfl, hd⟩
  obtain ⟨m, hm, w, ⟨hw, hplain⟩, t, ht, hsplit⟩ := mem_withWhole_iff.mp h
  obtain ⟨c, w, rfl⟩ := List.exists_cons_of_ne_nil hw.1
  have hc := digit_of_cons_mem hw
  -- The minus is the same in both, because digits come after it.
  have hwhole : '0' :: d :: u = c :: (w ++ t) := by
    obtain rfl | rfl := mem_optional_iff.mp hm <;> obtain rfl | rfl := mem_optional_iff.mp hm'
    · exact hsplit
    · rw [← (List.cons_eq_cons.mp hsplit).1] at hc
      exact absurd hc (by decide)
    · exact absurd (List.cons_eq_cons.mp hsplit).1 (by decide)
    · exact (List.cons_eq_cons.mp hsplit).2
  obtain ⟨rfl, hrest⟩ := List.cons_eq_cons.mp hwhole
  obtain hzero | hhead := hplain
  · obtain rfl := (List.cons_eq_cons.mp hzero).2
    obtain rfl := hrest
    cases hd.symm.trans (not_digit_of_cons_mem ht)
  · exact hhead rfl

/-- A number is one of JSON unless zeros stand before its other digits. -/
theorem mem_json_iff (h : s ∈ withWhole digits) : s ∈ json ↔ ¬ Padded s := by
  refine ⟨not_padded_of_json, fun hpadded => ?_⟩
  obtain ⟨m, hm, w, hw, t, ht, rfl⟩ := mem_withWhole_iff.mp h
  refine mem_withWhole_iff.mpr ⟨m, hm, w, ⟨hw, ?_⟩, t, ht, rfl⟩
  by_contra hplain
  obtain ⟨hzero, hhead⟩ := not_or.mp hplain
  obtain ⟨w, rfl⟩ := List.head?_eq_some_iff.mp (not_not.mp hhead)
  cases w with
  | nil => exact hzero rfl
  | cons d w => exact hpadded ⟨m, hm, d, w ++ t, rfl, hw.2 d (by simp)⟩

end Languages

section Reading
variable {s : Text}

theorem length_le_readDigits {q : Text} (hq : q ∈ digits) (h : q <+: s) :
    q.length ≤ (readDigits s).1.length := by
  obtain ⟨t, rfl⟩ := h
  rw [readDigits, List.takeWhile_append_of_pos hq.2, List.length_append]
  omega

theorem longest_readDigits (h : (readDigits s).1 ≠ []) :
    Longest digits (readDigits s).1 (readDigits s).2 := by
  refine ⟨⟨h, fun c hc => List.all_eq_true.mp List.all_takeWhile c hc⟩, fun q hq hprefix => ?_⟩
  rw [readDigits_append] at hprefix
  exact length_le_readDigits hq hprefix

theorem not_prefix_of_readDigits (h : (readDigits s).1 = []) : ∀ q ∈ digits, ¬ q <+: s := by
  intro q hq hprefix
  have hle := length_le_readDigits hq hprefix
  rw [h, List.length_nil] at hle
  exact hq.1 (List.length_eq_zero_iff.mp (by omega))

theorem longest_readFraction (s : Text) :
    Longest fraction (fractionSource (readFraction s).1) (readFraction s).2 := by
  unfold readFraction
  split
  · next t =>
    split
    · next hnone =>
      refine Longest.absent fun q hq hprefix => ?_
      obtain ⟨a, rfl, b, hb, rfl⟩ := Language.mem_mul.mp hq
      exact not_prefix_of_readDigits hnone b hb (List.cons_prefix_cons.mp hprefix).2
    · next hsome =>
      have hsource : fractionSource (readDigits t).1 = '.' :: (readDigits t).1 := if_neg hsome
      rw [hsource]
      exact (Longest.mark (L := {['.']}) (by rintro w rfl; rfl) rfl
        (longest_readDigits hsome)).optional
  · next hpoint =>
    refine Longest.absent fun q hq hprefix => ?_
    obtain ⟨a, rfl, b, -, rfl⟩ := Language.mem_mul.mp hq
    obtain ⟨t, rfl⟩ := hprefix
    exact hpoint _ rfl

theorem longest_readSign (s : Text) : Longest sign (readSign s).1 (readSign s).2 := by
  have hsingle : ∀ c t, [c] ∈ ({['+'], ['-']} : Language Char) → Longest sign [c] t := by
    intro c t hc
    refine Longest.optional ⟨hc, ?_⟩
    rintro q (rfl | rfl) - <;> exact le_rfl
  unfold readSign
  split
  · exact hsingle '+' _ (.inl rfl)
  · exact hsingle '-' _ (.inr rfl)
  · next hplus hminus =>
    refine Longest.absent ?_
    rintro q (rfl | rfl) ⟨t, rfl⟩
    · exact hplus t rfl
    · exact hminus t rfl

theorem readSign_of_digit {c : Char} (hc : c.isDigit = true) : readSign (c :: s) = ([], c :: s) := by
  unfold readSign
  split
  · next heq =>
    obtain ⟨rfl, -⟩ := List.cons_eq_cons.mp heq
    exact absurd hc (by decide)
  · next heq =>
    obtain ⟨rfl, -⟩ := List.cons_eq_cons.mp heq
    exact absurd hc (by decide)
  · rfl

theorem not_prefix_of_readSign (h : (readDigits (readSign s).2).1 = []) :
    ∀ q ∈ sign * digits, ¬ q <+: s := by
  intro q hq hprefix
  obtain ⟨m, hm, ds, hds, rfl⟩ := Language.mem_mul.mp hq
  obtain ⟨t, rfl⟩ := hprefix
  -- The sign of the word is the one that is read, so its digits stand where digits are read.
  have hrest : (readSign (m ++ ds ++ t)).2 = ds ++ t := by
    obtain rfl | rfl | rfl := mem_optional_iff.mp hm
    · obtain ⟨c, ds, rfl⟩ := List.exists_cons_of_ne_nil hds.1
      rw [List.nil_append, List.cons_append, readSign_of_digit (digit_of_cons_mem hds)]
    · rfl
    · rfl
  rw [hrest] at h
  exact not_prefix_of_readDigits h ds hds (List.prefix_append ds t)

theorem longest_readExponent (s : Text) :
    Longest exponent (exponentSource (readExponent s).1) (readExponent s).2 := by
  unfold readExponent
  split
  · refine Longest.absent fun q hq hprefix => ?_
    obtain ⟨a, rfl | rfl, b, -, rfl⟩ := Language.mem_mul.mp hq <;> cases List.prefix_nil.mp hprefix
  · next mark t =>
    split
    · next hmark =>
      dsimp only
      split
      · next hnone =>
        refine Longest.absent fun q hq hprefix => ?_
        obtain ⟨a, ha, b, hb, rfl⟩ := Language.mem_mul.mp hq
        have hafter : b <+: t := by
          obtain rfl | rfl := ha <;> exact (List.cons_prefix_cons.mp hprefix).2
        exact not_prefix_of_readSign hnone b hb hafter
      · next hsome =>
        have hsign := longest_readSign t
        rw [← readDigits_append (readSign t).2] at hsign
        have hsigned := hsign.mul (longest_readDigits hsome) fun d hd b hb => by
          cases (not_digit_of_mem_sign hsign.1 hd).symm.trans (digit_of_cons_mem hb)
        have hword : [mark] ∈ ({['e'], ['E']} : Language Char) := by
          obtain rfl | rfl := hmark
          · exact .inl rfl
          · exact .inr rfl
        exact (hsigned.mark (by rintro w (rfl | rfl) <;> rfl) hword).optional
    · next hmark =>
      refine Longest.absent fun q hq hprefix => ?_
      obtain ⟨a, rfl | rfl, b, -, rfl⟩ := Language.mem_mul.mp hq
      · exact hmark (.inl (List.cons_prefix_cons.mp hprefix).1.symm)
      · exact hmark (.inr (List.cons_prefix_cons.mp hprefix).1.symm)

theorem longest_of_readUnsigned? {negative : Bool} {n : Numeral} {rest : Text}
    (h : readUnsigned? negative s = some (n, rest)) :
    ∃ t, n.source = (if negative then ['-'] else []) ++ t ∧ s = t ++ rest ∧
      Longest (digits * (fraction * exponent)) t rest := by
  simp only [readUnsigned?] at h
  split at h
  · cases h
  · next hwhole =>
    cases h
    have hwhole := longest_readDigits hwhole
    have hfraction := longest_readFraction (readDigits s).2
    have hexponent := longest_readExponent (readFraction (readDigits s).2).2
    rw [← readExponent_append (readFraction (readDigits s).2).2] at hfraction
    rw [← readFraction_append (readDigits s).2,
      ← readExponent_append (readFraction (readDigits s).2).2, ← List.append_assoc] at hwhole
    refine ⟨_, by simp only [source, List.append_assoc], ?_, hwhole.mul
      (hfraction.mul hexponent fun d hd b hb => ?_) fun d hd b hb => ?_⟩
    · rw [List.append_assoc, List.append_assoc, readExponent_append, readFraction_append,
        readDigits_append]
    · have hmark := mark_of_cons_mem_exponent hb
      obtain rfl | hdigit := point_or_digit_of_mem hfraction.1 hd
      · exact absurd hmark (by decide)
      · obtain rfl | rfl := hmark <;> cases hdigit
    · have hdigit : d.isDigit = true := hwhole.1.2 d hd
      cases hdigit.symm.trans (not_digit_of_cons_mem hb)

/-- What is read is the longest number there. -/
theorem longest_of_read? {n : Numeral} {rest : Text} (h : read? s = some (n, rest)) :
    Longest (withWhole digits) n.source rest := by
  unfold read? at h
  split at h
  · next s =>
    obtain ⟨t, hsource, rfl, hlongest⟩ := longest_of_readUnsigned? h
    rw [hsource]
    refine Longest.mul (Longest.optional (L := {['-']}) ⟨rfl, ?_⟩) hlongest ?_
    · rintro q rfl -
      exact le_rfl
    · intro d hd b hb
      obtain rfl := List.mem_singleton.mp hd
      exact absurd (digit_of_cons_mem_mul hb) (by decide)
  · next hminus =>
    obtain ⟨t, hsource, rfl, hlongest⟩ := longest_of_readUnsigned? h
    rw [hsource]
    refine Longest.mul (Longest.absent ?_) hlongest (fun d hd => by cases hd)
    rintro q rfl ⟨u, hu⟩
    exact hminus u hu.symm

end Reading

end Number

namespace Condition
open Number

/-- A number of a condition is the longest one where it stands, if zeros may stand before the other
digits. It is a number of JSON if there are no such zeros, and then the longest one of JSON. -/
theorem numbers_longest {s : Text} {ls : List Lexeme} (h : lex s = .ok ls) {l : Lexeme}
    (hl : l ∈ ls) {x : Binary64} (hx : l.token = .value (.number x)) :
    ∃ before after, s = before ++ (l.source ++ after) ∧ l.offset = Text.width before ∧
      Longest (withWhole digits) l.source after ∧ (l.source ∈ json ↔ ¬ Padded l.source) ∧
      (l.source ∈ json → Longest json l.source after) := by
  obtain ⟨ls', c, t, rest, hscan, -, hread⟩ := (lexFrom_eq_ok_iff.mp h).of_mem hl
  obtain ⟨before, hsplit, hoffset⟩ := hscan.source
  have hsource : c :: t = l.source ++ rest := (splits_of_readToken hread).1
  rw [hx] at hread
  obtain ⟨-, _, hstring⟩ | ⟨n, hn, hnumber, -⟩ | hnull | ⟨b, hboolean⟩ := readToken_value_cases hread
  · cases hstring
  · have hlongest := longest_of_read? hn
    rw [← hnumber] at hlongest
    exact ⟨before, rest, by rw [hsplit, hsource], by rw [hoffset, Nat.zero_add], hlongest,
      mem_json_iff hlongest.1, fun hjson => hlongest.mono hjson fun q => withWhole_of_json⟩
  · cases hnull
  · cases hboolean

/-- The second number ends at the blank, as late as it can. -/
theorem numbers_longest_glued :
    ∃ before after, "1-2.50e+3 < 0".toList = before ++ ("-2.50e+3".toList ++ after) ∧
      Text.width before = 1 ∧ Longest json "-2.50e+3".toList after := by
  have hlex : lex "1-2.50e+3 < 0".toList = .ok [
      ⟨.value (.number (Numeral.toBinary64 ⟨false, ['1'], [], none⟩)), ['1'], 0⟩,
      ⟨.value (.number (Numeral.toBinary64 ⟨true, ['2'], "50".toList, some ⟨'e', ['+'], ['3']⟩⟩)),
        "-2.50e+3".toList, 1⟩,
      ⟨.compare .lt, ['<'], 10⟩,
      ⟨.value (.number (Numeral.toBinary64 ⟨false, ['0'], [], none⟩)), ['0'], 12⟩] := by
    decide +kernel
  obtain ⟨before, after, hsplit, hoffset, -, hjson, hlongest⟩ :=
    numbers_longest hlex (List.mem_cons_of_mem _ List.mem_cons_self) rfl
  refine ⟨before, after, hsplit, hoffset.symm, hlongest (hjson.mpr ?_)⟩
  rintro ⟨m, hm, d, t, hpadded, -⟩
  obtain rfl | rfl := mem_optional_iff.mp hm
  · exact absurd (List.cons_eq_cons.mp hpadded).1 (by decide)
  · exact absurd (List.cons_eq_cons.mp (List.cons_eq_cons.mp hpadded).2).1 (by decide)

/-- The whole text is one number, which JSON has not. -/
theorem padded_number_taken :
    lex "007".toList = .ok [⟨.value (.number (Numeral.toBinary64 ⟨false, ['7'], [], none⟩)),
      "007".toList, 0⟩] ∧
    evaluate 64 "007".toList = .ok true ∧ "007".toList ∉ json := by
  refine ⟨by decide +kernel, by decide +kernel, fun hjson => ?_⟩
  exact not_padded_of_json hjson ⟨[], .inl rfl, '0', ['7'], rfl, rfl⟩

end Condition
end TurnRouter
