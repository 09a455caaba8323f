import TurnRouter.Condition.Lexer

/-! # Tokens end where they end

Outside of strings a token is settled by its own characters as soon as the next one can not go on
with it. So what comes after never changes how a text before it is read.
-/
namespace TurnRouter

theorem takeWhile_append_of_head {p : Char → Bool} {s t : Text} (h : ∀ d ∈ t.head?, p d = false) :
    (s ++ t).takeWhile p = s.takeWhile p ∧ (s ++ t).dropWhile p = s.dropWhile p ++ t := by
  induction s with
  | nil =>
    cases t with
    | nil => exact ⟨rfl, rfl⟩
    | cons d t => simp [h d rfl]
  | cons c s ih => cases hc : p c <;> simp [hc, ih]

theorem findSome?_congr {α β : Type} {f g : α → Option β} {l : List α} (h : ∀ x ∈ l, f x = g x) :
    l.findSome? f = l.findSome? g := by
  induction l with
  | nil => rfl
  | cons a l ih =>
    rw [List.findSome?_cons, List.findSome?_cons, h a List.mem_cons_self,
      ih fun x hx => h x (List.mem_cons_of_mem _ hx)]

theorem Text.drop?_append {start s t : Text} (h : ∀ d ∈ t.head?, d ∉ start) :
    Text.drop? start (s ++ t) = (Text.drop? start s).map (· ++ t) := by
  induction start generalizing s with
  | nil => rfl
  | cons a start ih =>
    cases s with
    | nil =>
      cases t with
      | nil => rfl
      | cons d t =>
        have had : a ≠ d := fun had => h d rfl (had ▸ List.mem_cons_self)
        simp [Text.drop?, had]
    | cons c s =>
      rw [List.cons_append, Text.drop?, Text.drop?]
      split
      · exact ih fun d hd hmem => h d hd (List.mem_cons_of_mem _ hmem)
      · rfl

namespace Numeral

/-- Characters that a numeral may go on with. -/
def continues (c : Char) : Bool := c.isDigit || ['.', 'e', 'E', '+', '-'].contains c

theorem readSign_cons (c : Char) (t : Text) :
    readSign (c :: t) = if c = '+' ∨ c = '-' then ([c], t) else ([], c :: t) := by
  unfold readSign
  split
  · next heq =>
    obtain ⟨rfl, rfl⟩ := List.cons_eq_cons.mp heq
    rfl
  · next heq =>
    obtain ⟨rfl, rfl⟩ := List.cons_eq_cons.mp heq
    rfl
  · next hplus hminus =>
    rw [if_neg]
    rintro (rfl | rfl)
    · exact hplus t rfl
    · exact hminus t rfl

/-- The sign before the end of a text is settled, and what follows it goes on to that end. -/
theorem readSign_append_of_ne_nil {s : Text} (hs : s ≠ []) (t : Text) :
    readSign (s ++ t) = ((readSign s).1, (readSign s).2 ++ t) := by
  obtain ⟨c, s, rfl⟩ := List.exists_cons_of_ne_nil hs
  rw [List.cons_append, readSign_cons, readSign_cons]
  split <;> rfl

theorem readFraction_of_ne {c : Char} (hc : c ≠ '.') (s : Text) :
    readFraction (c :: s) = ([], c :: s) := by
  unfold readFraction
  split
  · next h => exact absurd (List.cons_eq_cons.mp h).1 hc
  · rfl

theorem read?_of_ne {c : Char} (hc : c ≠ '-') (s : Text) :
    read? (c :: s) = readUnsigned? false (c :: s) := by
  unfold read?
  split
  · next h => exact absurd (List.cons_eq_cons.mp h).1 hc
  · rfl

section Append
variable {t : Text} (ht : ∀ d ∈ t.head?, continues d = false)
include ht

theorem head_ne {d : Char} (hd : continues d = true) (s : Text) : t ≠ d :: s := by
  rintro rfl
  rw [ht d rfl] at hd
  cases hd

theorem readDigits_append_of_head (s : Text) :
    readDigits (s ++ t) = ((readDigits s).1, (readDigits s).2 ++ t) := by
  have hdigit : ∀ d ∈ t.head?, d.isDigit = false := fun d hd =>
    (Bool.or_eq_false_iff.mp (ht d hd)).1
  simp only [readDigits, takeWhile_append_of_head hdigit]

theorem readSign_append_of_head (s : Text) :
    readSign (s ++ t) = ((readSign s).1, (readSign s).2 ++ t) := by
  cases s with
  | nil =>
    rw [List.nil_append]
    unfold readSign
    split
    · exact absurd rfl (head_ne ht (by decide) _)
    · exact absurd rfl (head_ne ht (by decide) _)
    · rfl
  | cons c s => exact readSign_append_of_ne_nil (List.cons_ne_nil c s) t

theorem readFraction_append_of_head (s : Text) :
    readFraction (s ++ t) = ((readFraction s).1, (readFraction s).2 ++ t) := by
  cases s with
  | nil =>
    rw [List.nil_append]
    unfold readFraction
    split
    · exact absurd rfl (head_ne ht (by decide) _)
    · rfl
  | cons c s =>
    by_cases hc : c = '.'
    · subst hc
      simp only [List.cons_append, readFraction, readDigits_append_of_head ht]
      split <;> rfl
    · rw [List.cons_append, readFraction_of_ne hc, readFraction_of_ne hc, List.cons_append]

theorem readExponent_append_of_head (s : Text) :
    readExponent (s ++ t) = ((readExponent s).1, (readExponent s).2 ++ t) := by
  cases s with
  | nil =>
    cases t with
    | nil => rfl
    | cons d t =>
      have hd : ¬(d = 'e' ∨ d = 'E') := by
        rintro (rfl | rfl) <;> exact absurd rfl (head_ne ht (by decide) _)
      simp [readExponent, hd]
  | cons c s =>
    simp only [List.cons_append, readExponent, readSign_append_of_head ht,
      readDigits_append_of_head ht]
    split
    · split <;> rfl
    · rfl

theorem readUnsigned?_append_of_head (negative : Bool) (s : Text) :
    readUnsigned? negative (s ++ t) =
      (readUnsigned? negative s).map fun x => (x.1, x.2 ++ t) := by
  simp only [readUnsigned?, readDigits_append_of_head ht, readFraction_append_of_head ht,
    readExponent_append_of_head ht]
  split <;> rfl

theorem read?_append_of_head (c : Char) (s : Text) :
    read? (c :: (s ++ t)) = (read? (c :: s)).map fun x => (x.1, x.2 ++ t) := by
  by_cases hc : c = '-'
  · subst hc
    exact readUnsigned?_append_of_head ht true s
  · rw [read?_of_ne hc, read?_of_ne hc, ← List.cons_append, readUnsigned?_append_of_head ht]

end Append
end Numeral

namespace Condition

/-- Characters that some token outside of strings may go on with. -/
def continues (c : Char) : Bool := isWordChar c || ['&', '|', '=', '.', '+', '-'].contains c

/-- A text that no token before it runs into. -/
def Fresh (t : Text) : Prop := ∀ c ∈ t.head?, continues c = false

theorem isWordChar_of_isDigit {c : Char} (h : c.isDigit = true) : isWordChar c = true := by
  have hlt : c.toNat < 0x80 := by
    simp only [Char.isDigit, Bool.and_eq_true, decide_eq_true_eq] at h
    exact Nat.lt_of_le_of_lt (UInt32.le_iff_toNat_le.mp h.2) (by decide)
  simp [isWordChar, isAlphanumeric, isNumeric, hlt, h]

theorem continues_of_numeral {c : Char} (h : Numeral.continues c = true) : continues c = true := by
  rcases Bool.or_eq_true_iff.mp h with h | h
  · simp [continues, isWordChar_of_isDigit h]
  · simp only [List.contains_eq_mem, List.mem_cons, List.not_mem_nil, or_false, decide_eq_true_eq] at h
    rcases h with rfl | rfl | rfl | rfl | rfl <;> decide

section Fresh
variable {t : Text} (ht : Fresh t)
include ht

theorem Fresh.word : ∀ d ∈ t.head?, isWordChar d = false := fun d hd =>
  (Bool.or_eq_false_iff.mp (ht d hd)).1

theorem Fresh.numeral : ∀ d ∈ t.head?, Numeral.continues d = false := by
  intro d hd
  rw [← Bool.not_eq_true]
  intro hn
  exact absurd (continues_of_numeral hn) (by rw [ht d hd]; decide)

theorem drop?_spelling_append {token : Token} (hmem : token ∈ Token.operators) (c : Char) (s : Text) :
    Text.drop? token.spelling (c :: (s ++ t)) = (Text.drop? token.spelling (c :: s)).map (· ++ t) := by
  have htail : ∀ d ∈ t.head?, d ∉ token.spelling.tail := by
    have hall : (Token.operators.all fun op => op.spelling.tail.all continues) = true := by decide
    intro d hd hin
    have hcont := List.all_eq_true.mp (List.all_eq_true.mp hall token hmem) d hin
    exact absurd hcont (by rw [ht d hd]; decide)
  cases hspell : token.spelling with
  | nil => exact absurd hspell (Token.spelling_ne_nil_of_mem hmem)
  | cons a tail =>
    rw [hspell] at htail
    rw [Text.drop?, Text.drop?]
    split
    · exact Text.drop?_append htail
    · rfl

theorem readOperator?_append (c : Char) (s : Text) :
    readOperator? (c :: (s ++ t)) =
      (readOperator? (c :: s)).map fun r => { r with rest := r.rest ++ t } := by
  unfold readOperator?
  rw [List.map_findSome?]
  refine findSome?_congr fun op hop => ?_
  rw [drop?_spelling_append ht hop, Function.comp_apply]
  cases Text.drop? op.spelling (c :: s) <;> rfl

theorem readWord_append (start : Nat) (s : Text) :
    readWord start (s ++ t) = (readWord start s).map fun r => { r with rest := r.rest ++ t } := by
  obtain ⟨htake, hdrop⟩ := takeWhile_append_of_head (s := s) (Fresh.word ht)
  unfold readWord
  rw [htake, hdrop]
  split <;> rfl

theorem readNumber_append (start : Nat) (c : Char) (s : Text) :
    readNumber start c (s ++ t) =
      (readNumber start c s).map fun r => { r with rest := r.rest ++ t } := by
  unfold readNumber
  rw [Numeral.read?_append_of_head (Fresh.numeral ht)]
  cases Numeral.read? (c :: s) <;> rfl

/-- A token that is no string is read in the same way before any fresh text. -/
theorem readToken_append {c : Char} (hc : ¬(c = '\'' ∨ c = '"')) (start : Nat) (s : Text) :
    readToken start c (s ++ t) =
      (readToken start c s).map fun r => { r with rest := r.rest ++ t } := by
  unfold readToken
  rw [readOperator?_append ht]
  cases readOperator? (c :: s) with
  | some r => rfl
  | none =>
    simp only [Option.map_none, if_neg hc]
    split
    · exact readNumber_append ht start c s
    · split
      · exact readWord_append ht start (c :: s)
      · rfl

end Fresh

end Condition
end TurnRouter
