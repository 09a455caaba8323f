import Mathlib.Data.List.TakeWhile
import TurnRouter.Proofs.Condition.Comparing
import TurnRouter.Proofs.Condition.Extension
import TurnRouter.Proofs.Condition.Template

/-! # Blanks only separate

A token is read from its own source as it was read from the whole text. So the sources of a text's
lexemes can be set apart with any blanks, and they are the same tokens again.
-/
namespace TurnRouter

/-! What a reader leaves before the end of a text, it leaves also if the text ends earlier. -/
namespace Numeral
variable {p q rest : Text}

theorem nil_of_append_eq_right {a : Text} (h : a ++ (q ++ rest) = rest) : a = [] ∧ q = [] := by
  rw [← List.append_assoc, List.append_left_eq_self] at h
  exact List.append_eq_nil_iff.mp h

theorem readDigits_of_append {digits : Text} (h : readDigits (p ++ rest) = (digits, q ++ rest)) :
    readDigits p = (digits, q) := by
  induction p generalizing digits with
  | nil =>
    have hsplit := readDigits_append rest
    rw [show readDigits rest = (digits, q ++ rest) from h] at hsplit
    obtain ⟨rfl, rfl⟩ := nil_of_append_eq_right hsplit
    rfl
  | cons c p ih =>
    cases hc : c.isDigit with
    | true =>
      simp only [readDigits, List.cons_append, List.takeWhile_cons, List.dropWhile_cons, hc, if_true,
        Prod.mk.injEq] at h ⊢
      obtain ⟨rfl, hdrop⟩ := h
      have hrest : readDigits p = ((p ++ rest).takeWhile Char.isDigit, q) :=
        ih (by rw [readDigits, hdrop])
      obtain ⟨htake, hdrop⟩ := Prod.mk.inj hrest
      exact ⟨by rw [← htake], hdrop⟩
    | false =>
      simp only [readDigits, List.cons_append, List.takeWhile_cons, List.dropWhile_cons, hc,
        Bool.false_eq_true, if_false, Prod.mk.injEq] at h ⊢
      rw [← List.cons_append, List.append_cancel_right_eq] at h
      exact h

/-- Where no digits are read in a longer text, there are none. -/
theorem readDigits_eq_nil_of_append (h : (readDigits (p ++ rest)).1 = []) :
    (readDigits p).1 = [] := by
  have hsplit := readDigits_append (p ++ rest)
  rw [h, List.nil_append] at hsplit
  rw [readDigits_of_append (Prod.ext h hsplit : readDigits (p ++ rest) = ([], p ++ rest))]

theorem readFraction_of_append {digits : Text}
    (h : readFraction (p ++ rest) = (digits, q ++ rest)) : readFraction p = (digits, q) := by
  cases p with
  | nil =>
    have hsplit := readFraction_append rest
    rw [show readFraction rest = (digits, q ++ rest) from h] at hsplit
    obtain ⟨hsource, rfl⟩ := nil_of_append_eq_right hsplit
    have hdigits : digits = [] := by
      by_contra hne
      rw [fractionSource, if_neg hne] at hsource
      cases hsource
    rw [hdigits]
    rfl
  | cons c p =>
    by_cases hc : c = '.'
    · subst hc
      simp only [List.cons_append, readFraction] at h ⊢
      split at h
      · next hnone =>
        rw [if_pos (readDigits_eq_nil_of_append hnone)]
        rw [← List.cons_append, Prod.mk.injEq, List.append_cancel_right_eq] at h
        exact Prod.ext h.1 h.2
      · next hsome =>
        have hdigits := readDigits_of_append h
        have hne : digits ≠ [] := by rwa [h] at hsome
        rw [hdigits, if_neg hne]
    · rw [List.cons_append, readFraction_of_ne hc, ← List.cons_append, Prod.mk.injEq,
        List.append_cancel_right_eq] at h
      rw [readFraction_of_ne hc]
      exact Prod.ext h.1 h.2

theorem readExponent_of_append {e : Option Exponent}
    (h : readExponent (p ++ rest) = (e, q ++ rest)) : readExponent p = (e, q) := by
  cases p with
  | nil =>
    have hsplit := readExponent_append rest
    rw [show readExponent rest = (e, q ++ rest) from h] at hsplit
    obtain ⟨hsource, rfl⟩ := nil_of_append_eq_right hsplit
    cases e with
    | none => rfl
    | some e => cases hsource
  | cons mark p =>
    simp only [List.cons_append, readExponent] at h ⊢
    split at h
    · next hmark =>
      rw [if_pos hmark]
      by_cases hp : p = []
      · subst hp
        rw [List.nil_append] at h
        split at h
        · rw [← List.singleton_append, Prod.mk.injEq, List.append_cancel_right_eq] at h
          exact Prod.ext h.1 h.2
        · next hsome =>
          -- Nothing is left for digits if all of the text is left over.
          have hsplit := readSign_append rest
          rw [← readDigits_append (readSign rest).2, (Prod.mk.inj h).2, ← List.append_assoc] at hsplit
          obtain ⟨hnil, -⟩ := nil_of_append_eq_right hsplit
          exact absurd (List.append_eq_nil_iff.mp hnil).2 hsome
      · rw [readSign_append_of_ne_nil hp] at h
        split at h
        · next hnone =>
          rw [if_pos (readDigits_eq_nil_of_append hnone)]
          rw [← List.cons_append, Prod.mk.injEq, List.append_cancel_right_eq] at h
          exact Prod.ext h.1 h.2
        · next hsome =>
          obtain ⟨rfl, hrest⟩ := Prod.mk.inj h
          have hdigits := readDigits_of_append (Prod.ext rfl hrest)
          rw [hdigits, if_neg hsome]
    · next hmark =>
      rw [if_neg hmark]
      rw [← List.cons_append, Prod.mk.injEq, List.append_cancel_right_eq] at h
      exact Prod.ext h.1 h.2

/-- The parts of a numeral are read one after the other. -/
theorem readUnsigned?_eq_some_iff {negative : Bool} {s : Text} {n : Numeral} :
    readUnsigned? negative s = some (n, rest) ↔ n.negative = negative ∧ n.whole ≠ [] ∧
      ∃ t u, readDigits s = (n.whole, t) ∧ readFraction t = (n.fraction, u) ∧
        readExponent u = (n.exponent, rest) := by
  simp only [readUnsigned?]
  constructor
  · intro h
    split at h
    · cases h
    · next hwhole =>
      cases h
      exact ⟨rfl, hwhole, _, _, rfl, rfl, rfl⟩
  · rintro ⟨rfl, hwhole, t, u, hdigits, hfraction, hexponent⟩
    simp only [hdigits, hfraction, hexponent, if_neg hwhole]

theorem readUnsigned?_of_append {negative : Bool} {n : Numeral}
    (h : readUnsigned? negative (p ++ rest) = some (n, q ++ rest)) :
    readUnsigned? negative p = some (n, q) := by
  obtain ⟨hnegative, hwhole, t, u, hdigits, hfraction, hexponent⟩ := readUnsigned?_eq_some_iff.mp h
  -- Each part leaves a text that ends with the rest.
  have hu : u = exponentSource n.exponent ++ q ++ rest := by
    rw [List.append_assoc, ← readExponent_append u, hexponent]
  have ht : t = fractionSource n.fraction ++ (exponentSource n.exponent ++ q) ++ rest := by
    rw [List.append_assoc, ← hu, ← readFraction_append t, hfraction]
  subst hu ht
  exact readUnsigned?_eq_some_iff.mpr ⟨hnegative, hwhole, _, _, readDigits_of_append hdigits,
    readFraction_of_append hfraction, readExponent_of_append hexponent⟩

theorem read?_of_append {n : Numeral} (hp : p ≠ []) (h : read? (p ++ rest) = some (n, q ++ rest)) :
    read? p = some (n, q) := by
  obtain ⟨c, p, rfl⟩ := List.exists_cons_of_ne_nil hp
  by_cases hc : c = '-'
  · subst hc
    exact readUnsigned?_of_append h
  · rw [List.cons_append, read?_of_ne hc] at h
    rw [read?_of_ne hc]
    exact readUnsigned?_of_append h

end Numeral

namespace Condition

section Tokens
variable {start : Nat} {c : Char} {s : Text} {r : Reading Token}

theorem readOperator?_spelling :
    ∀ t ∈ Token.operators, readOperator? t.spelling = some ⟨t, t.spelling, []⟩ := by
  decide

theorem readOperator?_of_append {p rest : Text} (h : readOperator? (p ++ rest) = none) :
    readOperator? p = none := by
  refine List.findSome?_eq_none_iff.mpr fun t ht => ?_
  have hnone := Option.map_eq_none_iff.mp (List.findSome?_eq_none_iff.mp h t ht)
  cases hdrop : Text.drop? t.spelling p with
  | none => rfl
  | some more =>
    rw [Text.drop?_eq_some_iff.mp hdrop, List.append_assoc,
      Text.drop?_eq_some_iff.mpr rfl] at hnone
    cases hnone

theorem readNumber_source (h : readNumber start c s = .ok r) {part : Text}
    (hpart : r.source = c :: part) : readNumber start c part = .ok { r with rest := [] } := by
  have hsplit : c :: s = r.source ++ r.rest := (splits_of_readNumber h).1
  unfold readNumber at h
  split at h
  · next n rest hn =>
    cases h
    rw [hsplit] at hn
    have hsource := Numeral.read?_of_append (q := []) (by rw [hpart]; exact List.cons_ne_nil _ _) hn
    rw [readNumber, ← hpart, hsource]
  · cases h

theorem readWord_source (h : readWord start s = .ok r) :
    readWord start r.source = .ok { r with rest := [] } := by
  unfold readWord at h
  split at h
  · next v hv =>
    cases h
    have hall : ∀ d ∈ s.takeWhile isWordChar, isWordChar d = true := fun d hd =>
      List.all_eq_true.mp List.all_takeWhile d hd
    simp only [readWord, List.takeWhile_eq_self_iff.mpr hall, List.dropWhile_eq_nil_iff.mpr hall, hv]
  · cases h

theorem readToken_source_of_quote (hq : Rule.isQuote c = true) (h : readToken start c s = .ok r)
    {part : Text} (hpart : r.source = c :: part) :
    readToken start c part = .ok { r with rest := [] } := by
  obtain ⟨body, hbody, rfl⟩ := readToken_eq_ok_quote hq h
  obtain ⟨-, rfl⟩ := List.cons_eq_cons.mp hpart
  have hread := readBody_source hq hbody start []
  rw [List.append_nil] at hread
  rw [readToken_quote hq, readString, hread]

/-- A token is read from its source as it was read from the whole text. -/
theorem readToken_source (h : readToken start c s = .ok r) :
    ∃ part, r.source = c :: part ∧ readToken start c part = .ok { r with rest := [] } := by
  have hsplit : c :: s = r.source ++ r.rest := (splits_of_readToken h).1
  obtain ⟨d, part, hsource⟩ := List.exists_cons_of_ne_nil (splits_of_readToken h).2
  obtain ⟨rfl, hs⟩ : c = d ∧ s = part ++ r.rest := by
    rw [hsource] at hsplit
    exact List.cons_eq_cons.mp hsplit
  refine ⟨part, hsource, ?_⟩
  cases hq : Rule.isQuote c with
  | true => exact readToken_source_of_quote hq h hsource
  | false =>
    have hcq := Rule.isQuote_eq_false_iff.mp hq
    simp only [readToken, if_neg hcq] at h ⊢
    cases hoperator : readOperator? (c :: s) with
    | some r' =>
      obtain ⟨hmem, hspelling, -⟩ := splits_of_readOperator? hoperator
      obtain rfl : r' = r := by
        rw [hoperator] at h
        exact Except.ok.inj h
      rw [← hsource, hspelling, readOperator?_spelling _ hmem]
    | none =>
      have hnone : readOperator? (c :: part) = none := by
        rw [hs, ← List.cons_append] at hoperator
        exact readOperator?_of_append hoperator
      rw [hoperator] at h
      rw [hnone]
      by_cases hnumber : c = '-' ∨ c.isDigit = true
      · simp only [if_pos hnumber] at h ⊢
        exact readNumber_source h hsource
      · by_cases hword : startsWord c = true
        · simp only [if_neg hnumber, if_pos hword] at h ⊢
          rw [← hsource]
          exact readWord_source h
        · simp only [if_neg hnumber, if_neg hword] at h
          cases h

end Tokens

section Lexemes
variable {s t : Text} {l : Lexeme} {ls : List Lexeme}

/-- The source of a lexeme gives its token in front of any text that does not go on with it. -/
def Lexeme.Firm (l : Lexeme) : Prop := ∀ t, Fresh t → Yields (l.source ++ t) [l.token] t

theorem firm_of_mem (h : lex s = .ok ls) (hl : l ∈ ls) : l.Firm := by
  intro t ht
  obtain ⟨before, c, u, rest, -, hc, hread⟩ := (lexFrom_eq_ok_iff.mp h).of_mem hl
  obtain ⟨part, hpart, hsource⟩ := readToken_source hread
  have hanywhere : ∀ offset, readToken offset c (part ++ t) = .ok ⟨l.token, l.source, t⟩ :=
    fun offset => readToken_extend ht hsource offset
  rw [show l.source = c :: part from hpart]
  exact .token hc hanywhere .done

/-- The sources of lexemes, each behind a gap, and a last gap. -/
def respaced (gaps : List Text) (ls : List Lexeme) (last : Text) : Text :=
  (List.zipWith (fun gap l => gap ++ l.source) gaps ls).flatten ++ last

theorem respaced_nil (gaps : List Text) (last : Text) : respaced gaps [] last = last := by
  simp [respaced]

theorem respaced_cons (gap : Text) (gaps : List Text) (l : Lexeme) (ls : List Lexeme) (last : Text) :
    respaced (gap :: gaps) (l :: ls) last = gap ++ (l.source ++ respaced gaps ls last) := by
  simp [respaced]

def AllBlank (gap : Text) : Prop := ∀ c ∈ gap, isBlank c = true

theorem AllBlank.yields {gap : Text} (h : AllBlank gap) (t : Text) : Yields (gap ++ t) [] t :=
  fun _ => ⟨[], _, scan_blanks h, rfl⟩

theorem AllBlank.fresh {gap : Text} (h : AllBlank gap) : Fresh gap := by
  have hend : Fresh [] := fun c hc => by cases hc
  have hgap := fresh_blanks_append h hend
  rwa [List.append_nil] at hgap

theorem AllBlank.fresh_append {gap : Text} (h : AllBlank gap) (hne : gap ≠ []) (t : Text) :
    Fresh (gap ++ t) := by
  obtain ⟨c, gap, rfl⟩ := List.exists_cons_of_ne_nil hne
  exact h.fresh

theorem yields_respaced {gaps : List Text} {last : Text} (hls : ∀ l ∈ ls, l.Firm)
    (hlength : gaps.length = ls.length) (hgaps : ∀ gap ∈ gaps, AllBlank gap) (hlast : AllBlank last)
    (hbetween : ∀ gap ∈ gaps.tail, gap ≠ []) : Yields (respaced gaps ls last) (kinds ls) [] := by
  induction ls generalizing gaps with
  | nil =>
    rw [respaced_nil]
    have hyields := hlast.yields []
    rwa [List.append_nil] at hyields
  | cons l ls ih =>
    obtain ⟨gap, gaps, rfl⟩ := List.exists_cons_of_length_eq_add_one hlength
    rw [List.tail_cons] at hbetween
    -- What comes after the source starts with a blank, if there is anything.
    have hfresh : Fresh (respaced gaps ls last) := by
      cases gaps with
      | nil => exact hlast.fresh
      | cons gap' gaps =>
        obtain ⟨l', ls, rfl⟩ := List.exists_cons_of_length_eq_add_one (Nat.succ.inj hlength).symm
        rw [respaced_cons]
        exact (hgaps gap' (by simp)).fresh_append (hbetween gap' List.mem_cons_self) _
    have hrest := ih (fun m hm => hls m (List.mem_cons_of_mem l hm)) (Nat.succ.inj hlength)
      (fun g hg => hgaps g (List.mem_cons_of_mem gap hg)) fun g hg => hbetween g (List.mem_of_mem_tail hg)
    rw [respaced_cons]
    exact ((hgaps gap List.mem_cons_self).yields _).trans
      ((hls l List.mem_cons_self _ hfresh).trans hrest)

end Lexemes

section Evaluation
variable {s t : Text} {ls ms : List Lexeme}

/-- The parser looks at tokens only: where they stand matters for what its errors name. -/
theorem parseLexemes_of_kinds (h : kinds ls = kinds ms) (limit : Nat) :
    (∃ e, parseLexemes limit ls = .ok e ∧ parseLexemes limit ms = .ok e) ∨
    ∃ e e', parseLexemes limit ls = .error e ∧ parseLexemes limit ms = .error e' ∧
      e.variant = e'.variant := by
  let φ : Bool → Empty → Text := fun _ g => nomatch g
  have hfill : ∀ b (tokens : List Token), (tokens.map Item.token).map (Item.fill (φ b)) = tokens := by
    intro b tokens
    rw [List.map_map]
    exact List.map_id _
  have hfits : ∀ b, Fits (φ b) ((kinds ls).map Item.token) (if b then ls else ms) := by
    intro b
    rw [Fits, hfill b]
    cases b
    · exact h.symm
    · rfl
  obtain ⟨b, hb⟩ | ⟨v, hv⟩ := Parser.uniform_parseLexemes limit hfits
  · obtain ⟨e, he, rfl, -⟩ := hb true
    obtain ⟨e', he', rfl, -⟩ := hb false
    exact .inl ⟨_, he, he'⟩
  · obtain ⟨e, he, hvariant⟩ := hv true
    obtain ⟨e', he', hvariant'⟩ := hv false
    exact .inr ⟨e, e', he, he', hvariant.trans hvariant'.symm⟩

/-- Conditions with the same tokens come out alike. -/
theorem evaluate_of_kinds (hs : lex s = .ok ls) (ht : lex t = .ok ms) (h : kinds ls = kinds ms)
    (limit : Nat) :
    (evaluate limit s).mapError Error.variant = (evaluate limit t).mapError Error.variant := by
  simp only [evaluate, parse, hs, ht]
  obtain ⟨e, he, he'⟩ | ⟨e, e', he, he', hvariant⟩ := parseLexemes_of_kinds h limit
  · rw [he, he']
  · rw [he, he']
    exact congrArg Except.error hvariant

end Evaluation

/-- The sources of a text's lexemes, put together again with any blanks around them and some between
them, are the same tokens in the same order. So the condition comes out as it did, or fails with the
same variant of error. -/
theorem blanks_only_separate {s : Text} {ls : List Lexeme} (h : lex s = .ok ls)
    {gaps : List Text} {last : Text} (hlength : gaps.length = ls.length)
    (hblank : ∀ gap ∈ last :: gaps, ∀ c ∈ gap, isBlank c = true)
    (hbetween : ∀ gap ∈ gaps.tail, gap ≠ []) :
    ∃ ms, lex (respaced gaps ls last) = .ok ms ∧ kinds ms = kinds ls ∧
      ∀ limit, (evaluate limit (respaced gaps ls last)).mapError Error.variant =
        (evaluate limit s).mapError Error.variant := by
  have hyields := yields_respaced (fun l hl => firm_of_mem h hl) hlength
    (fun gap hgap => hblank gap (List.mem_cons_of_mem last hgap)) (hblank last List.mem_cons_self)
    hbetween
  obtain ⟨ms, hms, hkinds⟩ := hyields.lex_eq
  exact ⟨ms, hms, hkinds, fun limit => evaluate_of_kinds hms h hkinds limit⟩

/-- Two numbers stay two numbers where an ideographic space or a line break is put between them. -/
theorem blanks_only_separate_numbers :
    ∃ ms, lex "!\u30001\t\n-1e2 ".toList = .ok ms ∧
      kinds ms = [.not, .value (.number (Numeral.toBinary64 ⟨false, ['1'], [], none⟩)),
        .value (.number (Numeral.toBinary64 ⟨true, ['1'], [], some ⟨'e', [], ['2']⟩⟩))] ∧
      ∀ limit, (evaluate limit "!\u30001\t\n-1e2 ".toList).mapError Error.variant =
        (evaluate limit "!1-1e2".toList).mapError Error.variant := by
  have hlex : lex "!1-1e2".toList = .ok [⟨.not, ['!'], 0⟩,
      ⟨.value (.number (Numeral.toBinary64 ⟨false, ['1'], [], none⟩)), ['1'], 1⟩,
      ⟨.value (.number (Numeral.toBinary64 ⟨true, ['1'], [], some ⟨'e', [], ['2']⟩⟩)),
        "-1e2".toList, 2⟩] := by
    decide +kernel
  have hblank : ∀ gap ∈ [[' '], [], ['\u3000'], ['\t', '\n']], ∀ c ∈ gap, isBlank c = true := by
    have hall : [[' '], [], ['\u3000'], ['\t', '\n']].all (List.all · isBlank) = true := by decide
    exact fun gap hgap => List.all_eq_true.mp (List.all_eq_true.mp hall gap hgap)
  exact blanks_only_separate hlex rfl hblank (by decide)

end Condition
end TurnRouter
