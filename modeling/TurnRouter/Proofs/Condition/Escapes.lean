import TurnRouter.Proofs.Condition.CodePoints
import TurnRouter.Proofs.Condition.Extension

/-! # Bad escapes

A string is taken if each `\u` in it is followed by a code point. At the first one that is not, the
condition fails with an invalid escape, whatever comes after.
-/
namespace TurnRouter.Condition

/-- The text of a string between its quotes, escape by escape, if `group` says how a code unit is
written. -/
inductive Body (group : Text → Nat → Prop) (quote : Char) : Text → Prop
  | nil : Body group quote []
  | plain {c : Char} {s : Text} : c ≠ quote → c ≠ '\\' → Body group quote s →
    Body group quote (c :: s)
  | guarded {c : Char} {s : Text} : c ≠ 'u' → Body group quote s → Body group quote ('\\' :: c :: s)
  | unicode {e s : Text} {c : Char} : CodePoint group e c → Body group quote s →
    Body group quote ('\\' :: 'u' :: (e ++ s))

/-- The text goes on with a code point. -/
def StartsCodePoint (group : Text → Nat → Prop) (s : Text) : Prop :=
  ∃ e c t, s = e ++ t ∧ CodePoint group e c

theorem startsCodePoint_iff {s : Text} :
    StartsCodePoint UnitGroup s ↔ ∃ r, readCodePoint s = .ok r := by
  constructor
  · rintro ⟨e, c, t, hsplit, hpoint⟩
    exact ⟨_, readCodePoint_eq_ok_iff.mpr ⟨hsplit, hpoint⟩⟩
  · rintro ⟨r, hr⟩
    obtain ⟨hsplit, hpoint⟩ := readCodePoint_eq_ok_iff.mp hr
    exact ⟨r.source, r.value, r.rest, hsplit, hpoint⟩

/-- A code point starts with a group of its own kind. -/
theorem CodePoint.group {group : Text → Nat → Prop} {e : Text} {c : Char} (h : CodePoint group e c) :
    ∃ s n t, e = s ++ t ∧ group s n := by
  cases h with
  | unit hunit _ _ => exact ⟨_, _, [], by rw [List.append_nil], hunit⟩
  | pair hunit _ _ _ => exact ⟨_, _, _, rfl, hunit⟩

theorem not_startsCodePoint_plus (s : Text) : ¬ StartsCodePoint HexGroup ('+' :: s) := by
  rintro ⟨e, c, t, hsplit, hpoint⟩
  obtain ⟨group, n, u, rfl, hlength, hnumber⟩ := hpoint.group
  cases group with
  | nil => cases hlength
  | cons d group =>
    obtain ⟨rfl, -⟩ := List.cons_eq_cons.mp hsplit
    exact not_hexNumber_plus _ hnumber

theorem Body.startsCodePoint {group : Text → Nat → Prop} {quote : Char} {s : Text}
    (h : Body group quote ('\\' :: 'u' :: s)) : StartsCodePoint group s := by
  cases h with
  | plain _ hb _ => exact absurd rfl hb
  | guarded hu _ => exact absurd rfl hu
  | unicode hpoint _ => exact ⟨_, _, _, rfl, hpoint⟩

theorem eq_of_quoted {quote : Char} {source body : Text} (h : source = quote :: (body ++ [quote])) :
    body = source.tail.dropLast := by
  rw [h, List.tail_cons, List.dropLast_concat]

theorem variant_of_readUnit {s : Text} {e : Error} (h : readUnit s = .error e) :
    e.variant = .invalidEscape := by
  unfold readUnit at h
  split at h <;> cases h
  rfl

theorem variant_of_readCodePoint {s : Text} {e : Error} (h : readCodePoint s = .error e) :
    e.variant = .invalidEscape := by
  unfold readCodePoint at h
  split at h
  · next hunit =>
    cases h
    exact variant_of_readUnit hunit
  · split at h
    · split at h
      · split at h
        · next hunit =>
          cases h
          exact variant_of_readUnit hunit
        · split at h <;> cases h
          rfl
      · cases h
        rfl
    · split at h <;> cases h
      rfl

theorem UnitGroup.hexGroup {s : Text} {n : Nat} (h : UnitGroup s n) (hplus : ∀ t, s ≠ '+' :: t) :
    HexGroup s n := by
  obtain ⟨hlength, hnumber | ⟨t, ht, -⟩⟩ := h
  · exact ⟨hlength, hnumber⟩
  · exact absurd ht (hplus t)

theorem CodePoint.hexGroup {e : Text} {c : Char} (h : CodePoint UnitGroup e c)
    (hplus : ¬ "\\u+".toList <:+: '\\' :: 'u' :: e) : CodePoint HexGroup e c := by
  cases h with
  | unit hunit hhigh hlow =>
    refine .unit (hunit.hexGroup ?_) hhigh hlow
    rintro t rfl
    exact hplus ⟨[], t, rfl⟩
  | @pair s t high low hunit hhigh hunit' hlow =>
    refine .pair (hunit.hexGroup ?_) hhigh (hunit'.hexGroup ?_) hlow
    · rintro t' rfl
      exact hplus ⟨[], t' ++ '\\' :: 'u' :: t, rfl⟩
    · rintro t' rfl
      exact hplus ⟨'\\' :: 'u' :: s, t', by simp⟩

/-- Without a plus sign after `\u` all groups are made of four digits. -/
theorem Body.hexGroup {quote : Char} {body : Text} (h : Body UnitGroup quote body)
    (hplus : ¬ "\\u+".toList <:+: body) : Body HexGroup quote body := by
  induction h with
  | nil => exact .nil
  | plain hc hb _ ih => exact .plain hc hb (ih fun h => hplus (h.trans (List.suffix_cons _ _).isInfix))
  | @guarded c s hc _ ih =>
    exact .guarded hc (ih fun h => hplus (h.trans (List.suffix_append ['\\', c] s).isInfix))
  | @unicode e s c hpoint _ ih =>
    refine .unicode (hpoint.hexGroup fun h => hplus ?_) (ih fun h => hplus ?_)
    · exact h.trans (List.prefix_append ('\\' :: 'u' :: e) s).isInfix
    · exact h.trans (List.suffix_append ('\\' :: 'u' :: e) s).isInfix

section Reading
variable {start : Nat} {quote : Char} {s body : Text}

theorem body_of_readBody {r : Reading Text} (h : readBody start quote s = .ok r) :
    ∃ body, r.source = body ++ [quote] ∧ Body UnitGroup quote body := by
  fun_induction readBody start quote s generalizing r with
  | case1 => cases h
  | case2 => cases h; exact ⟨[], rfl, .nil⟩
  | case3 => cases h
  | case4 => cases h
  | case5 s x hr hle hc ih =>
    obtain ⟨r', hr', hsource⟩ := Reading.source_of_after h
    obtain ⟨body, hbody, hmore⟩ := ih hr'
    have hpoint := (readCodePoint_eq_ok_iff.mp hr).2
    exact ⟨_, by rw [hsource, hbody]; simp, .unicode hpoint hmore⟩
  | case6 e s he hc ih =>
    obtain ⟨r', hr', hsource⟩ := Reading.source_of_after h
    obtain ⟨body, hbody, hmore⟩ := ih hr'
    exact ⟨_, by rw [hsource, hbody]; rfl, .guarded he hmore⟩
  | case7 c s hc hb ih =>
    obtain ⟨r', hr', hsource⟩ := Reading.source_of_after h
    obtain ⟨body, hbody, hmore⟩ := ih hr'
    exact ⟨_, by rw [hsource, hbody]; rfl, .plain hc hb hmore⟩

theorem readBody_body (hq : quote ≠ '\\') (h : Body UnitGroup quote body) (rest : Text) :
    ∃ v, readBody start quote (body ++ rest) =
      Reading.after v body (readBody start quote rest) := by
  induction h with
  | nil =>
    refine ⟨[], ?_⟩
    rw [List.nil_append]
    cases readBody start quote rest <;> rfl
  | @plain c s hc hb _ ih =>
    obtain ⟨v, hv⟩ := ih
    exact ⟨[c] ++ v, by rw [List.cons_append, readBody_plain hc hb, hv, Reading.after_after]; rfl⟩
  | @guarded c s hc _ ih =>
    obtain ⟨v, hv⟩ := ih
    refine ⟨unescape c ++ v, ?_⟩
    rw [List.cons_append, List.cons_append, readBody_guarded hq hc, hv, Reading.after_after]
    rfl
  | @unicode e s c hpoint _ ih =>
    obtain ⟨v, hv⟩ := ih
    have hread : readCodePoint (e ++ (s ++ rest)) = .ok ⟨c, e, s ++ rest⟩ :=
      readCodePoint_eq_ok_iff.mpr ⟨rfl, hpoint⟩
    refine ⟨[c] ++ v, ?_⟩
    rw [List.cons_append, List.cons_append, List.append_assoc, readBody_unit hq hread, hv,
      Reading.after_after]
    rfl

theorem body_of_invalid {e : Error} (h : readBody start quote s = .error e)
    (he : e.variant = .invalidEscape) :
    ∃ body rest, s = body ++ '\\' :: 'u' :: rest ∧ Body UnitGroup quote body ∧
      ¬ StartsCodePoint UnitGroup rest := by
  fun_induction readBody start quote s with
  | case1 => cases h; cases he
  | case2 => cases h
  | case3 => cases h; cases he
  | case4 s e' hbad =>
    refine ⟨[], s, rfl, .nil, fun hstarts => ?_⟩
    obtain ⟨r, hr⟩ := startsCodePoint_iff.mp hstarts
    cases hr.symm.trans hbad
  | case5 s x hr hle hc ih =>
    obtain ⟨hsplit, hpoint⟩ := readCodePoint_eq_ok_iff.mp hr
    obtain ⟨body, rest, hrest, hbody, hbad⟩ := ih (Reading.error_of_after h)
    exact ⟨_, rest, by rw [hsplit, hrest]; simp, .unicode hpoint hbody, hbad⟩
  | case6 c s hu hc ih =>
    obtain ⟨body, rest, rfl, hbody, hbad⟩ := ih (Reading.error_of_after h)
    exact ⟨'\\' :: c :: body, rest, rfl, .guarded hu hbody, hbad⟩
  | case7 c s hc hb ih =>
    obtain ⟨body, rest, rfl, hbody, hbad⟩ := ih (Reading.error_of_after h)
    exact ⟨c :: body, rest, rfl, .plain hc hb hbody, hbad⟩

/-- The first `\u` without a code point is an invalid escape, and nothing else is. -/
theorem readBody_invalid_iff (hq : quote ≠ '\\') :
    (∃ e, readBody start quote s = .error e ∧ e.variant = .invalidEscape) ↔
      ∃ body rest, s = body ++ '\\' :: 'u' :: rest ∧ Body UnitGroup quote body ∧
        ¬ StartsCodePoint UnitGroup rest := by
  constructor
  · rintro ⟨e, he, hvariant⟩
    exact body_of_invalid he hvariant
  · rintro ⟨body, rest, rfl, hbody, hbad⟩
    cases hread : readCodePoint rest with
    | ok r => exact absurd (startsCodePoint_iff.mpr ⟨r, hread⟩) hbad
    | error e =>
      obtain ⟨v, hv⟩ := readBody_body hq hbody ('\\' :: 'u' :: rest)
      exact ⟨e, by rw [hv, readBody_badUnit hq hread]; rfl, variant_of_readCodePoint hread⟩

end Reading

section Lexing
variable {start : Nat} {c : Char} {s : Text}

/-- Nothing but a string can be an invalid escape. -/
theorem readToken_invalid_iff :
    (∃ e, readToken start c s = .error e ∧ e.variant = .invalidEscape) ↔
      Rule.isQuote c = true ∧ ∃ e, readBody start c s = .error e ∧ e.variant = .invalidEscape := by
  cases hq : Rule.isQuote c with
  | true =>
    rw [readToken_quote hq, readString]
    cases readBody start c s with
    | ok r => simp
    | error e => simp
  | false =>
    constructor
    · rintro ⟨e, he, hvariant⟩
      obtain rfl | ⟨word, rfl⟩ := error_of_readToken hq he <;> cases hvariant
    · rintro ⟨hquote, -⟩
      cases hquote

theorem stage_of_invalidEscape {e : Error} (h : e.variant = .invalidEscape) : e.stage = .lexing := by
  cases e <;> first | rfl | cases h

theorem evaluate_invalid_iff {limit : Nat} :
    (∃ e, evaluate limit s = .error e ∧ e.variant = .invalidEscape) ↔
      ∃ ls offset quote body rest, Scan 0 s ls offset (quote :: (body ++ '\\' :: 'u' :: rest)) ∧
        Rule.isQuote quote = true ∧ Body UnitGroup quote body ∧
        ¬ StartsCodePoint UnitGroup rest := by
  constructor
  · rintro ⟨e, he, hvariant⟩
    have hlex := lex_of_evaluate he (stage_of_invalidEscape hvariant)
    obtain ⟨stop, ls, c, t, hscan, -, hread⟩ := lexFrom_eq_error_iff.mp hlex
    obtain ⟨hq, hbad⟩ := readToken_invalid_iff.mp ⟨e, hread, hvariant⟩
    obtain ⟨body, rest, rfl, hbody, hrest⟩ :=
      (readBody_invalid_iff (Rule.ne_backslash_of_isQuote hq)).mp hbad
    exact ⟨ls, stop, c, body, rest, hscan, hq, hbody, hrest⟩
  · rintro ⟨ls, offset, quote, body, rest, hscan, hq, hbody, hrest⟩
    have hbad : ∃ e, readBody offset quote (body ++ '\\' :: 'u' :: rest) = .error e ∧
        e.variant = .invalidEscape :=
      (readBody_invalid_iff (Rule.ne_backslash_of_isQuote hq)).mpr ⟨body, rest, rfl, hbody, hrest⟩
    obtain ⟨e, hread, hvariant⟩ := readToken_invalid_iff.mpr ⟨hq, hbad⟩
    have hlex : lex s = .error e :=
      lexFrom_eq_error_iff.mpr ⟨offset, ls, quote, _, hscan, isBlank_quote hq, hread⟩
    exact ⟨e, evaluate_of_lex_error hlex limit, hvariant⟩

theorem body_of_string {ls : List Lexeme} (h : lex s = .ok ls) {l : Lexeme} (hl : l ∈ ls) {v : Text}
    (hv : l.token = .value (.string v)) :
    ∃ quote body, Rule.isQuote quote = true ∧ l.source = quote :: (body ++ [quote]) ∧
      Body UnitGroup quote body := by
  obtain ⟨before, c, t, rest, -, -, hread⟩ := (lexFrom_eq_ok_iff.mp h).of_mem hl
  rw [hv] at hread
  obtain ⟨hq, -⟩ | ⟨_, _, _, hnumber⟩ | hnull | ⟨b, hboolean⟩ := readToken_value_cases hread
  · obtain ⟨r, hr, heq⟩ := readToken_eq_ok_quote hq hread
    obtain ⟨body, hsource, hbody⟩ := body_of_readBody hr
    have hl : l.source = c :: r.source := congrArg Reading.source heq
    exact ⟨c, body, hq, by rw [hl, hsource], hbody⟩
  · cases hnumber
  · cases hnull
  · cases hboolean

end Lexing

/-- In strings that are taken a code point follows each `\u`, and a condition has an invalid escape
exactly if the lexer comes to a string with a `\u` that no code point follows. A group of digits may
be led by a plus sign; it is made of four hexadecimal digits otherwise. -/
theorem escapes_checked (s : Text) :
    (∀ ls, lex s = .ok ls → ∀ l ∈ ls, ∀ v, l.token = .value (.string v) →
      ∃ quote body, Rule.isQuote quote = true ∧ l.source = quote :: (body ++ [quote]) ∧
        Body UnitGroup quote body ∧ (¬ "\\u+".toList <:+: body → Body HexGroup quote body)) ∧
    ∀ limit, (∃ e, evaluate limit s = .error e ∧ e.variant = .invalidEscape) ↔
      ∃ ls offset quote body rest, Scan 0 s ls offset (quote :: (body ++ '\\' :: 'u' :: rest)) ∧
        Rule.isQuote quote = true ∧ Body UnitGroup quote body ∧
        ¬ StartsCodePoint UnitGroup rest := by
  refine ⟨fun ls h l hl v hv => ?_, fun limit => evaluate_invalid_iff⟩
  obtain ⟨quote, body, hq, hsource, hbody⟩ := body_of_string h hl hv
  exact ⟨quote, body, hq, hsource, hbody, hbody.hexGroup⟩

/-- A string with a surrogate pair is taken, and one with half of a pair is not. -/
theorem escapes_checked_surrogate :
    (∃ quote body, Rule.isQuote quote = true ∧ "'\\uD83D\\ude00'".toList = quote :: (body ++ [quote]) ∧
      Body HexGroup quote body) ∧
    ∃ e, evaluate 64 "'\\uD83D' == 'x'".toList = .error e ∧ e.variant = .invalidEscape := by
  constructor
  · have hlex : lex "'\\uD83D\\ude00'".toList =
        .ok [⟨.value (.string "😀".toList), "'\\uD83D\\ude00'".toList, 0⟩] := by
      decide +kernel
    obtain ⟨quote, body, hq, hsource, -, hgroups⟩ :=
      (escapes_checked "'\\uD83D\\ude00'".toList).1 _ hlex _ List.mem_cons_self _ rfl
    refine ⟨quote, body, hq, hsource, hgroups ?_⟩
    rw [eq_of_quoted hsource]
    decide +kernel
  · refine ((escapes_checked _).2 64).mpr ⟨[], 0, '\'', [], "D83D' == 'x'".toList, .done, rfl, .nil, ?_⟩
    rw [startsCodePoint_iff]
    rintro ⟨r, hr⟩
    have hbad : readCodePoint "D83D' == 'x'".toList = .error (.loneSurrogate 0xD83D) := by decide
    cases hbad.symm.trans hr

/-- A plus sign and three digits are taken for a group of four. -/
theorem signed_group_taken :
    lex "'\\u+041'".toList = .ok [⟨.value (.string ['A']), "'\\u+041'".toList, 0⟩] ∧
    evaluate 64 "'\\u+041' == 'A'".toList = .ok true ∧
    ¬ ∃ quote body, Rule.isQuote quote = true ∧
      "'\\u+041'".toList = quote :: (body ++ [quote]) ∧ Body HexGroup quote body := by
  refine ⟨by decide +kernel, by decide +kernel, ?_⟩
  rintro ⟨quote, body, -, hsource, hbody⟩
  rw [eq_of_quoted hsource] at hbody
  have h : StartsCodePoint HexGroup "+041".toList := hbody.startsCodePoint
  exact not_startsCodePoint_plus _ h

end TurnRouter.Condition
