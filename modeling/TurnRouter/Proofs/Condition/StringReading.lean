import TurnRouter.Proofs.Condition.Stages
import TurnRouter.Proofs.Rule.Canonical

/-! # String literals end at their quote

A rule and a condition each look for the end of a literal in their own way. Where the one finds
it the other does too, or else it finds a bad escape before; what comes after has no part in it.
-/
namespace TurnRouter.Condition

section Equations
variable {start : Nat} {quote c : Char} {s : Text}

theorem readBody_quote : readBody start quote (quote :: s) = .ok ⟨[], [quote], s⟩ := by
  rw [readBody.eq_def]
  simp

theorem readBody_plain (hc : c ≠ quote) (hb : c ≠ '\\') :
    readBody start quote (c :: s) = Reading.after [c] [c] (readBody start quote s) := by
  rw [readBody.eq_def]
  simp [hc, hb]

theorem readBody_guarded (hq : quote ≠ '\\') (hc : c ≠ 'u') :
    readBody start quote ('\\' :: c :: s) =
      Reading.after (unescape c) ['\\', c] (readBody start quote s) := by
  rw [readBody.eq_def]
  simp [Ne.symm hq, hc]

theorem readBody_unit (hq : quote ≠ '\\') {r : Reading Char} (hr : readCodePoint s = .ok r) :
    readBody start quote ('\\' :: 'u' :: s) =
      Reading.after [r.value] ('\\' :: 'u' :: r.source) (readBody start quote r.rest) := by
  rw [readBody.eq_def]
  simp only [Ne.symm hq, if_false, if_true]
  split
  · next he => cases he.symm.trans hr
  · next hr' => cases hr'.symm.trans hr; rfl

theorem readBody_badUnit (hq : quote ≠ '\\') {e : Error} (he : readCodePoint s = .error e) :
    readBody start quote ('\\' :: 'u' :: s) = .error e := by
  rw [readBody.eq_def]
  simp only [Ne.symm hq, if_false, if_true]
  split
  · next he' => cases he'.symm.trans he; rfl
  · next hr => cases hr.symm.trans he

end Equations

theorem hexValue?_eq_none {digits : Text} {c : Char} (hmem : c ∈ digits) (hc : hexDigit? c = none) :
    hexValue? digits = none := by
  unfold hexValue?
  generalize 0 = n
  induction digits generalizing n with
  | nil => cases hmem
  | cons d digits ih =>
    rw [List.foldlM_cons]
    rcases List.mem_cons.mp hmem with rfl | hmem
    · rw [hc]; rfl
    · cases hexDigit? d with
      | none => rfl
      | some v => exact ih hmem _

/-- Characters that end a group of digits. -/
def BreaksGroup (quote c : Char) : Prop := c = quote ∨ c = '\\'

theorem codeUnit?_eq_none {quote c : Char} {group : Text} (hq : Rule.isQuote quote = true)
    (hc : BreaksGroup quote c) (hmem : c ∈ group) : codeUnit? group = none := by
  have hdigit : hexDigit? c = none ∧ c ≠ '+' := by
    rcases hc with rfl | rfl
    · rcases Rule.isQuote_iff.mp hq with rfl | rfl <;> exact ⟨by decide, by decide⟩
    · exact ⟨by decide, by decide⟩
  unfold codeUnit?
  split
  · exact hexValue?_eq_none ((List.mem_cons.mp hmem).resolve_left hdigit.2) hdigit.1
  · exact hexValue?_eq_none hmem hdigit.1
  · rfl

section Closed
variable {quote : Char} {s : Text}

/-- A group of `n` characters lies before the end of a literal, or it runs over a character that
ends it. -/
theorem closed_take (h : Rule.Closed quote s) (n : Nat) :
    (∃ group t, s = group ++ t ∧ group.length = n ∧ Rule.Closed quote t) ∨
    (∃ c, BreaksGroup quote c ∧ ∀ rest, c ∈ (s ++ rest).take n) := by
  -- The group may go on into what follows, so the second case is about the text with its rest.
  induction n generalizing s with
  | zero => exact .inl ⟨[], s, rfl, rfl, h⟩
  | succ n ih =>
    cases h with
    | close => exact .inr ⟨quote, .inl rfl, fun rest => by simp⟩
    | guarded _ => exact .inr ⟨'\\', .inr rfl, fun rest => by simp⟩
    | @plain c s hc hb hs =>
      obtain ⟨group, t, rfl, hlen, ht⟩ | ⟨d, hd, hmem⟩ := ih hs
      · exact .inl ⟨c :: group, t, rfl, by rw [List.length_cons, hlen], ht⟩
      · exact .inr ⟨d, hd, fun rest => by
          rw [List.cons_append, List.take_succ_cons]
          exact List.mem_cons_of_mem _ (hmem rest)⟩

theorem readUnit_closed (hq : Rule.isQuote quote = true) (h : Rule.Closed quote s) :
    (∃ unit group t, s = group ++ t ∧ Rule.Closed quote t ∧
      ∀ rest, readUnit (s ++ rest) = .ok ⟨unit, group, t ++ rest⟩) ∨
    (∀ rest, ∃ group, readUnit (s ++ rest) = .error (.malformedEscape group)) := by
  obtain ⟨group, t, rfl, hlen, ht⟩ | ⟨c, hc, hmem⟩ := closed_take h 4
  · have htake : ∀ rest, (group ++ t ++ rest).take 4 = group := fun rest => by
      rw [List.append_assoc, ← hlen, List.take_left]
    have hdrop : ∀ rest, (group ++ t ++ rest).drop 4 = t ++ rest := fun rest => by
      rw [List.append_assoc, ← hlen, List.drop_left]
    cases hunit : codeUnit? group with
    | some unit =>
      refine .inl ⟨unit, group, t, rfl, ht, fun rest => ?_⟩
      rw [readUnit, htake, hdrop, hunit]
    | none =>
      refine .inr fun rest => ⟨group, ?_⟩
      rw [readUnit, htake, hunit]
  · refine .inr fun rest => ⟨(s ++ rest).take 4, ?_⟩
    rw [readUnit, codeUnit?_eq_none hq hc (hmem rest)]

theorem readCodePoint_closed (hq : Rule.isQuote quote = true) (h : Rule.Closed quote s) :
    (∃ c part t, s = part ++ t ∧ Rule.Closed quote t ∧
      ∀ rest, readCodePoint (s ++ rest) = .ok ⟨c, part, t ++ rest⟩) ∨
    (∀ rest, ∃ e, readCodePoint (s ++ rest) = .error e ∧ e.variant = .invalidEscape) := by
  obtain ⟨unit, group, t, rfl, ht, hread⟩ | hbad := readUnit_closed hq h
  · cases hhigh : isHighSurrogate unit with
    | false =>
      cases hlow : isLowSurrogate unit with
      | false =>
        refine .inl ⟨Char.ofNat unit, group, t, rfl, ht, fun rest => ?_⟩
        simp only [readCodePoint, hread, hhigh, hlow]
        rfl
      | true =>
        refine .inr fun rest => ⟨.loneSurrogate unit, ?_, rfl⟩
        simp only [readCodePoint, hread, hhigh, hlow]
        rfl
    | true =>
      -- Only a guarded `u` right after a high surrogate can make the error go away.
      have hlone : (∀ rest u, t ++ rest ≠ '\\' :: 'u' :: u) →
          ∀ rest, ∃ e, readCodePoint (group ++ t ++ rest) = .error e ∧ e.variant = .invalidEscape := by
        intro hne rest
        refine ⟨.loneSurrogate unit, ?_, rfl⟩
        simp only [readCodePoint, hread, hhigh, if_true]
        split
        · next u hu => exact absurd hu (hne rest u)
        · rfl
      cases ht with
      | close =>
        refine .inr (hlone fun rest u hu => ?_)
        exact Rule.ne_backslash_of_isQuote hq (List.cons_eq_cons.mp hu).1
      | plain hc hb _ => exact .inr (hlone fun rest u hu => hb (List.cons_eq_cons.mp hu).1)
      | @guarded c t ht =>
        by_cases hu : c = 'u'
        · subst hu
          obtain ⟨low, group', t', rfl, ht', hread'⟩ | hbad := readUnit_closed hq ht
          · cases hlow : isLowSurrogate low with
            | true =>
              refine .inl ⟨joinSurrogates unit low, group ++ '\\' :: 'u' :: group', t', by simp, ht',
                fun rest => ?_⟩
              simp only [readCodePoint, hread, hhigh, List.cons_append, hread', hlow]
              rfl
            | false =>
              refine .inr fun rest => ⟨.loneSurrogate unit, ?_, rfl⟩
              simp only [readCodePoint, hread, hhigh, List.cons_append, hread', hlow]
              rfl
          · refine .inr fun rest => ?_
            obtain ⟨group', hgroup⟩ := hbad rest
            refine ⟨.malformedEscape group', ?_, rfl⟩
            simp only [readCodePoint, hread, hhigh, List.cons_append, hgroup]
            rfl
        · refine .inr (hlone fun rest u heq => ?_)
          exact hu (List.cons_eq_cons.mp (List.cons_eq_cons.mp heq).2).1
  · refine .inr fun rest => ?_
    obtain ⟨group, hgroup⟩ := hbad rest
    exact ⟨.malformedEscape group, by simp [readCodePoint, hgroup], rfl⟩

end Closed

/-- One outcome for a literal, whatever follows it: its whole body is read, or an escape in it is
bad. -/
def Settled (quote : Char) (body : Text) : Prop :=
  (∃ v, ∀ start rest, readBody start quote (body ++ rest) = .ok ⟨v, body, rest⟩) ∨
  (∀ start rest, ∃ e, readBody start quote (body ++ rest) = .error e ∧ e.variant = .invalidEscape)

theorem Settled.after {quote : Char} {body whole : Text} (h : Settled quote body)
    (value source : Text) (hwhole : whole = source ++ body)
    (hread : ∀ start rest, readBody start quote (whole ++ rest) =
      Reading.after value source (readBody start quote (body ++ rest))) : Settled quote whole := by
  subst hwhole
  obtain ⟨v, hv⟩ | hbad := h
  · refine .inl ⟨value ++ v, fun start rest => ?_⟩
    rw [hread, hv]
    rfl
  · refine .inr fun start rest => ?_
    obtain ⟨e, he, hvariant⟩ := hbad start rest
    exact ⟨e, by rw [hread, he]; rfl, hvariant⟩

/-- The two readings of a literal go through its body in step. -/
theorem settled_of_closed {quote : Char} (hq : Rule.isQuote quote = true) :
    ∀ body, Rule.Closed quote body → Settled quote body := by
  have hne := Rule.ne_backslash_of_isQuote hq
  intro body
  induction hn : body.length using Nat.strongRecOn generalizing body with
  | _ n ih =>
    intro h
    cases h with
    | close => exact .inl ⟨[], fun start rest => readBody_quote⟩
    | @plain c s hc hb hs =>
      refine (ih s.length ?_ s rfl hs).after [c] [c] rfl fun start rest => readBody_plain hc hb
      rw [← hn, List.length_cons]; omega
    | @guarded c s hs =>
      by_cases hu : c = 'u'
      · subst hu
        obtain ⟨ch, part, t, rfl, ht, hread⟩ | hbad := readCodePoint_closed hq hs
        · refine (ih t.length ?_ t rfl ht).after [ch] ('\\' :: 'u' :: part) rfl
            fun start rest => readBody_unit hne (hread rest)
          rw [← hn, List.length_cons, List.length_cons, List.length_append]; omega
        · refine .inr fun start rest => ?_
          obtain ⟨e, he, hvariant⟩ := hbad rest
          exact ⟨e, readBody_badUnit hne he, hvariant⟩
      · refine (ih s.length ?_ s rfl hs).after (unescape c) ['\\', c] rfl
          fun start rest => readBody_guarded hne hu
        rw [← hn, List.length_cons, List.length_cons]; omega

section Tokens
variable {start : Nat} {quote : Char} {s : Text}

theorem readToken_quote (hq : Rule.isQuote quote = true) :
    readToken start quote s = readString start quote s := by
  rcases Rule.isQuote_iff.mp hq with rfl | rfl <;> rfl

theorem isBlank_quote (hq : Rule.isQuote quote = true) : isBlank quote = false := by
  rcases Rule.isQuote_iff.mp hq with rfl | rfl <;> decide

theorem readToken_settled (hq : Rule.isQuote quote = true) {body : Text}
    (h : Settled quote body) :
    (∃ v, ∀ start rest, readToken start quote (body ++ rest) =
      .ok ⟨.value (.string v), quote :: body, rest⟩) ∨
    (∀ start rest, ∃ e, readToken start quote (body ++ rest) = .error e ∧
      e.variant = .invalidEscape) := by
  obtain ⟨v, hv⟩ | hbad := h
  · refine .inl ⟨v, fun start rest => ?_⟩
    rw [readToken_quote hq, readString, hv]
  · refine .inr fun start rest => ?_
    obtain ⟨e, he, hvariant⟩ := hbad start rest
    exact ⟨e, by rw [readToken_quote hq, readString, he], hvariant⟩

/-- The kinds of tokens, told apart by their first characters. -/
theorem readToken_cases (start : Nat) (c : Char) (s : Text) :
    (∃ r, readOperator? (c :: s) = some r ∧ readToken start c s = .ok r) ∨
    (Rule.isQuote c = true ∧ readToken start c s = readString start c s) ∨
    ((c = '-' ∨ c.isDigit = true) ∧ readToken start c s = readNumber start c s) ∨
    (startsWord c = true ∧ readToken start c s = readWord start (c :: s)) ∨
    readToken start c s = .error (.unexpectedChar c start) := by
  unfold readToken
  split
  · next r hr => exact .inl ⟨r, hr, rfl⟩
  · refine .inr ?_
    split
    · next hquote => exact .inl ⟨Rule.isQuote_iff.mpr hquote, rfl⟩
    · refine .inr ?_
      split
      · next hnumber => exact .inl ⟨hnumber, rfl⟩
      · refine .inr ?_
        split
        · next hword => exact .inl ⟨hword, rfl⟩
        · exact .inr rfl

theorem keyword?_cases {word : Text} {v : Scalar} (h : keyword? word = some v) :
    v = .null ∨ ∃ b, v = .boolean b := by
  unfold keyword? at h
  split at h
  · cases h
    exact .inr ⟨_, rfl⟩
  · split at h
    · cases h
      exact .inr ⟨_, rfl⟩
    · split at h <;> cases h
      exact .inl rfl

/-- Values are strings, numbers and keywords. -/
theorem readToken_value_cases {c : Char} {v : Scalar} {source rest : Text}
    (h : readToken start c s = .ok ⟨.value v, source, rest⟩) :
    (Rule.isQuote c = true ∧ ∃ text, v = .string text) ∨
    (∃ n, Numeral.read? (c :: s) = some (n, rest) ∧ source = n.source ∧ v = .number n.toBinary64) ∨
    v = .null ∨ ∃ b, v = .boolean b := by
  obtain ⟨r, hr, hread⟩ | ⟨hq, hread⟩ | ⟨-, hread⟩ | ⟨-, hread⟩ | hread := readToken_cases start c s
  · have hmem := (splits_of_readOperator? hr).1
    rw [Except.ok.inj (hread.symm.trans h)] at hmem
    simp [Token.operators] at hmem
  · rw [hread, readString] at h
    split at h <;> cases h
    exact .inl ⟨hq, _, rfl⟩
  · rw [hread, readNumber] at h
    split at h
    · next n rest' hn =>
      cases h
      exact .inr (.inl ⟨n, hn, rfl, rfl⟩)
    · cases h
  · rw [hread, readWord] at h
    split at h
    · next v' hv =>
      cases h
      exact .inr (.inr (keyword?_cases hv))
    · cases h
  · cases hread.symm.trans h

theorem error_of_readToken {c : Char} {e : Error} (hc : Rule.isQuote c = false)
    (h : readToken start c s = .error e) :
    e = .unexpectedChar c start ∨ ∃ word, e = .unknownWord word start := by
  obtain ⟨r, -, hread⟩ | ⟨hquote, -⟩ | ⟨-, hread⟩ | ⟨-, hread⟩ | hread := readToken_cases start c s
  · cases hread.symm.trans h
  · cases hc.symm.trans hquote
  · rw [hread, readNumber] at h
    split at h <;> cases h
    exact .inl rfl
  · rw [hread, readWord] at h
    split at h <;> cases h
    exact .inr ⟨_, rfl⟩
  · cases hread.symm.trans h
    exact .inl rfl

/-- Only a string can be without an end. -/
theorem ne_unterminated_of_readToken {c : Char} {e : Error} (hc : Rule.isQuote c = false)
    (h : readToken start c s = .error e) (p : Nat) : e ≠ .unterminatedString p := by
  obtain rfl | ⟨word, rfl⟩ := error_of_readToken hc h <;> exact Error.noConfusion

end Tokens

end TurnRouter.Condition
