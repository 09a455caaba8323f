import TurnRouter.Proofs.Condition.Composition
import TurnRouter.Proofs.Numeral
import TurnRouter.Proofs.Rule.Comparison

/-! # Rules that are one placeholder

A placeholder with nothing beside it, or only a negation before it, is tested by the truth of its
value. The lexer reads the value back as the scalar it was, so null, false, the empty text and zero are
not true, and all other values of these kinds are.
-/
namespace TurnRouter
open Condition

namespace Condition
section Lone
variable {s : Text} {a : Scalar} {limit : Nat}

/-- A minus or a digit starts no operator. -/
theorem readOperator?_of_numeral {c : Char} (hc : c = '-' ∨ c.isDigit = true) (s : Text) :
    readOperator? (c :: s) = none := by
  have hheads : (Token.operators.all fun t =>
      t.spelling.head?.all fun d => !(d == '-' || d.isDigit)) = true := by decide
  cases h : readOperator? (c :: s) with
  | none => rfl
  | some r =>
    obtain ⟨hmem, hsource, hsplit⟩ := splits_of_readOperator? h
    obtain ⟨d, rest, hspelling⟩ := List.exists_cons_of_ne_nil (Token.spelling_ne_nil_of_mem hmem)
    rw [Reading.Splits, hsource, hspelling] at hsplit
    obtain ⟨rfl, -⟩ := List.cons_eq_cons.mp hsplit
    have hhead := List.all_eq_true.mp hheads _ hmem
    rw [hspelling] at hhead
    obtain rfl | hdigit := hc
    · cases hhead
    · simp [hdigit] at hhead

theorem isBlank_numeral {c : Char} (hc : c = '-' ∨ c.isDigit = true) : isBlank c = false := by
  have hall : (blanks.all fun c => !(c == '-' || c.isDigit)) = true := by decide +kernel
  rw [← Bool.not_eq_true]
  intro hblank
  have hnot := List.all_eq_true.mp hall c (mem_blanks hblank)
  obtain rfl | hdigit := hc
  · cases hnot
  · simp [hdigit] at hnot

/-- Not the end of an operator that starts with an exclamation mark. -/
theorem readToken_not (hs : s.head? ≠ some '=') (offset : Nat) :
    readToken offset '!' s = .ok ⟨.not, ['!'], s⟩ := by
  cases s with
  | nil => rfl
  | cons c s =>
    have hc : '=' ≠ c := fun h => hs (by rw [h]; rfl)
    have hread : readOperator? ('!' :: c :: s) = some ⟨.not, ['!'], c :: s⟩ := by
      simp [readOperator?, Token.operators, Token.spelling, Connective.symbol, Comparison.symbol,
        Text.drop?, hc]
    rw [readToken, hread]

/-- One operand as a whole condition. -/
def Phrase.whole (p : Phrase .unary) : Phrase (.chain .or) :=
  .chain .or (.chain .and (.single p) .nil) .nil

theorem evaluate_operand (p : Phrase .unary) (hs : Yields s p.tokens []) (hdeep : p.nesting ≤ limit) :
    evaluate limit s = p.tree.eval.map Scalar.isTruthy := by
  have htokens : p.whole.tokens = p.tokens := by
    simp only [Phrase.whole, Phrase.tokens, Tail.tokens, List.append_nil]
  have hnesting : p.whole.nesting ≤ limit := by
    simpa only [Phrase.whole, Phrase.nesting, Tail.nesting, Nat.max_zero] using hdeep
  have htree : p.whole.tree = p.tree := by
    simp only [Phrase.whole, Phrase.tree]
  rw [evaluate_of_parse (parse_of_phrase hs p.whole htokens hnesting), htree]

theorem evaluate_value (h : Yields s [.value a] []) : evaluate limit s = .ok a.isTruthy :=
  evaluate_operand (.plain (.value a)) h (Nat.zero_le limit)

theorem evaluate_not_value (h : Yields s [.value a] []) (hs : s.head? ≠ some '=')
    (hlimit : 1 ≤ limit) : evaluate limit ('!' :: s) = .ok !a.isTruthy :=
  evaluate_operand (.not (.plain (.value a))) (.token (by decide) (readToken_not hs) h) hlimit

end Lone
end Condition

namespace Json

/-- Null, a boolean, a text or an integer. -/
inductive Simple : Json → Prop
  | null : Simple .null
  | bool (b : Bool) : Simple (.bool b)
  | str (s : Text) : Simple (.str s)
  | int (i : Int) : Simple (.ofInt i)

/-- Null, false, the empty text or zero. -/
def Falsy (v : Json) : Prop := v = .null ∨ v = .bool false ∨ v = .str [] ∨ v = .ofInt 0

theorem exists_cons_ofInt (i : Int) :
    ∃ c s, (ofInt i).write = c :: s ∧ (c = '-' ∨ c.isDigit = true) := by
  have hwrite : (ofInt i).write = Text.ofInt i := by
    rw [ofInt, write]
    rfl
  rw [hwrite, Text.ofInt]
  split
  · exact ⟨'-', _, rfl, .inl rfl⟩
  · cases hdigits : Text.ofNat i.natAbs with
    | nil => exact absurd hdigits Nat.toDigits_ne_nil
    | cons c s =>
      have hc : c.isDigit = true := isDigit_of_mem_ofNat (by rw [hdigits]; exact List.mem_cons_self)
      exact ⟨c, s, rfl, .inr hc⟩

theorem yields_ofInt (i : Int) :
    Yields (ofInt i).write [.value (.number (Numeral.ofInt i).toBinary64)] [] := by
  obtain ⟨c, s, hcons, hc⟩ := exists_cons_ofInt i
  have hquote : ¬(c = '\'' ∨ c = '"') := by
    rintro (rfl | rfl) <;> obtain hc | hc := hc <;> cases hc
  have hnumeral : Numeral.read? (c :: s) = some (Numeral.ofInt i, []) := by
    rw [← hcons, ofInt, write]
    exact Numeral.read?_ofInt i
  have hread (offset : Nat) : readToken offset c s =
      .ok ⟨.value (.number (Numeral.ofInt i).toBinary64), (Numeral.ofInt i).source, []⟩ := by
    rw [readToken, readOperator?_of_numeral hc, if_neg hquote, if_pos hc, readNumber, hnumeral]
  rw [hcons]
  exact .token (isBlank_numeral hc) hread .done

theorem isTruthy_ofInt (i : Int) :
    (Scalar.number (Numeral.ofInt i).toBinary64).isTruthy = decide (i ≠ 0) := by
  simp [Scalar.isTruthy, Numeral.isZero_ofInt, Numeral.toBinary64_ne_nan]

/-- The text of such a value is read back as one scalar, and that has the truth of the value. -/
theorem Simple.reads {v : Json} (h : v.Simple) :
    ∃ a, Yields v.write [.value a] [] ∧ v.write.head? ≠ some '=' ∧
      (a.isTruthy = false ↔ v.Falsy) := by
  cases h with
  | null =>
    exact ⟨.null, .token (by decide) (fun _ => rfl) .done, by decide, iff_of_true rfl (.inl rfl)⟩
  | bool b =>
    refine ⟨.boolean b, ?_, ?_, by simp [Scalar.isTruthy, Falsy, ofInt]⟩
    · cases b <;> exact .token (by decide) (fun _ => rfl) .done
    · cases b <;> decide
  | str s =>
    have hwrite : (Json.str s).write = '"' :: (writtenBody s ++ []) := by
      rw [Json.write, writeString_eq, List.append_nil]
    rw [hwrite]
    refine ⟨.string s, .token (isBlank_quote rfl) (fun _ => readToken_written s []) .done, ?_, ?_⟩
    · rintro ⟨⟩
    · simp [Scalar.isTruthy, Falsy, ofInt]
  | int i =>
    refine ⟨_, yields_ofInt i, ?_, by simp [isTruthy_ofInt, Falsy, ofInt]⟩
    obtain ⟨c, s, hcons, hc⟩ := exists_cons_ofInt i
    rw [hcons]
    rintro ⟨⟩
    obtain hc | hc := hc <;> cases hc

end Json

namespace Rule

section Code
variable {ctx : Context} {opts : Options} {code : Text}

/-- A rule without quotes is one code segment. -/
theorem check_of_quoteless (hne : code ≠ []) (hquoteless : Quoteless code) :
    check ctx opts code = evaluate opts (resolveCode ctx opts code) := by
  have hsegments : segments code = .ok [.code code] :=
    segments_eq_ok_iff.mpr ⟨.code hne hquoteless, by simp [Segment.text]⟩
  have hresolve : resolve ctx opts [.code code] = resolveCode ctx opts code := by
    simp [resolve, Segment.resolve]
  rw [check_of_segments hne hsegments, hresolve]

variable {f : Family} {name : Text} {a : Scalar}

theorem check_placeholder (hne : code ≠ []) (hquoteless : Quoteless code)
    (hspans : spans code = [.placeholder f name])
    (h : Yields (f.value ctx opts name).write [.value a] []) :
    check ctx opts code = .ok a.isTruthy := by
  have hresolve : resolveCode ctx opts code = (f.value ctx opts name).write := by
    simp [resolveCode, hspans, Span.resolve]
  rw [check_of_quoteless hne hquoteless, hresolve, evaluate, evaluate_value h]
  rfl

theorem check_not_placeholder (hquoteless : Quoteless code)
    (hspans : spans ('!' :: code) = [.raw ['!'], .placeholder f name])
    (h : Yields (f.value ctx opts name).write [.value a] [])
    (hhead : (f.value ctx opts name).write.head? ≠ some '=') (hlimit : 1 ≤ opts.maxDepth) :
    check ctx opts ('!' :: code) = .ok !a.isTruthy := by
  have hresolve : resolveCode ctx opts ('!' :: code) = '!' :: (f.value ctx opts name).write := by
    simp [resolveCode, hspans, Span.resolve]
  rw [check_of_quoteless (List.cons_ne_nil _ _) (.cons (by decide) hquoteless), hresolve, evaluate,
    evaluate_not_value h hhead hlimit]
  rfl

end Code

section Alone
variable {name : Text}

theorem scan_alone {f : Family} (hne : name ≠ []) (hname : ∀ c ∈ name, f.inName c = true) :
    scan f (f.marker ++ name) = [.placeholder f name] := by
  have hname? : f.name? (f.marker ++ (name ++ [])) = some (name, []) :=
    Family.name?_append hne hname fun _ h => by cases h
  rw [List.append_nil] at hname?
  rw [scan_of_name? hname?, scan]

theorem hash_notMem_name {marker : Text} (hmarker : '#' ∉ marker)
    (hname : ∀ c ∈ name, isDottedNameChar c = true) : '#' ∉ marker ++ name := by
  have hnone : '#' ∉ marker ++ (name ++ []) := hash_notMem hname (fun _ h => by cases h) hmarker
  rwa [List.append_nil] at hnone

theorem spans_session_alone (hne : name ≠ []) (hname : ∀ c ∈ name, isDottedNameChar c = true) :
    spans ("session.".toList ++ name) = [.placeholder .session name] := by
  have hscan : scan .session ("session.".toList ++ name) = [.placeholder .session name] :=
    scan_alone hne hname
  rw [spans_of_dot (by simp) (hash_notMem_name (by decide) hname), hscan]
  rfl

theorem spans_not_session (hne : name ≠ []) (hname : ∀ c ∈ name, isDottedNameChar c = true) :
    spans ('!' :: ("session.".toList ++ name)) = [.raw ['!'], .placeholder .session name] := by
  have hnot : Family.session.name? ('!' :: ("session.".toList ++ name)) = none := rfl
  have hscan : scan .session ("session.".toList ++ name) = [.placeholder .session name] :=
    scan_alone hne hname
  have hraw : scan .slot ['!'] = [.raw ['!']] :=
    scan_of_notMem (f := .slot) (c := '.') (by decide) (by decide) (by decide)
  have hhash : '#' ∉ '!' :: ("session.".toList ++ name) := by
    rw [List.mem_cons, not_or]
    exact ⟨by decide, hash_notMem_name (by decide) hname⟩
  rw [spans_of_dot (by simp) hhash, scan_cons_of_none hnot, hscan]
  simp [Span.consRaw, refine, hraw]

theorem spans_slot_alone (hne : name ≠ []) (hname : ∀ c ∈ name, isNameChar c = true) :
    spans ("slot.".toList ++ name) = [.placeholder .slot name] := by
  have hdot : '.' ∉ name := fun h => absurd (hname _ h) (by decide)
  have hdotted : ∀ c ∈ name, isDottedNameChar c = true := fun c hc =>
    isDottedNameChar_of_isNameChar (hname c hc)
  have hscan : scan .slot ("slot.".toList ++ name) = [.placeholder .slot name] :=
    scan_alone hne hname
  rw [spans_of_dot (by simp) (hash_notMem_name (by decide) hdotted), scan_session_slot hdot hne,
    refine, List.flatMap_singleton]
  exact hscan

theorem spans_intent_alone (hne : name ≠ []) (hname : ∀ c ∈ name, isDottedNameChar c = true) :
    spans ('#' :: name) = [.placeholder .intent name] := by
  have htypes : requestTypes.contains ('#' :: name) = false := by
    have hhead : ∀ t ∈ requestTypes, t.head? ≠ some '#' := by decide
    rw [← Bool.not_eq_true, List.contains_iff_mem]
    exact fun h => hhead _ h rfl
  have hscan : scan .intent ('#' :: name) = [.placeholder .intent name] := scan_alone hne hname
  rw [spans, htypes, if_neg Bool.false_ne_true]
  simp [refine, hscan]

end Alone

/-- A placeholder alone is tested by the truth of its value, and by the opposite behind a negation. -/
theorem bare_placeholders (ctx : Context) (opts : Options) :
    (∀ p path, Path.parse p = .ok path → (∀ c ∈ p, isDottedNameChar c = true) →
      (ctx.sessionValue p opts.sessionDefault).Simple →
      ∃ b, check ctx opts ("session.".toList ++ p) = .ok b ∧
        (b = false ↔ (ctx.sessionValue p opts.sessionDefault).Falsy) ∧
        (1 ≤ opts.maxDepth → check ctx opts ("!session.".toList ++ p) = .ok !b)) ∧
    (∀ n, n ≠ [] → (∀ c ∈ n, isNameChar c = true) →
      ∃ b, check ctx opts ("slot.".toList ++ n) = .ok b ∧
        (b = true ↔ ∃ v, ctx.slot n = some v ∧ v ≠ [])) ∧
    ∀ name, name ≠ [] → (∀ c ∈ name, isDottedNameChar c = true) →
      ∃ b, check ctx opts ('#' :: name) = .ok b ∧ (b = true ↔ ctx.intent = some name) := by
  refine ⟨?_, ?_, ?_⟩
  · intro p path hpath hname hsimple
    have hne : p ≠ [] := by
      rintro rfl
      cases hpath
    have hvalue : Family.session.value ctx opts p = ctx.sessionValue p opts.sessionDefault := by
      rw [Family.value, sessionValue, hpath]
    have hquoteless : Quoteless ("session.".toList ++ p) := quoteless_placeholder (by decide) hname
    obtain ⟨a, hread, hhead, htruth⟩ := hsimple.reads
    rw [← hvalue] at hread hhead htruth
    refine ⟨a.isTruthy, ?_, by rw [htruth, hvalue], fun hlimit => ?_⟩
    · exact check_placeholder (by simp) hquoteless (spans_session_alone hne hname) hread
    · exact check_not_placeholder hquoteless (spans_not_session hne hname) hread hhead hlimit
  · intro n hne hname
    have hquoteless : Quoteless ("slot.".toList ++ n) :=
      quoteless_placeholder (by decide) fun c hc => isDottedNameChar_of_isNameChar (hname c hc)
    have hsimple : (Family.slot.value ctx opts n).Simple := by
      rw [Family.value]
      cases ctx.slot n with
      | none => exact .null
      | some v => exact .str v
    obtain ⟨a, hread, -, htruth⟩ := hsimple.reads
    refine ⟨a.isTruthy, ?_, ?_⟩
    · exact check_placeholder (by simp) hquoteless (spans_slot_alone hne hname) hread
    · rw [← Bool.not_eq_false, htruth, Family.value]
      cases ctx.slot n <;> simp [Json.Falsy, Json.ofInt]
  · intro name hne hname
    have hquoteless : Quoteless (['#'] ++ name) := quoteless_placeholder (by decide) hname
    have hsimple : (Family.intent.value ctx opts name).Simple := .bool _
    obtain ⟨a, hread, -, htruth⟩ := hsimple.reads
    refine ⟨a.isTruthy, ?_, ?_⟩
    · exact check_placeholder (List.cons_ne_nil _ _) hquoteless (spans_intent_alone hne hname) hread
    · rw [← Bool.not_eq_false, htruth, Family.value]
      simp [Json.Falsy, Json.ofInt]

section Visit

private def visit : Context where
  intent := some "A.b".toList
  requestType := []
  slot n := if n = ['x'] then some [] else none
  sessionValue p default := if p = "p.q".toList then .ofInt (-5) else default

/-- A number below zero, a value that is not there, a slot that is empty, and the intent. -/
theorem bare_placeholders_visit :
    check visit {} "session.p.q".toList = .ok true ∧
    check visit {} "!session.p.q".toList = .ok false ∧
    check visit {} "session.r".toList = .ok false ∧
    check visit {} "slot.x".toList = .ok false ∧
    check visit {} "#A.b".toList = .ok true := by
  obtain ⟨hsession, hslot, hintent⟩ := bare_placeholders visit {}
  have hpq : ∀ c ∈ "p.q".toList, isDottedNameChar c = true := List.all_eq_true.mp (by decide)
  have hr : ∀ c ∈ ['r'], isDottedNameChar c = true := List.all_eq_true.mp (by decide)
  have hx : ∀ c ∈ ['x'], isNameChar c = true := List.all_eq_true.mp (by decide)
  have hab : ∀ c ∈ "A.b".toList, isDottedNameChar c = true := List.all_eq_true.mp (by decide)
  have hpath : Path.parse "p.q".toList = .ok ⟨[['p'], ['q']], by decide, by decide⟩ := rfl
  have hpath' : Path.parse ['r'] = .ok ⟨[['r']], by decide, by decide⟩ := rfl
  obtain ⟨below, hbelow, hfalsy, hnot⟩ := hsession _ _ hpath hpq (.int (-5))
  obtain ⟨absent, habsent, hfalsy', -⟩ := hsession _ _ hpath' hr .null
  obtain ⟨empty, hslotEmpty, hpresent⟩ := hslot ['x'] (by decide) hx
  obtain ⟨same, hsame, hequal⟩ := hintent _ (by decide) hab
  have htrue : below = true := by
    rw [← Bool.not_eq_false, hfalsy]
    rintro (h | h | h | h) <;> cases h
  have hfalse : absent = false := hfalsy'.mpr (.inl rfl)
  have hempty : empty = false := by
    rw [← Bool.not_eq_true, hpresent]
    rintro ⟨v, hv, hne⟩
    cases hv
    exact hne rfl
  have hmatches : same = true := hequal.mpr rfl
  subst htrue hfalse hempty hmatches
  exact ⟨hbelow, hnot (by decide), habsent, hslotEmpty, hsame⟩

end Visit
end Rule
end TurnRouter
