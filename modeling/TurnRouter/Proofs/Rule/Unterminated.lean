import TurnRouter.Proofs.Outcome
import TurnRouter.Proofs.Rule.Canonical

/-! # Literals without an end

A rule fails to split at the quote of a literal that nothing closes. What stands before that quote
splits on its own, and whatever is written after the rule, the literal still opens there: its
segments begin with those, or the splitting fails there or further on.
-/
namespace TurnRouter.Rule

/-- The number of backslashes that a text ends with. -/
def backslashes (s : Text) : Nat := (s.reverse.takeWhile (· == '\\')).length

/-- A character after the text is protected: the backslashes in front of it come in pairs, but for
the last. -/
def Escaped (s : Text) : Prop := backslashes s % 2 = 1

instance (s : Text) : Decidable (Escaped s) := inferInstanceAs (Decidable (_ = _))

theorem backslashes_append (s t : Text) :
    backslashes t = t.length ∧ backslashes (s ++ t) = t.length + backslashes s ∨
      backslashes (s ++ t) = backslashes t := by
  unfold backslashes
  rw [List.reverse_append, List.takeWhile_append, List.length_reverse]
  split
  · next hall => exact .inl ⟨hall, by rw [List.length_append, List.length_reverse]⟩
  · exact .inr rfl

theorem escaped_cons {c : Char} (hc : c ≠ '\\') (s : Text) : Escaped (c :: s) ↔ Escaped s := by
  have hsingle : backslashes [c] = 0 := by simp [backslashes, hc]
  obtain ⟨hall, happend⟩ | happend := backslashes_append [c] s
  · rw [Escaped, Escaped, hall, ← List.singleton_append, happend, hsingle, Nat.add_zero]
  · rw [Escaped, Escaped, ← List.singleton_append, happend]

/-- A backslash and what it protects do not tell whether a later character is protected. -/
theorem escaped_guarded (c : Char) (s : Text) : Escaped ('\\' :: c :: s) ↔ Escaped s := by
  have hpair : backslashes ['\\', c] = 2 ∨ backslashes ['\\', c] = 0 := by
    by_cases hc : c = '\\' <;> simp [backslashes, hc]
  have hcons : '\\' :: c :: s = ['\\', c] ++ s := rfl
  obtain ⟨hall, happend⟩ | happend := backslashes_append ['\\', c] s
  · rw [Escaped, Escaped, hall, hcons, happend]
    omega
  · rw [Escaped, Escaped, hcons, happend]

/-- A literal has no end exactly if every copy of its quote is protected. -/
theorem closing?_eq_none_iff {quote : Char} (hq : quote ≠ '\\') {s : Text} :
    closing? quote s = none ↔ ∀ body rest, s = body ++ quote :: rest → Escaped body := by
  fun_induction closing? quote s with
  | case1 => simp
  | case2 s =>
    constructor
    · intro h
      cases h
    · intro h
      exact absurd (h [] s rfl) (by decide)
  | case3 =>
    refine ⟨fun _ body rest hs => ?_, fun _ => rfl⟩
    cases body with
    | nil => exact absurd (List.cons.inj hs).1.symm hq
    | cons c body => simp at hs
  | case4 e s hne ih =>
    rw [Option.map_eq_none_iff, ih]
    constructor
    · intro h body rest hs
      cases body with
      | nil => exact absurd (List.cons.inj hs).1.symm hq
      | cons c body =>
        obtain ⟨rfl, htail⟩ := List.cons.inj hs
        cases body with
        | nil => decide
        | cons c body => exact (escaped_guarded c body).mpr (h body rest (List.cons.inj htail).2)
    · intro h body rest hs
      exact (escaped_guarded e body).mp (h ('\\' :: e :: body) rest (by rw [hs]; rfl))
  | case5 c s hc hb ih =>
    rw [Option.map_eq_none_iff, ih]
    constructor
    · intro h body rest hs
      cases body with
      | nil => exact absurd (List.cons.inj hs).1 hc
      | cons d body =>
        obtain ⟨rfl, htail⟩ := List.cons.inj hs
        exact (escaped_cons hb body).mpr (h body rest htail)
    · intro h body rest hs
      exact (escaped_cons hb body).mp (h (c :: body) rest (by rw [hs]; rfl))

/-- What nothing closes is closed by its quote, or by two of them where a backslash stands last. -/
theorem closed_of_closing?_eq_none {quote : Char} {s : Text} (h : closing? quote s = none) :
    Closed quote (s ++ [quote]) ∨ Closed quote (s ++ [quote, quote]) := by
  fun_induction closing? quote s with
  | case1 => exact .inl .close
  | case2 => cases h
  | case3 => exact .inr (.guarded .close)
  | case4 e s hne ih => exact (ih (Option.map_eq_none_iff.mp h)).imp .guarded .guarded
  | case5 c s hc hb ih =>
    exact (ih (Option.map_eq_none_iff.mp h)).imp (.plain hc hb) (.plain hc hb)

theorem text_pair (s body : Text) (segs : List Segment) :
    (Segment.code s :: .literal body :: segs).flatMap Segment.text =
      s ++ (body ++ segs.flatMap Segment.text) := rfl

/-- The segments in front of a literal: the last is code, if only empty code. -/
def opened : List Segment → List Segment
  | [] => [.code []]
  | [.code s] => [.code s]
  | seg :: segs => seg :: opened segs

theorem text_opened (segs : List Segment) :
    (opened segs).flatMap Segment.text = segs.flatMap Segment.text := by
  fun_induction opened segs with
  | case1 => rfl
  | case2 => rfl
  | case3 seg segs _ ih => rw [List.flatMap_cons, ih, List.flatMap_cons]

section Quote
variable {quote : Char} (hq : isQuote quote = true) {s : Text} (hs : Quoteless s)
include hq hs

theorem codeOf_append_quote (t : Text) :
    codeOf (s ++ quote :: t) = s ∧ afterCode (s ++ quote :: t) = quote :: t := by
  obtain ⟨hcode, hafter⟩ := hs.codeOf_append (t := quote :: t)
  obtain ⟨hnone, hself⟩ := codeOf_quote hq t
  exact ⟨by rw [hcode, hnone, List.append_nil], by rw [hafter, hself]⟩

theorem segmentsFrom_unclosed {t : Text} (ht : closing? quote t = none) (offset : Nat) :
    segmentsFrom offset (s ++ quote :: t) = .error ⟨quote, offset + Text.width s⟩ := by
  obtain ⟨hcode, hafter⟩ := codeOf_append_quote hq hs t
  rw [segmentsFrom_open hafter ht, hcode]

theorem segmentsFrom_closed {body : Text} (hbody : Closed quote body) (rest : Text)
    (offset : Nat) :
    segmentsFrom offset (s ++ quote :: (body ++ rest)) =
      (segmentsFrom (offset + Text.width (s ++ quote :: body)) rest).map
        fun more => .code s :: .literal (quote :: body) :: more := by
  obtain ⟨hcode, hafter⟩ := codeOf_append_quote hq hs (body ++ rest)
  have hclose := hbody.closing? (ne_backslash_of_isQuote hq) rest
  rw [segmentsFrom_literal hafter hclose, hcode, Text.width_append, Text.width_cons,
    Nat.add_assoc, Nat.add_assoc]

end Quote

namespace Canonical
variable {segs : List Segment} (h : Canonical segs) {quote : Char} (hq : isQuote quote = true)
include h hq

theorem segmentsFrom_unclosed {t : Text} (ht : closing? quote t = none) (offset : Nat) :
    Rule.segmentsFrom offset (segs.flatMap Segment.text ++ quote :: t) =
      .error ⟨quote, offset + Text.width (segs.flatMap Segment.text)⟩ := by
  induction h generalizing offset with
  | nil => exact Rule.segmentsFrom_unclosed hq .nil ht offset
  | code _ hs =>
    rw [List.flatMap_singleton]
    exact Rule.segmentsFrom_unclosed hq hs ht offset
  | @pair s body q segs hs hq' hbody _ ih =>
    rw [text_pair, ← List.append_assoc, Text.width_append, ← Nat.add_assoc, List.append_assoc,
      List.append_assoc, List.cons_append, Rule.segmentsFrom_closed hq' hs hbody, ih, map_error]

/-- A closed literal after some segments takes its place among them. -/
theorem segmentsFrom_closed {body : Text} (hbody : Closed quote body) (rest : Text)
    (offset : Nat) :
    Rule.segmentsFrom offset (segs.flatMap Segment.text ++ quote :: (body ++ rest)) =
      (Rule.segmentsFrom (offset + Text.width (segs.flatMap Segment.text ++ quote :: body)) rest).map
        fun more => opened segs ++ .literal (quote :: body) :: more := by
  induction h generalizing offset with
  | nil => exact Rule.segmentsFrom_closed hq .nil hbody rest offset
  | code _ hs =>
    rw [List.flatMap_singleton]
    exact Rule.segmentsFrom_closed hq hs hbody rest offset
  | @pair s body' q segs hs hq' hbody' _ ih =>
    have hwidth : offset + Text.width (s ++ q :: body') +
        Text.width (segs.flatMap Segment.text ++ quote :: body) =
        offset + Text.width (s ++ (q :: body' ++ segs.flatMap Segment.text) ++ quote :: body) := by
      simp only [Text.width_append]
      omega
    rw [text_pair, List.append_assoc, List.append_assoc, List.cons_append,
      Rule.segmentsFrom_closed hq' hs hbody', ih, hwidth]
    cases Rule.segmentsFrom _ rest <;> rfl

end Canonical

theorem Quoteless.exists_canonical {s : Text} (h : Quoteless s) :
    ∃ segs, Canonical segs ∧ segs.flatMap Segment.text = s := by
  cases s with
  | nil => exact ⟨[], .nil, rfl⟩
  | cons c s => exact ⟨[.code (c :: s)], .code (List.cons_ne_nil c s) h, List.flatMap_singleton ..⟩

/-- A rule that does not split has segments up to a quote that opens a literal without an end. -/
theorem exists_of_segmentsFrom_eq_error {offset : Nat} {s : Text} {e : Unterminated}
    (h : segmentsFrom offset s = .error e) : ∃ segs after, Canonical segs ∧
      s = segs.flatMap Segment.text ++ e.quote :: after ∧
      e.offset = offset + Text.width (segs.flatMap Segment.text) ∧ isQuote e.quote = true ∧
      closing? e.quote after = none := by
  fun_induction segmentsFrom offset s with
  | case1 => cases h
  | case2 => cases h
  | case3 offset s hs quote t hcode start hclose =>
    cases h
    obtain ⟨segs, hcan, htext⟩ := (codeOf_quoteless s).exists_canonical
    refine ⟨segs, t, hcan, ?_, ?_, isQuote_of_afterCode hcode, hclose⟩
    · rw [htext, ← hcode, codeOf_append_afterCode]
    · rw [htext]
  | case4 offset s hs quote t hcode start body rest hclose =>
    rename_i ih
    obtain ⟨segs, after, hcan, hrest, hoffset, hq, hnone⟩ := ih (map_eq_error.mp h)
    have hpair : Canonical (.code (codeOf s) :: .literal (quote :: body) :: segs) :=
      .pair (codeOf_quoteless s) (isQuote_of_afterCode hcode) (closed_of_closing? hclose) hcan
    refine ⟨_, after, hpair, ?_, ?_, hq, hnone⟩
    · rw [text_pair, List.append_assoc, List.append_assoc, ← hrest, List.cons_append,
        ← append_of_closing? hclose, ← hcode, codeOf_append_afterCode]
    · rw [hoffset, text_pair, Text.width_append, Text.width_append, Text.width_cons]
      omega

theorem le_of_segmentsFrom_eq_error {offset : Nat} {s : Text} {e : Unterminated}
    (h : segmentsFrom offset s = .error e) : offset ≤ e.offset := by
  obtain ⟨segs, after, -, -, hoffset, -⟩ := exists_of_segmentsFrom_eq_error h
  omega

/-- The rule splits up to a quote that opens a literal, and no copy of that quote behind it is
unprotected. -/
structure LeavesOpen (rule : Text) (e : Unterminated) (before : Text) (segs : List Segment)
    (after : Text) : Prop where
  split : rule = before ++ e.quote :: after
  offset : e.offset = Text.width before
  accepted : segments before = .ok segs
  isQuote : isQuote e.quote = true
  unclosed : ∀ body rest, after = body ++ e.quote :: rest → Escaped body

namespace LeavesOpen
variable {rule before after : Text} {e : Unterminated} {segs : List Segment}

theorem closing?_eq_none (h : LeavesOpen rule e before segs after) :
    closing? e.quote after = none :=
  (closing?_eq_none_iff (ne_backslash_of_isQuote h.isQuote)).mpr h.unclosed

theorem segments_eq (h : LeavesOpen rule e before segs after) : segments rule = .error e := by
  obtain ⟨hcan, htext⟩ := segments_eq_ok_iff.mp h.accepted
  rw [h.split, ← htext, segments, hcan.segmentsFrom_unclosed h.isQuote h.closing?_eq_none,
    Nat.zero_add, htext, ← h.offset]

/-- With more text after the rule the literal has an end, or still none. -/
theorem segments_append (h : LeavesOpen rule e before segs after) (more : Text) :
    segments (rule ++ more) = .error e ∨ ∃ body rest,
      segments (rule ++ more) = (segmentsFrom (e.offset + Text.width (e.quote :: body)) rest).map
        fun later => opened segs ++ .literal (e.quote :: body) :: later := by
  obtain ⟨hcan, htext⟩ := segments_eq_ok_iff.mp h.accepted
  have hrule : rule ++ more = segs.flatMap Segment.text ++ e.quote :: (after ++ more) := by
    rw [h.split, htext, List.append_assoc, List.cons_append]
  cases hclose : closing? e.quote (after ++ more) with
  | none =>
    left
    rw [hrule, segments, hcan.segmentsFrom_unclosed h.isQuote hclose, Nat.zero_add, htext,
      ← h.offset]
  | some closed =>
    right
    obtain ⟨body, rest⟩ := closed
    refine ⟨body, rest, ?_⟩
    rw [hrule, append_of_closing? hclose, segments,
      hcan.segmentsFrom_closed h.isQuote (closed_of_closing? hclose), Nat.zero_add, htext,
      Text.width_append, ← h.offset]

theorem accepts_append (h : LeavesOpen rule e before segs after) :
    (∃ segs', segments (rule ++ [e.quote]) = .ok segs') ∨
      ∃ segs', segments (rule ++ [e.quote, e.quote]) = .ok segs' := by
  obtain ⟨hcan, htext⟩ := segments_eq_ok_iff.mp h.accepted
  have haccepts : ∀ more, Closed e.quote (after ++ more) →
      ∃ segs', segments (rule ++ more) = .ok segs' := by
    intro more hmore
    have hrule : rule ++ more = segs.flatMap Segment.text ++ e.quote :: (after ++ more ++ []) := by
      rw [h.split, htext, List.append_nil, List.append_assoc, List.cons_append]
    rw [hrule, segments, hcan.segmentsFrom_closed h.isQuote hmore, segmentsFrom_nil]
    exact ⟨_, rfl⟩
  exact (closed_of_closing?_eq_none h.closing?_eq_none).imp (haccepts _) (haccepts _)

end LeavesOpen

/-- Splitting fails exactly at a quote whose literal is left open. More text then moves the failure
on or gives a literal there, and the quote once or twice is enough. -/
theorem unterminated_located (rule : Text) (e : Unterminated) :
    (segments rule = .error e ↔ ∃ before segs after, LeavesOpen rule e before segs after) ∧
    ∀ before segs after, LeavesOpen rule e before segs after →
      Canonical segs ∧ Text.width ((opened segs).flatMap Segment.text) = e.offset ∧
      (∀ more,
        (∀ e', segments (rule ++ more) = .error e' →
          e.offset ≤ e'.offset ∧ (e'.offset = e.offset → e'.quote = e.quote)) ∧
        ∀ segs', segments (rule ++ more) = .ok segs' →
          ∃ body later, segs' = opened segs ++ .literal (e.quote :: body) :: later) ∧
      ((∃ segs', segments (rule ++ [e.quote]) = .ok segs') ∨
        ∃ segs', segments (rule ++ [e.quote, e.quote]) = .ok segs') := by
  constructor
  · constructor
    · intro h
      obtain ⟨segs, after, hcan, hsplit, hoffset, hq, hnone⟩ := exists_of_segmentsFrom_eq_error h
      rw [Nat.zero_add] at hoffset
      exact ⟨_, segs, after, hsplit, hoffset, segments_eq_ok_iff.mpr ⟨hcan, rfl⟩, hq,
        (closing?_eq_none_iff (ne_backslash_of_isQuote hq)).mp hnone⟩
    · rintro ⟨before, segs, after, h⟩
      exact h.segments_eq
  · intro before segs after h
    obtain ⟨hcan, htext⟩ := segments_eq_ok_iff.mp h.accepted
    refine ⟨hcan, by rw [text_opened, htext, h.offset], fun more => ?_, h.accepts_append⟩
    obtain hopen | ⟨body, rest, hclosed⟩ := h.segments_append more
    · constructor
      · intro e' he'
        cases hopen.symm.trans he'
        exact ⟨Nat.le_refl _, fun _ => rfl⟩
      · intro segs' hsegs'
        cases hopen.symm.trans hsegs'
    · constructor
      · intro e' he'
        have hle := le_of_segmentsFrom_eq_error (map_eq_error.mp (hclosed.symm.trans he'))
        have hpos : 0 < Text.width (e.quote :: body) := Text.width_pos (List.cons_ne_nil _ _)
        exact ⟨by omega, by omega⟩
      · intro segs' hsegs'
        obtain ⟨later, -, hlater⟩ := map_eq_ok.mp (hclosed.symm.trans hsegs')
        exact ⟨body, later, hlater.symm⟩

section Unclosed

/-- A literal is closed; the one right behind it ends in a protected quote. -/
private def unclosedRule : Text := "'é'\"b\\\"".toList
private def firstLiteral : Text := "'é'".toList

private theorem leavesOpen_unclosedRule :
    LeavesOpen unclosedRule ⟨'"', 4⟩ firstLiteral [.code [], .literal firstLiteral]
      ['b', '\\', '"'] where
  split := rfl
  offset := rfl
  accepted := segments_eq_ok_iff.mpr
    ⟨.pair .nil rfl (.plain (by decide) (by decide) .close) .nil, rfl⟩
  isQuote := rfl
  unclosed := (closing?_eq_none_iff (by decide)).mp rfl

theorem unterminated_located_protected : segments unclosedRule = .error ⟨'"', 4⟩ ∧
    (∃ body later, segments (unclosedRule ++ "\"=='c'".toList) =
      .ok ([.code [], .literal firstLiteral, .code []] ++ .literal ('"' :: body) :: later)) ∧
    ((∃ segs, segments (unclosedRule ++ ['"']) = .ok segs) ∨
      ∃ segs, segments (unclosedRule ++ ['"', '"']) = .ok segs) := by
  obtain ⟨hiff, hopen⟩ := unterminated_located unclosedRule ⟨'"', 4⟩
  obtain ⟨-, -, hmore, haccepts⟩ := hopen _ _ _ leavesOpen_unclosedRule
  refine ⟨hiff.mpr ⟨_, _, _, leavesOpen_unclosedRule⟩, ?_, haccepts⟩
  have hclosed : segments (unclosedRule ++ "\"=='c'".toList) = .ok [.code [], .literal firstLiteral,
      .code [], .literal "\"b\\\"\"".toList, .code "==".toList, .literal "'c'".toList] := by
    refine segments_eq_ok_iff.mpr ⟨?_, rfl⟩
    refine .pair .nil rfl (.plain (by decide) (by decide) .close) ?_
    refine .pair .nil rfl (.plain (by decide) (by decide) (.guarded .close)) ?_
    exact .pair (by decide) rfl (.plain (by decide) (by decide) .close) .nil
  obtain ⟨body, later, hlater⟩ := (hmore _).2 _ hclosed
  exact ⟨body, later, by rw [hclosed, hlater]; rfl⟩

end Unclosed

end TurnRouter.Rule
