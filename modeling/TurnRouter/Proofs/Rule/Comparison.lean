import TurnRouter.Proofs.Condition.Comparing
import TurnRouter.Proofs.Rule.Pieces
import TurnRouter.Proofs.Rule.Quoting
import TurnRouter.Proofs.Rule.Spans
import TurnRouter.Rule.Check

/-! # Comparing a placeholder with a text

The value of a placeholder and the literal of a rule are written in different ways, and the lexer
reads both as the texts they stand for. So a rule that compares the two says what it seems to say.
-/
namespace TurnRouter.Rule
open Condition

/-- An operator with what stands before and after it. -/
def between (before : Text) (op : Comparison) (after : Text) : Text :=
  before ++ op.symbol ++ after

def comparing (placeholder before : Text) (op : Comparison) (after : Text) (quote : Char)
    (w : Text) : Text :=
  placeholder ++ between before op after ++ quoted quote w

/-- The lexer reads the text as one value, if no word goes on after it. -/
def ReadsAs (s : Text) (a : Scalar) : Prop :=
  ∀ (offset : Nat) (t : Text), (∀ c ∈ t.head?, isWordChar c = false) →
    Scan offset (s ++ t) [⟨.value a, s, offset⟩] (offset + Text.width s) t

theorem readsAs_string (v : Text) : ReadsAs (Json.writeString v) (.string v) :=
  fun _ t _ => .token (isBlank_quote rfl) (readToken_written v t) .done

theorem readsAs_null : ReadsAs "null".toList .null := by
  intro offset t ht
  obtain ⟨htake, hdrop⟩ := takeWhile_append_of_head (s := "null".toList) ht
  have hread : readWord offset ("null".toList ++ t) = .ok ⟨.value .null, "null".toList, t⟩ := by
    rw [readWord, htake, hdrop]
    rfl
  have htoken : readToken offset 'n' ("ull".toList ++ t) = .ok ⟨.value .null, "null".toList, t⟩ := hread
  exact .token (by decide) htoken .done

theorem isWordChar_of_mem {c : Char} (hc : c ∈ separators) : isWordChar c = false := by
  obtain hblank | hop := List.mem_append.mp hc
  · exact (Bool.or_eq_false_iff.mp (not_continues_of_mem hblank)).1
  · have hall : (['=', '!', '<', '>'].all fun c => !isWordChar c) = true := by decide
    exact Bool.not_eq_true' _ |>.mp (List.all_eq_true.mp hall c hop)

theorem quoteless_placeholder {marker name : Text} (hmarker : Quoteless marker)
    (hname : ∀ c ∈ name, isDottedNameChar c = true) : Quoteless (marker ++ name) :=
  hmarker.append fun c hc => isQuote_of_isDottedNameChar (hname c hc)

theorem between_ne_nil (before : Text) (op : Comparison) (after : Text) :
    between before op after ≠ [] := by
  cases op <;> simp [between, Comparison.symbol]

section Between
variable {before after : Text} (op : Comparison) (hbefore : ∀ c ∈ before, isBlank c = true)
  (hafter : ∀ c ∈ after, isBlank c = true)
include hbefore hafter

theorem gap_between : Gap (between before op after) := by
  have hsymbol : Gap op.symbol := by
    have hall : op.symbol.all (['=', '!', '<', '>'].contains ·) = true := by cases op <;> decide
    intro c hc
    exact List.mem_append_right _ (List.contains_iff_mem.mp (List.all_eq_true.mp hall c hc))
  exact (Gap.append (.blanks hbefore) hsymbol).append (.blanks hafter)

variable {quote : Char} (hq : isQuote quote = true) (w : Text)
include hq

theorem segments_comparing {placeholder : Text} (hp : Quoteless placeholder) :
    segments (comparing placeholder before op after quote w) =
      .ok [.code (placeholder ++ between before op after), .literal (quoted quote w)] := by
  have hgap : Quoteless (between before op after) := fun c hc =>
    isQuote_of_mem (gap_between op hbefore hafter c hc)
  refine segments_eq_ok_iff.mpr ⟨.pair (hp.append hgap) hq (closed_quotedBody w) .nil, ?_⟩
  simp [comparing, Segment.text]

/-- The three lexemes of a comparison whose left side is written as `left`. -/
theorem evaluate_comparing {left : Text} {a : Scalar} (limit : Nat) (hleft : ReadsAs left a) :
    Condition.evaluate limit (left ++ (between before op after ++ quoted quote w)) =
      match op.outcome? a (.string w) with
      | some answer => .ok answer
      | none => .error (.typeMismatch op a.kind .string) := by
  have hstop : ∀ c ∈ (between before op after ++ quoted quote w).head?,
      isWordChar c = false := by
    obtain ⟨d, rest, hsplit⟩ := List.exists_cons_of_ne_nil (between_ne_nil before op after)
    have hgap := gap_between op hbefore hafter
    rw [hsplit] at hgap ⊢
    rintro c ⟨⟩
    exact isWordChar_of_mem (hgap d List.mem_cons_self)
  have hliteral (offset : Nat) : Scan offset (quoted quote w)
      [⟨.value (.string w), quoted quote w, offset⟩]
      (offset + Text.width (quoted quote w)) [] := by
    have hread : readToken offset quote (quotedBody quote w ++ []) =
        .ok ⟨.value (.string w), quoted quote w, []⟩ := readToken_quotedBody hq w []
    rw [List.append_nil] at hread
    exact .token (isBlank_quote hq) hread .done
  have hscan := (hleft 0 _ hstop).append
    ((scan_between op hbefore hafter (fresh_quote hq)).append (hliteral _))
  have hlex := hscan.lexFrom_eq
  rw [lexFrom_nil, map_ok, List.append_nil] at hlex
  exact evaluate_comparison limit hlex rfl rfl rfl

variable (ctx : Context) (opts : Options) {placeholder name : Text} {f : Family}

theorem check_comparing {a : Scalar} (hp : Quoteless placeholder)
    (hspans : spans (placeholder ++ between before op after) =
      [.placeholder f name, .raw (between before op after)])
    (hvalue : ReadsAs (f.value ctx opts name).write a) :
    check ctx opts (comparing placeholder before op after quote w) =
      match op.outcome? a (.string w) with
      | some answer => .ok answer
      | none => .error (.condition (.typeMismatch op a.kind .string)) := by
  have hne : comparing placeholder before op after quote w ≠ [] := by simp [comparing, quoted]
  have hresolve : resolve ctx opts
      [.code (placeholder ++ between before op after), .literal (quoted quote w)] =
      (f.value ctx opts name).write ++ (between before op after ++ quoted quote w) := by
    simp [resolve, Segment.resolve, resolveCode, hspans, Span.resolve]
  rw [check_of_segments hne (segments_comparing op hbefore hafter hq w hp), hresolve, evaluate,
    evaluate_comparing op hbefore hafter hq w opts.maxDepth hvalue]
  cases op.outcome? a (.string w) <;> rfl

theorem check_comparing_string {v : Text} (hp : Quoteless placeholder)
    (hspans : spans (placeholder ++ between before op after) =
      [.placeholder f name, .raw (between before op after)])
    (hvalue : f.value ctx opts name = .str v) :
    check ctx opts (comparing placeholder before op after quote w) =
      .ok (decide (op.relation v w)) := by
  have hread : ReadsAs (f.value ctx opts name).write (.string v) := by
    rw [hvalue]
    exact readsAs_string v
  rw [check_comparing op hbefore hafter hq w ctx opts hp hspans hread, op.outcome?_strings]

end Between

/-- A rule that compares a slot or a session value with a literal compares the texts. -/
theorem comparing_means (ctx : Context) (opts : Options) (op : Comparison) (quote : Char)
    (w before after : Text) (hq : isQuote quote = true)
    (hbefore : ∀ c ∈ before, isBlank c = true) (hafter : ∀ c ∈ after, isBlank c = true) :
    (∀ n : Text, n ≠ [] → (∀ c ∈ n, isNameChar c = true) →
      (∀ v, ctx.slot n = some v →
        check ctx opts (comparing ("slot.".toList ++ n) before op after quote w) =
          .ok (decide (op.relation v w))) ∧
      (ctx.slot n = none →
        check ctx opts (comparing ("slot.".toList ++ n) before op after quote w) =
          match op with
          | .eq => .ok false
          | .ne => .ok true
          | op => .error (.condition (.typeMismatch op .null .string)))) ∧
    ∀ (p : Text) (path : Path) (v : Text), Path.parse p = .ok path →
      (∀ c ∈ p, isDottedNameChar c = true) → ctx.sessionValue p opts.sessionDefault = .str v →
      check ctx opts (comparing ("session.".toList ++ p) before op after quote w) =
        .ok (decide (op.relation v w)) := by
  have hgap := gap_between op hbefore hafter
  have hgapne := between_ne_nil before op after
  constructor
  · intro n hne hname
    have hspans := spans_slot hne hname hgap hgapne
    have hquoteless : Quoteless ("slot.".toList ++ n) :=
      quoteless_placeholder (by decide) fun c hc => isDottedNameChar_of_isNameChar (hname c hc)
    rw [← List.append_assoc] at hspans
    constructor
    · intro v hv
      have hvalue : Family.slot.value ctx opts n = .str v := by simp [Family.value, hv]
      exact check_comparing_string op hbefore hafter hq w ctx opts hquoteless hspans hvalue
    · intro hnone
      have hnull : ReadsAs (Family.slot.value ctx opts n).write .null := by
        have hvalue : Family.slot.value ctx opts n = .null := by simp [Family.value, hnone]
        rw [hvalue]
        exact readsAs_null
      rw [check_comparing op hbefore hafter hq w ctx opts hquoteless hspans hnull]
      cases op <;> rfl
  · intro p path v hpath hname hv
    have hne : p ≠ [] := by
      rintro rfl
      cases hpath
    have hspans := spans_session hname hgap hne hgapne
    have hquoteless : Quoteless ("session.".toList ++ p) :=
      quoteless_placeholder (by decide) hname
    have hvalue : Family.session.value ctx opts p = .str v := by
      simp [Family.value, sessionValue, hpath, hv]
    rw [← List.append_assoc] at hspans
    exact check_comparing_string op hbefore hafter hq w ctx opts hquoteless hspans hvalue

section Hostile

/-- Both kinds of quote, and a backslash between them. -/
private def hostileText : Text := "\"\\'".toList

private def hostile : Context where
  intent := none
  requestType := []
  slot n := if n = ['a'] then some hostileText else none
  sessionValue _ _ := .str hostileText

theorem comparing_means_hostile :
    check hostile {} "slot.a == '\"\\\\\\''".toList = .ok true ∧
    check hostile {} "slot.b < '\"\\\\\\''".toList =
      .error (.condition (.typeMismatch .lt .null .string)) ∧
    check hostile {} "session.p.q!=\"\\\"\\\\'\"".toList = .ok false := by
  have hblank : ∀ c ∈ [' '], isBlank c = true := List.all_eq_true.mp (by decide)
  have hnone : ∀ c ∈ ([] : Text), isBlank c = true := List.all_eq_true.mp rfl
  have ha : ∀ c ∈ ['a'], isNameChar c = true := List.all_eq_true.mp (by decide)
  have hb : ∀ c ∈ ['b'], isNameChar c = true := List.all_eq_true.mp (by decide)
  have hpq : ∀ c ∈ "p.q".toList, isDottedNameChar c = true := List.all_eq_true.mp (by decide)
  have hpath : Path.parse "p.q".toList = .ok ⟨[['p'], ['q']], by decide, by decide⟩ := rfl
  obtain ⟨hequal, -⟩ := comparing_means hostile {} .eq '\'' hostileText [' '] [' '] rfl hblank hblank
  obtain ⟨hless, -⟩ := comparing_means hostile {} .lt '\'' hostileText [' '] [' '] rfl hblank hblank
  obtain ⟨-, hsession⟩ := comparing_means hostile {} .ne '"' hostileText [] [] rfl hnone hnone
  refine ⟨?_, ?_, ?_⟩
  · exact (hequal ['a'] (List.cons_ne_nil _ _) ha).1 hostileText rfl
  · exact (hless ['b'] (List.cons_ne_nil _ _) hb).2 rfl
  · exact hsession "p.q".toList _ hostileText hpath hpq rfl

end Hostile
end TurnRouter.Rule
