import TurnRouter.Proofs.Condition.CodePoints
import TurnRouter.Proofs.Condition.Derivation
import TurnRouter.Proofs.Condition.Scan
import TurnRouter.Proofs.Condition.StringReading

/-! # Lexing in front of more text

A text that can be lexed gives the same tokens wherever it stands, strings included, if no token can
go on into what follows. A text that cannot be lexed stays so in front of a text without quotes.
-/
namespace TurnRouter

theorem Reading.after_after {ε : Type} (value source value' source' : Text)
    (x : Except ε (Reading Text)) :
    after value source (after value' source' x) = after (value ++ value') (source ++ source') x := by
  cases x with
  | error e => rfl
  | ok r => simp only [after, List.append_assoc]

theorem Reading.source_of_after {ε : Type} {value source : Text} {x : Except ε (Reading Text)}
    {r : Reading Text} (h : after value source x = .ok r) :
    ∃ r', x = .ok r' ∧ r.source = source ++ r'.source := by
  cases x with
  | error e => cases h
  | ok r' =>
    cases h
    exact ⟨r', rfl, rfl⟩

theorem Reading.error_of_after {ε : Type} {value source : Text} {x : Except ε (Reading Text)} {e : ε}
    (h : after value source x = .error e) : x = .error e := by
  cases x with
  | error e' =>
    cases h
    rfl
  | ok r => cases h

namespace Rule.Closed
variable {quote : Char} {s t : Text}

theorem getLast? (h : Closed quote s) : s.getLast? = some quote := by
  induction h with
  | close => rfl
  | plain _ _ _ ih => rw [List.getLast?_cons, ih]; rfl
  | guarded _ ih => rw [List.getLast?_cons, List.getLast?_cons, ih]; rfl

/-- A literal that ends in a text with more after it ends in the text itself, if there is no quote
in what comes after. -/
theorem of_append {rest : Text} (hq : isQuote quote = true) (h : Closed quote s)
    (ht : Quoteless t) {whole : Text} (hsplit : whole ++ t = s ++ rest) :
    ∃ more, whole = s ++ more := by
  obtain ⟨beyond, hs, hbeyond⟩ | ⟨more, hwhole, -⟩ := List.append_eq_append_iff.mp hsplit
  · cases beyond with
    | nil => exact ⟨[], by rw [hs, List.append_nil, List.append_nil]⟩
    | cons c beyond =>
      have hlast := h.getLast?
      rw [hs, List.getLast?_append, List.getLast?_cons, Option.some_or] at hlast
      have hmem : quote ∈ c :: beyond :=
        List.mem_of_getLast? (by rw [List.getLast?_cons]; exact hlast)
      have hnot := ht quote (by rw [hbeyond]; exact List.mem_append_left _ hmem)
      rw [hq] at hnot
      cases hnot
  · exact ⟨more, hwhole⟩

/-- Characters that end nothing. -/
theorem append_plain {group : Text} (hgroup : ∀ c ∈ group, c ≠ quote ∧ c ≠ '\\')
    (h : Closed quote s) : Closed quote (group ++ s) := by
  induction group with
  | nil => exact h
  | cons c group ih =>
    obtain ⟨hquote, hslash⟩ := hgroup c List.mem_cons_self
    exact .plain hquote hslash (ih fun d hd => hgroup d (List.mem_cons_of_mem c hd))

end Rule.Closed

namespace Condition

section Strings
variable {quote : Char} (hq : Rule.isQuote quote = true)
include hq

theorem ne_of_mem_unitGroup {s : Text} {n : Nat} (h : UnitGroup s n) :
    ∀ c ∈ s, c ≠ quote ∧ c ≠ '\\' := by
  have hunit := codeUnit?_eq_some_iff.mpr h
  refine fun c hc => ⟨?_, ?_⟩
  · rintro rfl
    cases (codeUnit?_eq_none hq (.inl rfl) hc).symm.trans hunit
  · rintro rfl
    cases (codeUnit?_eq_none hq (.inr rfl) hc).symm.trans hunit

theorem closed_codePoint {e t : Text} {c : Char} (h : CodePoint UnitGroup e c)
    (ht : Rule.Closed quote t) : Rule.Closed quote (e ++ t) := by
  cases h with
  | unit hunit _ _ => exact .append_plain (ne_of_mem_unitGroup hq hunit) ht
  | pair hunit _ hunit' _ =>
    rw [List.append_assoc]
    refine .append_plain (ne_of_mem_unitGroup hq hunit) (.guarded ?_)
    exact .append_plain (ne_of_mem_unitGroup hq hunit') ht

theorem closed_of_readBody {start : Nat} {s : Text} {r : Reading Text}
    (h : readBody start quote s = .ok r) : Rule.Closed quote r.source := by
  fun_induction readBody start quote s generalizing r with
  | case1 => cases h
  | case2 => cases h; exact .close
  | case3 => cases h
  | case4 => cases h
  | case5 s x hr hle hc ih =>
    obtain ⟨r', hr', hsource⟩ := Reading.source_of_after h
    rw [hsource]
    exact .guarded (closed_codePoint hq (readCodePoint_eq_ok_iff.mp hr).2 (ih hr'))
  | case6 e s he hc ih =>
    obtain ⟨r', hr', hsource⟩ := Reading.source_of_after h
    rw [hsource]
    exact .guarded (ih hr')
  | case7 c s hc hb ih =>
    obtain ⟨r', hr', hsource⟩ := Reading.source_of_after h
    rw [hsource]
    exact .plain hc hb (ih hr')

/-- A string is settled by its source. -/
theorem readBody_source {start : Nat} {s : Text} {r : Reading Text}
    (h : readBody start quote s = .ok r) (start' : Nat) (rest : Text) :
    readBody start' quote (r.source ++ rest) = .ok ⟨r.value, r.source, rest⟩ := by
  have hsplit := splits_of_readBody h
  obtain ⟨v, hv⟩ | hbad := settled_of_closed hq r.source (closed_of_readBody hq h)
  · have hread := hv start r.rest
    rw [← hsplit, h] at hread
    have hvalue : r.value = v := congrArg Reading.value (Except.ok.inj hread)
    rw [hv start' rest, hvalue]
  · obtain ⟨e, he, -⟩ := hbad start r.rest
    rw [← hsplit, h] at he
    cases he

end Strings

section Tokens
variable {start : Nat} {c : Char} {s t : Text} {r : Reading Token}

/-- The place of a token matters for its errors only. -/
theorem readToken_anywhere (hc : Rule.isQuote c = false) (h : readToken start c s = .ok r)
    (start' : Nat) : readToken start' c s = .ok r := by
  have hcq := Rule.isQuote_eq_false_iff.mp hc
  simp only [readToken, if_neg hcq] at h ⊢
  cases hoperator : readOperator? (c :: s) with
  | some r' =>
    rw [hoperator] at h
    exact h
  | none =>
    rw [hoperator] at h
    by_cases hnumber : c = '-' ∨ c.isDigit = true
    · simp only [if_pos hnumber, readNumber] at h ⊢
      cases hread : Numeral.read? (c :: s) with
      | some x => rw [hread] at h; exact h
      | none => rw [hread] at h; cases h
    · by_cases hword : startsWord c = true
      · simp only [if_neg hnumber, if_pos hword, readWord] at h ⊢
        cases hkey : keyword? ((c :: s).takeWhile isWordChar) with
        | some v => rw [hkey] at h; exact h
        | none => rw [hkey] at h; cases h
      · simp only [if_neg hnumber, if_neg hword] at h
        cases h

theorem readToken_eq_ok_quote (hq : Rule.isQuote c = true) (h : readToken start c s = .ok r) :
    ∃ body, readBody start c s = .ok body ∧
      r = ⟨.value (.string body.value), c :: body.source, body.rest⟩ := by
  rw [readToken_quote hq] at h
  unfold readString at h
  split at h
  · next body hbody => exact ⟨body, hbody, (Except.ok.inj h).symm⟩
  · cases h

theorem readToken_extend (ht : Fresh t) (h : readToken start c s = .ok r) (start' : Nat) :
    readToken start' c (s ++ t) = .ok { r with rest := r.rest ++ t } := by
  cases hq : Rule.isQuote c with
  | true =>
    obtain ⟨body, hbody, rfl⟩ := readToken_eq_ok_quote hq h
    have hread := readBody_source hq hbody start' (body.rest ++ t)
    rw [← List.append_assoc, ← splits_of_readBody hbody] at hread
    rw [readToken_quote hq, readString, hread]
  | false =>
    have hcq := Rule.isQuote_eq_false_iff.mp hq
    rw [readToken_append ht hcq, readToken_anywhere hq h start', map_ok]

theorem readToken_of_extend (ht : Fresh t) (hplain : Rule.Quoteless t)
    (h : readToken start c (s ++ t) = .ok r) (start' : Nat) :
    ∃ r', readToken start' c s = .ok r' := by
  cases hq : Rule.isQuote c with
  | true =>
    obtain ⟨body, hbody, -⟩ := readToken_eq_ok_quote hq h
    have hclosed := closed_of_readBody hq hbody
    obtain ⟨more, rfl⟩ := hclosed.of_append hq hplain (splits_of_readBody hbody)
    rw [readToken_quote hq, readString, readBody_source hq hbody start' more]
    exact ⟨_, rfl⟩
  | false =>
    have hcq := Rule.isQuote_eq_false_iff.mp hq
    rw [readToken_append ht hcq] at h
    obtain ⟨r', hr', -⟩ := map_eq_ok.mp h
    exact ⟨r', readToken_anywhere hq hr' start'⟩

end Tokens

/-- Wherever it stands, these tokens are read from a text until the rest `t` is left. -/
def Yields (s : Text) (tokens : List Token) (t : Text) : Prop :=
  ∀ offset, ∃ ls stop, Scan offset s ls stop t ∧ kinds ls = tokens

namespace Yields
variable {s t u : Text} {tokens more : List Token}

theorem done : Yields s [] s := fun offset => ⟨[], offset, .done, rfl⟩

theorem trans (h : Yields s tokens t) (h' : Yields t more u) : Yields s (tokens ++ more) u := by
  intro offset
  obtain ⟨ls, stop, hscan, hls⟩ := h offset
  obtain ⟨ls', stop', hscan', hls'⟩ := h' stop
  exact ⟨ls ++ ls', stop', hscan.append hscan', by rw [kinds_append, hls, hls']⟩

theorem blank {c : Char} (hc : isBlank c = true) (h : Yields s tokens t) :
    Yields (c :: s) tokens t := by
  intro offset
  obtain ⟨ls, stop, hscan, hls⟩ := h (offset + c.utf8Size)
  exact ⟨ls, stop, .blank hc hscan, hls⟩

theorem token {c : Char} {token : Token} {source : Text} (hc : isBlank c = false)
    (hread : ∀ offset, readToken offset c s = .ok ⟨token, source, t⟩) (h : Yields t tokens u) :
    Yields (c :: s) (token :: tokens) u := by
  intro offset
  obtain ⟨ls, stop, hscan, hls⟩ := h (offset + Text.width source)
  exact ⟨_, stop, .token hc (hread offset) hscan, by rw [kinds_cons, hls]⟩

theorem lex_eq (h : Yields s tokens []) : ∃ ls, lex s = .ok ls ∧ kinds ls = tokens := by
  obtain ⟨ls, stop, hscan, hls⟩ := h 0
  refine ⟨ls, ?_, hls⟩
  rw [lex, hscan.lexFrom_eq, lexFrom_nil, map_ok, List.append_nil]

/-- What is left decides whether the text can be lexed. -/
theorem lex_error (h : Yields s tokens t) (ht : ∀ offset, ∃ e, lexFrom offset t = .error e) :
    ∃ e, lex s = .error e := by
  obtain ⟨ls, stop, hscan, -⟩ := h 0
  obtain ⟨e, he⟩ := ht stop
  exact ⟨e, by rw [lex, hscan.lexFrom_eq, he, map_error]⟩

end Yields

theorem Scan.yields {offset stop : Nat} {s s' t : Text} {ls : List Lexeme}
    (h : Scan offset s ls stop s') (ht : Fresh t) : Yields (s ++ t) (kinds ls) (s' ++ t) := by
  induction h with
  | done => exact .done
  | blank hc _ ih => exact .blank hc ih
  | token hc hr _ ih => exact .token hc (readToken_extend ht hr) ih

/-- A text that can be lexed yields its tokens in front of any fresh text. -/
theorem yields_of_lex {s t : Text} {ls : List Lexeme} (h : lex s = .ok ls) (ht : Fresh t) :
    Yields (s ++ t) (kinds ls) t := (lexFrom_eq_ok_iff.mp h).yields ht

theorem lexFrom_of_extend {t : Text} (ht : Fresh t) (hplain : Rule.Quoteless t)
    {offset : Nat} {s : Text} {ls : List Lexeme} (h : lexFrom offset (s ++ t) = .ok ls)
    (offset' : Nat) : ∃ ls', lexFrom offset' s = .ok ls' := by
  induction hn : s.length using Nat.strongRecOn generalizing offset s ls offset' with
  | _ n ih =>
    cases s with
    | nil => exact ⟨[], lexFrom_nil⟩
    | cons c s =>
      rw [List.cons_append] at h
      cases hc : isBlank c with
      | true =>
        have hlt : s.length < n := by rw [← hn, List.length_cons]; omega
        rw [lexFrom_blank hc] at h ⊢
        exact ih s.length hlt h _ rfl
      | false =>
        rw [lexFrom_token hc] at h
        obtain ⟨r, hr, h⟩ := bind_eq_ok.mp h
        obtain ⟨more, hmore, -⟩ := map_eq_ok.mp h
        obtain ⟨r', hr'⟩ := readToken_of_extend ht hplain hr offset'
        -- Both readings are of one token, so the rest of the longer text is the other's with `t`.
        have hsame := (readToken_extend ht hr' offset).symm.trans hr
        have hrest : r'.rest ++ t = r.rest := congrArg Reading.rest (Except.ok.inj hsame)
        have hlt : r'.rest.length < n := hn ▸ length_lt_of_readToken hr'
        rw [← hrest] at hmore
        obtain ⟨ls', hls'⟩ := ih r'.rest.length hlt hmore (offset' + Text.width r'.source) rfl
        exact ⟨_, by rw [lexFrom_token hc, hr', bind_ok, hls', map_ok]⟩

/-- No text without quotes mends a text that cannot be lexed. -/
theorem lexFrom_extend_error {s t : Text} {e : Error} (h : lex s = .error e) (ht : Fresh t)
    (hplain : Rule.Quoteless t) (offset : Nat) : ∃ e', lexFrom offset (s ++ t) = .error e' := by
  cases hlex : lexFrom offset (s ++ t) with
  | error e' => exact ⟨e', rfl⟩
  | ok ls =>
    obtain ⟨ls', hls'⟩ := lexFrom_of_extend ht hplain hlex 0
    cases hls'.symm.trans h

end Condition
end TurnRouter
