import TurnRouter.Proofs.Routing.Search
import TurnRouter.Proofs.Rule.LiteralEnds

/-! # Composite values in a rule

Conditions know no arrays and no objects, and an opening bracket starts no token. The lexer comes to
the bracket of such a value as to the start of a token, or stops before it, so the rule cannot be
checked, and a search passes over its handler.
-/
namespace TurnRouter

/-- Arrays and objects, the empty ones too. -/
def Json.isComposite : Json → Bool
  | arr _ | obj _ => true
  | _ => false

theorem Json.write_of_isComposite {v : Json} (h : v.isComposite = true) :
    ∃ c s, v.write = c :: s ∧ isBracket c = true := by
  cases v with
  | arr items => exact ⟨'[', _, by rw [write]; rfl, rfl⟩
  | obj fields => exact ⟨'\x7b', _, by rw [write]; rfl, rfl⟩
  | _ => cases h

namespace Rule
open Condition

theorem mem_pieces {segs : List Segment} {code : Text} {span : Span} (hcode : .code code ∈ segs)
    (hspan : span ∈ spans code) : span.piece ∈ pieces segs := by
  refine List.mem_flatMap.mpr ⟨.code code, hcode, ?_⟩
  exact List.mem_map_of_mem hspan

section Stops
variable {ctx : Context} {opts : Options} {rule : Text} {segs : List Segment}

/-- Lexing ends at the text of a composite value, or before. -/
theorem stops_at_composite {before after : List Piece} {f : Family} {name : Text}
    (hproper : ∀ p ∈ pieces segs, p.Proper)
    (hsplit : pieces segs = before ++ .placeholder f name :: after)
    (hvalue : (f.value ctx opts name).isComposite = true) :
    ∃ stop e, stop ≤ Text.width (Piece.resolveAll ctx opts before) ∧
      Stops 0 (resolve ctx opts segs) stop e := by
  obtain ⟨c, s, hwrite, hbracket⟩ := Json.write_of_isComposite hvalue
  have hresolve : (Piece.placeholder f name).resolve ctx opts = c :: s := hwrite
  have hbefore : ∀ p ∈ before, p.Proper := by
    intro p hp
    apply hproper
    rw [hsplit]
    exact List.mem_append_left _ hp
  rw [resolve_split ctx opts hsplit, hresolve]
  have hfresh : Fresh (c :: (s ++ Piece.resolveAll ctx opts after)) := fresh_bracket hbracket
  have hreach := reaches_pieces ctx opts hfresh before hbefore [] .nil 0
  obtain ⟨ls, hscan⟩ | ⟨stop, e, hstop, hlt, -⟩ := hreach
  · rw [List.nil_append, Nat.zero_add] at hscan
    obtain ⟨hblank, he⟩ := readToken_bracket hbracket
      (Text.width (Piece.resolveAll ctx opts before)) (s ++ Piece.resolveAll ctx opts after)
    exact ⟨_, _, Nat.le_refl _, ls, c, _, hscan, hblank, he⟩
  · rw [List.nil_append] at hstop hlt
    exact ⟨stop, e, by omega, hstop⟩

/-- A condition that cannot be lexed is never evaluated, not even in part. -/
theorem check_of_stops {stop : Nat} {e : Condition.Error} (hne : rule ≠ [])
    (hrule : segments rule = .ok segs) (hstop : Stops 0 (resolve ctx opts segs) stop e) :
    check ctx opts rule = .error (.condition e) := by
  have hlex : lex (resolve ctx opts segs) = .error e := hstop.lexFrom_eq
  rw [check_of_segments hne hrule, evaluate, evaluate_of_lex_error hlex, mapError_error]

theorem check_composite {code name : Text} (hrule : segments rule = .ok segs)
    (hcode : .code code ∈ segs) (hspan : .placeholder .session name ∈ spans code)
    (hvalue : (sessionValue ctx opts name).isComposite = true) :
    ∃ e, check ctx opts rule = .error (.condition e) := by
  have hne : rule ≠ [] := by
    rintro rfl
    cases segmentsFrom_nil.symm.trans hrule
    cases hcode
  obtain ⟨before, after, hsplit⟩ := List.append_of_mem (mem_pieces hcode hspan)
  obtain ⟨stop, e, -, hstop⟩ := stops_at_composite (proper_of_segments hrule) hsplit hvalue
  exact ⟨e, check_of_stops hne hrule hstop⟩

end Stops
end Rule

section Search
variable {γ σ : Type} {ctx : Context} {opts : Options} {before after : List (Handler γ)}
  {h : Handler γ}

theorem notMem_matching_of_broken (hh : h.broken ctx opts = true) :
    before.length ∉ matching ctx opts (before ++ h :: after) := by
  intro hmem
  obtain ⟨h', hget, hcheck⟩ := mem_matching.mp hmem
  rw [List.getElem?_append_right (Nat.le_refl _), Nat.sub_self] at hget
  cases hget
  rw [Handler.broken, hcheck] at hh
  cases hh

/-- A broken rule counts once among the handlers evaluated, if the search comes so far. -/
theorem failures_take_of_broken (hh : h.broken ctx opts = true) {n : Nat} (hn : before.length < n) :
    failures ctx opts ((before ++ h :: after).take n) =
      failures ctx opts before + 1 + failures ctx opts (after.take (n - (before.length + 1))) := by
  have htake : (before ++ h :: after).take n =
      before ++ [h] ++ after.take (n - (before.length + 1)) := by
    rw [List.append_cons, List.take_append, List.length_append, List.length_singleton]
    congr 1
    apply List.take_of_length_le
    rw [List.length_append, List.length_singleton]
    omega
  have hone : failures ctx opts (before ++ [h]) = failures ctx opts before + 1 := by
    rw [failures_append_singleton, if_pos hh]
  rw [htake, failures, List.countP_append]
  exact congrArg (· + _) hone

/-- Unless a reply before it settles the search, a place is come to, also one that is not called. -/
theorem lt_evaluated_iff {handlers : List (Handler γ)} {calls : List (Call Nat)} {o : Outcome}
    (ha : Accounts ctx opts handlers calls o)
    (hasked : Asked (matching ctx opts handlers) calls (.ok o.answer)) {i : Nat}
    (hi : i < handlers.length) (hnever : ∀ c ∈ calls, c.site ≠ i) :
    i < o.tally.evaluated ↔ ∀ c ∈ calls, c.site < i → c.reply.passes = true := by
  obtain ⟨w, hlast, hsettled, -, hevaluated⟩ | ⟨hpass, -, -, hevaluated⟩ := ha.ending
  · have hmem : (⟨w, .ok o.answer⟩ : Call Nat) ∈ calls := List.mem_of_getLast? hlast
    have hne : w ≠ i := hnever _ hmem
    rw [hevaluated]
    constructor
    · intro hlt c hc hsite
      obtain ⟨before, rfl⟩ := List.getLast?_eq_some_iff.mp hlast
      obtain hc | hc := List.mem_append.mp hc
      · exact hasked.passes_of_mem_dropLast c (by rwa [List.dropLast_concat])
      · obtain rfl := List.mem_singleton.mp hc
        exact absurd hsite (by dsimp only; omega)
    · intro hopen
      refine Nat.lt_of_not_le fun hle => ?_
      have hreply : Reply.passes (.ok o.answer) = true :=
        hopen _ hmem (Nat.lt_of_succ_le hle)
      rw [Reply.passes_ok, hsettled] at hreply
      cases hreply
  · rw [hevaluated]
    exact ⟨fun _ c hc _ => hpass c hc, fun _ => hi⟩

end Search

namespace Rule

/-- A rule that puts in an array or an object cannot be checked, wherever that stands in it. Dispatch
does not call its handler, and counts the rule as an error unless a reply before it settles the
search. -/
theorem composite_fails_closed {rule : Text} {segs : List Segment}
    (hrule : segments rule = .ok segs) {code name : Text} (hcode : .code code ∈ segs)
    (hspan : .placeholder .session name ∈ spans code) {ctx : Context} {opts : Options}
    (hvalue : (sessionValue ctx opts name).isComposite = true) :
    (∃ e, check ctx opts rule = .error (.condition e)) ∧
    ∀ {γ σ : Type} (invoke : γ → Effect σ (Option Json)) (before after : List (Handler γ))
      (callback : γ) (s : σ),
      ∃ calls t outcome,
        Effect.result (dispatch ctx opts invoke (before ++ ⟨rule, callback⟩ :: after)) s =
          (outcome, t) ∧
        Performs (callbackAt invoke (before ++ ⟨rule, callback⟩ :: after)) s calls t ∧
        (∀ c ∈ calls, c.site ≠ before.length) ∧
        ∀ o, outcome = .ok o →
          (before.length < o.tally.evaluated ↔
            ∀ c ∈ calls, c.site < before.length → c.reply.passes = true) ∧
          (before.length < o.tally.evaluated →
            o.tally.errors = failures ctx opts before + 1 +
              failures ctx opts (after.take (o.tally.evaluated - (before.length + 1)))) := by
  obtain ⟨e, he⟩ := check_composite hrule hcode hspan hvalue
  refine ⟨⟨e, he⟩, ?_⟩
  intro γ σ invoke before after callback s
  have hbroken : Handler.broken ctx opts ⟨rule, callback⟩ = true := by
    rw [Handler.broken, he]
    rfl
  obtain ⟨calls, t, outcome, hresult, hperforms, hasked, haccounts⟩ :=
    dispatch_search ctx opts invoke (before ++ ⟨rule, callback⟩ :: after) s
  have hnever : ∀ c ∈ calls, c.site ≠ before.length := fun c hc hsite =>
    notMem_matching_of_broken hbroken (hsite ▸ hasked.site_mem hc)
  refine ⟨calls, t, outcome, hresult, hperforms, hnever, ?_⟩
  rintro o rfl
  obtain ⟨-, hall⟩ := haccounts o rfl
  have hlength : before.length < (before ++ ⟨rule, callback⟩ :: after).length := by simp
  refine ⟨lt_evaluated_iff hall hasked hlength hnever, fun hlt => ?_⟩
  rw [hall.errors, failures_take_of_broken hbroken hlt]

section Remembering

/-- The session holds a list whose text looks like the rest of a rule. -/
private def remembering : Context where
  intent := none
  requestType := []
  slot _ := none
  sessionValue _ _ := .arr [.str "'||true".toList]

private def counting (_ : Nat) : Effect Nat (Option Json) := do
  modify (· + 1)
  return none

private def behind : Text := "false&&session.a=='x'".toList

/-- The list stands behind an operand that would settle the conjunction. The search comes to the rule
and counts it, and the one call is that of the handler before it. -/
theorem composite_fails_closed_behind :
    (∃ e, check remembering {} behind = .error (.condition e)) ∧
    ∃ calls o,
      Effect.result (dispatch remembering {} counting [⟨"true".toList, 0⟩, ⟨behind, 1⟩]) 0 =
        (.ok o, 1) ∧
      Performs (callbackAt counting [⟨"true".toList, 0⟩, ⟨behind, 1⟩]) 0 calls 1 ∧
      (∀ c ∈ calls, c.site ≠ 1) ∧ o.tally.evaluated = 2 ∧ o.tally.errors = 1 := by
  have hrule : segments behind = .ok [.code "false&&session.a==".toList, .literal "'x'".toList] :=
    segments_eq_ok_iff.mpr
      ⟨.pair (by decide) rfl (.plain (by decide) (by decide) .close) .nil, rfl⟩
  have hspan : .placeholder .session ['a'] ∈ spans "false&&session.a==".toList := by
    decide +kernel
  have hvalue : (sessionValue remembering {} ['a']).isComposite = true := rfl
  obtain ⟨hcheck, hdispatch⟩ := composite_fails_closed hrule List.mem_cons_self hspan hvalue
  obtain ⟨calls, t, outcome, hresult, hperforms, hsites, htally⟩ :=
    hdispatch counting [⟨"true".toList, 0⟩] [] 1 0
  have hcount : (Effect.result (dispatch remembering {} counting
      [⟨"true".toList, 0⟩, ⟨behind, 1⟩]) 0).2 = 1 := by decide +kernel
  have hevaluated : (Effect.result (dispatch remembering {} counting
      [⟨"true".toList, 0⟩, ⟨behind, 1⟩]) 0).1.toOption.map (·.tally.evaluated) = some 2 := by
    decide +kernel
  rw [List.singleton_append] at hresult hperforms
  rw [hresult] at hcount hevaluated
  obtain rfl : t = 1 := hcount
  cases outcome with
  | error e => cases hevaluated
  | ok o =>
    have htwo : o.tally.evaluated = 2 := Option.some.inj hevaluated
    have herrors := (htally o rfl).2 (by rw [htwo]; decide)
    refine ⟨hcheck, calls, o, hresult, hperforms, hsites, htwo, herrors.trans ?_⟩
    rw [htwo]
    decide +kernel

end Remembering
end Rule
end TurnRouter
