import TurnRouter.Proofs.Condition.Positions
import TurnRouter.Rule.Check

/-! # Room for nesting

Two runs of the parser over the same lexemes, one with more room than the other, do the same until
the one with less has none left. That takes more lexemes than it had room for. So a higher limit
changes no result of a condition but the one that it is too deep, and no condition is too deep for a
limit as high as it is long.
-/
namespace TurnRouter
namespace Condition

namespace Parser

/-- Either the first answer is that these lexemes, more than there was room for, are too deep, or the
second answer is the same and something else. -/
inductive Follows (limit room : Nat) {α : Type} (ts : List Lexeme) : Answer α → Answer α → Prop
  | tooDeep {y : Answer α} : room < ts.length → Follows limit room ts (.error (.tooDeep limit)) y
  | error {e : Error} : (∀ k, e ≠ .tooDeep k) → Follows limit room ts (.error e) (.error e)
  | ok {a : α} {rest : List Lexeme} : rest.length ≤ ts.length →
    Follows limit room ts (.ok (a, rest)) (.ok (a, rest))

namespace Follows
variable {limit room room' : Nat} {α : Type} {ts us : List Lexeme} {x y : Answer α}

theorem widen (h : Follows limit room us x y) (hlength : us.length ≤ ts.length)
    (hroom : room < us.length → room' < ts.length) : Follows limit room' ts x y := by
  cases h with
  | tooDeep hdeep => exact .tooDeep (hroom hdeep)
  | error he => exact .error he
  | ok hrest => exact .ok (Nat.le_trans hrest hlength)

theorem behind {t : Lexeme} (h : Follows limit room ts x y) : Follows limit room (t :: ts) x y :=
  h.widen (Nat.le_succ _) Nat.lt_succ_of_lt

theorem inside {t : Lexeme} (h : Follows limit room ts x y) :
    Follows limit (room + 1) (t :: ts) x y :=
  h.widen (Nat.le_succ _) Nat.succ_lt_succ

theorem bind {β : Type} {f g : α × List Lexeme → Answer β} (h : Follows limit room ts x y)
    (hf : ∀ a, x = .ok a → Follows limit room a.2 (f a) (g a)) :
    Follows limit room ts (x.bind f) (y.bind g) := by
  cases h with
  | tooDeep hdeep => exact .tooDeep hdeep
  | error he => exact .error he
  | ok hrest => exact (hf _ rfl).widen hrest fun hroom => Nat.lt_of_lt_of_le hroom hrest

end Follows

theorem kept_follows (limit : Nat) : Kept limit fun room _ => Follows limit room where
  ok _ _ := .ok (Nat.le_refl _)
  bind := .bind
  behind := .behind
  inside := .inside
  unexpectedEnd := .error nofun
  unexpectedToken := .error nofun
  tooDeep := .tooDeep (Nat.succ_pos _)

end Parser

/-- One result is that there was too little room for something of this length, or the second result is
the same and something else. -/
def UnlessDeep {α : Type} (limit length : Nat) (x y : Except Error α) : Prop :=
  (x = .error (.tooDeep limit) ∧ limit < length) ∨ (y = x ∧ ∀ k, x ≠ .error (.tooDeep k))

section Results
variable {α β : Type} {limit limit' length length' : Nat} {x y : Except Error α}

theorem Parser.Follows.unlessDeep {ts : List Lexeme} {x y : Answer α} (h : Follows limit limit ts x y) :
    UnlessDeep limit ts.length x y := by
  cases h with
  | tooDeep hdeep => exact .inl ⟨rfl, hdeep⟩
  | error he => exact .inr ⟨rfl, fun k hk => he k (Except.error.inj hk)⟩
  | ok _ => exact .inr ⟨rfl, nofun⟩

theorem UnlessDeep.mono (h : UnlessDeep limit length x y) (hlength : length ≤ length') :
    UnlessDeep limit length' x y :=
  h.imp_left fun hdeep => ⟨hdeep.1, Nat.lt_of_lt_of_le hdeep.2 hlength⟩

theorem UnlessDeep.bind {f : α → Except Error β} (h : UnlessDeep limit length x y)
    (hf : ∀ a k, f a ≠ .error (.tooDeep k)) : UnlessDeep limit length (x.bind f) (y.bind f) := by
  obtain ⟨rfl, hdeep⟩ | ⟨rfl, hother⟩ := h
  · exact .inl ⟨rfl, hdeep⟩
  · refine .inr ⟨rfl, fun k hk => ?_⟩
    obtain hfirst | ⟨a, -, ha⟩ := bind_eq_error.mp hk
    · exact hother k hfirst
    · exact hf a k ha

theorem unlessDeep_parseLexemes (h : limit ≤ limit') (ts : List Lexeme) :
    UnlessDeep limit ts.length (parseLexemes limit ts) (parseLexemes limit' ts) := by
  rw [Parser.parseLexemes_eq, Parser.parseLexemes_eq]
  refine ((Parser.kept_follows limit).condition h ts).unlessDeep.bind fun x k hk => ?_
  split at hk <;> cases hk

theorem Scan.length_le {offset offset' : Nat} {s s' : Text} {ls : List Lexeme}
    (h : Scan offset s ls offset' s') : ls.length ≤ s.length := by
  induction h with
  | done => exact Nat.zero_le _
  | blank _ _ ih => exact Nat.le_succ_of_le ih
  | token _ hr _ ih => exact Nat.succ_le_of_lt (Nat.lt_of_le_of_lt ih (length_lt_of_readToken hr))

theorem unlessDeep_evaluate (h : limit ≤ limit') (s : Text) :
    UnlessDeep limit s.length (evaluate limit s) (evaluate limit' s) := by
  cases hlex : lex s with
  | error e =>
    rw [evaluate_of_lex_error hlex, evaluate_of_lex_error hlex]
    have hstage := stage_of_lex hlex
    exact .inr ⟨rfl, fun k hk => by cases hk; cases hstage⟩
  | ok ts =>
    rw [evaluate_eq_bind, evaluate_eq_bind, hlex, bind_ok, bind_ok]
    have hlength : ts.length ≤ s.length := (lexFrom_eq_ok_iff.mp hlex).length_le
    refine ((unlessDeep_parseLexemes h ts).mono hlength).bind fun e k hk => ?_
    have hstage := stage_of_eval e _ (map_eq_error.mp hk)
    cases hstage

end Results

end Condition

namespace Rule

/-- A rule that is not rejected as too deep is checked alike with a higher limit. -/
theorem check_of_le {ctx : Context} {opts : Options} {rule : Text} {maxDepth : Nat}
    (h : opts.maxDepth ≤ maxDepth)
    (hdeep : check ctx opts rule ≠ .error (.condition (.tooDeep opts.maxDepth))) :
    check ctx { opts with maxDepth } rule = check ctx opts rule := by
  refine check_congr fun segs hne hrule => ?_
  -- The limit has no part in what the placeholders stand for.
  have hresolve : resolve ctx { opts with maxDepth } segs = resolve ctx opts segs := rfl
  rw [hresolve, evaluate, evaluate]
  obtain ⟨hresult, -⟩ | ⟨hsame, -⟩ := Condition.unlessDeep_evaluate h (resolve ctx opts segs)
  · rw [check_of_segments hne hrule, evaluate, hresult] at hdeep
    exact absurd rfl hdeep
  · rw [hsame]

/-- A higher limit changes no result of a condition but the one that it is too deep, a limit as high as
the condition is long is never exceeded, and the verdict of a rule that was not too deep stays. -/
theorem higher_limit_keeps :
    (∀ s limit limit', limit ≤ limit' → Condition.evaluate limit s ≠ .error (.tooDeep limit) →
      Condition.evaluate limit' s = Condition.evaluate limit s) ∧
    (∀ (s : Text) limit, s.length ≤ limit → ∀ k, Condition.evaluate limit s ≠ .error (.tooDeep k)) ∧
    ∀ ctx opts rule maxDepth, opts.maxDepth ≤ maxDepth →
      check ctx opts rule ≠ .error (.condition (.tooDeep opts.maxDepth)) →
      check ctx { opts with maxDepth } rule = check ctx opts rule := by
  refine ⟨fun s limit limit' h hdeep => ?_, fun s limit h => ?_,
    fun ctx opts rule maxDepth => check_of_le⟩
  · obtain ⟨hresult, -⟩ | ⟨hsame, -⟩ := Condition.unlessDeep_evaluate h s
    · exact absurd hresult hdeep
    · exact hsame
  · obtain ⟨-, hlonger⟩ | ⟨-, hother⟩ := Condition.unlessDeep_evaluate (Nat.le_refl limit) s
    · exact absurd h (Nat.not_le_of_lt hlonger)
    · exact hother

private def unheard : Context := ⟨none, [], fun _ => none, fun _ default => default⟩

/-- A group that does not end and a rule that is nested, each with as much room as it takes and more. -/
theorem higher_limit_keeps_nested :
    Condition.evaluate 64 "((1<".toList = .error .unexpectedEnd ∧
    Condition.evaluate 5 "((1))".toList ≠ .error (.tooDeep 5) ∧
    check unheard { maxDepth := 64 } "!(#a || false)".toList = .ok true := by
  obtain ⟨hcondition, hlength, hrule⟩ := higher_limit_keeps
  have hend : Condition.evaluate 2 "((1<".toList = .error .unexpectedEnd := by decide +kernel
  have hverdict : check unheard { maxDepth := 2 } "!(#a || false)".toList = .ok true := by
    decide +kernel
  refine ⟨?_, hlength "((1))".toList 5 (by decide) 5, ?_⟩
  · rw [hcondition _ 2 64 (by decide) (by rw [hend]; nofun), hend]
  · exact (hrule unheard { maxDepth := 2 } _ 64 (by decide) (by rw [hverdict]; nofun)).trans hverdict

end Rule
end TurnRouter
