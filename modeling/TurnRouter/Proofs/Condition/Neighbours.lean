import Mathlib.Data.List.Chain
import TurnRouter.Proofs.Condition.Composition

/-! # Neighbours among the tokens of a condition

The grammar puts an operator between any two values. So a text in which one value is read right
after another is no condition, however deep it may be nested.
-/
namespace TurnRouter.Condition

namespace Token

def isValue : Token → Bool
  | value _ => true
  | _ => false

/-- Of two tokens next to each other at most one is a value. -/
def Apart (t u : Token) : Prop := t.isValue = false ∨ u.isValue = false

/-- No two values stand next to each other. -/
def Spaced (ts : List Token) : Prop := ts.IsChain Apart

namespace Spaced
variable {t : Token} {ts us : List Token}

theorem nil : Spaced [] := List.isChain_nil

theorem single (t : Token) : Spaced [t] := List.isChain_singleton t

theorem cons (ht : t.isValue = false) (h : Spaced ts) : Spaced (t :: ts) :=
  List.isChain_cons.mpr ⟨fun _ _ => .inl ht, h⟩

/-- Whatever stands around an operator is apart. -/
theorem append_cons (h : Spaced us) (ht : t.isValue = false) (h' : Spaced ts) :
    Spaced (us ++ t :: ts) := by
  refine List.isChain_append.mpr ⟨h, h'.cons ht, ?_⟩
  intro u _ v hv
  obtain rfl : t = v := by simpa using hv
  exact .inr ht

theorem not_of_values (us ts : List Token) (v w : Scalar) :
    ¬ Spaced (us ++ value v :: value w :: ts) := by
  intro h
  obtain ⟨-, hapart, -⟩ := List.isChain_append_cons_cons.mp h
  obtain hv | hw := hapart
  · cases hv
  · cases hw

end Spaced
end Token

mutual

theorem Phrase.spaced {l : Level} : ∀ p : Phrase l, Token.Spaced p.tokens
  | .value v => .single _
  | .group p => (p.spaced.append_cons rfl .nil).cons rfl
  | .plain p => p.spaced
  | .not p => p.spaced.cons rfl
  | .single p => p.spaced
  | .compare _ p q => p.spaced.append_cons rfl q.spaced
  | .chain _ first more => more.spaced_append first.spaced

/-- A connective stands between an operand and the rest of its chain. -/
theorem Tail.spaced_append {c : Connective} {ts : List Token} (h : Token.Spaced ts) :
    ∀ m : Tail c, Token.Spaced (ts ++ m.tokens)
  | .nil => by
    rw [Tail.tokens, List.append_nil]
    exact h
  | .cons p more => h.append_cons rfl (more.spaced_append p.spaced)

end

/-- Two values next to each other are no condition. -/
theorem evaluate_of_values {limit : Nat} {s : Text} {ls : List Lexeme} {us ts : List Token}
    {v w : Scalar} (hlex : lex s = .ok ls) (hls : kinds ls = us ++ .value v :: .value w :: ts) :
    ∃ e, evaluate limit s = .error e := by
  cases hparse : parse limit s with
  | error e => exact ⟨e, by rw [evaluate, hparse]⟩
  | ok tree =>
    obtain ⟨ls', hlex', p, hp, -⟩ := phrase_of_parse hparse
    obtain rfl : ls = ls' := by
      rw [hlex] at hlex'
      exact Except.ok.inj hlex'
    have hspaced : Token.Spaced (us ++ .value v :: .value w :: ts) := by
      rw [← hls, ← hp]
      exact p.spaced
    exact absurd hspaced (Token.Spaced.not_of_values us ts v w)

/-- A value has been read, and what comes next can only be read as another one. -/
theorem evaluate_of_neighbours {limit offset start : Nat} {s t source : Text} {c : Char}
    {ls : List Lexeme} {v : Scalar}
    (hscan : Scan 0 s (ls ++ [⟨.value v, source, start⟩]) offset (c :: t))
    (hc : isBlank c = false) (hnext : ∀ r, readToken offset c t = .ok r → ∃ w, r.value = .value w) :
    ∃ e, evaluate limit s = .error e := by
  have hlex : lex s = (lexFrom offset (c :: t)).map (ls ++ [⟨.value v, source, start⟩] ++ ·) :=
    hscan.lexFrom_eq
  rw [lexFrom_token hc] at hlex
  cases hr : readToken offset c t with
  | error e =>
    rw [hr] at hlex
    exact ⟨e, evaluate_of_lex_error hlex limit⟩
  | ok r =>
    obtain ⟨w, hw⟩ := hnext r hr
    rw [hr, bind_ok] at hlex
    cases hmore : lexFrom (offset + Text.width r.source) r.rest with
    | error e =>
      rw [hmore] at hlex
      exact ⟨e, evaluate_of_lex_error hlex limit⟩
    | ok more =>
      rw [hmore] at hlex
      have hkinds : kinds (ls ++ [⟨.value v, source, start⟩] ++ ⟨r.value, r.source, offset⟩ :: more) =
          kinds ls ++ .value v :: .value w :: kinds more := by simp [kinds, hw]
      exact evaluate_of_values hlex hkinds

end TurnRouter.Condition
