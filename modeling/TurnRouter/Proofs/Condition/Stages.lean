import TurnRouter.Proofs.Condition.Answer

/-! # What errors tell

Errors come in variants, and the lexer, the parser and the evaluation of a tree each have errors of
their own, so an error also tells how far a condition came.
-/
namespace TurnRouter.Condition

namespace Error

/-- What a caller can tell errors apart by. -/
inductive Variant
  | unexpectedChar
  | unexpectedToken
  | invalidEscape
  | unexpectedEnd
  | trailingInput
  | typeMismatch
  | tooDeep
deriving DecidableEq

def variant : Error → Variant
  | unexpectedChar _ _ => .unexpectedChar
  | unknownWord _ _ | unterminatedString _ | unexpectedToken _ _ => .unexpectedToken
  | malformedEscape _ | loneSurrogate _ => .invalidEscape
  | unexpectedEnd => .unexpectedEnd
  | trailingInput _ _ => .trailingInput
  | typeMismatch _ _ _ => .typeMismatch
  | tooDeep _ => .tooDeep

end Error

inductive Stage
  | lexing
  | parsing
  | evaluation
deriving DecidableEq

def Error.stage : Error → Stage
  | .unexpectedChar _ _ | .unknownWord _ _ | .unterminatedString _ | .malformedEscape _
  | .loneSurrogate _ => .lexing
  | .unexpectedToken _ _ | .unexpectedEnd | .trailingInput _ _ | .tooDeep _ => .parsing
  | .typeMismatch _ _ _ => .evaluation

namespace Parser

/-- All errors of this parser are found in parsing. -/
def Syntactic (parser : Parser) : Prop :=
  ∀ ts e, parser.answer ts = .error e → e.stage = .parsing

theorem kept_syntactic (limit : Nat) :
    Kept limit fun _ _ _ x _ => ∀ e, x = .error e → e.stage = .parsing where
  ok _ _ _ h := by cases h
  bind hx hf e h := by
    obtain hfirst | ⟨a, ha, hnext⟩ := bind_eq_error.mp h
    · exact hx e hfirst
    · exact hf a ha e hnext
  behind h := h
  inside h := h
  unexpectedEnd _ h := by cases h; rfl
  unexpectedToken _ h := by cases h; rfl
  tooDeep _ h := by cases h; rfl

theorem syntactic_condition (limit : Nat) : Syntactic (disjunction (operand limit limit)) :=
  (kept_syntactic limit).condition (Nat.le_refl limit)

theorem stage_of_parseLexemes {limit : Nat} {ts : List Lexeme} {e : Error}
    (h : parseLexemes limit ts = .error e) : e.stage = .parsing := by
  rw [parseLexemes_eq] at h
  obtain hall | ⟨x, -, hrest⟩ := bind_eq_error.mp h
  · exact syntactic_condition limit ts e hall
  · split at hrest <;> cases hrest
    rfl

end Parser

mutual

theorem stage_of_eval : ∀ (e : Expr) (err : Error), e.eval = .error err → err.stage = .evaluation
  | .literal v, err => fun h => by cases h
  | .not e, err => fun h => by
    rw [Expr.eval] at h
    split at h
    · cases h
    · next err' he => cases h; exact stage_of_eval e err he
  | .chain c es, err => fun h => by
    rw [Expr.eval] at h
    exact stage_of_evalOperands c es err h
  | .compare op l r, err => fun h => by
    rw [Expr.eval] at h
    split at h
    · next hl => cases h; exact stage_of_eval l err hl
    · split at h
      · next hr => cases h; exact stage_of_eval r err hr
      · unfold Comparison.eval at h
        split at h <;> cases h
        rfl

theorem stage_of_evalOperands (c : Connective) : ∀ (es : List Expr) (err : Error),
    evalOperands c es = .error err → err.stage = .evaluation
  | [], err => fun h => by cases h
  | e :: es, err => fun h => by
    rw [evalOperands] at h
    split at h
    · next he => cases h; exact stage_of_eval e err he
    · split at h
      · cases h
      · exact stage_of_evalOperands c es err h

end

/-- A condition is lexed, parsed and evaluated; the first stage that fails says why. -/
theorem evaluate_eq_bind (limit : Nat) (s : Text) : evaluate limit s =
    (lex s).bind fun ts => (parseLexemes limit ts).bind fun e => e.eval.map Scalar.isTruthy := by
  unfold evaluate parse
  cases lex s with
  | error e => rfl
  | ok ts =>
    simp only [bind_ok]
    cases parseLexemes limit ts with
    | error e => rfl
    | ok e =>
      simp only [bind_ok]
      cases e.eval <;> rfl

theorem evaluate_of_lex_error {s : Text} {e : Error} (h : lex s = .error e) (limit : Nat) :
    evaluate limit s = .error e := by
  rw [evaluate_eq_bind, h, bind_error]

/-- An error of the lexer can come from nowhere else. -/
theorem lex_of_evaluate {limit : Nat} {s : Text} {e : Error} (h : evaluate limit s = .error e)
    (he : e.stage = .lexing) : lex s = .error e := by
  rw [evaluate_eq_bind] at h
  obtain hlex | ⟨ts, -, hlater⟩ := bind_eq_error.mp h
  · exact hlex
  obtain hparse | ⟨tree, -, heval⟩ := bind_eq_error.mp hlater
  · rw [Parser.stage_of_parseLexemes hparse] at he
    cases he
  · rw [stage_of_eval _ _ (map_eq_error.mp heval)] at he
    cases he

end TurnRouter.Condition
