import TurnRouter.Proofs.Condition.Extension

/-! # Conditions made of conditions

Two conditions in parentheses with a connective between them, or one behind a negation, are again a
condition, with room for one or two levels more. It comes out as its parts do: the second part counts
only if the first one settles nothing, but it has to be well written in any case.
-/
namespace TurnRouter.Condition

def Connective.join (c : Connective) (a b : Text) : Text :=
  '(' :: (a ++ ')' :: ' ' :: (c.symbol ++ ' ' :: '(' :: (b ++ [')'])))

def negation (a : Text) : Text := '!' :: '(' :: (a ++ [')'])

example : Connective.and.join "a".toList "b".toList = "(a) && (b)".toList ∧
    Connective.or.join "a".toList "b".toList = "(a) || (b)".toList ∧
    negation "a".toList = "!(a)".toList := ⟨rfl, rfl, rfl⟩

section Lexing
variable {a b rest : Text} {ls ms : List Lexeme}

theorem fresh_closing (s : Text) : Fresh (')' :: s) := by
  rintro d hd
  cases hd
  decide

/-- The parenthesis ends the last token of the group, whatever that is. -/
theorem yields_group (h : lex a = .ok ls) (rest : Text) :
    Yields ('(' :: (a ++ ')' :: rest)) (.opening :: (kinds ls ++ [.closing])) rest := by
  have hclosing : Yields (')' :: rest) [.closing] rest :=
    .token (by decide) (fun _ => rfl) .done
  have hinner : Yields (a ++ ')' :: rest) (kinds ls) (')' :: rest) :=
    yields_of_lex h (fresh_closing rest)
  exact .token (by decide) (fun _ => rfl) (hinner.trans hclosing)

theorem yields_connective (c : Connective) (rest : Text) :
    Yields (' ' :: (c.symbol ++ ' ' :: rest)) [.connective c] rest := by
  have hblank : Yields (' ' :: rest) [] rest := .blank (by decide) .done
  apply Yields.blank (by decide)
  cases c with
  | and => exact .token (by decide) (fun _ => rfl) hblank
  | or => exact .token (by decide) (fun _ => rfl) hblank

theorem yields_join (c : Connective) (ha : lex a = .ok ls) (b : Text) :
    Yields (c.join a b) (.opening :: (kinds ls ++ [.closing]) ++ [.connective c])
      ('(' :: (b ++ [')'])) :=
  (yields_group ha _).trans (yields_connective c _)

theorem lex_join_error (c : Connective) {e : Error} (ha : lex a = .ok ls) (hb : lex b = .error e) :
    ∃ e', lex (c.join a b) = .error e' := by
  have hopening : Yields ('(' :: (b ++ [')'])) [.opening] (b ++ [')']) :=
    .token (by decide) (fun _ => rfl) .done
  have hplain : Rule.Quoteless [')'] := by decide
  exact ((yields_join c ha b).trans hopening).lex_error
    (lexFrom_extend_error hb (fresh_closing []) hplain)

end Lexing

namespace Phrase

/-- A whole condition in parentheses is one side of a conjunction. -/
def grouped (p : Phrase (.chain .or)) : Phrase .comparison := .single (.plain (.group p))

def joined (c : Connective) (p q : Phrase (.chain .or)) : Phrase (.chain .or) :=
  match c with
  | .and => .chain .or (.chain .and p.grouped (.cons q.grouped .nil)) .nil
  | .or => .chain .or (.chain .and p.grouped .nil) (.cons (.chain .and q.grouped .nil) .nil)

def negated (p : Phrase (.chain .or)) : Phrase (.chain .or) :=
  .chain .or (.chain .and (.single (.not (.plain (.group p)))) .nil) .nil

variable (c : Connective) (p q : Phrase (.chain .or))

theorem tokens_joined : (joined c p q).tokens =
    .opening :: (p.tokens ++ [.closing]) ++ [.connective c] ++
      .opening :: (q.tokens ++ [.closing]) := by
  cases c <;> simp [joined, grouped, Phrase.tokens, Tail.tokens]

theorem nesting_joined : (joined c p q).nesting = max p.nesting q.nesting + 1 := by
  cases c <;> simp only [joined, grouped, Phrase.nesting, Tail.nesting] <;> omega

theorem tree_joined : (joined c p q).tree = .chain c [p.tree, q.tree] := by
  cases c <;> simp only [joined, grouped, Phrase.tree, Tail.trees]

theorem tokens_negated : p.negated.tokens = .not :: .opening :: (p.tokens ++ [.closing]) := by
  simp [negated, Phrase.tokens, Tail.tokens]

theorem nesting_negated : p.negated.nesting = p.nesting + 2 := by
  simp only [negated, Phrase.nesting, Tail.nesting]
  omega

theorem tree_negated : p.negated.tree = .not p.tree := by
  simp only [negated, Phrase.tree]

end Phrase

section Parsing
variable {limit : Nat} {s : Text} {e : Expr}

theorem phrase_of_parse (h : parse limit s = .ok e) :
    ∃ ls, lex s = .ok ls ∧
      ∃ p : Phrase (.chain .or), p.tokens = kinds ls ∧ p.nesting ≤ limit ∧ p.tree = e := by
  unfold parse at h
  cases hlex : lex s with
  | error err => rw [hlex] at h; cases h
  | ok ls =>
    rw [hlex] at h
    refine ⟨ls, rfl, ?_⟩
    have hparse := Parser.parseLexemes_eq.symm.trans h
    obtain ⟨⟨tree, rest⟩, hanswer, hend⟩ := bind_eq_ok.mp hparse
    cases rest with
    | cons t rest => cases hend
    | nil =>
      cases hend
      obtain ⟨p, hp, htree, hdeep⟩ := (Parser.operand_sound limit limit).disjunction _ _ _ hanswer
      refine ⟨p, ?_, hdeep, htree⟩
      rw [hp]
      exact (List.append_nil _).symm

theorem parse_of_phrase {tokens : List Token} (hs : Yields s tokens []) (p : Phrase (.chain .or))
    (hp : p.tokens = tokens) (hdeep : p.nesting ≤ limit) : parse limit s = .ok p.tree := by
  obtain ⟨ls, hlex, hls⟩ := hs.lex_eq
  have hcomplete := (Parser.operand_complete limit limit).disjunction p ls []
    (hls.trans hp.symm) (Level.ends_nil _)
  rw [List.append_nil, Parser.within_of_le hdeep] at hcomplete
  rw [parse, hlex]
  exact Parser.parseLexemes_eq.trans (by rw [hcomplete, bind_ok])

variable {a b : Text} {e' : Expr}

theorem parse_join (c : Connective) (ha : parse limit a = .ok e) (hb : parse limit b = .ok e') :
    parse (limit + 1) (c.join a b) = .ok (.chain c [e, e']) := by
  obtain ⟨ls, hls, p, hp, hdeep, rfl⟩ := phrase_of_parse ha
  obtain ⟨ms, hms, q, hq, hdeep', rfl⟩ := phrase_of_parse hb
  have hyields := (yields_join c hls b).trans (yields_group hms [])
  rw [← hp, ← hq, ← Phrase.tokens_joined c p q] at hyields
  have hroom : (Phrase.joined c p q).nesting ≤ limit + 1 := by
    rw [Phrase.nesting_joined]
    omega
  rw [parse_of_phrase hyields _ rfl hroom, Phrase.tree_joined]

theorem parse_negation (ha : parse limit a = .ok e) :
    parse (limit + 2) (negation a) = .ok (.not e) := by
  obtain ⟨ls, hls, p, hp, hdeep, rfl⟩ := phrase_of_parse ha
  have hyields : Yields (negation a) (.not :: .opening :: (kinds ls ++ [.closing])) [] :=
    .token (by decide) (fun _ => rfl) (yields_group hls [])
  rw [← hp, ← Phrase.tokens_negated p] at hyields
  have hroom : p.negated.nesting ≤ limit + 2 := by
    rw [Phrase.nesting_negated]
    omega
  rw [parse_of_phrase hyields _ rfl hroom, Phrase.tree_negated]

end Parsing

section Values
variable {limit : Nat} {s a b : Text} {e e' : Expr}

theorem evaluate_of_parse (h : parse limit s = .ok e) :
    evaluate limit s = e.eval.map Scalar.isTruthy := by
  rw [evaluate, h]
  dsimp only
  cases e.eval <;> rfl

theorem eval_not (e : Expr) : (Expr.not e).eval = e.eval.map fun v => .boolean !v.isTruthy := by
  rw [Expr.eval]
  cases e.eval <;> rfl

theorem eval_compare (op : Comparison) (l r : Expr) :
    (Expr.compare op l r).eval = l.eval.bind fun v => r.eval.bind (op.eval v) := by
  rw [Expr.eval]
  cases l.eval with
  | error err => rfl
  | ok v => cases r.eval <;> rfl

theorem evalOperands_cons (c : Connective) (e : Expr) (es : List Expr) :
    evalOperands c (e :: es) = e.eval.bind fun v =>
      if v.isTruthy = c.decisive then .ok (.boolean c.decisive) else evalOperands c es := by
  rw [evalOperands]
  cases e.eval <;> rfl

theorem eval_pair (c : Connective) (e e' : Expr) :
    (Expr.chain c [e, e']).eval.map Scalar.isTruthy =
      (e.eval.map Scalar.isTruthy).bind fun v =>
        if v = c.decisive then .ok v else e'.eval.map Scalar.isTruthy := by
  have hboolean : ∀ v, (Scalar.boolean v).isTruthy = v := fun v => rfl
  rw [Expr.eval, evalOperands_cons, evalOperands_cons, evalOperands]
  cases e.eval with
  | error err => rfl
  | ok v =>
    rw [bind_ok, map_ok, bind_ok]
    by_cases hv : v.isTruthy = c.decisive
    · rw [if_pos hv, if_pos hv, map_ok, hboolean, hv]
    · rw [if_neg hv, if_neg hv]
      cases e'.eval with
      | error err => rfl
      | ok w =>
        rw [bind_ok, map_ok]
        by_cases hw : w.isTruthy = c.decisive
        · rw [if_pos hw, map_ok, hboolean, hw]
        · rw [if_neg hw, map_ok, hboolean, Bool.eq_not.mpr hw]

/-- The first part settles a chain of two if it fails or comes out decisive. -/
theorem evaluate_join (c : Connective) (ha : parse limit a = .ok e) (hb : parse limit b = .ok e') :
    evaluate (limit + 1) (c.join a b) =
      (evaluate limit a).bind fun v => if v = c.decisive then .ok v else evaluate limit b := by
  rw [evaluate_of_parse (parse_join c ha hb), evaluate_of_parse ha, evaluate_of_parse hb, eval_pair]

theorem evaluate_negation (ha : parse limit a = .ok e) :
    evaluate (limit + 2) (negation a) = (evaluate limit a).map (!·) := by
  rw [evaluate_of_parse (parse_negation ha), evaluate_of_parse ha, Expr.eval]
  cases e.eval <;> rfl

/-- A condition made of conditions comes out as its parts say, the first one first. -/
theorem evaluate_compositional {a : Text} {limit : Nat} {e : Expr} (ha : parse limit a = .ok e) :
    (∀ b e', parse limit b = .ok e' →
      evaluate (limit + 1) (Connective.and.join a b) =
        (match evaluate limit a with
          | .error err => .error err
          | .ok false => .ok false
          | .ok true => evaluate limit b) ∧
      evaluate (limit + 1) (Connective.or.join a b) =
        (match evaluate limit a with
          | .error err => .error err
          | .ok true => .ok true
          | .ok false => evaluate limit b)) ∧
    evaluate (limit + 2) (negation a) =
      (match evaluate limit a with
        | .error err => .error err
        | .ok v => .ok !v) ∧
    ∀ b err, lex b = .error err → ∀ c : Connective, ∀ room,
      ∃ err', evaluate room (c.join a b) = .error err' := by
  refine ⟨?_, ?_, ?_⟩
  · intro b e' hb
    rw [evaluate_join .and ha hb, evaluate_join .or ha hb]
    constructor
    · cases evaluate limit a with
      | error err => rfl
      | ok v => cases v <;> rfl
    · cases evaluate limit a with
      | error err => rfl
      | ok v => cases v <;> rfl
  · rw [evaluate_negation ha]
    cases evaluate limit a <;> rfl
  · intro b err hb c room
    obtain ⟨ls, hls, -⟩ := phrase_of_parse ha
    obtain ⟨err', herr⟩ := lex_join_error c hls hb
    exact ⟨err', evaluate_of_lex_error herr room⟩

/-- The first part is false and ends in a string with an escape; the second compares values of
different kinds, or has a quote without an end. -/
theorem evaluate_compositional_string :
    evaluate 1 (Connective.and.join "'x'=='\\u0041'".toList "null<'x'".toList) = .ok false ∧
    evaluate 1 (Connective.or.join "'x'=='\\u0041'".toList "null<'x'".toList) =
      .error (.typeMismatch .lt .null .string) ∧
    evaluate 2 (negation "'x'=='\\u0041'".toList) = .ok true ∧
    ∃ err, evaluate 1 (Connective.and.join "'x'=='\\u0041'".toList "'".toList) = .error err := by
  have ha : parse 0 "'x'=='\\u0041'".toList =
      .ok (.compare .eq (.literal (.string ['x'])) (.literal (.string ['A']))) := by
    with_unfolding_all rfl
  have hb : parse 0 "null<'x'".toList =
      .ok (.compare .lt (.literal .null) (.literal (.string ['x']))) := by
    with_unfolding_all rfl
  have hopen : lex "'".toList = .error (.unterminatedString 0) := by
    with_unfolding_all rfl
  have hfirst : evaluate 0 "'x'=='\\u0041'".toList = .ok false := evaluate_of_parse ha
  have hsecond : evaluate 0 "null<'x'".toList = .error (.typeMismatch .lt .null .string) :=
    evaluate_of_parse hb
  obtain ⟨hjoin, hnegation, hlex⟩ := evaluate_compositional ha
  obtain ⟨hand, hor⟩ := hjoin _ _ hb
  rw [hfirst] at hand hor hnegation
  exact ⟨hand, hor.trans hsecond, hnegation, hlex _ _ hopen .and 1⟩

end Values
end TurnRouter.Condition
