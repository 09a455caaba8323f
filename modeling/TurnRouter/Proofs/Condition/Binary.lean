import TurnRouter.Proofs.Condition.Composition

/-! # Connectives of two operands

The grammar can also be read with connectives of two operands, where each one joins the whole chain
before it with one operand more. That tree, evaluated operand by operand, comes out as the flat tree
that the parser makes, errors included.
-/
namespace TurnRouter.Condition

inductive Binary
  | literal (v : Scalar)
  | not (b : Binary)
  | join (c : Connective) (l r : Binary)
  | compare (op : Comparison) (l r : Binary)

namespace Binary

def truth (x : Except Error Scalar) : Except Error Scalar := x.map fun v => .boolean v.isTruthy

/-- The right operand of a connective counts only if the left one does not decide. -/
def eval : Binary → Except Error Scalar
  | literal v => .ok v
  | not b => b.eval.map fun v => .boolean !v.isTruthy
  | join .and l r => l.eval.bind fun v => if v.isTruthy then truth r.eval else .ok (.boolean false)
  | join .or l r => l.eval.bind fun v => if v.isTruthy then .ok (.boolean true) else truth r.eval
  | compare op l r => l.eval.bind fun v => r.eval.bind fun w => op.eval v w

theorem eval_join (c : Connective) (l r : Binary) :
    (join c l r).eval = l.eval.bind fun v =>
      if v.isTruthy = c.decisive then .ok (.boolean c.decisive) else truth r.eval := by
  cases c with
  | and =>
    rw [eval]
    congr
    funext v
    cases v.isTruthy <;> rfl
  | or => rw [eval, Connective.decisive]

end Binary

/-- The phrases of each level with their binary trees. A chain grows at its end, by one operand at a
time. -/
inductive Derives : Level → List Token → Binary → Prop
  | value (v : Scalar) : Derives .primary [.value v] (.literal v)
  | group {ts : List Token} {b : Binary} : Derives (.chain .or) ts b →
    Derives .primary (.opening :: (ts ++ [.closing])) b
  | plain {ts : List Token} {b : Binary} : Derives .primary ts b → Derives .unary ts b
  | not {ts : List Token} {b : Binary} : Derives .unary ts b → Derives .unary (.not :: ts) (.not b)
  | single {ts : List Token} {b : Binary} : Derives .unary ts b → Derives .comparison ts b
  | compare {ts us : List Token} {l r : Binary} (op : Comparison) : Derives .unary ts l →
    Derives .unary us r → Derives .comparison (ts ++ .compare op :: us) (.compare op l r)
  | operand {c : Connective} {ts : List Token} {b : Binary} : Derives c.operandLevel ts b →
    Derives (.chain c) ts b
  | join {c : Connective} {ts us : List Token} {l r : Binary} : Derives (.chain c) ts l →
    Derives c.operandLevel us r → Derives (.chain c) (ts ++ .connective c :: us) (.join c l r)

mutual

def Phrase.binary {l : Level} : Phrase l → Binary
  | .value v => .literal v
  | .group p => p.binary
  | .plain p => p.binary
  | .not p => .not p.binary
  | .single p => p.binary
  | .compare op p q => .compare op p.binary q.binary
  | .chain _ first more => more.joined first.binary

/-- The operands joined to the chain before them, from left to right. -/
def Tail.joined {c : Connective} : Tail c → Binary → Binary
  | .nil, b => b
  | .cons p more, b => more.joined (.join c b p.binary)

end

def Tail.concat {c : Connective} : Tail c → Phrase c.operandLevel → Tail c
  | .nil, q => .cons q .nil
  | .cons p more, q => .cons p (more.concat q)

section Concat
variable {c : Connective} (q : Phrase c.operandLevel)

theorem Tail.tokens_concat : ∀ m : Tail c,
    (m.concat q).tokens = m.tokens ++ .connective c :: q.tokens
  | .nil => by simp [Tail.concat, Tail.tokens]
  | .cons p more => by simp [Tail.concat, Tail.tokens, Tail.tokens_concat more]

theorem Tail.joined_concat : ∀ (m : Tail c) (b : Binary),
    (m.concat q).joined b = .join c (m.joined b) q.binary
  | .nil, b => by simp [Tail.concat, Tail.joined]
  | .cons p more, b => by simp [Tail.concat, Tail.joined, Tail.joined_concat more]

end Concat

mutual

theorem Phrase.derives {l : Level} : ∀ p : Phrase l, Derives l p.tokens p.binary
  | .value v => .value v
  | .group p => .group p.derives
  | .plain p => .plain p.derives
  | .not p => .not p.derives
  | .single p => .single p.derives
  | .compare op p q => .compare op p.derives q.derives
  | .chain _ first more => more.derives (.operand first.derives)

theorem Tail.derives {c : Connective} {ts : List Token} {b : Binary} (h : Derives (.chain c) ts b) :
    ∀ m : Tail c, Derives (.chain c) (ts ++ m.tokens) (m.joined b)
  | .nil => by
    rw [Tail.tokens, List.append_nil]
    exact h
  | .cons p more => by
    have hmore := more.derives (h.join p.derives)
    rw [List.append_assoc] at hmore
    exact hmore

end

/-- Each derivation is that of a phrase. -/
theorem Derives.exists_phrase {l : Level} {ts : List Token} {b : Binary} (h : Derives l ts b) :
    ∃ p : Phrase l, p.tokens = ts ∧ p.binary = b := by
  induction h with
  | value v => exact ⟨.value v, rfl, rfl⟩
  | group _ ih =>
    obtain ⟨p, rfl, rfl⟩ := ih
    exact ⟨.group p, rfl, rfl⟩
  | plain _ ih =>
    obtain ⟨p, rfl, rfl⟩ := ih
    exact ⟨.plain p, rfl, rfl⟩
  | not _ ih =>
    obtain ⟨p, rfl, rfl⟩ := ih
    exact ⟨.not p, rfl, rfl⟩
  | single _ ih =>
    obtain ⟨p, rfl, rfl⟩ := ih
    exact ⟨.single p, rfl, rfl⟩
  | compare op _ _ ihl ihr =>
    obtain ⟨p, rfl, rfl⟩ := ihl
    obtain ⟨q, rfl, rfl⟩ := ihr
    exact ⟨.compare op p q, rfl, rfl⟩
  | operand _ ih =>
    obtain ⟨p, rfl, rfl⟩ := ih
    exact ⟨.chain _ p .nil, by simp [Phrase.tokens, Tail.tokens], by simp [Phrase.binary, Tail.joined]⟩
  | join _ _ ihl ihr =>
    obtain ⟨p, rfl, rfl⟩ := ihl
    obtain ⟨q, rfl, rfl⟩ := ihr
    cases p with
    | chain _ first more =>
      refine ⟨.chain _ first (more.concat q), ?_, ?_⟩
      · simp [Phrase.tokens, Tail.tokens_concat]
      · simp [Phrase.binary, Tail.joined_concat]

/-- A whole condition has one binary tree. -/
theorem derives_iff (p : Phrase (.chain .or)) (b : Binary) :
    Derives (.chain .or) p.tokens b ↔ b = p.binary := by
  constructor
  · intro h
    obtain ⟨q, hq, rfl⟩ := h.exists_phrase
    have htokens : q.tokens ++ [] = p.tokens ++ [] := by rw [hq]
    rw [(Phrase.eq_of_tokens (Level.ends_nil _) (Level.ends_nil _) q p htokens).1]
  · rintro rfl
    exact p.derives

theorem evalOperands_singleton (c : Connective) (e : Expr) :
    evalOperands c [e] = Binary.truth e.eval := by
  rw [evalOperands_cons, evalOperands]
  cases e.eval with
  | error err => rfl
  | ok v =>
    rw [bind_ok, Binary.truth, map_ok]
    by_cases hv : v.isTruthy = c.decisive
    · rw [if_pos hv, hv]
    · rw [if_neg hv, ← Bool.eq_not.mpr hv]

mutual

/-- The flat tree comes out as the binary one. -/
theorem Phrase.eval_binary {l : Level} : ∀ p : Phrase l, p.binary.eval = p.tree.eval
  | .value v => rfl
  | .group p => by rw [Phrase.binary, Phrase.tree, p.eval_binary]
  | .plain p => by rw [Phrase.binary, Phrase.tree, p.eval_binary]
  | .not p => by
    rw [Phrase.binary, Phrase.tree, Binary.eval, Expr.eval, p.eval_binary]
    cases p.tree.eval <;> rfl
  | .single p => by rw [Phrase.binary, Phrase.tree, p.eval_binary]
  | .compare op p q => by
    rw [Phrase.binary, Phrase.tree, Binary.eval, Expr.eval, p.eval_binary, q.eval_binary]
    cases p.tree.eval with
    | error err => rfl
    | ok v => cases q.tree.eval <;> rfl
  | .chain c first .nil => by rw [Phrase.binary, Tail.joined, Phrase.tree, first.eval_binary]
  | .chain c first (.cons p more) => by
    rw [Phrase.binary, Tail.joined, Phrase.tree, Expr.eval, evalOperands_cons, ← first.eval_binary]
    exact more.eval_joined _ p.eval_binary

/-- Joined from left to right the operands count in order, as long as none of them decides. -/
theorem Tail.eval_joined {c : Connective} (b : Binary) {b' : Binary} {e : Expr}
    (h : b'.eval = e.eval) : ∀ m : Tail c, (m.joined (.join c b b')).eval = b.eval.bind fun v =>
      if v.isTruthy = c.decisive then .ok (.boolean c.decisive) else evalOperands c (e :: m.trees)
  | .nil => by rw [Tail.joined, Binary.eval_join, Tail.trees, evalOperands_singleton, h]
  | .cons p more => by
    rw [Tail.joined, more.eval_joined _ p.eval_binary, Tail.trees, Binary.eval_join, h]
    cases b.eval with
    | error err => rfl
    | ok v =>
      rw [bind_ok, bind_ok]
      by_cases hv : v.isTruthy = c.decisive
      · rw [if_pos hv, if_pos hv, bind_ok]
        exact if_pos rfl
      · rw [if_neg hv, if_neg hv, evalOperands_cons c e, Binary.truth]
        cases e.eval <;> rfl

end

/-- A condition that can be parsed has one binary tree, and comes out as that does. -/
theorem chains_mean_binary {limit : Nat} {s : Text} {e : Expr} (h : parse limit s = .ok e) :
    ∃ ls b, lex s = .ok ls ∧ (∀ b', Derives (.chain .or) (kinds ls) b' ↔ b' = b) ∧
      evaluate limit s = b.eval.map Scalar.isTruthy := by
  obtain ⟨ls, hlex, p, hp, -, rfl⟩ := phrase_of_parse h
  refine ⟨ls, p.binary, hlex, fun b' => ?_, ?_⟩
  · rw [← hp]
    exact derives_iff p b'
  · rw [evaluate_of_parse h, p.eval_binary]

/-- The first of the two comparisons is never made, and the second one fails. -/
theorem chains_mean_binary_mixed :
    ∃ ls b, lex "null&&0<''||(!'x'||1<'a')||true".toList = .ok ls ∧
      (∀ b', Derives (.chain .or) (kinds ls) b' ↔ b' = b) ∧
      b.eval.map Scalar.isTruthy = .error (.typeMismatch .lt .number .string) := by
  have hparse : parse 2 "null&&0<''||(!'x'||1<'a')||true".toList = .ok
      (.chain .or [
        .chain .and [.literal .null, .compare .lt
          (.literal (.number (Numeral.toBinary64 ⟨false, ['0'], [], none⟩))) (.literal (.string []))],
        .chain .or [.not (.literal (.string ['x'])), .compare .lt
          (.literal (.number (Numeral.toBinary64 ⟨false, ['1'], [], none⟩)))
          (.literal (.string ['a']))],
        .literal (.boolean true)]) := by
    with_unfolding_all rfl
  have hvalue : evaluate 2 "null&&0<''||(!'x'||1<'a')||true".toList =
      .error (.typeMismatch .lt .number .string) := by
    decide +kernel
  obtain ⟨ls, b, hlex, hunique, heval⟩ := chains_mean_binary hparse
  exact ⟨ls, b, hlex, hunique, heval.symm.trans hvalue⟩

end TurnRouter.Condition
