import TurnRouter.Proofs.Condition.Composition

/-! # Negated chains

What a chain comes out as is settled by the first operand that fails or decides it, and no operand after
that has a part in it. Behind a negation the same operand settles the chain of the other connective, so
the laws of negation hold with all errors.
-/
namespace TurnRouter.Condition

namespace Connective

def dual : Connective → Connective
  | and => or
  | or => and

theorem decisive_dual (c : Connective) : c.dual.decisive = !c.decisive := by
  cases c <;> rfl

/-- Whether a chain is settled once it comes to this operand. -/
def settledBy (c : Connective) (e : Expr) : Bool :=
  match e.eval with
  | .error _ => true
  | .ok v => v.isTruthy == c.decisive

end Connective

section Chains
variable {c : Connective} {before : List Expr} {e : Expr}

theorem settledBy_not (c : Connective) (e : Expr) : c.dual.settledBy (.not e) = c.settledBy e := by
  unfold Connective.settledBy
  rw [eval_not, Connective.decisive_dual]
  cases e.eval with
  | error err => rfl
  | ok v =>
    dsimp only [map_ok]
    cases v.isTruthy <;> cases c.decisive <;> rfl

theorem evalOperands_of_unsettled (he : c.settledBy e = false) (es : List Expr) :
    evalOperands c (e :: es) = evalOperands c es := by
  rw [evalOperands_cons]
  unfold Connective.settledBy at he
  cases heval : e.eval with
  | error err =>
    rw [heval] at he
    cases he
  | ok v =>
    rw [heval] at he
    rw [bind_ok, if_neg (beq_eq_false_iff_ne.mp he)]

theorem evalOperands_of_settled (he : c.settledBy e = true) (es : List Expr) :
    evalOperands c (e :: es) = e.eval.map fun _ => .boolean c.decisive := by
  rw [evalOperands_cons]
  unfold Connective.settledBy at he
  cases heval : e.eval with
  | error err => rfl
  | ok v =>
    rw [heval] at he
    rw [bind_ok, if_pos (beq_iff_eq.mp he), map_ok]

/-- Operands that settle nothing may be left out at the start of a chain. -/
theorem evalOperands_skip (h : ∀ x ∈ before, c.settledBy x = false) (es : List Expr) :
    evalOperands c (before ++ es) = evalOperands c es := by
  induction before with
  | nil => rfl
  | cons x before ih =>
    have hrest := ih fun y hy => h y (List.mem_cons_of_mem x hy)
    rw [List.cons_append, evalOperands_of_unsettled (h x List.mem_cons_self), hrest]

/-- A chain comes out as its first settling operand says, whatever follows that one. -/
theorem eval_chain_of_settled (h : ∀ x ∈ before, c.settledBy x = false) (he : c.settledBy e = true)
    (after : List Expr) :
    (Expr.chain c (before ++ e :: after)).eval = e.eval.map fun _ => .boolean c.decisive := by
  rw [Expr.eval, evalOperands_skip h, evalOperands_of_settled he]

theorem eval_chain_of_unsettled {es : List Expr} (h : ∀ x ∈ es, c.settledBy x = false) :
    (Expr.chain c es).eval = .ok (.boolean !c.decisive) := by
  have hall := evalOperands_skip h []
  rw [List.append_nil] at hall
  rw [Expr.eval, hall, evalOperands]

/-- Either no operand settles the chain, or there is a first one. -/
theorem settled_cases (c : Connective) (es : List Expr) :
    (∀ x ∈ es, c.settledBy x = false) ∨ ∃ before e after,
      es = before ++ e :: after ∧ (∀ x ∈ before, c.settledBy x = false) ∧ c.settledBy e = true := by
  cases hfind : es.find? c.settledBy with
  | none =>
    refine .inl fun x hx => ?_
    exact Bool.not_eq_true _ |>.mp (List.find?_eq_none.mp hfind x hx)
  | some e =>
    obtain ⟨he, before, after, hsplit, hbefore⟩ := List.find?_eq_some_iff_append.mp hfind
    refine .inr ⟨before, e, after, hsplit, fun x hx => ?_, he⟩
    exact Bool.not_eq_true' _ |>.mp (hbefore x hx)

theorem unsettled_map_not (h : ∀ x ∈ before, c.settledBy x = false) :
    ∀ x ∈ before.map Expr.not, c.dual.settledBy x = false := by
  intro x hx
  obtain ⟨y, hy, rfl⟩ := List.mem_map.mp hx
  rw [settledBy_not]
  exact h y hy

/-- A negation moves into a chain, which becomes one of the other connective. -/
theorem eval_not_chain (c : Connective) (es : List Expr) :
    (Expr.not (.chain c es)).eval = (Expr.chain c.dual (es.map .not)).eval := by
  rw [eval_not]
  obtain hnone | ⟨before, e, after, rfl, hbefore, he⟩ := settled_cases c es
  · rw [eval_chain_of_unsettled hnone, eval_chain_of_unsettled (unsettled_map_not hnone),
      Connective.decisive_dual]
    rfl
  · have hnot : c.dual.settledBy (.not e) = true := (settledBy_not c e).trans he
    rw [List.map_append, List.map_cons, eval_chain_of_settled hbefore he,
      eval_chain_of_settled (unsettled_map_not hbefore) hnot, eval_not, Connective.decisive_dual]
    cases e.eval <;> rfl

theorem findIdx?_settledBy_not (c : Connective) (es : List Expr) :
    (es.map Expr.not).findIdx? c.dual.settledBy = es.findIdx? c.settledBy := by
  have hsame : c.dual.settledBy ∘ Expr.not = c.settledBy := funext fun e => settledBy_not c e
  rw [List.findIdx?_map, hsame]

end Chains

theorem eval_compare_ne (l r : Expr) :
    (Expr.compare .ne l r).eval = (Expr.not (.compare .eq l r)).eval := by
  rw [eval_not, eval_compare, eval_compare]
  cases l.eval with
  | error err => rfl
  | ok v => cases r.eval <;> rfl

/-- The laws of negation hold with the errors that come up and those that are skipped: the operand that
settles a chain settles the negated one, and what follows it counts for neither. -/
theorem negation_laws :
    (∀ es, (Expr.not (.chain .and es)).eval = (Expr.chain .or (es.map .not)).eval) ∧
    (∀ es, (Expr.not (.chain .or es)).eval = (Expr.chain .and (es.map .not)).eval) ∧
    (∀ (c : Connective) (es : List Expr),
      (es.map Expr.not).findIdx? c.dual.settledBy = es.findIdx? c.settledBy) ∧
    (∀ (c : Connective) (before : List Expr) (e : Expr),
      (∀ x ∈ before, c.settledBy x = false) → c.settledBy e = true → ∀ after others,
        (Expr.chain c (before ++ e :: after)).eval = (Expr.chain c (before ++ e :: others)).eval ∧
        (Expr.chain c (before ++ e :: after)).eval = e.eval.map fun _ => .boolean c.decisive) ∧
    ∀ l r, (Expr.compare .ne l r).eval = (Expr.not (.compare .eq l r)).eval := by
  refine ⟨eval_not_chain .and, eval_not_chain .or, findIdx?_settledBy_not, ?_, eval_compare_ne⟩
  intro c before e hbefore he after others
  have hafter := eval_chain_of_settled hbefore he after
  exact ⟨hafter.trans (eval_chain_of_settled hbefore he others).symm, hafter⟩

private def word : Expr := .literal (.string ['x'])
private def mismatch : Expr := .compare .lt (.literal .null) word

/-- An operand that fails after one that settles nothing: neither the operand after it has a part in what
comes out, nor the connective that a negation leaves. -/
theorem negation_laws_skipped :
    (Expr.chain .and [word, mismatch, word]).eval =
      (Expr.chain .and [word, mismatch, .chain .or []]).eval ∧
    (Expr.chain .and [word, mismatch, word]).eval = .error (.typeMismatch .lt .null .string) ∧
    (Expr.chain .or [.not word, .not mismatch, .not word]).eval =
      .error (.typeMismatch .lt .null .string) := by
  obtain ⟨hand, -, -, hsettled, -⟩ := negation_laws
  have hword : ∀ x ∈ [word], Connective.and.settledBy x = false := by
    intro x hx
    obtain rfl := List.mem_singleton.mp hx
    rfl
  obtain ⟨hsame, hvalue⟩ := hsettled .and [word] mismatch hword rfl [word] [.chain .or []]
  have hfails : (Expr.chain .and [word, mismatch, word]).eval =
      .error (.typeMismatch .lt .null .string) := hvalue
  have hnegated := hand [word, mismatch, word]
  rw [eval_not, hfails] at hnegated
  exact ⟨hsame, hfails, hnegated.symm⟩

end TurnRouter.Condition
