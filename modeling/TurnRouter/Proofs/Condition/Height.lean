import TurnRouter.Proofs.Condition.Composition

/-! # The height of condition trees

A group adds three nodes at most to every way down a tree, and a negation one. Chains are flat, so the
limit on nesting alone bounds how long the ways down are, and with them the calls of the evaluation
that are open at once. For each limit there is a text that comes up to the bound.
-/
namespace TurnRouter.Condition

namespace Expr

/-- The nodes right below a node. -/
def children : Expr → List Expr
  | literal _ => []
  | not e => [e]
  | chain _ es => es
  | compare _ l r => [l, r]

/-- A way down a tree from its root to a leaf, node by node. -/
inductive Branch : Expr → List Expr → Prop
  | leaf {e : Expr} : e.children = [] → Branch e [e]
  | step {e child : Expr} {path : List Expr} : child ∈ e.children → Branch child path →
    Branch e (e :: path)

/-- No way down the tree has more than `n` nodes. -/
inductive Within : Nat → Expr → Prop
  | node {n : Nat} {e : Expr} : (∀ child ∈ e.children, Within n child) → Within (n + 1) e

def evalChainBy (eval? : Expr → Option (Except Error Scalar)) (c : Connective) :
    List Expr → Option (Except Error Scalar)
  | [] => some (.ok (.boolean !c.decisive))
  | e :: es =>
    (eval? e).bind fun
      | .error err => some (.error err)
      | .ok v =>
        if v.isTruthy = c.decisive then some (.ok (.boolean c.decisive)) else evalChainBy eval? c es

/-- Evaluation with at most so many calls open at once; none if they do not suffice. -/
def evalWithin : Nat → Expr → Option (Except Error Scalar)
  | 0, _ => none
  | _ + 1, literal v => some (.ok v)
  | calls + 1, not e =>
    (evalWithin calls e).map fun result => result.map fun v => .boolean !v.isTruthy
  | calls + 1, chain c es => evalChainBy (evalWithin calls) c es
  | calls + 1, compare op l r =>
    (evalWithin calls l).bind fun
      | .error err => some (.error err)
      | .ok v => (evalWithin calls r).map fun result => result.bind (op.eval v)

namespace Within
variable {n m : Nat} {e : Expr}

theorem mono (h : Within n e) (hle : n ≤ m) : Within m e := by
  induction h generalizing m with
  | @node n e _ ih =>
    obtain ⟨k, rfl⟩ : ∃ k, m = k + 1 := ⟨m - 1, by omega⟩
    exact .node fun child hchild => ih child hchild (by omega)

theorem length_le (h : Within n e) {path : List Expr} (hpath : Branch e path) : path.length ≤ n := by
  induction hpath generalizing n with
  | leaf =>
    cases h
    simp
  | step hchild _ ih =>
    cases h with
    | node hchildren =>
      have hrest := ih (hchildren _ hchild)
      rw [List.length_cons]
      omega

theorem literal (v : Scalar) : Within 1 (.literal v) := .node fun _ h => by cases h

theorem not (h : Within n e) : Within (n + 1) (.not e) := by
  refine .node fun child hchild => ?_
  obtain rfl := List.mem_singleton.mp hchild
  exact h

theorem chain {c : Connective} {es : List Expr} (h : ∀ e ∈ es, Within n e) :
    Within (n + 1) (.chain c es) := .node h

theorem compare {op : Comparison} {l r : Expr} (hl : Within n l) (hr : Within n r) :
    Within (n + 1) (.compare op l r) := by
  refine .node fun child hchild => ?_
  obtain rfl | hchild := List.mem_cons.mp hchild
  · exact hl
  · obtain rfl := List.mem_singleton.mp hchild
    exact hr

theorem evalChainBy_eq {eval? : Expr → Option (Except Error Scalar)} (c : Connective)
    {es : List Expr} (h : ∀ e ∈ es, eval? e = some e.eval) :
    evalChainBy eval? c es = some (evalOperands c es) := by
  induction es with
  | nil => rfl
  | cons e es ih =>
    have hrest := ih fun e he => h e (List.mem_cons_of_mem _ he)
    rw [evalChainBy, evalOperands_cons, h e List.mem_cons_self, Option.bind_some, hrest]
    cases e.eval with
    | error err => rfl
    | ok v =>
      rw [bind_ok]
      dsimp only
      split <;> rfl

/-- With a call for each node of a way down, the evaluation comes to its end. -/
theorem evalWithin_eq (h : Within n e) : evalWithin n e = some e.eval := by
  induction h with
  | @node n e _ ih =>
    cases e with
    | literal v => rfl
    | not e =>
      rw [evalWithin, ih e List.mem_cons_self, Option.map_some, eval_not]
    | chain c es =>
      have hes : ∀ e ∈ es, evalWithin n e = some e.eval := ih
      rw [evalWithin, evalChainBy_eq c hes, Expr.eval]
    | compare op l r =>
      have hr := ih r (List.mem_cons_of_mem _ List.mem_cons_self)
      rw [evalWithin, ih l List.mem_cons_self, Option.bind_some, eval_compare]
      cases l.eval with
      | error err => rfl
      | ok v =>
        dsimp only
        rw [hr, Option.map_some, bind_ok]

end Within
end Expr

/-- How many nodes the way down to a value takes at each level, where nothing is nested. -/
def Level.steps : Level → Nat
  | primary | unary => 1
  | comparison => 2
  | chain .and => 3
  | chain .or => 4

theorem Level.steps_chain (c : Connective) : (Level.chain c).steps = c.operandLevel.steps + 1 := by
  cases c <;> rfl

mutual

/-- Each parenthesis and each negation around a lexeme makes room for three nodes more. -/
theorem Phrase.within {l : Level} : ∀ p : Phrase l, p.tree.Within (3 * p.nesting + l.steps)
  | .value v => .literal v
  | .group p => p.within.mono (by simp only [Phrase.nesting, Level.steps]; omega)
  | .plain p => p.within
  | .not p => p.within.not.mono (by simp only [Phrase.nesting, Level.steps]; omega)
  | .single p => p.within.mono (by simp only [Phrase.nesting, Level.steps]; omega)
  | .compare op p q => by
    have hbound : ∀ k, k ≤ max p.nesting q.nesting →
        3 * k + Level.unary.steps ≤ 3 * max p.nesting q.nesting + 1 := by
      intro k hk
      simp only [Level.steps]
      omega
    have hp := p.within.mono (hbound _ (Nat.le_max_left _ _))
    have hq := q.within.mono (hbound _ (Nat.le_max_right _ _))
    exact .compare hp hq
  | .chain c first .nil => by
    refine first.within.mono ?_
    simp only [Phrase.nesting, Level.steps_chain]
    omega
  | .chain c first (.cons p more) => by
    have htail := (Tail.cons p more).within
    have hbound : ∀ k, k ≤ max first.nesting (Tail.cons p more).nesting →
        3 * k + c.operandLevel.steps ≤
          3 * max first.nesting (Tail.cons p more).nesting + c.operandLevel.steps := by omega
    rw [Phrase.nesting, Level.steps_chain]
    refine .chain fun e he => ?_
    obtain rfl | he := List.mem_cons.mp he
    · exact first.within.mono (hbound _ (Nat.le_max_left _ _))
    · exact (htail e he).mono (hbound _ (Nat.le_max_right _ _))

theorem Tail.within {c : Connective} :
    ∀ m : Tail c, ∀ e ∈ m.trees, e.Within (3 * m.nesting + c.operandLevel.steps)
  | .nil => fun e he => by cases he
  | .cons p more => fun e he => by
    rw [Tail.nesting]
    obtain rfl | he := List.mem_cons.mp he
    · exact p.within.mono (by omega)
    · exact (more.within e he).mono (by omega)

end

theorem within_of_parse {limit : Nat} {s : Text} {e : Expr} (h : parse limit s = .ok e) :
    e.Within (3 * limit + 4) := by
  obtain ⟨ls, -, p, -, hdeep, rfl⟩ := phrase_of_parse h
  refine p.within.mono ?_
  simp only [Level.steps]
  omega

section Towers

/-- An operand with a comparison, a conjunction and a disjunction on top of it. -/
def crown (p : Phrase .unary) : Phrase (.chain .or) :=
  .chain .or
    (.chain .and (.compare .eq p (.plain (.value .null)))
      (.cons (.single (.plain (.value .null))) .nil))
    (.cons (.chain .and (.single (.plain (.value .null))) .nil) .nil)

/-- Crowned groups, one inside the other. -/
def towerPhrase : Nat → Phrase (.chain .or)
  | 0 => crown (.plain (.value .null))
  | n + 1 => crown (.plain (.group (towerPhrase n)))

def crownText : Text := "==null&&null||null".toList

def towerText : Nat → Text
  | 0 => "null".toList ++ crownText
  | n + 1 => '(' :: (towerText n ++ ')' :: crownText)

example : towerText 1 = "(null==null&&null||null)==null&&null||null".toList := rfl

def crownTokens : List Token :=
  [.compare .eq, .value .null, .connective .and, .value .null, .connective .or, .value .null]

theorem tokens_crown (p : Phrase .unary) : (crown p).tokens = p.tokens ++ crownTokens := by
  simp [crown, crownTokens, Phrase.tokens, Tail.tokens]

theorem nesting_crown (p : Phrase .unary) : (crown p).nesting = p.nesting := by
  simp only [crown, Phrase.nesting, Tail.nesting]
  omega

theorem yields_crownText : Yields crownText crownTokens [] := by
  have hor : Yields "||null".toList [.connective .or, .value .null] [] :=
    .token (by decide) (fun _ => rfl) (.token (by decide) (fun _ => rfl) .done)
  have hand : Yields "&&null||null".toList
      ([.connective .and, .value .null] ++ [.connective .or, .value .null]) [] :=
    .token (by decide) (fun _ => rfl) (.token (by decide) (fun _ => rfl) hor)
  exact .token (by decide) (fun _ => rfl) (.token (by decide) (fun _ => rfl) hand)

theorem nesting_tower (n : Nat) : (towerPhrase n).nesting = n := by
  induction n with
  | zero => rw [towerPhrase, nesting_crown]; rfl
  | succ n ih => rw [towerPhrase, nesting_crown, Phrase.nesting, Phrase.nesting, ih]

theorem yields_tower (n : Nat) : Yields (towerText n) (towerPhrase n).tokens [] := by
  induction n with
  | zero =>
    have hnull : Yields (towerText 0) [.value .null] crownText :=
      .token (by decide) (fun _ => rfl) .done
    have hall := hnull.trans yields_crownText
    rwa [towerPhrase, tokens_crown]
  | succ n ih =>
    obtain ⟨ls, hls, hkinds⟩ := ih.lex_eq
    have hall := (yields_group hls crownText).trans yields_crownText
    rw [hkinds] at hall
    rwa [towerPhrase, tokens_crown]

theorem parse_tower (n : Nat) : parse n (towerText n) = .ok (towerPhrase n).tree :=
  parse_of_phrase (yields_tower n) _ rfl (Nat.le_of_eq (nesting_tower n))

/-- The crown adds three nodes to a way down. -/
theorem branch_crown {p : Phrase .unary} {path : List Expr} (h : p.tree.Branch path) :
    ∃ path', (crown p).tree.Branch path' ∧ path'.length = path.length + 3 := by
  let comparison : Expr := .compare .eq p.tree (.literal .null)
  let conjunction : Expr := .chain .and [comparison, .literal .null]
  have hcomparison : comparison.Branch (comparison :: path) := .step List.mem_cons_self h
  have hconjunction : conjunction.Branch (conjunction :: comparison :: path) :=
    .step List.mem_cons_self hcomparison
  have htree : (crown p).tree = .chain .or [conjunction, .literal .null] := rfl
  rw [htree]
  exact ⟨_, .step List.mem_cons_self hconjunction, rfl⟩

theorem branch_tower (n : Nat) :
    ∃ path, (towerPhrase n).tree.Branch path ∧ path.length = 3 * n + 4 := by
  induction n with
  | zero =>
    have hleaf : (Expr.literal .null).Branch [.literal .null] := .leaf rfl
    exact branch_crown (p := .plain (.value .null)) hleaf
  | succ n ih =>
    obtain ⟨path, hpath, hlength⟩ := ih
    obtain ⟨path', hpath', hlength'⟩ := branch_crown (p := .plain (.group (towerPhrase n))) hpath
    exact ⟨path', hpath', by omega⟩

end Towers

/-- The limit on nesting bounds the nodes on each way down a tree and the open calls of its evaluation,
however long the text is. No smaller bound would do. -/
theorem height_bounded (limit : Nat) :
    (∀ s e, parse limit s = .ok e →
      (∀ path, e.Branch path → path.length ≤ 3 * limit + 4) ∧
      e.evalWithin (3 * limit + 4) = some e.eval) ∧
    ∃ s e path, parse limit s = .ok e ∧ e.Branch path ∧ path.length = 3 * limit + 4 := by
  constructor
  · intro s e h
    have hwithin := within_of_parse h
    exact ⟨fun path hpath => hwithin.length_le hpath, hwithin.evalWithin_eq⟩
  · obtain ⟨path, hpath, hlength⟩ := branch_tower limit
    exact ⟨towerText limit, (towerPhrase limit).tree, path, parse_tower limit, hpath, hlength⟩

/-- A negation and a group side by side, with a chain in the group. -/
theorem height_bounded_grouped :
    ∃ e, parse 1 "!'x'||(true&&null)==false".toList = .ok e ∧
      (∀ path, e.Branch path → path.length ≤ 7) ∧
      e.evalWithin 7 = some (.ok (.boolean true)) := by
  have hparse : parse 1 "!'x'||(true&&null)==false".toList = .ok
      (.chain .or [.not (.literal (.string ['x'])), .compare .eq
        (.chain .and [.literal (.boolean true), .literal .null]) (.literal (.boolean false))]) := by
    with_unfolding_all rfl
  obtain ⟨hpath, heval⟩ := (height_bounded 1).1 _ _ hparse
  exact ⟨_, hparse, hpath, heval⟩

end TurnRouter.Condition
