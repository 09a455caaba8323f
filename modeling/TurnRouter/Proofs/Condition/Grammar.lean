import TurnRouter.Condition.Parser

/-! # The grammar of conditions

The phrases of each level of the grammar, with the tokens they are written in, the tree they
stand for and their nesting. No two phrases of a level are written in the same tokens.
-/
namespace TurnRouter.Condition

/-- Levels from the tightest to the loosest; a chain has a connective between its operands. -/
inductive Level
  | primary
  | unary
  | comparison
  | chain (c : Connective)
deriving DecidableEq

def Connective.operandLevel : Connective → Level
  | and => .comparison
  | or => .chain .and

mutual

/-- The derivations of a level. A whole condition is a chain of `||`. -/
inductive Phrase : Level → Type
  | value (v : Scalar) : Phrase .primary
  | group (p : Phrase (.chain .or)) : Phrase .primary
  | plain (p : Phrase .primary) : Phrase .unary
  | not (p : Phrase .unary) : Phrase .unary
  | single (p : Phrase .unary) : Phrase .comparison
  | compare (op : Comparison) (l r : Phrase .unary) : Phrase .comparison
  | chain (c : Connective) (first : Phrase c.operandLevel) (more : Tail c) : Phrase (.chain c)

/-- Any number of further operands, each after its connective. -/
inductive Tail : Connective → Type
  | nil {c : Connective} : Tail c
  | cons {c : Connective} (p : Phrase c.operandLevel) (more : Tail c) : Tail c

end

mutual

def Phrase.tokens {l : Level} : Phrase l → List Token
  | .value v => [.value v]
  | .group p => .opening :: (p.tokens ++ [.closing])
  | .plain p => p.tokens
  | .not p => .not :: p.tokens
  | .single p => p.tokens
  | .compare op p q => p.tokens ++ .compare op :: q.tokens
  | .chain _ first more => first.tokens ++ more.tokens

def Tail.tokens {c : Connective} : Tail c → List Token
  | .nil => []
  | .cons p more => .connective c :: (p.tokens ++ more.tokens)

end

mutual

/-- The most negations and parentheses around one lexeme of a phrase. -/
def Phrase.nesting {l : Level} : Phrase l → Nat
  | .value _ => 0
  | .group p => p.nesting + 1
  | .plain p => p.nesting
  | .not p => p.nesting + 1
  | .single p => p.nesting
  | .compare _ p q => max p.nesting q.nesting
  | .chain _ first more => max first.nesting more.nesting

def Tail.nesting {c : Connective} : Tail c → Nat
  | .nil => 0
  | .cons p more => max p.nesting more.nesting

end

mutual

/-- The tree of a phrase: parentheses leave no trace, and a chain of two or more operands is one
node with all of them. -/
def Phrase.tree {l : Level} : Phrase l → Expr
  | .value v => .literal v
  | .group p => p.tree
  | .plain p => p.tree
  | .not p => .not p.tree
  | .single p => p.tree
  | .compare op p q => .compare op p.tree q.tree
  | .chain _ first .nil => first.tree
  | .chain c first (.cons p more) => .chain c (first.tree :: p.tree :: more.trees)

def Tail.trees {c : Connective} : Tail c → List Expr
  | .nil => []
  | .cons p more => p.tree :: more.trees

end

theorem Phrase.tree_chain {c : Connective} (first : Phrase c.operandLevel) (more : Tail c) :
    (Phrase.chain c first more).tree = chainTree c first.tree more.trees := by
  cases more <;> simp only [Phrase.tree, Tail.trees, chainTree]

/-- Whether a phrase of a level may go on with a token. -/
def Level.continues : Level → Token → Bool
  | comparison, .compare _ => true
  | chain _, .compare _ => true
  | chain .and, .connective .and => true
  | chain .or, .connective _ => true
  | _, _ => false

/-- What stands after a phrase does not go on with it. -/
def Level.Ends (l : Level) (rest : List Token) : Prop := ∀ t ∈ rest.head?, l.continues t = false

namespace Level

@[simp] theorem ends_nil (l : Level) : l.Ends [] := fun _ h => by cases h
theorem ends_primary (rest : List Token) : primary.Ends rest := fun _ _ => rfl
theorem ends_unary (rest : List Token) : unary.Ends rest := fun _ _ => rfl
@[simp] theorem ends_closing (l : Level) (rest : List Token) : l.Ends (.closing :: rest) := by
  rintro t ⟨⟩
  cases l with
  | chain c => cases c <;> rfl
  | _ => rfl

theorem not_ends_compare (op : Comparison) (rest : List Token) :
    ¬comparison.Ends (.compare op :: rest) := fun h => nomatch h _ rfl

theorem not_ends_connective (c : Connective) (rest : List Token) :
    ¬(chain c).Ends (.connective c :: rest) := by
  intro h
  cases c <;> exact nomatch h _ rfl

/-- What ends a chain also ends its last operand, and so does the connective before another. -/
theorem Ends.operand {c : Connective} {rest : List Token} (h : (chain c).Ends rest)
    (more : Tail c) : c.operandLevel.Ends (more.tokens ++ rest) := by
  cases more with
  | nil =>
    intro t ht
    have := h t ht
    revert this
    cases c <;> cases t <;> simp [Connective.operandLevel, continues]
  | cons p more =>
    rintro t ⟨⟩
    cases c <;> rfl

end Level

mutual

/-- Two phrases of a level that a text may start with are one, if what follows ends them. -/
theorem Phrase.eq_of_tokens {l : Level} {rest rest' : List Token} (hr : l.Ends rest)
    (hr' : l.Ends rest') : ∀ p p' : Phrase l, p.tokens ++ rest = p'.tokens ++ rest' →
      p = p' ∧ rest = rest'
  | .value v, p', h => by
    cases p' with
    | value v' =>
      obtain ⟨hv, hrest⟩ := List.cons_eq_cons.mp h
      cases hv
      exact ⟨rfl, hrest⟩
    | group p' => simp [Phrase.tokens] at h
  | .group p, p', h => by
    cases p' with
    | value v' => simp [Phrase.tokens] at h
    | group p' =>
      simp only [Phrase.tokens, List.cons_append, List.append_assoc, List.cons.injEq, true_and] at h
      obtain ⟨rfl, hrest⟩ := Phrase.eq_of_tokens (Level.ends_closing _ _) (Level.ends_closing _ _) p p' h
      exact ⟨rfl, List.tail_eq_of_cons_eq hrest⟩
  | .plain p, p', h => by
    cases p' with
    | plain p' =>
      obtain ⟨rfl, hrest⟩ := Phrase.eq_of_tokens (Level.ends_primary _) (Level.ends_primary _) p p' h
      exact ⟨rfl, hrest⟩
    | not p' => cases p <;> simp [Phrase.tokens] at h
  | .not p, p', h => by
    cases p' with
    | plain p' => cases p' <;> simp [Phrase.tokens] at h
    | not p' =>
      obtain ⟨rfl, hrest⟩ := Phrase.eq_of_tokens (Level.ends_unary _) (Level.ends_unary _) p p'
        (List.tail_eq_of_cons_eq h)
      exact ⟨rfl, hrest⟩
  | .single p, p', h => by
    cases p' with
    | single p' =>
      obtain ⟨rfl, hrest⟩ := Phrase.eq_of_tokens (Level.ends_unary _) (Level.ends_unary _) p p' h
      exact ⟨rfl, hrest⟩
    | compare op' p' q' =>
      simp only [Phrase.tokens, List.append_assoc, List.cons_append] at h
      obtain ⟨-, rfl⟩ := Phrase.eq_of_tokens (Level.ends_unary _) (Level.ends_unary _) p p' h
      exact absurd hr (Level.not_ends_compare _ _)
  | .compare op p q, p', h => by
    cases p' with
    | single p' =>
      simp only [Phrase.tokens, List.append_assoc, List.cons_append] at h
      obtain ⟨-, rfl⟩ := Phrase.eq_of_tokens (Level.ends_unary _) (Level.ends_unary _) p p' h
      exact absurd hr' (Level.not_ends_compare _ _)
    | compare op' p' q' =>
      simp only [Phrase.tokens, List.append_assoc, List.cons_append] at h
      obtain ⟨rfl, hmore⟩ := Phrase.eq_of_tokens (Level.ends_unary _) (Level.ends_unary _) p p' h
      obtain ⟨hop, hq⟩ := List.cons_eq_cons.mp hmore
      cases hop
      obtain ⟨rfl, hrest⟩ := Phrase.eq_of_tokens (Level.ends_unary _) (Level.ends_unary _) q q' hq
      exact ⟨rfl, hrest⟩
  | .chain c first more, p', h => by
    cases p' with
    | chain _ first' more' =>
      simp only [Phrase.tokens, List.append_assoc] at h
      obtain ⟨rfl, hmore⟩ := Phrase.eq_of_tokens (hr.operand more) (hr'.operand more') first first' h
      obtain ⟨rfl, hrest⟩ := Tail.eq_of_tokens hr hr' more more' hmore
      exact ⟨rfl, hrest⟩

theorem Tail.eq_of_tokens {c : Connective} {rest rest' : List Token} (hr : (Level.chain c).Ends rest)
    (hr' : (Level.chain c).Ends rest') : ∀ m m' : Tail c, m.tokens ++ rest = m'.tokens ++ rest' →
      m = m' ∧ rest = rest'
  | .nil, m', h => by
    cases m' with
    | nil => exact ⟨rfl, h⟩
    | cons p' more' =>
      simp only [Tail.tokens, List.nil_append, List.cons_append] at h
      exact absurd (h ▸ hr) (Level.not_ends_connective _ _)
  | .cons p more, m', h => by
    cases m' with
    | nil =>
      simp only [Tail.tokens, List.nil_append, List.cons_append] at h
      exact absurd (h ▸ hr') (Level.not_ends_connective _ _)
    | cons p' more' =>
      simp only [Tail.tokens, List.cons_append, List.append_assoc, List.cons.injEq, true_and] at h
      obtain ⟨rfl, hmore⟩ := Phrase.eq_of_tokens (hr.operand more) (hr'.operand more') p p' h
      obtain ⟨rfl, hrest⟩ := Tail.eq_of_tokens hr hr' more more' hmore
      exact ⟨rfl, hrest⟩

end

end TurnRouter.Condition
