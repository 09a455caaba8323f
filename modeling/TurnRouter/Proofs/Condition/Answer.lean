import TurnRouter.Condition.Parser
import TurnRouter.Proofs.Outcome

/-! # Answers of the parser

What a parser answers, without the bounds that make it end: a tree and the lexemes after it.
There is one equation for each combinator, and later proofs use these alone. What holds between two
answers and is kept at each step, holds between two parsers of whole conditions (`Kept.condition`).
-/
namespace TurnRouter.Condition

namespace Parser
variable {parser : Parser}

def answer (parser : Parser) (ts : List Lexeme) : Except Error (Expr × List Lexeme) :=
  (parser ts).map fun s => (s.tree, s.rest)

theorem length_lt_of_answer {ts rest : List Lexeme} {e : Expr}
    (h : parser.answer ts = .ok (e, rest)) : rest.length < ts.length := by
  unfold answer at h
  cases hs : parser ts with
  | error err => rw [hs] at h; cases h
  | ok s => rw [hs] at h; cases h; exact s.rest_lt

/-- The further operands of a chain. -/
def further (c : Connective) (parser : Parser) (ts : List Lexeme) :
    Except Error (List Expr × List Lexeme) :=
  (operands c parser ts).map fun more => (more.trees, more.rest)

section Chains
variable {c : Connective} {t : Lexeme} {ts : List Lexeme}

theorem further_nil : further c parser [] = .ok ([], []) := by
  unfold further
  rw [operands]
  rfl

theorem further_of_ne (h : t.token ≠ .connective c) :
    further c parser (t :: ts) = .ok ([], t :: ts) := by
  unfold further
  rw [operands, if_neg h]
  rfl

theorem further_of_eq (h : t.token = .connective c) :
    further c parser (t :: ts) =
      (parser.answer ts).bind fun x => (further c parser x.2).map fun y => (x.1 :: y.1, y.2) := by
  unfold further
  rw [operands, if_pos h]
  unfold answer
  cases parser ts with
  | error err => rfl
  | ok s =>
    simp only [map_ok, bind_ok]
    cases operands c parser s.rest <;> rfl

/-- Induction along the further operands of a chain. -/
@[elab_as_elim]
theorem further_induction (c : Connective) (parser : Parser) {P : List Lexeme → Prop} (nil : P [])
    (other : ∀ t ts, t.token ≠ .connective c → P (t :: ts))
    (more : ∀ t ts, t.token = .connective c →
      (∀ e rest, parser.answer ts = .ok (e, rest) → P rest) → P (t :: ts))
    (ts : List Lexeme) : P ts := by
  induction hn : ts.length using Nat.strongRecOn generalizing ts with
  | _ n ih =>
    cases ts with
    | nil => exact nil
    | cons t ts =>
      by_cases ht : t.token = .connective c
      · refine more t ts ht fun e rest h => ih rest.length ?_ rest rfl
        have hlt := length_lt_of_answer h
        rw [← hn, List.length_cons]
        omega
      · exact other t ts ht

theorem answer_chain :
    (chain c parser).answer ts =
      (parser.answer ts).bind fun x =>
        (further c parser x.2).map fun y => (chainTree c x.1 y.1, y.2) := by
  unfold answer chain
  cases parser ts with
  | error err => rfl
  | ok s =>
    simp only [map_ok, bind_ok, further]
    cases operands c parser s.rest <;> rfl

end Chains

/-- What follows the left side of a comparison. -/
def comparisonAnswer (parser : Parser) (left : Expr) : List Lexeme → Except Error (Expr × List Lexeme)
  | [] => .ok (left, [])
  | t :: us =>
    match t.token.comparison? with
    | none => .ok (left, t :: us)
    | some op => (parser.answer us).map fun y => (.compare op left y.1, y.2)

theorem answer_comparison {ts : List Lexeme} :
    (comparison parser).answer ts =
      (parser.answer ts).bind fun x => comparisonAnswer parser x.1 x.2 := by
  unfold answer comparison
  cases parser ts with
  | error err => rfl
  | ok left =>
    obtain ⟨tree, rest, hlt⟩ := left
    cases rest with
    | nil => rfl
    | cons t us =>
      simp only [map_ok, bind_ok, comparisonAnswer, answer]
      cases t.token.comparison? with
      | none => rfl
      | some op => cases parser us <;> rfl

/-- The closing parenthesis after a group. -/
def closeAnswer (e : Expr) : List Lexeme → Except Error (Expr × List Lexeme)
  | [] => .error .unexpectedEnd
  | u :: us => if u.token = .closing then .ok (e, us) else .error (.unexpectedToken u.token u.offset)

theorem eq_of_closeAnswer {e e' : Expr} {ts rest : List Lexeme}
    (h : closeAnswer e ts = .ok (e', rest)) : e' = e ∧ ∃ u, u.token = .closing ∧ ts = u :: rest := by
  unfold closeAnswer at h
  split at h
  · cases h
  · next u us =>
    split at h
    · next hu => cases h; exact ⟨rfl, u, hu, rfl⟩
    · cases h

theorem map_close {t : Lexeme} {ts : List Lexeme} (s : Step ts) :
    (s.close t).map (fun s => (s.tree, s.rest)) = closeAnswer s.tree s.rest := by
  obtain ⟨tree, rest, hlt⟩ := s
  cases rest with
  | nil => rfl
  | cons u us =>
    simp only [Step.close, closeAnswer]
    split <;> rfl

variable {limit room : Nat} {t : Lexeme} {ts : List Lexeme}

theorem answer_operand_nil : (operand limit room).answer [] = .error .unexpectedEnd := by
  unfold answer operand
  rfl

theorem answer_operand_cons :
    (operand limit room).answer (t :: ts) =
      match t.token, room with
      | .value v, _ => .ok (.literal v, ts)
      | .not, 0 => .error (.tooDeep limit)
      | .not, room + 1 => ((operand limit room).answer ts).map fun x => (.not x.1, x.2)
      | .opening, 0 => .error (.tooDeep limit)
      | .opening, room + 1 =>
        ((disjunction (operand limit room)).answer ts).bind fun x => closeAnswer x.1 x.2
      | found, _ => .error (.unexpectedToken found t.offset) := by
  obtain ⟨token, source, offset⟩ := t
  unfold answer
  cases room with
  | zero => cases token <;> rfl
  | succ room =>
    cases token with
    | not => simp only [operand]; cases operand limit room ts <;> rfl
    | opening =>
      simp only [operand]
      cases disjunction (operand limit room) ts with
      | error err => rfl
      | ok s => exact map_close s
    | _ => rfl

/-- All the ways in which an operand is taken. -/
theorem answer_operand_eq_ok {e : Expr} {rest : List Lexeme}
    (h : (operand limit room).answer ts = .ok (e, rest)) :
    (∃ t v, ts = t :: rest ∧ t.token = .value v ∧ e = .literal v) ∨
    (∃ t us less e', ts = t :: us ∧ t.token = .not ∧ room = less + 1 ∧
      (operand limit less).answer us = .ok (e', rest) ∧ e = .not e') ∨
    (∃ t us less u, ts = t :: us ∧ t.token = .opening ∧ room = less + 1 ∧
      (disjunction (operand limit less)).answer us = .ok (e, u :: rest) ∧ u.token = .closing) := by
  cases ts with
  | nil => rw [answer_operand_nil] at h; cases h
  | cons t ts =>
    rw [answer_operand_cons] at h
    split at h
    · next v hv => cases h; exact .inl ⟨t, v, rfl, hv, rfl⟩
    · cases h
    · next less ht =>
      obtain ⟨x, hx, hy⟩ := map_eq_ok.mp h
      cases hy
      exact .inr (.inl ⟨t, ts, less, x.1, rfl, ht, rfl, hx, rfl⟩)
    · cases h
    · next less ht =>
      obtain ⟨x, hx, hy⟩ := bind_eq_ok.mp h
      obtain ⟨rfl, u, hu, hrest⟩ := eq_of_closeAnswer hy
      exact .inr (.inr ⟨t, ts, less, u, rfl, ht, rfl, by rw [hx, ← hrest], hu⟩)
    · cases h

theorem parseLexemes_eq :
    parseLexemes limit ts =
      ((disjunction (operand limit limit)).answer ts).bind fun x =>
        match x.2 with
        | [] => .ok x.1
        | t :: _ => .error (.trailingInput t.token t.offset) := by
  unfold answer parseLexemes
  cases disjunction (operand limit limit) ts <;> rfl

/-- Something that was read, and the lexemes after it. -/
abbrev Answer (α : Type) := Except Error (α × List Lexeme)

theorem map_eq_bind {α β : Type} (x : Answer α) (f : α → β) :
    x.map (fun a => (f a.1, a.2)) = x.bind fun a => .ok (f a.1, a.2) := by
  cases x <;> rfl

/-- A relation between two answers to the same lexemes that is kept at each step of the parser. The
first answer is given with so much room, the second one with as much or more. With one lexeme more in
front it is kept for what stands `behind` that, and with more room for what is `inside` it. -/
structure Kept (limit : Nat)
    (R : Nat → (α : Type) → List Lexeme → Answer α → Answer α → Prop) : Prop where
  ok : ∀ {room α} (a : α) ts, R room α ts (.ok (a, ts)) (.ok (a, ts))
  bind : ∀ {room α β ts x y} {f g : α × List Lexeme → Answer β}, R room α ts x y →
    (∀ a, x = .ok a → R room β a.2 (f a) (g a)) → R room β ts (x.bind f) (y.bind g)
  behind : ∀ {room α t ts x y}, R room α ts x y → R room α (t :: ts) x y
  inside : ∀ {room α t ts x y}, R room α ts x y → R (room + 1) α (t :: ts) x y
  unexpectedEnd : ∀ {room α}, R room α [] (.error .unexpectedEnd) (.error .unexpectedEnd)
  unexpectedToken : ∀ {room α t ts}, R room α (t :: ts)
    (.error (.unexpectedToken t.token t.offset)) (.error (.unexpectedToken t.token t.offset))
  tooDeep : ∀ {α t ts y}, R 0 α (t :: ts) (.error (.tooDeep limit)) y

namespace Kept
variable {limit : Nat} {R : Nat → (α : Type) → List Lexeme → Answer α → Answer α → Prop}

theorem map (hR : Kept limit R) {room : Nat} {α β : Type} {ts : List Lexeme} {x y : Answer α}
    (h : R room α ts x y) (f : α → β) :
    R room β ts (x.map fun a => (f a.1, a.2)) (y.map fun a => (f a.1, a.2)) := by
  rw [map_eq_bind, map_eq_bind]
  exact hR.bind h fun a _ => hR.ok (f a.1) a.2

section Combinators
variable {room : Nat} {p q : Parser}

theorem further (hR : Kept limit R) (h : ∀ ts, R room Expr ts (p.answer ts) (q.answer ts))
    (c : Connective) (ts : List Lexeme) :
    R room (List Expr) ts (further c p ts) (further c q ts) := by
  induction ts using further_induction c p with
  | nil =>
    rw [further_nil, further_nil]
    exact hR.ok [] []
  | other t ts ht =>
    rw [further_of_ne ht, further_of_ne ht]
    exact hR.ok [] (t :: ts)
  | more t ts ht ih =>
    rw [further_of_eq ht, further_of_eq ht]
    exact hR.behind (hR.bind (h ts) fun x hx => hR.map (ih x.1 x.2 hx) (x.1 :: ·))

theorem chain (hR : Kept limit R) (h : ∀ ts, R room Expr ts (p.answer ts) (q.answer ts))
    (c : Connective) (ts : List Lexeme) :
    R room Expr ts ((Condition.chain c p).answer ts) ((Condition.chain c q).answer ts) := by
  rw [answer_chain, answer_chain]
  exact hR.bind (h ts) fun x _ => hR.map (hR.further h c x.2) (chainTree c x.1)

theorem comparisonAnswer (hR : Kept limit R)
    (h : ∀ ts, R room Expr ts (p.answer ts) (q.answer ts)) (left : Expr) (ts : List Lexeme) :
    R room Expr ts (comparisonAnswer p left ts) (comparisonAnswer q left ts) := by
  cases ts with
  | nil => exact hR.ok left []
  | cons t us =>
    cases hop : t.token.comparison? with
    | none =>
      simp only [Parser.comparisonAnswer, hop]
      exact hR.ok left (t :: us)
    | some op =>
      simp only [Parser.comparisonAnswer, hop]
      exact hR.behind (hR.map (h us) (Expr.compare op left))

theorem comparison (hR : Kept limit R) (h : ∀ ts, R room Expr ts (p.answer ts) (q.answer ts))
    (ts : List Lexeme) :
    R room Expr ts ((Condition.comparison p).answer ts) ((Condition.comparison q).answer ts) := by
  rw [answer_comparison, answer_comparison]
  exact hR.bind (h ts) fun x _ => hR.comparisonAnswer h x.1 x.2

theorem disjunction (hR : Kept limit R) (h : ∀ ts, R room Expr ts (p.answer ts) (q.answer ts))
    (ts : List Lexeme) :
    R room Expr ts ((Condition.disjunction p).answer ts) ((Condition.disjunction q).answer ts) :=
  hR.chain (hR.chain (hR.comparison h) .and) .or ts

end Combinators

theorem closeAnswer (hR : Kept limit R) {room : Nat} (e : Expr) (ts : List Lexeme) :
    R room Expr ts (closeAnswer e ts) (closeAnswer e ts) := by
  unfold Parser.closeAnswer
  split
  · exact hR.unexpectedEnd
  · next u us =>
    split
    · exact hR.behind (hR.ok e us)
    · exact hR.unexpectedToken

/-- An operand is taken with more room as with less. -/
theorem operand (hR : Kept limit R) (limit' more : Nat) : ∀ (room : Nat) (ts : List Lexeme),
    R room Expr ts ((operand limit room).answer ts)
      ((Condition.operand limit' (room + more)).answer ts) := by
  intro room
  induction room using Nat.strongRecOn with
  | ind room ih =>
    intro ts
    cases ts with
    | nil =>
      rw [answer_operand_nil, answer_operand_nil]
      exact hR.unexpectedEnd
    | cons t ts =>
      rw [answer_operand_cons, answer_operand_cons]
      obtain ⟨token, source, offset⟩ := t
      cases token with
      | value v => exact hR.behind (hR.ok (Expr.literal v) ts)
      | not =>
        cases room with
        | zero => exact hR.tooDeep
        | succ less =>
          rw [Nat.succ_add]
          exact hR.inside (hR.map (ih less (Nat.lt_succ_self less) ts) Expr.not)
      | opening =>
        cases room with
        | zero => exact hR.tooDeep
        | succ less =>
          rw [Nat.succ_add]
          have hgroup := hR.disjunction (ih less (Nat.lt_succ_self less)) ts
          exact hR.inside (hR.bind hgroup fun x _ => hR.closeAnswer x.1 x.2)
      | _ => exact hR.unexpectedToken

/-- The parser of whole conditions reads the same with a higher limit. -/
theorem condition (hR : Kept limit R) {limit' : Nat} (h : limit ≤ limit') (ts : List Lexeme) :
    R limit Expr ts ((Condition.disjunction (Condition.operand limit limit)).answer ts)
      ((Condition.disjunction (Condition.operand limit' limit')).answer ts) := by
  obtain ⟨more, rfl⟩ := Nat.exists_eq_add_of_le h
  exact hR.disjunction (hR.operand (limit + more) more limit) ts

end Kept
end Parser
end TurnRouter.Condition
