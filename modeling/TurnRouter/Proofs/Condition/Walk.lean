import TurnRouter.Proofs.Condition.Grammar

/-! # A parser with counters

A parser may keep its place among the lexemes as a position, and count up where a negation or a
group begins and down where it ends. Its calls stand on a stack of some height, and a run that needs
a higher one comes to nothing.
-/
namespace TurnRouter.Condition

structure Counters where
  position : Nat
  /-- The negations and groups that have begun and not ended. -/
  depth : Nat
  /-- All that the depth was set to, the latest first. -/
  depths : List Nat

def Counters.advance (s : Counters) : Counters := { s with position := s.position + 1 }

def Counters.setDepth (s : Counters) (depth : Nat) : Counters :=
  ⟨s.position, depth, depth :: s.depths⟩

/-- A run over the lexemes that counts, if the stack is high enough for it. -/
abbrev Walk := ExceptT Error (StateT Counters Option)

namespace Walk

section Moves
variable (limit : Nat) (ts : List Lexeme)

def peek : Walk (Option Lexeme) := return ts[(← get).position]?

def advance : Walk Unit := modify Counters.advance

def next : Walk Lexeme := do
  match ← peek ts with
  | none => throw .unexpectedEnd
  | some t =>
    advance
    return t

/-- Passes over the next lexeme if it is this token, and says whether it was. -/
def eat (token : Token) : Walk Bool := do
  if (← peek ts).map Lexeme.token = some token then
    advance
    return true
  else return false

def enter : Walk Unit := do
  modify fun s => s.setDepth (s.depth + 1)
  if limit < (← get).depth then throw (.tooDeep limit)

def leave : Walk Unit := modify fun s => s.setDepth (s.depth - 1)

def overflow {α : Type} : Walk α := ExceptT.mk fun _ => none

mutual

/-- Takes a phrase of a level. -/
def call : Nat → Level → Walk Expr
  | 0, _ => overflow
  | stack + 1, .chain c => do
    let first ← call stack c.operandLevel
    let more ← callMore stack c
    return chainTree c first more
  | stack + 1, .comparison => do
    let left ← call stack .unary
    match (← peek ts).bind (·.token.comparison?) with
    | none => return left
    | some op =>
      advance
      let right ← call stack .unary
      return .compare op left right
  | stack + 1, .unary => do
    if ← eat ts .not then
      enter limit
      let e ← call stack .unary
      leave
      return .not e
    else call stack .primary
  | stack + 1, .primary => do
    let t ← next ts
    match t.token with
    | .value v => return .literal v
    | .opening =>
      enter limit
      let e ← call stack (.chain .or)
      leave
      let u ← next ts
      if u.token = .closing then return e else throw (.unexpectedToken u.token u.offset)
    | found => throw (.unexpectedToken found t.offset)

/-- Takes the operands that follow the first of a chain. -/
def callMore : Nat → Connective → Walk (List Expr)
  | 0, _ => overflow
  | stack + 1, c => do
    if ← eat ts (.connective c) then
      let e ← call stack c.operandLevel
      let more ← callMore stack c
      return e :: more
    else return []

end

end Moves

variable {α β : Type}

/-- What a run comes to from some counters, and what it makes of them. -/
def result (m : Walk α) (s : Counters) : Option (Except Error α × Counters) := m.run.run s

theorem result_bind (m : Walk α) (f : α → Walk β) (s : Counters) :
    (m >>= f).result s = (m.result s).bind fun
      | (.ok a, t) => (f a).result t
      | (.error e, t) => some (.error e, t) := by
  simp only [result, ExceptT.run_bind, StateT.run_bind]
  cases m.run.run s with
  | none => rfl
  | some r => obtain ⟨e | a, t⟩ := r <;> rfl

theorem result_bind_ok {m : Walk α} {f : α → Walk β} {s t : Counters} {a : α}
    (h : m.result s = some (.ok a, t)) : (m >>= f).result s = (f a).result t := by
  rw [result_bind, h]
  rfl

theorem result_bind_error {m : Walk α} {f : α → Walk β} {s t : Counters} {e : Error}
    (h : m.result s = some (.error e, t)) : (m >>= f).result s = some (.error e, t) := by
  rw [result_bind, h]
  rfl

section Depth
variable {limit : Nat} {s : Counters}

theorem result_enter_of_lt (h : s.depth < limit) :
    (enter limit).result s = some (.ok (), s.setDepth (s.depth + 1)) := by
  change (if limit < s.depth + 1 then throw (.tooDeep limit) else pure () : Walk Unit).result
    (s.setDepth (s.depth + 1)) = _
  rw [if_neg (Nat.not_lt_of_le h)]
  rfl

theorem result_enter_of_eq (h : s.depth = limit) :
    (enter limit).result s = some (.error (.tooDeep limit), s.setDepth (s.depth + 1)) := by
  change (if limit < s.depth + 1 then throw (.tooDeep limit) else pure () : Walk Unit).result
    (s.setDepth (s.depth + 1)) = _
  rw [if_pos (h ▸ Nat.lt_succ_self s.depth)]
  rfl

theorem result_leave : leave.result s = some (.ok (), s.setDepth (s.depth - 1)) := rfl

end Depth

section Lookahead
variable {ts us : List Lexeme} {t : Lexeme} {s : Counters}

theorem drop_eq_cons {n : Nat} (h : ts.drop n = t :: us) :
    ts[n]? = some t ∧ ts.drop (n + 1) = us ∧ n < ts.length := by
  have hlt : n < ts.length := by
    refine Nat.lt_of_not_le fun hle => ?_
    rw [List.drop_of_length_le hle] at h
    cases h
  rw [List.drop_eq_getElem_cons hlt] at h
  cases h
  exact ⟨List.getElem?_eq_getElem hlt, rfl, hlt⟩

theorem drop_advance (h : ts.drop s.position = t :: us) : ts.drop s.advance.position = us :=
  (drop_eq_cons h).2.1

theorem result_peek : (peek ts).result s = some (.ok ts[s.position]?, s) := rfl

theorem result_next_nil (h : ts.drop s.position = []) :
    (next ts).result s = some (.error .unexpectedEnd, s) := by
  have hnone : ts[s.position]? = none := List.getElem?_eq_none (List.drop_eq_nil_iff.mp h)
  rw [next, result_bind_ok result_peek, hnone]
  rfl

theorem result_next_cons (h : ts.drop s.position = t :: us) :
    (next ts).result s = some (.ok t, s.advance) := by
  rw [next, result_bind_ok result_peek, (drop_eq_cons h).1]
  rfl

theorem eat_cases (ts : List Lexeme) (token : Token) (s : Counters) :
    (∃ t us, ts.drop s.position = t :: us ∧ t.token = token ∧
      (eat ts token).result s = some (.ok true, s.advance)) ∨
    (∀ t ∈ (ts.drop s.position).head?, t.token ≠ token) ∧
      (eat ts token).result s = some (.ok false, s) := by
  by_cases h : ts[s.position]?.map Lexeme.token = some token
  · obtain ⟨t, ht, htoken⟩ := Option.map_eq_some_iff.mp h
    rw [← List.head?_drop] at ht
    obtain ⟨us, hdrop⟩ := List.head?_eq_some_iff.mp ht
    refine .inl ⟨t, us, hdrop, htoken, ?_⟩
    rw [eat, result_bind_ok result_peek, if_pos h]
    rfl
  · refine .inr ⟨fun t ht htoken => h ?_, ?_⟩
    · rw [← List.head?_drop]
      exact Option.map_eq_some_iff.mpr ⟨t, ht, htoken⟩
    · rw [eat, result_bind_ok result_peek, if_neg h]
      rfl

end Lookahead

end Walk
end TurnRouter.Condition
