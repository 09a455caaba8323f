import TurnRouter.Condition.Expr
import TurnRouter.Condition.Lexer

/-! # From lexemes to a condition tree

A disjunction is a chain of conjunctions, a conjunction a chain of comparisons, a comparison
one or two operands, and an operand a value, a negated operand or a disjunction in parentheses.
Negations and parentheses around a lexeme use up `room`; the parser recurs on it. Every success
leaves fewer lexemes than it was given, which bounds the chains.
-/
namespace TurnRouter.Condition

structure Step (ts : List Lexeme) where
  tree : Expr
  rest : List Lexeme
  rest_lt : rest.length < ts.length

abbrev Parser := (ts : List Lexeme) → Except Error (Step ts)

/-- Further operands of a chain; there may be none. -/
structure Operands (ts : List Lexeme) where
  trees : List Expr
  rest : List Lexeme
  rest_le : rest.length ≤ ts.length

namespace Step
variable {ts : List Lexeme}

theorem lt_cons (s : Step ts) (t : Lexeme) : s.rest.length < (t :: ts).length :=
  Nat.lt_succ_of_lt s.rest_lt

/-- A step over a longer list of lexemes. -/
def widen {us : List Lexeme} (s : Step ts) (h : ts.length ≤ us.length) : Step us :=
  ⟨s.tree, s.rest, Nat.lt_of_lt_of_le s.rest_lt h⟩

def mapTree (f : Expr → Expr) (s : Step ts) : Step ts := ⟨f s.tree, s.rest, s.rest_lt⟩

theorem le_of_rest_eq_cons {s : Step ts} {t : Lexeme} {us : List Lexeme} (h : s.rest = t :: us) :
    us.length ≤ ts.length := by
  have := s.rest_lt
  rw [h, List.length_cons] at this
  omega

end Step

namespace Operands
variable {ts : List Lexeme}

def none (ts : List Lexeme) : Operands ts := ⟨[], ts, Nat.le_refl _⟩

/-- The operand of one step, and those after it. -/
def cons (t : Lexeme) (s : Step ts) (more : Operands s.rest) : Operands (t :: ts) :=
  ⟨s.tree :: more.trees, more.rest, Nat.le_trans more.rest_le (Nat.le_of_lt (s.lt_cons t))⟩

end Operands

def operands (c : Connective) (operand : Parser) (ts : List Lexeme) : Except Error (Operands ts) :=
  match ts with
  | [] => .ok (.none [])
  | t :: ts =>
    if t.token = .connective c then
      match operand ts with
      | .error e => .error e
      | .ok s =>
        match operands c operand s.rest with
        | .error e => .error e
        | .ok more => .ok (.cons t s more)
    else .ok (.none (t :: ts))
termination_by ts.length
decreasing_by exact s.lt_cons t

/-- A single operand is no chain. -/
def chainTree (c : Connective) (first : Expr) (more : List Expr) : Expr :=
  match more with
  | [] => first
  | more => .chain c (first :: more)

def Step.chain {ts : List Lexeme} (c : Connective) (s : Step ts) (more : Operands s.rest) : Step ts :=
  ⟨chainTree c s.tree more.trees, more.rest, Nat.lt_of_le_of_lt more.rest_le s.rest_lt⟩

def chain (c : Connective) (operand : Parser) : Parser := fun ts =>
  match operand ts with
  | .error e => .error e
  | .ok s => (operands c operand s.rest).map (s.chain c)

def Token.comparison? : Token → Option Comparison
  | compare op => some op
  | _ => none

def comparison (operand : Parser) : Parser := fun ts =>
  match operand ts with
  | .error e => .error e
  | .ok left =>
    match h : left.rest with
    | [] => .ok left
    | t :: us =>
      match t.token.comparison? with
      | none => .ok left
      | some op =>
        (operand us).map fun right =>
          (right.mapTree (.compare op left.tree)).widen (Step.le_of_rest_eq_cons h)

def disjunction (operand : Parser) : Parser := chain .or (chain .and (comparison operand))

/-- The closing parenthesis after a group. -/
def Step.close {ts : List Lexeme} (t : Lexeme) (s : Step ts) : Except Error (Step (t :: ts)) :=
  match h : s.rest with
  | [] => .error .unexpectedEnd
  | u :: us =>
    if u.token = .closing then .ok ⟨s.tree, us, Nat.lt_succ_of_le (Step.le_of_rest_eq_cons h)⟩
    else .error (.unexpectedToken u.token u.offset)

/-- An operand in which no lexeme has more than `room` negations and parentheses around it. -/
def operand (limit : Nat) (room : Nat) : Parser := fun ts =>
  match ts with
  | [] => .error .unexpectedEnd
  | t :: ts =>
    match t.token, room with
    | .value v, _ => .ok ⟨.literal v, ts, Nat.lt_succ_self _⟩
    | .not, 0 => .error (.tooDeep limit)
    | .not, room + 1 => (operand limit room ts).map fun s => (s.mapTree .not).widen (Nat.le_succ _)
    | .opening, 0 => .error (.tooDeep limit)
    | .opening, room + 1 =>
      match disjunction (operand limit room) ts with
      | .error e => .error e
      | .ok s => s.close t
    | found, _ => .error (.unexpectedToken found t.offset)

def parseLexemes (limit : Nat) (ts : List Lexeme) : Except Error Expr :=
  match disjunction (operand limit limit) ts with
  | .error e => .error e
  | .ok s =>
    match s.rest with
    | [] => .ok s.tree
    | t :: _ => .error (.trailingInput t.token t.offset)

/-- The tree of a text. `limit` bounds the negations and parentheses around any part of it. -/
def parse (limit : Nat) (s : Text) : Except Error Expr :=
  match lex s with
  | .error e => .error e
  | .ok ts => parseLexemes limit ts

def evaluate (limit : Nat) (s : Text) : Except Error Bool :=
  match parse limit s with
  | .error e => .error e
  | .ok e =>
    match e.eval with
    | .error err => .error err
    | .ok v => .ok v.isTruthy

end TurnRouter.Condition
