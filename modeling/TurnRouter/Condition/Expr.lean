import TurnRouter.Condition.Error

/-! # Condition trees and their values

The operands of one chain of the same connective stand side by side, however many they are.
They are evaluated in order, and the first that settles the chain or fails ends it.
-/
namespace TurnRouter.Condition

inductive Expr
  | literal (v : Scalar)
  | not (e : Expr)
  | chain (c : Connective) (operands : List Expr)
  | compare (op : Comparison) (left right : Expr)

def Comparison.eval (op : Comparison) (l r : Scalar) : Except Error Scalar :=
  match op.outcome? l r with
  | some b => .ok (.boolean b)
  | none => .error (.typeMismatch op l.kind r.kind)

mutual

def Expr.eval : Expr → Except Error Scalar
  | .literal v => .ok v
  | .not e =>
    match e.eval with
    | .ok v => .ok (.boolean !v.isTruthy)
    | .error err => .error err
  | .chain c es => evalOperands c es
  | .compare op l r =>
    match l.eval with
    | .error err => .error err
    | .ok v =>
      match r.eval with
      | .error err => .error err
      | .ok w => op.eval v w

def evalOperands (c : Connective) : List Expr → Except Error Scalar
  | [] => .ok (.boolean !c.decisive)
  | e :: es =>
    match e.eval with
    | .error err => .error err
    | .ok v => if v.isTruthy = c.decisive then .ok (.boolean c.decisive) else evalOperands c es

end

end TurnRouter.Condition
