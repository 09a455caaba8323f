import TurnRouter.Condition.Parser
import TurnRouter.Rule.Resolve

/-! # Checking rules

A rule is split, resolved and evaluated. An empty rule holds for no turn. A report keeps what
each stage made, and its verdict is that of the check.
-/
namespace TurnRouter.Rule

inductive Error
  | segments (e : Unterminated)
  | condition (e : Condition.Error)
deriving DecidableEq

def Error.message : Error → Text
  | segments e => "tokenize error: ".toList ++ e.message
  | condition e => "evaluation error: ".toList ++ e.message

def evaluate (opts : Options) (resolved : Text) : Except Error Bool :=
  (Condition.evaluate opts.maxDepth resolved).mapError .condition

/-- Whether a rule holds in a context. -/
def check (ctx : Context) (opts : Options) (rule : Text) : Except Error Bool :=
  if rule = [] then .ok false
  else
    match segments rule with
    | .error e => .error (.segments e)
    | .ok segs => evaluate opts (resolve ctx opts segs)

theorem check_of_segments {ctx : Context} {opts : Options} {rule : Text} {segs : List Segment}
    (hne : rule ≠ []) (hrule : segments rule = .ok segs) :
    check ctx opts rule = evaluate opts (resolve ctx opts segs) := by
  rw [check, if_neg hne, hrule]

/-- A rule says the same wherever the condition that it resolves to comes out the same. -/
theorem check_congr {ctx ctx' : Context} {opts opts' : Options} {rule : Text}
    (h : ∀ segs, rule ≠ [] → segments rule = .ok segs →
      evaluate opts (resolve ctx opts segs) = evaluate opts' (resolve ctx' opts' segs)) :
    check ctx opts rule = check ctx' opts' rule := by
  unfold check
  split
  · rfl
  · next hne =>
    split
    · rfl
    · next segs hrule => exact h segs hne hrule

structure Report where
  rule : Text
  /-- None if the rule could not be split. -/
  segments : List Segment
  /-- The resolved text, if a condition was evaluated. -/
  resolved : Option Text
  verdict : Except Error Bool

def report (ctx : Context) (opts : Options) (rule : Text) : Report :=
  if rule = [] then ⟨rule, [], none, .ok false⟩
  else
    match segments rule with
    | .error e => ⟨rule, [], none, .error (.segments e)⟩
    | .ok segs =>
      let resolved := resolve ctx opts segs
      ⟨rule, segs, some resolved, evaluate opts resolved⟩

theorem verdict_report (ctx : Context) (opts : Options) (rule : Text) :
    (report ctx opts rule).verdict = check ctx opts rule := by
  unfold report check
  split
  · rfl
  · split <;> simp_all

namespace Report

def matched (r : Report) : Option Bool := r.verdict.toOption
def error (r : Report) : Option Text :=
  match r.verdict with
  | .ok _ => none
  | .error e => some e.message

def isMatch (r : Report) : Bool := r.matched == some true

end Report
end TurnRouter.Rule
