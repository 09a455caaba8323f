import TurnRouter.Rule.Check

/-! # Dispatch over rules

The callbacks of the rules that hold are tried in order until one answers conclusively. A rule
that cannot be checked counts as one that does not hold; a callback that fails ends the search.
What a callback did to the shared state stays done, also when it fails.
-/
namespace TurnRouter

inductive CallbackError
  | unknownMethod (name : Text)
  | failed (message : Text)
  | session (e : InvalidPath)
  | other (message : Text)
deriving DecidableEq

def CallbackError.message : CallbackError → Text
  | unknownMethod name => "no method named '".toList ++ name ++ "' on this bot".toList
  | failed message => "callback failed: ".toList ++ message
  | session e => "session write failed: ".toList ++ e.message
  | other message => message

/-- Work on a shared state that may fail and leaves a state in either case. -/
abbrev Effect (σ : Type) := ExceptT CallbackError (StateM σ)

namespace Effect
variable {α β σ : Type}

/-- What work answers, and the state it leaves. -/
def result (m : Effect σ α) (s : σ) : Except CallbackError α × σ := m.run.run s

@[simp] theorem result_pure (a : α) (s : σ) : result (pure a) s = (.ok a, s) := rfl
@[simp] theorem result_throw (e : CallbackError) (s : σ) :
    result (throw e : Effect σ α) s = (.error e, s) := rfl

theorem result_bind (m : Effect σ α) (f : α → Effect σ β) (s : σ) :
    result (m >>= f) s =
      match result m s with
      | (.ok a, t) => result (f a) t
      | (.error e, t) => (.error e, t) := by
  simp only [result, ExceptT.run_bind, StateT.run_bind]
  rcases m.run.run s with ⟨e | a, t⟩ <;> rfl

section Bind
variable {m : Effect σ α} {f : α → Effect σ β} {s t : σ}

theorem result_bind_ok {a : α} (h : result m s = (.ok a, t)) :
    result (m >>= f) s = result (f a) t := by
  rw [result_bind, h]

theorem result_bind_error {e : CallbackError} (h : result m s = (.error e, t)) :
    result (m >>= f) s = (.error e, t) := by
  rw [result_bind, h]

theorem result_bind_pure {r : Except CallbackError α} (h : result m s = (r, t)) (g : α → β) :
    result (m >>= fun a => pure (g a)) s = (r.map g, t) := by
  rw [result_bind, h]
  cases r <;> rfl

end Bind
end Effect

structure Handler (γ : Type) where
  rule : Text
  callback : γ

structure Tally where
  evaluated : Nat := 0
  matched : Nat := 0
  errors : Nat := 0
  /-- The place of the handler whose answer counts. -/
  winner : Option Nat := none
deriving DecidableEq

structure Outcome where
  answer : Option Json
  tally : Tally

variable {γ σ : Type}

/-- Goes on with a search that has come as far as the tally says. -/
def dispatchFrom (ctx : Context) (opts : Options) (invoke : γ → Effect σ (Option Json))
    (tally : Tally) : List (Handler γ) → Effect σ Outcome
  | [] => pure ⟨none, tally⟩
  | h :: hs =>
    match Rule.check ctx opts h.rule with
    | .error _ => dispatchFrom ctx opts invoke
        { tally with evaluated := tally.evaluated + 1, errors := tally.errors + 1 } hs
    | .ok false => dispatchFrom ctx opts invoke { tally with evaluated := tally.evaluated + 1 } hs
    | .ok true => do
      let answer ← invoke h.callback
      let next := { tally with evaluated := tally.evaluated + 1, matched := tally.matched + 1 }
      if Json.inconclusive answer then dispatchFrom ctx opts invoke next hs
      else pure ⟨answer, { next with winner := some tally.evaluated }⟩

def dispatch (ctx : Context) (opts : Options) (invoke : γ → Effect σ (Option Json))
    (handlers : List (Handler γ)) : Effect σ Outcome :=
  dispatchFrom ctx opts invoke {} handlers

/-- Dispatch without its tally. -/
def dispatchAnswer (ctx : Context) (opts : Options) (invoke : γ → Effect σ (Option Json))
    (handlers : List (Handler γ)) : Effect σ (Option Json) := do
  return (← dispatch ctx opts invoke handlers).answer

end TurnRouter
