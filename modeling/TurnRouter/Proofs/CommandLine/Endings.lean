import TurnRouter.CommandLine.Run
import TurnRouter.Proofs.Outcome

/-! # How a run ends

A request that cannot be loaded ends the run with status 2 and a message, before any rule is looked
at. Any other run that has rules to evaluate succeeds, and prints the reports on them.
-/
namespace TurnRouter.CommandLine

theorem LoadError.message_starts (e : LoadError) : "error: ".toList <+: e.message := by
  have hread : "error: ".toList <+: "error: failed to read '".toList := by decide
  have hdecode : "error: ".toList <+: "error: invalid request JSON".toList := by decide
  have hkey : "error: ".toList <+: "error: invalid --session key: ".toList := by decide
  cases e with
  | unreadable path reason =>
    have hpath := hread.trans (List.prefix_append _ path)
    have hcolon := hpath.trans (List.prefix_append _ "': ".toList)
    exact hcolon.trans (List.prefix_append _ reason.message)
  | invalidRequest => exact hdecode
  | invalidSessionKey e => exact hkey.trans (List.prefix_append _ e.message)

section Loading
variable {settings : Settings} {inputs : Inputs} {e : LoadError}

/-- The request cannot be had, or a key for its session is no path. -/
theorem loadRequest_eq_error (h : loadRequest settings inputs = .error e) :
    baseRequest settings inputs = .error e ∨ ∃ base reason,
      baseRequest settings inputs = .ok base ∧ e = .invalidSessionKey reason ∧
      mergeSession base.session ((settings.session.getD .null).fields) = .error reason := by
  unfold loadRequest at h
  split at h
  · next hbase =>
    cases h
    exact .inl hbase
  · next base hbase =>
    split at h
    · cases h
    · next reason hmerge =>
      cases h
      exact .inr ⟨base, reason, hbase, rfl, hmerge⟩

end Loading

section Runs
variable {color : Bool} {timing : Timing} {inputs : Inputs} {args : List Text}
  {settings : Settings} {turn : Turn} {request : Request} {e : LoadError}

theorem run_of_done {result : Result} (h : prepare color inputs args = .done result) :
    run color timing inputs args = result := by
  rw [run, h]
  rfl

theorem run_of_evaluate (h : prepare color inputs args = .evaluate settings turn) :
    run color timing inputs args =
      render settings turn (settings.rules.map (timedReport timing settings turn)) := by
  have hreports : settings.rules.mapM (m := Id)
      (fun rule => pure (timedReport timing settings turn rule)) =
      pure (settings.rules.map (timedReport timing settings turn)) := List.mapM_pure
  rw [run, h, Stage.finish, hreports]
  rfl

theorem prepare_of_loadRequest (hparse : parse color args = .ok (.evaluate settings))
    (hload : loadRequest settings inputs = .ok request) :
    prepare color inputs args = .evaluate settings request.toTurn := by
  rw [prepare, hparse]
  dsimp only
  rw [hload]

theorem failure_of_loadRequest (hparse : parse color args = .ok (.evaluate settings))
    (hload : loadRequest settings inputs = .error e) :
    prepare color inputs args = .done (.failure e.message) ∧
    run color timing inputs args = ⟨2, [], e.message ++ ['\n']⟩ ∧ "error: ".toList <+: e.message := by
  have hprepare : prepare color inputs args = .done (.failure e.message) := by
    rw [prepare, hparse]
    dsimp only
    rw [hload]
  exact ⟨hprepare, run_of_done hprepare, e.message_starts⟩

end Runs

end TurnRouter.CommandLine
