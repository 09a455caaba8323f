import TurnRouter.Proofs.Routing.Calls

/-! # The search for an answer

Dispatch calls the handlers whose rule holds, in order, and nobody else. The tally of a search
counts what was done, and tells which handler won.
-/
namespace TurnRouter

variable {γ σ : Type}

namespace Handler

def holds (ctx : Context) (opts : Options) (h : Handler γ) : Bool :=
  (Rule.check ctx opts h.rule).toOption == some true

def broken (ctx : Context) (opts : Options) (h : Handler γ) : Bool :=
  (Rule.check ctx opts h.rule).toOption.isNone

/-- A handler of which only the rule counts. -/
def bare (rule : Text) : Handler Unit := ⟨rule, ()⟩

theorem holds_iff {ctx : Context} {opts : Options} {h : Handler γ} :
    h.holds ctx opts = true ↔ Rule.check ctx opts h.rule = .ok true := by
  unfold holds
  cases Rule.check ctx opts h.rule with
  | error e => exact ⟨fun h => (by cases h), fun h => (by cases h)⟩
  | ok b => cases b <;> simp [Except.toOption]

end Handler

section Places
variable (ctx : Context) (opts : Options)

/-- The places of the handlers whose rule holds, counted from a given number. -/
def matchingFrom (start : Nat) (handlers : List (Handler γ)) : List Nat :=
  (handlers.zipIdx start).filterMap fun hi => if hi.1.holds ctx opts then some hi.2 else none

abbrev matching (handlers : List (Handler γ)) : List Nat := matchingFrom ctx opts 0 handlers

/-- How many of the handlers have a rule that cannot be checked. -/
def failures (handlers : List (Handler γ)) : Nat := handlers.countP (Handler.broken ctx opts)

variable {ctx opts} {start : Nat} {handlers : List (Handler γ)} {h : Handler γ}

@[simp] theorem matchingFrom_nil : matchingFrom ctx opts start ([] : List (Handler γ)) = [] := rfl

theorem matchingFrom_cons_of_holds (hh : h.holds ctx opts = true) :
    matchingFrom ctx opts start (h :: handlers) =
      start :: matchingFrom ctx opts (start + 1) handlers := by
  simp [matchingFrom, hh]

theorem matchingFrom_cons_of_not (hh : h.holds ctx opts = false) :
    matchingFrom ctx opts start (h :: handlers) = matchingFrom ctx opts (start + 1) handlers := by
  simp [matchingFrom, hh]

theorem mem_matching {i : Nat} : i ∈ matching ctx opts handlers ↔
    ∃ h, handlers[i]? = some h ∧ Rule.check ctx opts h.rule = .ok true := by
  simp only [matching, matchingFrom, List.mem_filterMap, Prod.exists, List.mem_zipIdx_iff_getElem?,
    Option.ite_none_right_eq_some, Option.some.injEq, ← Handler.holds_iff]
  constructor
  · rintro ⟨h, j, hget, hh, rfl⟩
    exact ⟨h, hget, hh⟩
  · rintro ⟨h, hget, hh⟩
    exact ⟨h, i, hget, hh, rfl⟩

theorem le_of_mem_matchingFrom {i : Nat} (hi : i ∈ matchingFrom ctx opts start handlers) :
    start ≤ i := by
  obtain ⟨hj, hmem, hsome⟩ := List.mem_filterMap.mp hi
  obtain ⟨-, rfl⟩ := Option.ite_none_right_eq_some.mp hsome |>.imp_right Option.some.inj
  exact List.le_snd_of_mem_zipIdx hmem

theorem matchingFrom_ascending (start : Nat) (handlers : List (Handler γ)) :
    (matchingFrom ctx opts start handlers).Pairwise (· < ·) := by
  induction handlers generalizing start with
  | nil => exact .nil
  | cons h handlers ih =>
    cases hh : h.holds ctx opts with
    | false => exact matchingFrom_cons_of_not hh ▸ ih _
    | true =>
      rw [matchingFrom_cons_of_holds hh]
      exact .cons (fun i hi => le_of_mem_matchingFrom hi) (ih _)

theorem head?_matchingFrom (start : Nat) (handlers : List (Handler γ)) :
    (matchingFrom ctx opts start handlers).head? =
      (handlers.findIdx? (Handler.holds ctx opts)).map (start + ·) := by
  induction handlers generalizing start with
  | nil => rfl
  | cons h handlers ih =>
    rw [List.findIdx?_cons]
    cases hh : h.holds ctx opts with
    | true => rw [matchingFrom_cons_of_holds hh]; rfl
    | false =>
      rw [matchingFrom_cons_of_not hh, ih, if_neg Bool.false_ne_true, Option.map_map]
      congr 1
      funext i
      simp only [Function.comp_apply]
      omega

theorem length_matchingFrom (start : Nat) (handlers : List (Handler γ)) :
    (matchingFrom ctx opts start handlers).length = handlers.countP (Handler.holds ctx opts) := by
  induction handlers generalizing start with
  | nil => rfl
  | cons h handlers ih =>
    rw [List.countP_cons]
    cases hh : h.holds ctx opts with
    | true => rw [matchingFrom_cons_of_holds hh, List.length_cons, ih, if_pos rfl]
    | false => rw [matchingFrom_cons_of_not hh, ih, if_neg Bool.false_ne_true, Nat.add_zero]

theorem failures_append_singleton (handlers : List (Handler γ)) (h : Handler γ) :
    failures ctx opts (handlers ++ [h]) =
      failures ctx opts handlers + if h.broken ctx opts then 1 else 0 := by
  simp [failures, List.countP_append, List.countP_singleton]

theorem matchingFrom_bare (start : Nat) (handlers : List (Handler γ)) :
    matchingFrom ctx opts start handlers =
      matchingFrom ctx opts start ((handlers.map Handler.rule).map Handler.bare) := by
  induction handlers generalizing start with
  | nil => rfl
  | cons h handlers ih =>
    have hbare : (Handler.bare h.rule).holds ctx opts = h.holds ctx opts := rfl
    rw [List.map_cons, List.map_cons]
    cases hh : h.holds ctx opts with
    | true => rw [matchingFrom_cons_of_holds hh, matchingFrom_cons_of_holds (hbare.trans hh), ih]
    | false => rw [matchingFrom_cons_of_not hh, matchingFrom_cons_of_not (hbare.trans hh), ih]

theorem failures_bare (handlers : List (Handler γ)) : failures ctx opts handlers =
    failures ctx opts ((handlers.map Handler.rule).map Handler.bare) := by
  simp only [failures, List.countP_map]
  rfl

end Places

/-- The work at a handler's place. -/
def callbackAt (invoke : γ → Effect σ (Option Json)) (handlers : List (Handler γ)) (i : Nat) :
    Option (Effect σ (Option Json)) :=
  handlers[i]?.map fun h => invoke h.callback

/-- The tally once a handler has been evaluated, and called if its rule holds. -/
def Tally.after (ctx : Context) (opts : Options) (tally : Tally) (h : Handler γ) : Tally :=
  { tally with
    evaluated := tally.evaluated + 1
    matched := tally.matched + if h.holds ctx opts then 1 else 0
    errors := tally.errors + if h.broken ctx opts then 1 else 0 }

attribute [ext] Tally

/-- The tally of a search that has found no answer among the given handlers. -/
structure Progress (ctx : Context) (opts : Options) (done : List (Handler γ)) (tally : Tally) :
    Prop where
  evaluated : tally.evaluated = done.length
  errors : tally.errors = failures ctx opts done
  winner : tally.winner = none

/-- What an outcome says of the calls that led to it. -/
structure Accounts (ctx : Context) (opts : Options) (handlers : List (Handler γ))
    (calls : List (Call Nat)) (o : Outcome) : Prop where
  errors : o.tally.errors = failures ctx opts (handlers.take o.tally.evaluated)
  ending :
    (∃ w, calls.getLast? = some ⟨w, .ok o.answer⟩ ∧ Json.inconclusive o.answer = false ∧
      o.tally.winner = some w ∧ o.tally.evaluated = w + 1) ∨
    ((∀ c ∈ calls, c.reply.passes = true) ∧ o.answer = none ∧ o.tally.winner = none ∧
      o.tally.evaluated = handlers.length)

section Search
variable {ctx : Context} {opts : Options} {done rest : List (Handler γ)} {tally : Tally}
  {h : Handler γ} {calls : List (Call Nat)} {o : Outcome}

theorem Progress.start : Progress ctx opts ([] : List (Handler γ)) {} := ⟨rfl, rfl, rfl⟩

theorem Progress.next (hp : Progress ctx opts done tally) (h : Handler γ) :
    Progress ctx opts (done ++ [h]) (tally.after ctx opts h) where
  evaluated := by simp [Tally.after, hp.evaluated]
  errors := by simp [Tally.after, hp.errors, failures_append_singleton]
  winner := hp.winner

namespace Accounts

theorem exhausted (hp : Progress ctx opts done tally) :
    Accounts ctx opts done [] ⟨none, tally⟩ where
  errors := by rw [hp.evaluated, List.take_length, hp.errors]
  ending := .inr ⟨by simp, rfl, hp.winner, hp.evaluated⟩

theorem won (hp : Progress ctx opts done tally) {answer : Option Json}
    (hanswer : Json.inconclusive answer = false) :
    Accounts ctx opts (done ++ h :: rest) [⟨done.length, .ok answer⟩]
      ⟨answer, { tally.after ctx opts h with winner := some tally.evaluated }⟩ where
  errors := by
    have hlength : (done ++ [h]).length = done.length + 1 := List.length_append
    have htake : (done ++ h :: rest).take (tally.evaluated + 1) = done ++ [h] := by
      rw [hp.evaluated, List.append_cons, ← hlength, List.take_left]
    exact (hp.next h).errors.trans (congrArg _ htake.symm)
  ending := by
    refine .inl ⟨done.length, rfl, hanswer, ?_, ?_⟩
    · exact congrArg some hp.evaluated
    · exact congrArg (· + 1) hp.evaluated

theorem cons (ha : Accounts ctx opts done calls o) {c : Call Nat} (hc : c.reply.passes = true) :
    Accounts ctx opts done (c :: calls) o where
  errors := ha.errors
  ending := by
    obtain ⟨w, hlast, hrest⟩ | ⟨hpass, hrest⟩ := ha.ending
    · refine .inl ⟨w, ?_, hrest⟩
      rw [List.getLast?_cons, hlast]
      rfl
    · exact .inr ⟨List.forall_mem_cons.mpr ⟨hc, hpass⟩, hrest⟩

/-- The tally of a search depends on the rules, on the calls, and on whether there is an answer. -/
theorem tally_eq {γ' : Type} {handlers : List (Handler γ)} {handlers' : List (Handler γ')}
    {calls' : List (Call Nat)} {o' : Outcome} (ha : Accounts ctx opts handlers calls o)
    (ha' : Accounts ctx opts handlers' calls' o')
    (hrules : handlers.map Handler.rule = handlers'.map Handler.rule)
    (hsites : calls.map Call.site = calls'.map Call.site)
    (hkind : Json.inconclusive o.answer = Json.inconclusive o'.answer)
    (hmatched : o.tally.matched = calls.length) (hmatched' : o'.tally.matched = calls'.length) :
    o.tally = o'.tally := by
  have hlength : calls.length = calls'.length := by simpa using congrArg List.length hsites
  have hending : o.tally.evaluated = o'.tally.evaluated ∧ o.tally.winner = o'.tally.winner := by
    obtain ⟨w, hlast, hsettled, hwinner, hevaluated⟩ | ⟨-, hnone, hwinner, hevaluated⟩ := ha.ending
      <;> obtain ⟨w', hlast', hsettled', hwinner', hevaluated'⟩ |
        ⟨-, hnone', hwinner', hevaluated'⟩ := ha'.ending
    · have hsame : w = w' := by
        have hlasts := congrArg List.getLast? hsites
        simpa [List.getLast?_map, hlast, hlast'] using hlasts
      rw [hwinner, hwinner', hevaluated, hevaluated', hsame]
      exact ⟨rfl, rfl⟩
    · rw [hsettled, hnone'] at hkind
      cases hkind
    · rw [hsettled', hnone] at hkind
      cases hkind
    · have htotal : handlers.length = handlers'.length := by
        simpa using congrArg List.length hrules
      rw [hwinner, hwinner', hevaluated, hevaluated', htotal]
      exact ⟨rfl, rfl⟩
  have herrors : o.tally.errors = o'.tally.errors := by
    rw [ha.errors, ha'.errors, failures_bare, List.map_take, hrules, ← List.map_take,
      ← failures_bare, hending.1]
  ext1
  · exact hending.1
  · rw [hmatched, hmatched', hlength]
  · exact herrors
  · exact hending.2

end Accounts

variable {invoke : γ → Effect σ (Option Json)}

theorem dispatchFrom_cons_of_not (hh : h.holds ctx opts = false) :
    dispatchFrom ctx opts invoke tally (h :: rest) =
      dispatchFrom ctx opts invoke (tally.after ctx opts h) rest := by
  rw [Tally.after, hh, dispatchFrom, Handler.broken]
  cases hcheck : Rule.check ctx opts h.rule with
  | error e => rfl
  | ok b =>
    cases b with
    | false => rfl
    | true => exact absurd (Handler.holds_iff.mpr hcheck) (Bool.eq_false_iff.mp hh)

/-- A handler whose rule holds is called, and the search goes on only if its reply passes. -/
theorem dispatchFrom_cons_of_holds (hh : h.holds ctx opts = true) :
    dispatchFrom ctx opts invoke tally (h :: rest) = (do
      let answer ← invoke h.callback
      if Json.inconclusive answer then
        dispatchFrom ctx opts invoke (tally.after ctx opts h) rest
      else pure ⟨answer, { tally.after ctx opts h with winner := some tally.evaluated }⟩) := by
  have hcheck : Rule.check ctx opts h.rule = .ok true := Handler.holds_iff.mp hh
  have hsound : h.broken ctx opts = false := by rw [Handler.broken, hcheck]; rfl
  rw [dispatchFrom, hcheck, Tally.after, hh, hsound]
  rfl

/-- The rest of a search, from any point that it may have come to. -/
theorem dispatchFrom_search (invoke : γ → Effect σ (Option Json)) (rest : List (Handler γ))
    (hp : Progress ctx opts done tally) (s : σ) :
    ∃ calls t outcome,
      Effect.result (dispatchFrom ctx opts invoke tally rest) s = (outcome, t) ∧
      Performs (callbackAt invoke (done ++ rest)) s calls t ∧
      Asked (matchingFrom ctx opts done.length rest) calls (outcome.map Outcome.answer) ∧
      ∀ o, outcome = .ok o → o.tally.matched = tally.matched + calls.length ∧
        Accounts ctx opts (done ++ rest) calls o := by
  induction rest generalizing done tally s with
  | nil =>
    refine ⟨[], s, .ok ⟨none, tally⟩, rfl, .done s, .nobody, ?_⟩
    rintro o ⟨⟩
    rw [List.append_nil]
    exact ⟨rfl, .exhausted hp⟩
  | cons h rest ih =>
    have hlength : (done ++ [h]).length = done.length + 1 := List.length_append
    have hnext := ih (hp.next h)
    rw [hlength, ← List.append_cons] at hnext
    cases hh : h.holds ctx opts with
    | false =>
      have hmatched : (tally.after ctx opts h).matched = tally.matched := by simp [Tally.after, hh]
      rw [hmatched] at hnext
      rw [dispatchFrom_cons_of_not hh, matchingFrom_cons_of_not hh]
      exact hnext s
    | true =>
      have hmatched : (tally.after ctx opts h).matched = tally.matched + 1 := by
        simp [Tally.after, hh]
      have hwork : callbackAt invoke (done ++ h :: rest) done.length = some (invoke h.callback) := by
        simp [callbackAt]
      rw [dispatchFrom_cons_of_holds hh, matchingFrom_cons_of_holds hh]
      rcases hreply : Effect.result (invoke h.callback) s with ⟨e | answer, t⟩
      · exact ⟨_, t, _, Effect.result_bind_error hreply, .call hwork hreply (.done t),
          .settled rfl, fun o ho => (by cases ho)⟩
      rw [Effect.result_bind_ok hreply]
      cases hanswer : Json.inconclusive answer with
      | true =>
        obtain ⟨calls, u, outcome, hresult, hperforms, hasked, haccounts⟩ := hnext t
        refine ⟨_, u, outcome, hresult, .call hwork hreply hperforms, .passed hanswer hasked, ?_⟩
        intro o ho
        obtain ⟨hcount, hall⟩ := haccounts o ho
        refine ⟨?_, hall.cons hanswer⟩
        rw [hcount, hmatched, List.length_cons]
        omega
      | false =>
        refine ⟨_, t, _, rfl, .call hwork hreply (.done t), .settled hanswer, ?_⟩
        rintro o ⟨⟩
        exact ⟨hmatched, .won hp hanswer⟩

end Search

section Dispatch
variable (ctx : Context) (opts : Options) (invoke : γ → Effect σ (Option Json))
  (handlers : List (Handler γ)) (s : σ)

theorem dispatch_search :
    ∃ calls t outcome,
      Effect.result (dispatch ctx opts invoke handlers) s = (outcome, t) ∧
      Performs (callbackAt invoke handlers) s calls t ∧
      Asked (matching ctx opts handlers) calls (outcome.map Outcome.answer) ∧
      ∀ o, outcome = .ok o → o.tally.matched = calls.length ∧
        Accounts ctx opts handlers calls o := by
  have hstart : Progress ctx opts ([] : List (Handler γ)) {} := .start
  obtain ⟨calls, t, outcome, hresult, hperforms, hasked, haccounts⟩ :=
    dispatchFrom_search invoke handlers hstart s
  refine ⟨calls, t, outcome, hresult, hperforms, hasked, fun o ho => ?_⟩
  obtain ⟨hmatched, hall⟩ := haccounts o ho
  exact ⟨hmatched.trans (Nat.zero_add _), hall⟩

/-- Dispatch calls the handlers whose rule holds, in order, up to the first that fails or answers
conclusively, and tells in its tally what it did. -/
theorem dispatch_first_conclusive :
    ∃ calls t outcome,
      Effect.result (dispatch ctx opts invoke handlers) s = (outcome, t) ∧
      Effect.result (dispatchAnswer ctx opts invoke handlers) s =
        (outcome.map Outcome.answer, t) ∧
      Performs (callbackAt invoke handlers) s calls t ∧
      calls.map Call.site <+: matching ctx opts handlers ∧
      (calls.map Call.site).Pairwise (· < ·) ∧ (∀ c ∈ calls.dropLast, c.reply.passes = true) ∧
      (∀ e, outcome = .error e → ∃ i, calls.getLast? = some ⟨i, .error e⟩) ∧
      ∀ o, outcome = .ok o →
        o.tally.matched = calls.length ∧
        o.tally.errors = failures ctx opts (handlers.take o.tally.evaluated) ∧
        ((∃ w, calls.getLast? = some ⟨w, .ok o.answer⟩ ∧ Json.inconclusive o.answer = false ∧
            o.tally.winner = some w ∧ o.tally.evaluated = w + 1) ∨
          (calls.map Call.site = matching ctx opts handlers ∧
            (∀ c ∈ calls, c.reply.passes = true) ∧ o.answer = none ∧ o.tally.winner = none ∧
            o.tally.evaluated = handlers.length)) := by
  obtain ⟨calls, t, outcome, hresult, hperforms, hasked, haccounts⟩ :=
    dispatch_search ctx opts invoke handlers s
  have hascending : (calls.map Call.site).Pairwise (· < ·) :=
    (matchingFrom_ascending 0 handlers).sublist hasked.sites_prefix.sublist
  refine ⟨calls, t, outcome, hresult, Effect.result_bind_pure hresult Outcome.answer, hperforms,
    hasked.sites_prefix, hascending, hasked.passes_of_mem_dropLast, ?_, ?_⟩
  · rintro e rfl
    obtain ⟨i, hlast, -⟩ | ⟨-, -, hout⟩ := hasked.ending
    · exact ⟨i, hlast⟩
    · cases hout
  · rintro o rfl
    obtain ⟨hmatched, herrors, hending⟩ := haccounts o rfl
    refine ⟨hmatched, herrors, ?_⟩
    obtain hwon | ⟨hpass, hnone⟩ := hending
    · exact .inl hwon
    · obtain ⟨i, -, hout⟩ | ⟨hall, -, -⟩ := hasked.ending
      · have hopen : Json.inconclusive o.answer = true := by rw [hnone.1]; rfl
        exact absurd hopen (Bool.eq_false_iff.mp hout)
      · exact .inr ⟨hall, hpass, hnone⟩

end Dispatch

section Mixed

private def quiet : Context := ⟨none, [], fun _ => none, fun _ default => default⟩

/-- Answers only once called a second time. -/
private def patient (i : Nat) : Effect (List Nat) (Option Json) := do
  modify (· ++ [i])
  return if (← get).length < 2 then some .null else some (.bool true)

private def mixed : List (Handler Nat) :=
  [⟨"(".toList, 0⟩, ⟨"true".toList, 1⟩, ⟨"false".toList, 2⟩, ⟨"!false".toList, 3⟩,
    ⟨"true".toList, 4⟩]

example : matching quiet {} mixed = [1, 3, 4] ∧
    (Effect.result (dispatch quiet {} patient mixed) []).2 = [1, 3] ∧
    (Effect.result (dispatch quiet {} patient mixed) []).1.toOption.map Outcome.tally =
      some ⟨4, 2, 1, some 3⟩ := by decide +kernel

end Mixed
end TurnRouter
