import TurnRouter.Proofs.Routing.Plan
import TurnRouter.Proofs.Routing.Writes

/-! # Two runs in step

Two bots of one layout follow one plan. As long as their replies are of the same kinds they call the
same hooks, and in the end they agree, however far their states have drifted apart.
-/
namespace TurnRouter

variable {ι κ ω ω' : Type}

/-- Call by call, and as far as both go, the replies are of one kind. -/
def InStep (calls : List (Call ι)) (calls' : List (Call κ)) : Prop :=
  ∀ (n : Nat) (c : Call ι) (c' : Call κ), calls[n]? = some c → calls'[n]? = some c' →
    c.reply.kind = c'.reply.kind

namespace InStep
variable {calls : List (Call ι)} {calls' : List (Call κ)}

theorem cons_iff {c : Call ι} {c' : Call κ} : InStep (c :: calls) (c' :: calls') ↔
    c.reply.kind = c'.reply.kind ∧ InStep calls calls' := by
  constructor
  · intro h
    exact ⟨h 0 c c' rfl rfl, fun n d d' hd hd' => h (n + 1) d d' hd hd'⟩
  · rintro ⟨hfirst, hrest⟩ n d d' hd hd'
    cases n with
    | zero =>
      obtain rfl : c = d := by simpa using hd
      obtain rfl : c' = d' := by simpa using hd'
      exact hfirst
    | succ n => exact hrest n d d' (by simpa using hd) (by simpa using hd')

theorem map {ι' κ' : Type} (h : InStep calls calls') (f : ι → ι') (g : κ → κ') :
    InStep (calls.map (Call.map f)) (calls'.map (Call.map g)) := by
  intro n d d' hd hd'
  rw [List.getElem?_map] at hd hd'
  obtain ⟨c, hc, rfl⟩ := Option.map_eq_some_iff.mp hd
  obtain ⟨c', hc', rfl⟩ := Option.map_eq_some_iff.mp hd'
  exact h n c c' hc hc'

theorem of_forall {k : Reply.Kind} (h : ∀ c ∈ calls, c.reply.kind = k)
    (h' : ∀ c ∈ calls', c.reply.kind = k) : InStep calls calls' := by
  intro n c c' hc hc'
  rw [h c (List.mem_of_getElem? hc), h' c' (List.mem_of_getElem? hc')]

end InStep

/-- Replies of the same kinds lead the same way along a plan. -/
theorem Follows.sites_eq {p : Plan ι} {calls calls' : List (Call ι)} {outcome outcome' : Reply.Kind}
    (h : Follows p calls outcome) (h' : Follows p calls' outcome') (ha : InStep calls calls') :
    calls.map Call.site = calls'.map Call.site ∧ outcome = outcome' := by
  induction h generalizing calls' with
  | finish outcome =>
    cases h'
    exact ⟨rfl, rfl⟩
  | @call i next r calls outcome hrest ih =>
    cases h' with
    | @call _ _ r' calls' _ hrest' =>
      obtain ⟨hkind, hrest⟩ := InStep.cons_iff.mp ha
      have hkind : r.kind = r'.kind := hkind
      rw [← hkind] at hrest'
      obtain ⟨hsites, houtcome⟩ := ih hrest' hrest
      exact ⟨by rw [List.map_cons, List.map_cons, hsites], houtcome⟩

namespace Config
variable {config : Config ω} {config' : Config ω'} {app : Application ω} {app' : Application ω'}
  {turn : Turn} {s : TurnState × ω} {s' : TurnState × ω'}

section Deciding

/-- How deciding a turn ends: with a kind of reply, or with none if the turn is declined. -/
def endingKind : Except CallbackError Decision → Option Reply.Kind
  | .ok .default => none
  | .ok (.routed answer) => some (Reply.kind (.ok answer))
  | .error e => some (Reply.kind (.error e))

theorem endingKind_routed (out : Reply) : endingKind (out.map Decision.routed) = some out.kind := by
  cases out <;> rfl

theorem hooks_eq_sites (calls : List (Call Visit)) :
    hooks calls = (calls.map (Call.map Visit.hook)).map Call.site := by
  rw [hooks, List.map_map]
  rfl

theorem Decides.same_hooks {calls calls' : List (Call Visit)}
    (hlayout : config.layout = config'.layout) (h : config.Decides app turn s calls) (h' : config'.Decides app' turn s' calls')
    (ha : InStep calls calls') :
    hooks calls = hooks calls' ∧
      endingKind (Effect.result (config.decide app turn) s).1 =
        endingKind (Effect.result (config'.decide app' turn) s').1 := by
  have hsame : config'.declines turn = config.declines turn := by
    rw [declines_layout, declines_layout, hlayout]
  cases hdeclines : config.declines turn with
  | true =>
    obtain ⟨houtcome, rfl⟩ := h.declined hdeclines
    obtain ⟨houtcome', rfl⟩ := h'.declined (hsame.trans hdeclines)
    exact ⟨rfl, by rw [houtcome, houtcome']⟩
  | false =>
    obtain ⟨out, houtcome, hcourse⟩ := h.course hdeclines
    obtain ⟨out', houtcome', hcourse'⟩ := h'.course (hsame.trans hdeclines)
    have hfollows' := hcourse'.follows
    rw [← hlayout] at hfollows'
    obtain ⟨hsites, hkind⟩ := hcourse.follows.sites_eq hfollows' (ha.map _ _)
    rw [hooks_eq_sites, hooks_eq_sites, houtcome, houtcome', endingKind_routed, endingKind_routed,
      hkind]
    exact ⟨hsites, rfl⟩

end Deciding

section Searching

/-- The calls made to search the handlers for an answer. -/
structure Dispatches (config : Config ω) (app : Application ω) (turn : Turn) (s : TurnState × ω)
    (calls : List (Call Nat)) : Prop where
  performs : Performs (callbackAt (fun f => f.invoke app turn none) config.handlers) s calls
    (Effect.result (config.dispatch app turn) s).2
  asked : Asked (config.matching turn) calls
    ((Effect.result (config.dispatch app turn) s).1.map Outcome.answer)

theorem exists_dispatches (config : Config ω) (app : Application ω) (turn : Turn)
    (s : TurnState × ω) : ∃ calls, config.Dispatches app turn s calls ∧
      ∀ o, (Effect.result (config.dispatch app turn) s).1 = .ok o →
        o.tally.matched = calls.length ∧
        Accounts turn.toContext config.options config.handlers calls o := by
  obtain ⟨calls, t, outcome, hresult, hperforms, hasked, haccounts⟩ :=
    dispatch_search turn.toContext config.options (fun f => f.invoke app turn none)
      config.handlers s
  have hresult : Effect.result (config.dispatch app turn) s = (outcome, t) := hresult
  refine ⟨calls, ⟨?_, ?_⟩, ?_⟩
  · rw [hresult]
    exact hperforms
  · rw [hresult]
    exact hasked
  · rw [hresult]
    exact haccounts

theorem Dispatches.accounts {calls : List (Call Nat)} (h : config.Dispatches app turn s calls)
    {o : Outcome} (ho : (Effect.result (config.dispatch app turn) s).1 = .ok o) :
    o.tally.matched = calls.length ∧
      Accounts turn.toContext config.options config.handlers calls o := by
  obtain ⟨calls', h', haccounts⟩ := exists_dispatches config app turn s
  have hcalls : calls = calls' := h.asked.unique h'.asked h.performs h'.performs
  rw [hcalls]
  exact haccounts o ho

theorem Dispatches.same_tally {calls calls' : List (Call Nat)}
    (hlayout : config.layout = config'.layout) (h : config.Dispatches app turn s calls) (h' : config'.Dispatches app' turn s' calls')
    (ha : InStep calls calls') :
    calls.map Call.site = calls'.map Call.site ∧
      Except.toOption ((Effect.result (config.dispatch app turn) s).1.map Outcome.tally) =
        Except.toOption ((Effect.result (config'.dispatch app' turn) s').1.map Outcome.tally) := by
  have hmatching : config'.matching turn = config.matching turn := by
    rw [matching_layout, matching_layout, hlayout]
  have hfollows' := h'.asked.follows_ask
  rw [hmatching] at hfollows'
  obtain ⟨hsites, hkind⟩ := h.asked.follows_ask.sites_eq hfollows' ha
  refine ⟨hsites, ?_⟩
  cases hout : (Effect.result (config.dispatch app turn) s).1 with
  | error e =>
    cases hout' : (Effect.result (config'.dispatch app' turn) s').1 with
    | error e' => rfl
    | ok o' =>
      rw [hout, hout'] at hkind
      exact absurd hkind.symm (Reply.kind_ok_ne_failed o'.answer)
  | ok o =>
    cases hout' : (Effect.result (config'.dispatch app' turn) s').1 with
    | error e' =>
      rw [hout, hout'] at hkind
      exact absurd hkind (Reply.kind_ok_ne_failed o.answer)
    | ok o' =>
      rw [hout, hout'] at hkind
      obtain ⟨hmatched, hall⟩ := h.accounts hout
      obtain ⟨hmatched', hall'⟩ := h'.accounts hout'
      have hoptions : config'.options = config.options := congrArg Layout.options hlayout.symm
      have hrules : config.handlers.map Handler.rule = config'.handlers.map Handler.rule :=
        congrArg Layout.rules hlayout
      rw [hoptions] at hall'
      have htally : o.tally = o'.tally :=
        hall.tally_eq hall' hrules hsites (Reply.kind_ok_inj.mp hkind) hmatched hmatched'
      exact congrArg some htally

end Searching

/-- Callbacks have no say in what is called but through the kinds of their replies: not in two runs
of bots that share a layout and nothing else. -/
theorem writes_never_steer (config : Config ω) (config' : Config ω')
    (hlayout : config.layout = config'.layout) (app : Application ω) (app' : Application ω')
    (turn : Turn) (s : TurnState × ω) (s' : TurnState × ω') :
    ((∃ calls, config.Decides app turn s calls) ∧ (∃ calls', config'.Decides app' turn s' calls') ∧
      ∀ calls calls', config.Decides app turn s calls → config'.Decides app' turn s' calls' →
        InStep calls calls' →
        hooks calls = hooks calls' ∧
          endingKind (Effect.result (config.decide app turn) s).1 =
            endingKind (Effect.result (config'.decide app' turn) s').1) ∧
    (∃ calls, config.Dispatches app turn s calls) ∧
    (∃ calls', config'.Dispatches app' turn s' calls') ∧
    ∀ calls calls', config.Dispatches app turn s calls → config'.Dispatches app' turn s' calls' →
      InStep calls calls' →
      calls.map Call.site = calls'.map Call.site ∧
        Except.toOption ((Effect.result (config.dispatch app turn) s).1.map Outcome.tally) =
          Except.toOption ((Effect.result (config'.dispatch app' turn) s').1.map Outcome.tally) := by
  obtain ⟨searched, hsearched, -⟩ := exists_dispatches config app turn s
  obtain ⟨searched', hsearched', -⟩ := exists_dispatches config' app' turn s'
  refine ⟨⟨exists_decides config app turn s, exists_decides config' app' turn s', ?_⟩,
    ⟨searched, hsearched⟩, ⟨searched', hsearched'⟩, ?_⟩
  · intro calls calls' h h' ha
    exact h.same_hooks hlayout h' ha
  · intro calls calls' h h' ha
    exact h.same_tally hlayout h' ha

section Meddling

/-- Touches the reply state, and answers the same in any state. -/
private def meddle (touch : TurnState → TurnState) (answer : Option Json) :
    Work Unit (Option Json) := do
  modify fun s => (touch s.1, s.2)
  return answer

private def meddler (touch : TurnState → TurnState) (answer : Option Json) : Config Unit where
  handlers := [⟨"session.open==true".toList, .direct fun _ _ => meddle touch answer⟩,
    ⟨"session.open==false".toList, .direct fun _ _ => meddle touch answer⟩,
    ⟨"!session.shut".toList, .method "shut".toList⟩]
  interceptors := [⟨fun _ => meddle touch answer, fun _ _ => meddle touch answer⟩]

private def methods (touch : TurnState → TurnState) (answer : Option Json) : Application Unit :=
  fun _ _ _ => meddle touch answer

private def flip (state : TurnState) : TurnState :=
  state.after (.setAttribute "open".toList (.bool false))

private def visiting : Turn :=
  (Request.ofJson (.object [("session",
    .object [("attributes", .object [("open", .bool true)])])])).toTurn

section Replies
variable (touch : TurnState → TurnState) (answer : Option Json)

private theorem meddler_work (visit : Visit) (m : Work Unit (Option Json))
    (h : (meddler touch answer).work (methods touch answer) visiting visit = some m) :
    m = meddle touch answer := by
  obtain ⟨hook, given⟩ := visit
  rcases hook with i | _ | i | i
  · rcases i with _ | i <;> cases h
    rfl
  · cases h
  · rcases i with _ | _ | _ | i <;> cases h <;> rfl
  · rcases i with _ | i <;> cases h
    rfl

private theorem meddler_decides {s : TurnState × Unit} {calls : List (Call Visit)}
    (h : (meddler touch answer).Decides (methods touch answer) visiting s calls) :
    ∀ c ∈ calls, c.reply.kind = Reply.kind (.ok answer) := by
  intro c hc
  obtain ⟨m, t, hwork, hreply⟩ := h.performs.exists_of_mem hc
  rw [← hreply, meddler_work touch answer c.site m hwork]
  rfl

private theorem meddler_dispatches {s : TurnState × Unit} {calls : List (Call Nat)}
    (h : (meddler touch answer).Dispatches (methods touch answer) visiting s calls) :
    ∀ c ∈ calls, c.reply.kind = Reply.kind (.ok answer) := by
  intro c hc
  obtain ⟨m, t, hwork, hreply⟩ := h.performs.exists_of_mem hc
  rw [← hreply, meddler_work touch answer ⟨.handler c.site, none⟩ m hwork]
  rfl

end Replies

theorem writes_never_steer_meddling :
    ∃ calls calls',
      (meddler TurnState.clearSession none).Decides (methods TurnState.clearSession none) visiting
        (TurnState.ofTurn visiting, ()) calls ∧
      (meddler flip (some (.bool false))).Decides (methods flip (some (.bool false))) visiting
        (TurnState.start .empty, ()) calls' ∧
      hooks calls = hooks calls' ∧
    ∃ found found',
      (meddler TurnState.clearSession none).Dispatches (methods TurnState.clearSession none) visiting
        (TurnState.ofTurn visiting, ()) found ∧
      (meddler flip (some (.bool false))).Dispatches (methods flip (some (.bool false))) visiting
        (TurnState.start .empty, ()) found' ∧
      found.map Call.site = found'.map Call.site := by
  obtain ⟨⟨⟨calls, h⟩, ⟨calls', h'⟩, hdecide⟩, ⟨found, hfound⟩, ⟨found', hfound'⟩, hdispatch⟩ :=
    writes_never_steer (meddler TurnState.clearSession none) (meddler flip (some (.bool false))) rfl
      (methods _ none) (methods _ (some (.bool false))) visiting
      (TurnState.ofTurn visiting, ()) (TurnState.start .empty, ())
  have hcalls : InStep calls calls' :=
    .of_forall (meddler_decides _ none h) (meddler_decides _ (some (.bool false)) h')
  have hsearch : InStep found found' :=
    .of_forall (meddler_dispatches _ none hfound) (meddler_dispatches _ (some (.bool false)) hfound')
  exact ⟨calls, calls', h, h', (hdecide calls calls' h h' hcalls).1, found, found', hfound, hfound',
    (hdispatch found found' hfound hfound' hsearch).1⟩

example : (meddler flip none).matching visiting = [0, 2] := by decide +kernel

end Meddling

end Config
end TurnRouter
