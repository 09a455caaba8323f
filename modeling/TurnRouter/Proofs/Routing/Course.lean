import TurnRouter.Bot.Decide
import TurnRouter.Proofs.Routing.Search

/-! # The course of a turn

A turn that is not declined calls the `before` hooks up to the first that answers, routes the turn
only if none did, and calls every `after` hook, handing on what was answered last. All calls share
the state of the turn, and a failure ends the course where it happens.
-/
namespace TurnRouter

variable {ω : Type}

inductive Hook
  | before (i : Nat)
  | listener
  | handler (i : Nat)
  | after (i : Nat)
deriving DecidableEq

/-- A hook with what it is handed: the data of an event, or an earlier answer. -/
structure Visit where
  hook : Hook
  given : Option Json

namespace Visit

def before (i : Nat) : Visit := ⟨.before i, none⟩
def handler (i : Nat) : Visit := ⟨.handler i, none⟩
def listener (turn : Turn) : Visit := ⟨.listener, turn.eventData⟩
def after (i : Nat) (answer : Option Json) : Visit := ⟨.after i, answer⟩

end Visit

/-- The hooks called, one after the other. -/
def hooks (calls : List (Call Visit)) : List Hook := calls.map fun c => c.site.hook

theorem Asked.hooks_prefix {sites : List Visit} {calls : List (Call Visit)} {out : Reply}
    (h : Asked sites calls out) : hooks calls <+: sites.map Visit.hook := by
  have hprefix := h.sites_prefix.map Visit.hook
  rw [List.map_map] at hprefix
  exact hprefix

theorem hooks_append (calls more : List (Call Visit)) :
    hooks (calls ++ more) = hooks calls ++ hooks more := List.map_append

/-- The `after` hooks at the places are called in turn, each handed what the one before answered;
the last answer is the outcome. -/
inductive Handed : List Nat → Option Json → List (Call Visit) → Reply → Prop
  | finished (answer : Option Json) : Handed [] answer [] (.ok answer)
  | failed {i : Nat} {is : List Nat} {given : Option Json} {e : CallbackError} :
      Handed (i :: is) given [⟨.after i given, .error e⟩] (.error e)
  | next {i : Nat} {is : List Nat} {given answer : Option Json} {calls : List (Call Visit)}
      {out : Reply} (hrest : Handed is answer calls out) :
      Handed (i :: is) given (⟨.after i given, .ok answer⟩ :: calls) out

namespace Handed
variable {is : List Nat} {given : Option Json} {calls : List (Call Visit)} {out : Reply}

theorem failsLast (h : Handed is given calls out) : FailsLast calls out := by
  induction h with
  | finished answer => exact .nil
  | failed => exact .singleton
  | next hrest ih => exact ih.cons

theorem hooks_prefix (h : Handed is given calls out) : hooks calls <+: is.map Hook.after := by
  induction h with
  | finished answer => exact List.nil_prefix
  | failed => exact List.cons_prefix_cons.mpr ⟨rfl, List.nil_prefix⟩
  | next hrest ih => exact List.cons_prefix_cons.mpr ⟨rfl, ih⟩

theorem site_after (h : Handed is given calls out) {c : Call Visit} (hc : c ∈ calls) :
    ∃ i answer, c.site = .after i answer := by
  induction h with
  | finished answer => exact absurd hc List.not_mem_nil
  | failed =>
    obtain rfl := List.mem_singleton.mp hc
    exact ⟨_, _, rfl⟩
  | next hrest ih =>
    obtain rfl | hc := List.mem_cons.mp hc
    · exact ⟨_, _, rfl⟩
    · exact ih hc

end Handed

namespace Config
variable (config : Config ω) (app : Application ω) (turn : Turn)

/-- What is done at a visit, if the bot has the hook. -/
def work : Visit → Option (Work ω (Option Json))
  | ⟨.before i, _⟩ => config.interceptors[i]?.map fun interceptor => interceptor.before turn
  | ⟨.listener, given⟩ => (config.listener? turn).map fun f => f.invoke app turn given
  | ⟨.handler i, given⟩ => config.handlers[i]?.map fun h => h.callback.invoke app turn given
  | ⟨.after i, given⟩ => config.interceptors[i]?.map fun interceptor => interceptor.after turn given

/-- The places of the interceptors. -/
def places : List Nat := List.range config.interceptors.length

def matching : List Nat := TurnRouter.matching turn.toContext config.options config.handlers

/-- Routing calls the listener alone, with the event's data, or else the handlers without any. -/
inductive Routed : List (Call Visit) → Reply → Prop
  | listener {r : Reply} (h : (config.listener? turn).isSome = true) :
      Routed [⟨.listener turn, r⟩] r
  | handlers {calls : List (Call Visit)} {out : Reply} (h : config.listener? turn = none)
      (hasked : Asked ((config.matching turn).map Visit.handler) calls out) : Routed calls out

/-- The calls for a turn, and the outcome. -/
inductive Course : List (Call Visit) → Reply → Prop
  | stopped {calls : List (Call Visit)} {e : CallbackError}
      (hbefore : Asked (config.places.map Visit.before) calls (.error e)) : Course calls (.error e)
  | answered {calls posts : List (Call Visit)} {answer : Option Json} {out : Reply}
      (hbefore : Asked (config.places.map Visit.before) calls (.ok answer))
      (hearly : Json.inconclusive answer = false)
      (hafter : Handed config.places answer posts out) : Course (calls ++ posts) out
  | unrouted {calls middle : List (Call Visit)} {early : Option Json} {e : CallbackError}
      (hbefore : Asked (config.places.map Visit.before) calls (.ok early))
      (hearly : Json.inconclusive early = true) (hrouted : Routed config turn middle (.error e)) :
      Course (calls ++ middle) (.error e)
  | routed {calls middle posts : List (Call Visit)} {early answer : Option Json} {out : Reply}
      (hbefore : Asked (config.places.map Visit.before) calls (.ok early))
      (hearly : Json.inconclusive early = true) (hrouted : Routed config turn middle (.ok answer))
      (hafter : Handed config.places answer posts out) : Course (calls ++ (middle ++ posts)) out

/-- Every hook that a turn may call, in the order of the calls. -/
def schedule : List Hook :=
  config.places.map Hook.before ++
    ((.listener :: (config.matching turn).map Hook.handler) ++ config.places.map Hook.after)

theorem schedule_nodup : (config.schedule turn).Nodup := by
  have hplaces : config.places.Nodup := List.nodup_range
  have hmatching : (config.matching turn).Nodup :=
    (matchingFrom_ascending 0 config.handlers).imp Nat.ne_of_lt
  have hbefore : (config.places.map Hook.before).Nodup :=
    List.Pairwise.map _ (fun i j hij h => hij (Hook.before.inj h)) hplaces
  have hhandler : ((config.matching turn).map Hook.handler).Nodup :=
    List.Pairwise.map _ (fun i j hij h => hij (Hook.handler.inj h)) hmatching
  have hafter : (config.places.map Hook.after).Nodup :=
    List.Pairwise.map _ (fun i j hij h => hij (Hook.after.inj h)) hplaces
  rw [schedule, List.nodup_append, List.nodup_append, List.nodup_cons]
  refine ⟨hbefore, ⟨⟨by simp, hhandler⟩, hafter, ?_⟩, ?_⟩
  · rintro _ hi _ hj rfl
    obtain ⟨j, -, rfl⟩ := List.mem_map.mp hj
    simp at hi
  · rintro _ hi _ hj rfl
    obtain ⟨i, -, rfl⟩ := List.mem_map.mp hi
    simp at hj

section Calls
variable {config turn} {calls : List (Call Visit)} {out : Reply}

theorem Routed.failsLast (h : Routed config turn calls out) : FailsLast calls out := by
  cases h with
  | listener h => exact .singleton
  | handlers h hasked => exact hasked.failsLast

theorem Routed.hooks_sublist (h : Routed config turn calls out) :
    (hooks calls).Sublist (.listener :: (config.matching turn).map Hook.handler) := by
  cases h with
  | listener h => exact (List.nil_sublist _).cons_cons _
  | handlers h hasked =>
    have hprefix := hasked.hooks_prefix
    rw [List.map_map] at hprefix
    exact hprefix.sublist.cons _

theorem hooks_sublist_of_asked
    (h : Asked (config.places.map Visit.before) calls out) :
    (hooks calls).Sublist (config.places.map Hook.before) := by
  have hprefix := h.hooks_prefix
  rw [List.map_map] at hprefix
  exact hprefix.sublist

theorem site_before (h : Asked (config.places.map Visit.before) calls out) {c : Call Visit}
    (hc : c ∈ calls) : ∃ i, c.site = .before i := by
  obtain ⟨i, -, hi⟩ := List.mem_map.mp (h.site_mem hc)
  exact ⟨i, hi.symm⟩

/-- A visit that routing pays: to the listener if there is one, and to a handler otherwise. -/
def IsRoute (config : Config ω) (turn : Turn) (visit : Visit) : Prop :=
  ((config.listener? turn).isSome = true ∧ visit = .listener turn) ∨
    (config.listener? turn = none ∧ ∃ i, visit = .handler i)

theorem Routed.isRoute (h : Routed config turn calls out) {c : Call Visit} (hc : c ∈ calls) :
    config.IsRoute turn c.site := by
  cases h with
  | listener h =>
    obtain rfl := List.mem_singleton.mp hc
    exact .inl ⟨h, rfl⟩
  | handlers h hasked =>
    obtain ⟨i, -, hi⟩ := List.mem_map.mp (hasked.site_mem hc)
    exact .inr ⟨h, i, hi.symm⟩

namespace Course

/-- What a call of a course can be. -/
theorem site_cases (h : Course config turn calls out) {c : Call Visit} (hc : c ∈ calls) :
    (∃ i, c.site = .before i) ∨ config.IsRoute turn c.site ∨ ∃ i answer, c.site = .after i answer := by
  cases h with
  | stopped hbefore => exact .inl (site_before hbefore hc)
  | answered hbefore hearly hafter =>
    obtain hc | hc := List.mem_append.mp hc
    · exact .inl (site_before hbefore hc)
    · exact .inr (.inr (hafter.site_after hc))
  | unrouted hbefore hearly hrouted =>
    obtain hc | hc := List.mem_append.mp hc
    · exact .inl (site_before hbefore hc)
    · exact .inr (.inl (hrouted.isRoute hc))
  | routed hbefore hearly hrouted hafter =>
    obtain hc | hc := List.mem_append.mp hc
    · exact .inl (site_before hbefore hc)
    obtain hc | hc := List.mem_append.mp hc
    · exact .inr (.inl (hrouted.isRoute hc))
    · exact .inr (.inr (hafter.site_after hc))

theorem failsLast (h : Course config turn calls out) : FailsLast calls out := by
  cases h with
  | stopped hbefore => exact hbefore.failsLast
  | answered hbefore hearly hafter => exact hbefore.failsLast.append hafter.failsLast
  | unrouted hbefore hearly hrouted => exact hbefore.failsLast.append hrouted.failsLast
  | routed hbefore hearly hrouted hafter =>
    exact hbefore.failsLast.append (hrouted.failsLast.append hafter.failsLast)

/-- A course leaves hooks out, but it calls none twice and none before its time. -/
theorem hooks_sublist (h : Course config turn calls out) :
    (hooks calls).Sublist (config.schedule turn) := by
  cases h with
  | stopped hbefore =>
    exact (hooks_sublist_of_asked hbefore).trans (List.sublist_append_left _ _)
  | answered hbefore hearly hafter =>
    rw [hooks_append]
    exact (hooks_sublist_of_asked hbefore).append
      (hafter.hooks_prefix.sublist.trans (List.sublist_append_right _ _))
  | unrouted hbefore hearly hrouted =>
    rw [hooks_append]
    exact (hooks_sublist_of_asked hbefore).append
      (hrouted.hooks_sublist.trans (List.sublist_append_left _ _))
  | routed hbefore hearly hrouted hafter =>
    rw [hooks_append, hooks_append]
    exact (hooks_sublist_of_asked hbefore).append
      (hrouted.hooks_sublist.append hafter.hooks_prefix.sublist)

end Course
end Calls

section Runs
variable {config} {done rest : List (Interceptor ω)} {i : Interceptor ω}

theorem work_before (h : config.interceptors = done ++ i :: rest) :
    config.work app turn (.before done.length) = some (i.before turn) := by
  simp [Visit.before, work, h]

theorem work_after (h : config.interceptors = done ++ i :: rest) (given : Option Json) :
    config.work app turn (.after done.length given) = some (i.after turn given) := by
  simp [Visit.after, work, h]

theorem runBefore_asked (hsplit : config.interceptors = done ++ rest) (s : TurnState × ω) :
    ∃ calls t out, Effect.result (runBefore turn rest) s = (out, t) ∧
      Performs (config.work app turn) s calls t ∧
      Asked ((List.range' done.length rest.length).map Visit.before) calls out := by
  induction rest generalizing done s with
  | nil => exact ⟨[], s, .ok none, rfl, .done s, .nobody⟩
  | cons i rest ih =>
    have hwork := work_before app turn hsplit
    have hlength : (done ++ [i]).length = done.length + 1 := List.length_append
    have hnext := ih (hsplit.trans (List.append_cons done i rest))
    rw [hlength] at hnext
    rw [runBefore, List.length_cons, List.range'_succ, List.map_cons]
    rcases hreply : Effect.result (i.before turn) s with ⟨e | answer, t⟩
    · exact ⟨_, t, _, Effect.result_bind_error hreply, .call hwork hreply (.done t), .settled rfl⟩
    rw [Effect.result_bind_ok hreply]
    cases hanswer : Json.inconclusive answer with
    | true =>
      obtain ⟨calls, u, out, hresult, hperforms, hasked⟩ := hnext t
      exact ⟨_, u, out, hresult, .call hwork hreply hperforms, .passed hanswer hasked⟩
    | false => exact ⟨_, t, .ok answer, rfl, .call hwork hreply (.done t), .settled hanswer⟩

theorem runAfter_handed (hsplit : config.interceptors = done ++ rest) (given : Option Json)
    (s : TurnState × ω) :
    ∃ calls t out, Effect.result (runAfter turn given rest) s = (out, t) ∧
      Performs (config.work app turn) s calls t ∧
      Handed (List.range' done.length rest.length) given calls out := by
  induction rest generalizing done given s with
  | nil => exact ⟨[], s, .ok given, rfl, .done s, .finished given⟩
  | cons i rest ih =>
    have hwork := work_after app turn hsplit given
    have hlength : (done ++ [i]).length = done.length + 1 := List.length_append
    have hnext := ih (hsplit.trans (List.append_cons done i rest))
    rw [hlength] at hnext
    rw [runAfter, List.length_cons, List.range'_succ]
    rcases hreply : Effect.result (i.after turn given) s with ⟨e | answer, t⟩
    · exact ⟨_, t, _, Effect.result_bind_error hreply, .call hwork hreply (.done t), .failed⟩
    · obtain ⟨calls, u, out, hresult, hperforms, hhanded⟩ := hnext answer t
      rw [Effect.result_bind_ok hreply]
      exact ⟨_, u, out, hresult, .call hwork hreply hperforms, .next hhanded⟩

theorem route_routed (s : TurnState × ω) :
    ∃ calls t out, Effect.result (config.route app turn) s = (out, t) ∧
      Performs (config.work app turn) s calls t ∧ Routed config turn calls out := by
  cases hlistener : config.listener? turn with
  | some listener =>
    have hwork : config.work app turn (.listener turn) =
        some (listener.invoke app turn turn.eventData) := by
      simp [Visit.listener, work, hlistener]
    rw [route, hlistener]
    rcases hreply : Effect.result (listener.invoke app turn turn.eventData) s with ⟨out, t⟩
    exact ⟨_, t, out, rfl, .call hwork hreply (.done t), .listener (by simp [hlistener])⟩
  | none =>
    obtain ⟨calls, t, outcome, hresult, hperforms, hasked, -⟩ :=
      dispatch_search turn.toContext config.options (fun f => f.invoke app turn none)
        config.handlers s
    rw [route, hlistener]
    exact ⟨calls.map (Call.map Visit.handler), t, outcome.map Outcome.answer,
      Effect.result_bind_pure hresult Outcome.answer, hperforms.map fun i m hm => hm,
      .handlers hlistener (hasked.map Visit.handler)⟩

/-- A turn that is not declined runs its course. -/
theorem result_decide (h : config.declines turn = false) (s : TurnState × ω) :
    ∃ calls t out,
      Effect.result (config.decide app turn) s = (out.map Decision.routed, t) ∧
      Performs (config.work app turn) s calls t ∧ Course config turn calls out := by
  have hsplit : config.interceptors = [] ++ config.interceptors := rfl
  have hplaces : List.range' 0 config.interceptors.length = config.places :=
    (List.range_eq_range').symm
  obtain ⟨calls, t, early, hbefore, hcalls, hasked⟩ := runBefore_asked app turn hsplit s
  have hfinish := fun answer u => runAfter_handed app turn hsplit answer u
  rw [List.length_nil, hplaces] at hasked
  simp only [List.length_nil, hplaces] at hfinish
  rw [decide, h, if_neg Bool.false_ne_true]
  rcases early with e | early
  · exact ⟨calls, t, .error e, Effect.result_bind_error hbefore, hcalls, .stopped hasked⟩
  rw [Effect.result_bind_ok hbefore]
  cases hearly : Json.inconclusive early with
  | false =>
    obtain ⟨posts, u, out, hafter, hposts, hhanded⟩ := hfinish early t
    refine ⟨calls ++ posts, u, out, ?_, hcalls.append hposts, .answered hasked hearly hhanded⟩
    exact Effect.result_bind_pure hafter Decision.routed
  | true =>
    obtain ⟨middle, u, routed, hroute, hmiddle, hrouted⟩ := route_routed app turn t
    rcases routed with e | answer
    · exact ⟨calls ++ middle, u, .error e, Effect.result_bind_error hroute,
        hcalls.append hmiddle, .unrouted hasked hearly hrouted⟩
    · obtain ⟨posts, v, out, hafter, hposts, hhanded⟩ := hfinish answer u
      refine ⟨calls ++ (middle ++ posts), v, out, ?_, hcalls.append (hmiddle.append hposts),
        .routed hasked hearly hrouted hhanded⟩
      exact (Effect.result_bind_ok hroute).trans (Effect.result_bind_pure hafter Decision.routed)

end Runs

/-- The calls made to decide a turn. -/
structure Decides (s : TurnState × ω) (calls : List (Call Visit)) : Prop where
  performs : Performs (config.work app turn) s calls (Effect.result (config.decide app turn) s).2
  declined : config.declines turn = true →
    (Effect.result (config.decide app turn) s).1 = .ok .default ∧ calls = []
  course : config.declines turn = false →
    ∃ out, (Effect.result (config.decide app turn) s).1 = out.map Decision.routed ∧
      Course config turn calls out

theorem exists_decides (s : TurnState × ω) : ∃ calls, config.Decides app turn s calls := by
  cases hdeclines : config.declines turn with
  | true =>
    have hresult : Effect.result (config.decide app turn) s = (.ok .default, s) := by
      rw [decide, hdeclines, if_pos rfl, Effect.result_pure]
    refine ⟨[], ?_, fun _ => ⟨by rw [hresult], rfl⟩, fun h => ?_⟩
    · rw [hresult]
      exact .done s
    · rw [hdeclines] at h
      cases h
  | false =>
    obtain ⟨calls, t, out, hresult, hperforms, hcourse⟩ := result_decide app turn hdeclines s
    refine ⟨calls, ?_, fun h => ?_, fun _ => ⟨out, by rw [hresult], hcourse⟩⟩
    · rw [hresult]
      exact hperforms
    · rw [hdeclines] at h
      cases h

/-- What deciding a turn calls, what it answers, and the state it leaves. -/
theorem decide_course (s : TurnState × ω) :
    ∃ calls t outcome,
      Effect.result (config.decide app turn) s = (outcome, t) ∧
      Performs (config.work app turn) s calls t ∧ (hooks calls).Nodup ∧
      (turn.requestType = RequestType.intent → turn.understood = false →
        config.listener? turn = none → outcome = .ok .default ∧ calls = [] ∧ t = s) ∧
      (turn.requestType ≠ RequestType.intent ∨ turn.understood = true ∨
          (config.listener? turn).isSome = true →
        ∃ out, outcome = out.map Decision.routed ∧ Course config turn calls out ∧
          FailsLast calls out) := by
  have hiff : config.declines turn = true ↔ turn.requestType = RequestType.intent ∧
      turn.understood = false ∧ config.listener? turn = none := by
    simp [declines, and_assoc]
  cases hdeclines : config.declines turn with
  | true =>
    obtain ⟨htype, hunderstood, hlistener⟩ := hiff.mp hdeclines
    refine ⟨[], s, .ok .default, ?_, .done s, .nil, fun _ _ _ => ⟨rfl, rfl, rfl⟩, ?_⟩
    · rw [decide, hdeclines, if_pos rfl, Effect.result_pure]
    · rintro (h | h | h)
      · exact absurd htype h
      · rw [hunderstood] at h
        cases h
      · rw [hlistener] at h
        cases h
  | false =>
    obtain ⟨calls, t, out, hresult, hperforms, hcourse⟩ := result_decide app turn hdeclines s
    have hnodup : (hooks calls).Nodup := hcourse.hooks_sublist.nodup (config.schedule_nodup turn)
    refine ⟨calls, t, out.map Decision.routed, hresult, hperforms, hnodup, ?_,
      fun _ => ⟨out, rfl, hcourse, hcourse.failsLast⟩⟩
    intro htype hunderstood hlistener
    rw [hiff.mpr ⟨htype, hunderstood, hlistener⟩] at hdeclines
    cases hdeclines

section Relay

private def noted (hook : Hook) (answer : Option Json) : Work (List Hook) (Option Json) := do
  modify fun s => (s.1, s.2 ++ [hook])
  return answer

/-- Answers nothing before routing, and passes on what it is handed. -/
private def silent (i : Nat) : Interceptor (List Hook) where
  before _ := noted (.before i) (some (.str []))
  after _ answer := noted (.after i) answer

private def relay : Config (List Hook) where
  handlers := [⟨"true".toList, .direct fun _ _ => noted (.handler 0) (some (.str ['a']))⟩]
  interceptors := [silent 0, silent 1]

private def utterance (understood : Bool) : Turn where
  intent := none
  requestType := RequestType.intent
  slot _ := none
  sessionValue _ default := default
  understood
  eventData := none
  session := none

private def start : TurnState × List Hook := (TurnState.start .empty, [])

theorem decide_course_relay :
    Effect.result (relay.decide .empty (utterance false)) start = (.ok .default, start) ∧
    ∃ calls t out,
      Effect.result (relay.decide .empty (utterance true)) start =
        (out.map Decision.routed, t) ∧
      Performs (relay.work .empty (utterance true)) start calls t ∧
      Course relay (utterance true) calls out ∧ FailsLast calls out := by
  constructor
  · obtain ⟨calls, t, outcome, hresult, -, -, hdeclined, -⟩ :=
      decide_course relay .empty (utterance false) start
    obtain ⟨rfl, -, rfl⟩ := hdeclined rfl rfl rfl
    exact hresult
  · obtain ⟨calls, t, outcome, hresult, hperforms, -, -, hcourse⟩ :=
      decide_course relay .empty (utterance true) start
    obtain ⟨out, rfl, hcourse, hfails⟩ := hcourse (.inr (.inl rfl))
    exact ⟨calls, t, out, hresult, hperforms, hcourse, hfails⟩

example : (Effect.result (relay.decide .empty (utterance true)) start).2.2 =
    [.before 0, .before 1, .handler 0, .after 0, .after 1] := by decide +kernel

end Relay

end Config
end TurnRouter
