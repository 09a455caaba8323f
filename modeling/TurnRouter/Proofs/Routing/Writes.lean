import TurnRouter.Proofs.Outcome
import TurnRouter.Proofs.Routing.Course
import TurnRouter.Proofs.Routing.Replies

/-! # The writes of a turn

Callbacks reach the reply state through a few operations. Here a callback is a program over them:
it may look at the state, go on by what an operation returned, and keep notes of its own. What a
turn leaves in its reply is the inbound session with the operations of all its calls applied, one
after the other, whatever the calls answered.
-/
namespace TurnRouter

inductive Operation
  | setAttribute (path : Text) (value : Json)
  | setAt (p : Path) (value : Json)
  | removeAt (p : Path)
  | clearSession
  | awaitAnswer
  | endDialog

namespace Operation

/-- The operation as the reply state offers it. -/
def perform : Operation → TurnState → Except InvalidPath TurnState
  | setAttribute path value, state => state.set path value
  | setAt p value, state => .ok { state with session := state.session.set p value }
  | removeAt p, state => .ok { state with session := state.session.remove p }
  | clearSession, state => .ok state.clearSession
  | awaitAnswer, state => .ok state.awaitAnswer
  | endDialog, state => .ok state.endDialog

/-- What the operation says of the end of the conversation. -/
def ending? : Operation → Option Bool
  | awaitAnswer => some false
  | endDialog => some true
  | _ => none

end Operation

/-- Writing under an invalid path changes nothing. -/
def Session.after (session : Session) : Operation → Session
  | .setAttribute path value =>
    match Path.parse path with
    | .ok p => session.set p value
    | .error _ => session
  | .setAt p value => session.set p value
  | .removeAt p => session.remove p
  | .clearSession => .empty
  | .awaitAnswer | .endDialog => session

namespace TurnState

def after (state : TurnState) (op : Operation) : TurnState :=
  ⟨state.session.after op, op.ending?.or state.ending⟩

theorem set_eq_error {path : Text} (h : [] ∈ Text.split '.' path) (state : TurnState)
    (value : Json) : state.set path value = .error ⟨path⟩ := by
  have hparse : Path.parse path = .error ⟨path⟩ := dif_pos (List.contains_iff_mem.mpr h)
  rw [set, Session.setText, hparse]
  rfl

/-- An operation that fails leaves the state as it was. -/
theorem after_eq (state : TurnState) (op : Operation) :
    state.after op = (op.perform state).toOption.getD state := by
  cases op with
  | setAttribute path value =>
    rw [Operation.perform, set, Session.setText, after, Session.after]
    cases Path.parse path <;> rfl
  | setAt | removeAt | clearSession | awaitAnswer | endDialog => rfl

theorem session_foldl (ops : List Operation) (state : TurnState) :
    (ops.foldl after state).session = ops.foldl Session.after state.session := by
  induction ops generalizing state with
  | nil => rfl
  | cons op ops ih => exact ih (state.after op)

theorem ending_foldl (ops : List Operation) (state : TurnState) :
    (ops.foldl after state).ending = (ops.filterMap Operation.ending?).getLast?.or state.ending := by
  induction ops generalizing state with
  | nil => rfl
  | cons op ops ih =>
    have hafter : (state.after op).ending = op.ending?.or state.ending := rfl
    rw [List.foldl_cons, ih, hafter, getLast?_filterMap_cons_or]

end TurnState

/-- A callback: it ends with an answer or a failure, and is told whether an operation failed. -/
inductive Program (ω : Type)
  | finish (reply : Reply)
  | look (next : TurnState × ω → Program ω)
  | note (memory : ω) (next : Program ω)
  | act (op : Operation) (next : Except InvalidPath Unit → Program ω)

namespace Program
variable {ω : Type}

def run : Program ω → Work ω (Option Json)
  | finish (.ok answer) => pure answer
  | finish (.error e) => throw e
  | look next => do run (next (← get))
  | note memory next => do
    modify fun s => (s.1, memory)
    run next
  | act op next => do
    match op.perform (← get).1 with
    | .ok state =>
      modify fun s => (state, s.2)
      run (next (.ok ()))
    | .error e => run (next (.error e))

/-- The operations that the program comes to from a state, those that fail included. -/
def executed : Program ω → TurnState × ω → List Operation
  | finish _, _ => []
  | look next, s => executed (next s) s
  | note memory next, s => executed next (s.1, memory)
  | act op next, s =>
    op :: match op.perform s.1 with
      | .ok state => executed (next (.ok ())) (state, s.2)
      | .error e => executed (next (.error e)) s

theorem result_act (op : Operation) (next : Except InvalidPath Unit → Program ω)
    (s : TurnState × ω) :
    Effect.result (act op next).run s =
      match op.perform s.1 with
      | .ok state => Effect.result (next (.ok ())).run (state, s.2)
      | .error e => Effect.result (next (.error e)).run s := by
  have hget : Effect.result (get : Work ω (TurnState × ω)) s = (.ok s, s) := rfl
  rw [run, Effect.result_bind_ok hget]
  cases op.perform s.1 <;> rfl

/-- A program leaves what the operations that it came to make of the state. -/
theorem state_run (p : Program ω) (s : TurnState × ω) :
    (Effect.result p.run s).2.1 = (p.executed s).foldl TurnState.after s.1 := by
  induction p generalizing s with
  | finish reply => cases reply <;> rfl
  | look next ih => exact ih s s
  | note memory next ih => exact ih (s.1, memory)
  | act op next ih =>
    rw [executed, List.foldl_cons, TurnState.after_eq, result_act]
    cases op.perform s.1 with
    | ok state => exact ih (.ok ()) (state, s.2)
    | error e => exact ih (.error e) s

/-- Operations one after the other, whether or not they fail, and then a reply. -/
def sequence (reply : Reply) : List Operation → Program ω
  | [] => finish reply
  | op :: ops => act op fun _ => sequence reply ops

theorem executed_sequence (reply : Reply) (ops : List Operation) (s : TurnState × ω) :
    (sequence reply ops).executed s = ops := by
  induction ops generalizing s with
  | nil => rfl
  | cons op ops ih =>
    rw [sequence, executed]
    cases op.perform s.1 with
    | ok state => exact congrArg _ (ih (state, s.2))
    | error e => exact congrArg _ (ih s)

end Program

section Runs
variable {ι ω : Type}

/-- The operations of programs run in turn, each in the state that the one before left. -/
def carriedOut (program : ι → Program ω) (s : TurnState × ω) : List ι → List Operation
  | [] => []
  | i :: is =>
    (program i).executed s ++ carriedOut program (Effect.result (program i).run s).2 is

theorem carriedOut_sequence (reply : ι → Reply) (ops : ι → List Operation) (s : TurnState × ω)
    (is : List ι) : carriedOut (fun i => .sequence (reply i) (ops i)) s is = is.flatMap ops := by
  induction is generalizing s with
  | nil => rfl
  | cons i is ih => rw [carriedOut, Program.executed_sequence, ih, List.flatMap_cons]

theorem Performs.state_eq {work : ι → Option (Work ω (Option Json))} {program : ι → Program ω}
    {s t : TurnState × ω} {calls : List (Call ι)}
    (hprogram : ∀ i m, work i = some m → m = (program i).run) (h : Performs work s calls t) :
    t.1 = (carriedOut program s (calls.map Call.site)).foldl TurnState.after s.1 := by
  induction h with
  | done s => rfl
  | @call i m s t u r calls hwork hresult hrest ih =>
    have hm : m = (program i).run := hprogram i m hwork
    rw [hm] at hresult
    have hstate : t.1 = ((program i).executed s).foldl TurnState.after s.1 := by
      rw [← Program.state_run, hresult]
    rw [List.map_cons, carriedOut, List.foldl_append, ← hstate, hresult]
    exact ih

theorem Performs.reply_eq {work : ι → Option (Work ω (Option Json))} {program : ι → Program ω}
    {s t : TurnState × ω} {calls : List (Call ι)}
    (hprogram : ∀ i m, work i = some m → m = (program i).run) (h : Performs work s calls t) :
    t.1.session =
      (carriedOut program s (calls.map Call.site)).foldl Session.after s.1.session ∧
    t.1.ending =
      ((carriedOut program s (calls.map Call.site)).filterMap Operation.ending?).getLast?.or
        s.1.ending := by
  rw [h.state_eq hprogram]
  exact ⟨TurnState.session_foldl _ s.1, TurnState.ending_foldl _ s.1⟩

end Runs

namespace Config
variable {ω : Type} (config : Config ω) (app : Application ω) (envelope : Envelope) (turn : Turn)

/-- The reply to a routed turn carries the operations of all calls, and their last word on the end
of the conversation; a failed write hands on its error and nothing else. The turn is no part of the
state: rules and callbacks read it as it came in. -/
theorem reply_carries_operations {program : Visit → Program ω}
    (hprogram : ∀ visit m, config.work app turn visit = some m → m = (program visit).run)
    {memory memory' : ω} {json : Json} (hrouted : config.declines turn = false)
    (hrun : config.run app envelope turn memory = (.ok json, memory')) :
    (∃ calls answer state,
      Performs (config.work app turn) (TurnState.ofTurn turn, memory) calls (state, memory') ∧
      Course config turn calls (.ok answer) ∧ json = envelope.reply state answer ∧
      ∃ ops, ops = carriedOut program (TurnState.ofTurn turn, memory) (calls.map Call.site) ∧
        json.at? ["session".toList, "attributes".toList] =
          some (ops.foldl Session.after (turn.session.getD .empty)).toJson ∧
        json.at? ["response".toList, "shouldEndSession".toList] =
          some (.bool ((ops.filterMap Operation.ending?).getLast?.getD envelope.ends))) ∧
    ∀ path value, [] ∈ Text.split '.' path →
      (∀ state : TurnState, state.set path value = .error ⟨path⟩) ∧
      ∀ (next : Except InvalidPath Unit → Program ω) s,
        Effect.result (Program.act (.setAttribute path value) next).run s =
          Effect.result (next (.error ⟨path⟩)).run s := by
  constructor
  · obtain ⟨calls, ⟨state, memory''⟩, out, hresult, hperforms, hcourse⟩ :=
      result_decide app turn hrouted (TurnState.ofTurn turn, memory)
    rw [run_of_result config app envelope hresult] at hrun
    cases out with
    | error e => cases hrun
    | ok answer =>
      cases hrun
      obtain ⟨hsession, hending⟩ := hperforms.reply_eq hprogram
      refine ⟨calls, answer, state, hperforms, hcourse, rfl, _, rfl, ?_, ?_⟩
      · rw [Decision.reply, Envelope.attributes_reply, hsession]
        rfl
      · rw [Decision.reply, Envelope.ending_reply, hending]
        exact congrArg (fun flag => some (Json.bool (flag.getD envelope.ends))) Option.or_none
  · intro path value hinvalid
    have hset := fun state => TurnState.set_eq_error hinvalid state value
    refine ⟨hset, fun next s => ?_⟩
    rw [Program.result_act, Operation.perform, hset]

section Ledger

private def entries : Hook → List Operation
  | .before _ => [.setAttribute "seen".toList (.bool true), .awaitAnswer]
  | .listener => []
  | .handler 0 => [.setAttribute "a..b".toList .null, .setAttribute "a.b".toList (.bool true)]
  | .handler _ => [.setAttribute "seen".toList (.bool false), .endDialog]
  | .after _ => [.setAttribute "end".toList (.bool true)]

/-- The first handler has nothing to say. -/
private def closing : Visit → Option Json
  | ⟨.handler 0, _⟩ => some (.str [])
  | ⟨.handler _, _⟩ => some (.str ['y'])
  | ⟨.after _, given⟩ => given
  | _ => none

private def ledger (visit : Visit) : Program Unit :=
  .sequence (.ok (closing visit)) (entries visit.hook)

private def ledgerBot : Config Unit where
  handlers := [⟨"true".toList, .direct fun _ _ => (ledger (Visit.handler 0)).run⟩,
    ⟨"true".toList, .direct fun _ _ => (ledger (Visit.handler 1)).run⟩]
  interceptors := [{
    before := fun _ => (ledger (Visit.before 0)).run
    after := fun _ given => (ledger (Visit.after 0 given)).run }]

private def opening : Turn :=
  (Request.ofJson (.object [("session", .object [("attributes", .object [("old", .null)])])])).toTurn

private def ledgerReply : Json :=
  Envelope.reply {} ⟨⟨[("a".toList, .obj [("b".toList, .bool true)]), ("end".toList, .bool true),
    ("old".toList, .null), ("seen".toList, .bool false)]⟩, some true⟩ (some (.str ['y']))

private theorem ledgerBot_work (visit : Visit) (m : Work Unit (Option Json))
    (h : ledgerBot.work .empty opening visit = some m) : m = (ledger visit).run := by
  obtain ⟨hook, given⟩ := visit
  rcases hook with i | _ | i | i
  · rcases i with _ | i <;> cases h
    rfl
  · cases h
  · rcases i with _ | _ | i <;> cases h <;> rfl
  · rcases i with _ | i <;> cases h
    rfl

private theorem ledgerBot_run : ledgerBot.run .empty {} opening () = (.ok ledgerReply, ()) := by
  with_unfolding_all rfl

theorem reply_carries_operations_ledger :
    ∃ calls answer state,
      Performs (ledgerBot.work .empty opening) (TurnState.ofTurn opening, ()) calls (state, ()) ∧
      Course ledgerBot opening calls (.ok answer) ∧
      ∃ ops, ops = (hooks calls).flatMap entries ∧
        ledgerReply.at? ["session".toList, "attributes".toList] =
          some (ops.foldl Session.after ⟨[("old".toList, .null)]⟩).toJson ∧
        ledgerReply.at? ["response".toList, "shouldEndSession".toList] =
          some (.bool ((ops.filterMap Operation.ending?).getLast?.getD false)) := by
  obtain ⟨⟨calls, answer, state, hperforms, hcourse, -, ops, hops, hattributes, hending⟩, -⟩ :=
    reply_carries_operations ledgerBot .empty {} opening ledgerBot_work rfl ledgerBot_run
  refine ⟨calls, answer, state, hperforms, hcourse, ops, ?_, hattributes, hending⟩
  have hsequence := carriedOut_sequence (fun visit => .ok (closing visit))
    (fun visit : Visit => entries visit.hook) (TurnState.ofTurn opening, ()) (calls.map Call.site)
  rw [hops, hooks]
  exact hsequence.trans (by simp [List.flatMap_map])

end Ledger

end Config
end TurnRouter
