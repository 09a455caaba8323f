import TurnRouter.Bot.Script
import TurnRouter.Proofs.Routing.Replies
import TurnRouter.Rule.Resolve

/-! # Conversations

In a conversation each request comes with the session that the latest reply had, if any had one.
Sessions survive that way: what the reply writes, the next request reads back, and the turns that
are declined or fail in between leave no trace in it.
-/
namespace TurnRouter

variable {ω : Type}

/-- The body of a request with the session kept so far in place of its own. -/
def withSession : Option Json → Fields Json → Json
  | none, fs => .obj fs
  | some session, fs => .obj (Fields.insert "session".toList session fs)

theorem session_withSession (session : Session) (fs : Fields Json) :
    (Request.ofJson (withSession (some (Envelope.sessionPart session)) fs)).session = session := by
  have hbody : Request.bodyAt? (withSession (some (Envelope.sessionPart session)) fs)
      ["session", "attributes"] = some session.toJson := by
    rw [withSession, Request.bodyAt?, List.map_cons, Json.at?, Json.child?, Fields.find?_insert,
      if_pos rfl, Option.bind_some, List.map_cons, Json.at?, Envelope.attributes_sessionPart]
    rfl
  rw [Request.ofJson, hbody]
  rfl

/-- A request for which a session is kept is one to which the session's attributes are carried. -/
theorem carrySession_eq_withSession (session : Session) (fs : Fields Json) :
    carrySession (some session.attributes) (.obj fs) =
      withSession (some (Envelope.sessionPart session)) fs := rfl

/-- A turn of a conversation: the body of its request, and what the application had noted. -/
structure Exchange (ω : Type) where
  body : Json
  memory : ω

/-- A bot in service. -/
structure Service (ω : Type) where
  config : Config ω
  app : Application ω
  envelope : Envelope

section Exchanges
variable (service : Service ω)

namespace Exchange
variable (x : Exchange ω)

def request : Request := .ofJson x.body
def turn : Turn := x.request.toTurn

def decided : Except CallbackError Decision × TurnState × ω :=
  Effect.result (service.config.decide service.app x.turn) (TurnState.ofTurn x.turn, x.memory)

/-- The state that the turn ended with. -/
def final : TurnState := (x.decided service).2.1

def answered : Except CallbackError Json × ω :=
  service.config.run service.app service.envelope x.turn x.memory

/-- The session that the reply had. -/
def sent? : Option Json :=
  (x.answered service).1.toOption.bind (Json.member? "session".toList)

/-- The turn is declined, or fails. -/
def Quiet : Prop :=
  (x.decided service).1 = .ok .default ∨ ∃ e, (x.decided service).1 = .error e

/-- The turn goes on from the session that another turn ended with. -/
structure Resumes (y : Exchange ω) : Prop where
  session : x.request.session = (y.final service).session
  start : TurnState.ofTurn x.turn = ⟨(y.final service).session, none⟩
  placeholder (opts : Options) (name : Text) :
    Rule.Span.resolve x.turn.toContext opts (.placeholder .session name) =
      (((Path.parse name).toOption.bind (y.final service).session.get?).getD
        opts.sessionDefault).write

variable {service} {x}

theorem answered_eq : (x.answered service).1 =
    (x.decided service).1.map (Decision.reply service.envelope (x.final service)) :=
  congrArg Prod.fst (Config.run_of_result _ _ _ rfl)

/-- Only the reply to a routed turn has a session. -/
theorem session_of_sent? {session : Json} (h : x.sent? service = some session) :
    session = Envelope.sessionPart (x.final service).session := by
  rw [sent?, answered_eq] at h
  cases hdecided : (x.decided service).1 with
  | error e =>
    rw [hdecided] at h
    cases h
  | ok decision =>
    rw [hdecided] at h
    cases decision with
    | default => cases Envelope.session_defaultReply.symm.trans h
    | routed answer =>
      have hreply := Envelope.session_reply service.envelope (x.final service) answer
      exact Option.some.inj (h.symm.trans hreply)

theorem sent?_of_quiet (h : x.Quiet service) : x.sent? service = none := by
  obtain h | ⟨e, h⟩ := h
  · rw [sent?, answered_eq, h]
    exact Envelope.session_defaultReply
  · rw [sent?, answered_eq, h]
    rfl

theorem resumes_of_session {y : Exchange ω}
    (h : x.request.session = (y.final service).session) : x.Resumes service y := by
  constructor
  · exact h
  · rw [turn, TurnState.ofTurn, Request.toTurn, Option.getD_some, h, TurnState.start]
  · intro opts name
    rw [← h, Rule.Span.resolve, Rule.Family.value, Rule.sessionValue]
    cases hparse : Path.parse name with
    | error e => rfl
    | ok p =>
      change (x.request.session.getText name opts.sessionDefault).write = _
      rw [Session.getText, hparse]
      rfl

end Exchange
end Exchanges

namespace Service

section Definitions
variable (service : Service ω)

/-- The turns of a conversation, with a session that is kept already, if any. -/
def converse : Option Json → ω → List (Fields Json) → List (Exchange ω)
  | _, _, [] => []
  | kept, memory, body :: bodies =>
    let x : Exchange ω := ⟨withSession kept body, memory⟩
    x :: converse ((x.sent? service).or kept) (x.answered service).2 bodies

/-- The session that is kept after some turns. -/
def keptAfter (kept : Option Json) (xs : List (Exchange ω)) : Option Json :=
  xs.foldl (fun kept x => (x.sent? service).or kept) kept

end Definitions

variable {service : Service ω} {kept : Option Json} {memory : ω} {bodies : List (Fields Json)}

theorem keptAfter_cons (x : Exchange ω) (xs : List (Exchange ω)) :
    service.keptAfter kept (x :: xs) = service.keptAfter ((x.sent? service).or kept) xs :=
  List.foldl_cons ..

theorem keptAfter_append (xs ys : List (Exchange ω)) :
    service.keptAfter kept (xs ++ ys) = service.keptAfter (service.keptAfter kept xs) ys :=
  List.foldl_append

theorem keptAfter_of_forall_none {xs : List (Exchange ω)} (h : ∀ x ∈ xs, x.sent? service = none) :
    service.keptAfter kept xs = kept := by
  induction xs with
  | nil => rfl
  | cons x xs ih =>
    obtain ⟨hx, hxs⟩ := List.forall_mem_cons.mp h
    rw [keptAfter_cons, hx, Option.none_or]
    exact ih hxs

/-- What is kept after some turns is the session of the latest reply that had one. -/
theorem keptAfter_latest {earlier between : List (Exchange ω)} {y : Exchange ω} {session : Json}
    (hsent : y.sent? service = some session) (hbetween : ∀ z ∈ between, z.sent? service = none) :
    service.keptAfter kept (earlier ++ y :: between) = some session := by
  rw [keptAfter_append, keptAfter_cons, hsent, Option.some_or]
  exact keptAfter_of_forall_none hbetween

theorem length_converse (kept : Option Json) (memory : ω) (bodies : List (Fields Json)) :
    (service.converse kept memory bodies).length = bodies.length := by
  induction bodies generalizing kept memory with
  | nil => rfl
  | cons body bodies ih => rw [converse, List.length_cons, ih, List.length_cons]

/-- The rest of a conversation is a conversation that starts from what is kept by then. -/
theorem converse_suffix {xs ys : List (Exchange ω)}
    (h : service.converse kept memory bodies = xs ++ ys) :
    ∃ memory' rest, ys = service.converse (service.keptAfter kept xs) memory' rest := by
  induction xs generalizing kept memory bodies with
  | nil => exact ⟨memory, bodies, h.symm⟩
  | cons x xs ih =>
    cases bodies with
    | nil => cases h
    | cons body bodies =>
      rw [converse, List.cons_append, List.cons.injEq] at h
      obtain ⟨rfl, h⟩ := h
      exact ih h

theorem converse_append (service : Service ω) (kept : Option Json) (memory : ω) (bodies : List (Fields Json)) :
    ∃ memory', ∀ more, service.converse kept memory (bodies ++ more) =
      service.converse kept memory bodies ++ service.converse
        (service.keptAfter kept (service.converse kept memory bodies)) memory' more := by
  induction bodies generalizing kept memory with
  | nil => exact ⟨memory, fun more => rfl⟩
  | cons body bodies ih =>
    have hrest := ih ((Exchange.sent? service ⟨withSession kept body, memory⟩).or kept)
      (Exchange.answered service ⟨withSession kept body, memory⟩).2
    obtain ⟨memory', hrest⟩ := hrest
    exact ⟨memory', fun more => congrArg _ (hrest more)⟩

/-- A turn goes on from where the latest turn whose reply had a session ended. A turn that is
declined or fails may be left out, and the turns after it still start from the same session. -/
theorem sessions_survive (service : Service ω) (memory : ω) :
    (∀ bodies earlier y between x later,
      service.converse none memory bodies = earlier ++ y :: (between ++ x :: later) →
      (y.sent? service).isSome = true → (∀ z ∈ between, z.sent? service = none) →
      x.Resumes service y) ∧
    ∀ before body more earlier z later, earlier.length = before.length →
      service.converse none memory (before ++ body :: more) = earlier ++ z :: later →
      z.Quiet service →
      ∃ kept memory' memory'', later = service.converse kept memory' more ∧
        service.converse none memory (before ++ more) =
          earlier ++ service.converse kept memory'' more := by
  constructor
  · intro bodies earlier y between x later hconverse hsome hbetween
    obtain ⟨session, hsent⟩ := Option.isSome_iff_exists.mp hsome
    rw [← List.cons_append, ← List.append_assoc] at hconverse
    obtain ⟨memory', rest, hrest⟩ := converse_suffix hconverse
    rw [keptAfter_latest hsent hbetween, Exchange.session_of_sent? hsent] at hrest
    cases rest with
    | nil => cases hrest
    | cons body rest =>
      rw [converse, List.cons.injEq] at hrest
      obtain ⟨rfl, -⟩ := hrest
      exact Exchange.resumes_of_session (session_withSession _ body)
  · intro before body more earlier z later hlength hconverse hquiet
    obtain ⟨memory'', happend⟩ := converse_append service none memory before
    have hlengths : (service.converse none memory before).length = earlier.length := by
      rw [length_converse, hlength]
    rw [happend, converse] at hconverse
    obtain ⟨rfl, hrest⟩ := List.append_inj hconverse hlengths
    obtain ⟨rfl, rfl⟩ := List.cons.inj hrest
    rw [Exchange.sent?_of_quiet hquiet, Option.none_or]
    exact ⟨_, _, memory'', rfl, happend more⟩

section Visitor

/-- Notes that the user has been here, but fails when the session is over. -/
private def greeting : Callback Unit := fun turn _ =>
  Script.run { turn } (if turn.requestType = RequestType.sessionEnded then [.fail []]
    else [.set "known".toList (.bool true), .answer (.str ['y'])])

private def visitor : Service Unit where
  config := { handlers := [⟨"true".toList, .direct greeting⟩] }
  app := .empty
  envelope := {}

private def asking (type : Text) : Fields Json :=
  [("request".toList, .obj [("type".toList, .str type)])]

private def known : Option Json := some (Envelope.sessionPart ⟨[("known".toList, .bool true)]⟩)

private def met : Exchange Unit := ⟨.obj (asking RequestType.launch), ()⟩
private def unclear : Exchange Unit := ⟨withSession known (asking RequestType.intent), ()⟩
private def leaving : Exchange Unit := ⟨withSession known (asking RequestType.sessionEnded), ()⟩
private def back : Exchange Unit := ⟨withSession known (asking RequestType.launch), ()⟩

private theorem converse_visitor :
    visitor.converse none () ([asking RequestType.launch] ++ asking RequestType.intent ::
      [asking RequestType.sessionEnded, asking RequestType.launch]) =
        [] ++ met :: ([unclear, leaving] ++ back :: []) := by
  with_unfolding_all rfl

theorem sessions_survive_visitor :
    back.Resumes visitor met ∧ ∃ kept memory' memory'',
      [leaving, back] = visitor.converse kept memory'
        [asking RequestType.sessionEnded, asking RequestType.launch] ∧
      visitor.converse none () ([asking RequestType.launch] ++
        [asking RequestType.sessionEnded, asking RequestType.launch]) =
          [met] ++ visitor.converse kept memory''
            [asking RequestType.sessionEnded, asking RequestType.launch] := by
  obtain ⟨hresumes, hquiet⟩ := sessions_survive visitor ()
  constructor
  · refine hresumes _ [] met [unclear, leaving] back [] converse_visitor ?_ ?_
    · with_unfolding_all rfl
    · have hunclear : unclear.sent? visitor = none := by with_unfolding_all rfl
      have hleaving : leaving.sent? visitor = none := by with_unfolding_all rfl
      simp [hunclear, hleaving]
  · have hdeclined : unclear.Quiet visitor := .inl (by with_unfolding_all rfl)
    exact hquiet _ _ _ [met] unclear [leaving, back] rfl converse_visitor hdeclined

end Visitor

end Service
end TurnRouter
