import TurnRouter.Proofs.Outcome
import TurnRouter.Proofs.Routing.Course
import TurnRouter.Rule.Resolve

/-! # Where requests are routed

The type of a request is read off its body, and all that routing looks at agrees with it: only an
intent request can be understood or declined, and every request of a type of its own is an event,
which goes to the last listener registered for that type.
-/
namespace TurnRouter

variable {ω : Type}

/-- The type that a request body gives, if it is an object in an object that gives one. -/
def typeOf (body : Json) : Text :=
  (((body.member? "request".toList).bind (Json.member? "type".toList)).bind Json.text?).getD []

/-- The types that name an event. -/
def IsEvent (t : Text) : Prop :=
  t ≠ [] ∧ t ≠ RequestType.intent ∧ t ≠ RequestType.launch ∧ t ≠ RequestType.sessionEnded

theorem isEvent_iff {t : Text} : IsEvent t ↔ RequestType.standard.contains t = false := by
  simp [IsEvent, RequestType.standard]

/-- A step that means no position leads into objects only. -/
theorem Json.child?_eq_member? {step : Text} (h : Json.index? step = none) (v : Json) :
    v.child? step = v.member? step := by
  cases v <;> simp [Json.child?, Json.member?, h]

theorem exists_of_typeOf_ne_nil {body : Json} (h : typeOf body ≠ []) :
    ∃ fs, body.member? "request".toList = some (.obj fs) ∧
      Fields.find? "type".toList fs = some (.str (typeOf body)) := by
  obtain ⟨t, htext⟩ : ∃ t, ((body.member? "request".toList).bind
      (Json.member? "type".toList)).bind Json.text? = some t := by
    refine Option.ne_none_iff_exists'.mp fun hnone => h ?_
    rw [typeOf, hnone, Option.getD_none]
  have htype : typeOf body = t := by rw [typeOf, htext, Option.getD_some]
  obtain ⟨v, hv, ht⟩ := Option.bind_eq_some_iff.mp htext
  obtain ⟨request, hrequest, hmember⟩ := Option.bind_eq_some_iff.mp hv
  cases request with
  | obj fs =>
    cases v with
    | str s =>
      obtain rfl : s = t := Option.some.inj ht
      rw [htype]
      exact ⟨fs, hrequest, hmember⟩
    | _ => cases ht
  | _ => cases hmember

namespace Request
variable (body : Json)

theorem type_ofJson : (ofJson body).type = typeOf body := by
  have hrequest : Json.index? "request".toList = none := by decide
  have htype : Json.index? "type".toList = none := by decide
  have hpath : bodyAt? body ["request", "type"] =
      (body.member? "request".toList).bind (Json.member? "type".toList) := by
    rw [bodyAt?, List.map_cons, List.map_cons, List.map_nil, Json.at?,
      Json.child?_eq_member? hrequest]
    congr 1
    funext v
    rw [Json.at?, Json.child?_eq_member? htype]
    cases v.member? "type".toList <;> rfl
  change ((bodyAt? body ["request", "type"]).bind Json.text?).getD [] = typeOf body
  rw [hpath]
  rfl

theorem type_of_understood (h : (ofJson body).toTurn.understood = true) :
    typeOf body = RequestType.intent := by
  by_cases htype : typeOf body = RequestType.intent
  · exact htype
  · have hnone : (ofJson body).understanding = none := by
      refine if_neg ?_
      change (ofJson body).type ≠ RequestType.intent
      rw [type_ofJson]
      exact htype
    simp [toTurn, hnone] at h

theorem eventData_of_isEvent (h : IsEvent (typeOf body)) :
    ∃ fs, (ofJson body).eventData = some (.obj fs) ∧
      body.member? "request".toList = some (.obj fs) ∧
      Fields.find? "type".toList fs = some (.str (typeOf body)) := by
  obtain ⟨fs, hrequest, htype⟩ := exists_of_typeOf_ne_nil h.1
  refine ⟨fs, ?_, hrequest, htype⟩
  rw [eventData, type_ofJson, isEvent_iff.mp h, if_neg Bool.false_ne_true]
  exact hrequest

theorem eventData_of_not_isEvent (h : ¬ IsEvent (typeOf body)) :
    (ofJson body).eventData = none := by
  rw [isEvent_iff, Bool.not_eq_false] at h
  rw [eventData, type_ofJson, h, if_pos rfl]

theorem eventKey_of_isEvent (h : IsEvent (typeOf body)) :
    (ofJson body).toTurn.eventKey = some (typeOf body) := by
  obtain ⟨fs, hdata, -, htype⟩ := eventData_of_isEvent body h
  have hkey : (ofJson body).toTurn.eventKey = eventType (ofJson body).eventData := rfl
  rw [hkey, hdata]
  change ((Fields.find? "type".toList fs).bind fun v => v.text?.bind fun key =>
    if key = [] then none else some key) = some (typeOf body)
  rw [htype]
  exact if_neg h.1

theorem eventKey_of_not_isEvent (h : ¬ IsEvent (typeOf body)) :
    (ofJson body).toTurn.eventKey = none := by
  have hkey : (ofJson body).toTurn.eventKey = eventType (ofJson body).eventData := rfl
  rw [hkey, eventData_of_not_isEvent body h]
  rfl

theorem isSome_eventData_iff :
    (ofJson body).toTurn.eventData.isSome = true ↔ IsEvent (typeOf body) := by
  have hsame : (ofJson body).toTurn.eventData = (ofJson body).eventData := rfl
  by_cases h : IsEvent (typeOf body)
  · obtain ⟨fs, hdata, -⟩ := eventData_of_isEvent body h
    simp [hsame, hdata, h]
  · simp [hsame, eventData_of_not_isEvent body h, h]

theorem isSome_eventKey_iff :
    (ofJson body).toTurn.eventKey.isSome = true ↔ IsEvent (typeOf body) := by
  by_cases h : IsEvent (typeOf body)
  · simp [eventKey_of_isEvent body h, h]
  · simp [eventKey_of_not_isEvent body h, h]

theorem resolve_of_not_understood (h : (ofJson body).toTurn.understood = false) (opts : Options)
    (name : Text) :
    (Rule.Span.placeholder .intent name).resolve (ofJson body).toTurn.toContext opts =
        "false".toList ∧
      (Rule.Span.placeholder .slot name).resolve (ofJson body).toTurn.toContext opts =
        "null".toList := by
  have hnone : (ofJson body).understanding = none := by
    cases hu : (ofJson body).understanding with
    | none => rfl
    | some u => simp [toTurn, hu] at h
  simp [Rule.Span.resolve, Rule.Family.value, toTurn, hnone, Json.write]

end Request

namespace Config

/-- Registers listeners one after the other. -/
def register (config : Config ω) (registrations : List (Text × Invocable ω)) : Config ω :=
  registrations.foldl (fun config r => config.listen r.1 r.2) config

theorem find?_listen {key : Text} (hkey : key ≠ []) (config : Config ω) (r : Text × Invocable ω) :
    Fields.find? key (config.listen r.1 r.2).listeners =
      if r.1 = key then some r.2 else Fields.find? key config.listeners := by
  by_cases hempty : r.1 = []
  · have hne : r.1 ≠ key := fun heq => hkey (heq.symm.trans hempty)
    rw [listen, if_pos hempty, if_neg hne]
  · rw [listen, if_neg hempty, Fields.find?_insert]
    simp only [eq_comm]

/-- A listener found under a key was registered last for it, or bound before. -/
theorem find?_register {key : Text} (hkey : key ≠ []) (registrations : List (Text × Invocable ω))
    (config : Config ω) : Fields.find? key (config.register registrations).listeners =
      ((registrations.reverse.find? fun r => r.1 = key).map Prod.snd).or
        (Fields.find? key config.listeners) := by
  induction registrations generalizing config with
  | nil => rfl
  | cons r registrations ih =>
    have hstep : (config.register (r :: registrations)) =
        (config.listen r.1 r.2).register registrations := rfl
    rw [hstep, ih, find?_listen hkey, List.reverse_cons, List.find?_append, List.find?_singleton]
    cases registrations.reverse.find? fun r => r.1 = key with
    | some last => rfl
    | none => by_cases hr : r.1 = key <;> simp [hr]

/-- A bot to which listeners were registered, and which has no others. -/
def registered (handlers : List (Handler (Invocable ω))) (interceptors : List (Interceptor ω))
    (options : Options) (registrations : List (Text × Invocable ω)) : Config ω :=
  register { handlers, interceptors, options } registrations

section Routing
variable {config : Config ω} {app : Application ω} {turn : Turn} {s : TurnState × ω}
  {calls : List (Call Visit)}

theorem decide_eq_default_iff : (Effect.result (config.decide app turn) s).1 = .ok .default ↔
    config.declines turn = true := by
  obtain ⟨calls, h⟩ := exists_decides config app turn s
  cases hdeclines : config.declines turn with
  | true => exact ⟨fun _ => rfl, fun _ => (h.declined hdeclines).1⟩
  | false =>
    obtain ⟨out, houtcome, -⟩ := h.course hdeclines
    rw [houtcome]
    cases out <;> simp

/-- A listener that is called is called as the bound one, and in place of every handler. -/
theorem Decides.of_listener (h : config.Decides app turn s calls) {c : Call Visit} (hc : c ∈ calls)
    (hhook : c.site.hook = .listener) : (config.listener? turn).isSome = true ∧
      c.site = .listener turn ∧ ∀ d ∈ calls, ∀ i, d.site.hook ≠ .handler i := by
  cases hdeclines : config.declines turn with
  | true =>
    rw [(h.declined hdeclines).2] at hc
    exact absurd hc List.not_mem_nil
  | false =>
    obtain ⟨out, -, hcourse⟩ := h.course hdeclines
    obtain ⟨hbound, hsite⟩ : (config.listener? turn).isSome = true ∧ c.site = .listener turn := by
      obtain ⟨i, hi⟩ | hroute | ⟨i, answer, hi⟩ := hcourse.site_cases hc
      · rw [hi] at hhook
        cases hhook
      · obtain hlistener | ⟨-, i, hi⟩ := hroute
        · exact hlistener
        · rw [hi] at hhook
          cases hhook
      · rw [hi] at hhook
        cases hhook
    refine ⟨hbound, hsite, fun d hd i hi => ?_⟩
    obtain ⟨j, hj⟩ | hroute | ⟨j, answer, hj⟩ := hcourse.site_cases hd
    · rw [hj] at hi
      cases hi
    · obtain ⟨-, hlistener⟩ | ⟨hnone, -⟩ := hroute
      · rw [hlistener] at hi
        cases hi
      · rw [hnone] at hbound
        cases hbound
    · rw [hj] at hi
      cases hi

/-- Where a listener is bound, the rules are of no account. -/
theorem decide_with_rules (h : (config.listener? turn).isSome = true)
    (handlers : List (Handler (Invocable ω))) (options : Options) :
    ({ config with handlers, options } : Config ω).decide app turn = config.decide app turn := by
  obtain ⟨f, hf⟩ := Option.isSome_iff_exists.mp h
  have hsame : ({ config with handlers, options } : Config ω).listener? turn =
      config.listener? turn := rfl
  simp only [decide, declines, route, hsame, hf]

end Routing

section Requests
variable (body : Json) {config : Config ω}

theorem listener?_of_isEvent (h : IsEvent (typeOf body)) :
    config.listener? (Request.ofJson body).toTurn =
      Fields.find? (typeOf body) config.listeners := by
  rw [listener?, Request.eventKey_of_isEvent body h, Option.bind_some]

theorem listener?_of_not_isEvent (h : ¬ IsEvent (typeOf body)) :
    config.listener? (Request.ofJson body).toTurn = none := by
  rw [listener?, Request.eventKey_of_not_isEvent body h, Option.bind_none]

theorem declines_request_iff : config.declines (Request.ofJson body).toTurn = true ↔
    typeOf body = RequestType.intent ∧ (Request.ofJson body).toTurn.understood = false := by
  have htype : (Request.ofJson body).toTurn.requestType = typeOf body := Request.type_ofJson body
  simp only [declines, htype, Bool.and_eq_true, decide_eq_true_eq, Bool.not_eq_true',
    Option.isNone_iff_eq_none, and_assoc]
  constructor
  · rintro ⟨hintent, hnot, -⟩
    exact ⟨hintent, hnot⟩
  · rintro ⟨hintent, hnot⟩
    exact ⟨hintent, hnot, listener?_of_not_isEvent body fun hevent => hevent.2.1 hintent⟩

/-- The listener of an event is the one registered last for its type. -/
theorem exists_registration {handlers : List (Handler (Invocable ω))}
    {interceptors : List (Interceptor ω)} {options : Options}
    {registrations : List (Text × Invocable ω)} {f : Invocable ω}
    (h : (registered handlers interceptors options registrations).listener?
      (Request.ofJson body).toTurn = some f) :
    IsEvent (typeOf body) ∧ ∃ earlier later,
      registrations = earlier ++ (typeOf body, f) :: later ∧ ∀ r ∈ later, r.1 ≠ typeOf body := by
  by_cases hevent : IsEvent (typeOf body)
  · rw [listener?_of_isEvent body hevent, registered, find?_register hevent.1, Fields.find?_nil,
      Option.or_none] at h
    obtain ⟨⟨t, g⟩, hlast, rfl⟩ := Option.map_eq_some_iff.mp h
    obtain ⟨hkey, later, earlier, hsplit, hlater⟩ := List.find?_eq_some_iff_append.mp hlast
    have hkey : t = typeOf body := by simpa using hkey
    refine ⟨hevent, earlier.reverse, later.reverse, ?_, fun r hr => ?_⟩
    · rw [← List.reverse_reverse registrations, hsplit, hkey]
      simp
    · simpa using hlater r (List.mem_reverse.mp hr)
  · rw [listener?_of_not_isEvent body hevent] at h
    cases h

end Requests
end Config

/-- What a request is told to be by each of its parts is one and the same, and decides its way. -/
theorem requests_routed (body : Json) :
    (Request.ofJson body).type = typeOf body ∧
    ((Request.ofJson body).toTurn.understood = true → typeOf body = RequestType.intent) ∧
    ((Request.ofJson body).toTurn.eventData.isSome = true ↔ IsEvent (typeOf body)) ∧
    ((Request.ofJson body).toTurn.eventKey.isSome = true ↔ IsEvent (typeOf body)) ∧
    (IsEvent (typeOf body) →
      (Request.ofJson body).toTurn.eventKey = some (typeOf body) ∧
      ∃ fs, body.member? "request".toList = some (.obj fs) ∧
        (Request.ofJson body).toTurn.eventData = some (.obj fs)) ∧
    ((Request.ofJson body).toTurn.understood = false → ∀ opts name,
      (Rule.Span.placeholder .intent name).resolve (Request.ofJson body).toTurn.toContext opts =
          "false".toList ∧
        (Rule.Span.placeholder .slot name).resolve (Request.ofJson body).toTurn.toContext opts =
          "null".toList) ∧
    ∀ (ω : Type) (handlers : List (Handler (Invocable ω))) (interceptors : List (Interceptor ω))
      (options : Options) (registrations : List (Text × Invocable ω)) (app : Application ω)
      (s : TurnState × ω) (config : Config ω) (turn : Turn),
      config = .registered handlers interceptors options registrations →
      turn = (Request.ofJson body).toTurn →
      ((Effect.result (config.decide app turn) s).1 = .ok .default ↔
        typeOf body = RequestType.intent ∧ turn.understood = false) ∧
      ∀ calls, config.Decides app turn s calls → ∀ c ∈ calls, c.site.hook = .listener →
        ∃ (f : Invocable ω) (earlier later : List (Text × Invocable ω)) (fs : Fields Json),
          IsEvent (typeOf body) ∧ registrations = earlier ++ (typeOf body, f) :: later ∧
          (∀ r ∈ later, r.1 ≠ typeOf body) ∧
          body.member? "request".toList = some (.obj fs) ∧ c.site.given = some (.obj fs) ∧
          config.work app turn c.site = some (f.invoke app turn (some (.obj fs))) ∧
          (∀ d ∈ calls, ∀ i, d.site.hook ≠ .handler i) ∧
          ∀ rules options',
            ({ config with handlers := rules, options := options' } : Config ω).decide app turn =
              config.decide app turn := by
  have hdata : IsEvent (typeOf body) → ∃ fs, body.member? "request".toList = some (.obj fs) ∧
      (Request.ofJson body).toTurn.eventData = some (.obj fs) := by
    intro h
    obtain ⟨fs, hdata, hrequest, -⟩ := Request.eventData_of_isEvent body h
    exact ⟨fs, hrequest, hdata⟩
  refine ⟨Request.type_ofJson body, Request.type_of_understood body,
    Request.isSome_eventData_iff body, Request.isSome_eventKey_iff body,
    fun h => ⟨Request.eventKey_of_isEvent body h, hdata h⟩,
    Request.resolve_of_not_understood body, ?_⟩
  intro ω handlers interceptors options registrations app s config turn hconfig hturn
  subst hconfig hturn
  refine ⟨Config.decide_eq_default_iff.trans (Config.declines_request_iff body), ?_⟩
  intro calls h c hc hhook
  obtain ⟨hbound, hsite, hhandlers⟩ := h.of_listener hc hhook
  obtain ⟨f, hf⟩ := Option.isSome_iff_exists.mp hbound
  obtain ⟨hevent, earlier, later, hsplit, hlater⟩ := Config.exists_registration body hf
  obtain ⟨fs, hrequest, hgiven⟩ := hdata hevent
  refine ⟨f, earlier, later, fs, hevent, hsplit, hlater, hrequest, ?_, ?_, hhandlers, ?_⟩
  · rw [hsite]
    exact hgiven
  · rw [hsite, Visit.listener, Config.work, hf, hgiven, Option.map_some]
  · exact Config.decide_with_rules hbound

section Doorbell

private def ringing : Json :=
  .obj [("request".toList, .obj [("type".toList, .str "Ring".toList)])]

private def spoken : Json :=
  .obj [("request".toList, .obj [("intents".toList, .arr [.obj [("name".toList, .str ['o'])]]),
    ("type".toList, .str RequestType.intent)])]

private def answering (answer : Json) : Invocable Unit := .direct fun _ _ => return some answer

private def ringListeners : List (Text × Invocable Unit) :=
  [("Ring".toList, answering (.bool false)), ("Ring".toList, answering (.bool true)),
    ([], answering .null), ("Knock".toList, answering .null)]

private def doorbell : Config Unit :=
  .registered [⟨"true".toList, answering .null⟩] [] {} ringListeners

private theorem doorbell_decides : doorbell.Decides .empty (Request.ofJson ringing).toTurn
    (TurnState.start .empty, ())
    [⟨.listener (Request.ofJson ringing).toTurn, .ok (some (.bool true))⟩] where
  performs := by
    have hwork : doorbell.work .empty (Request.ofJson ringing).toTurn
        (.listener (Request.ofJson ringing).toTurn) = some (pure (some (.bool true))) := by
      with_unfolding_all rfl
    exact .call hwork rfl (.done _)
  declined h := by
    have hnot : doorbell.declines (Request.ofJson ringing).toTurn = false := by decide +kernel
    rw [hnot] at h
    cases h
  course _ := by
    have hbefore : Asked (doorbell.places.map Visit.before) [] (.ok none) := .nobody
    have hbound : (doorbell.listener? (Request.ofJson ringing).toTurn).isSome = true := by
      decide +kernel
    exact ⟨.ok (some (.bool true)), by with_unfolding_all rfl,
      .routed hbefore rfl (.listener hbound) (.finished _)⟩

theorem requests_routed_doorbell :
    typeOf spoken = RequestType.intent ∧
    (Request.ofJson ringing).toTurn.eventKey = some (typeOf ringing) ∧
    (Rule.Span.placeholder .intent ['o']).resolve (Request.ofJson ringing).toTurn.toContext {} =
      "false".toList ∧
    ∃ f earlier later, ringListeners = earlier ++ (typeOf ringing, f) :: later ∧
      ∀ r ∈ later, r.1 ≠ typeOf ringing := by
  obtain ⟨-, hintent, -⟩ := requests_routed spoken
  obtain ⟨-, -, -, -, hevent, hresolve, hroute⟩ := requests_routed ringing
  have htype : IsEvent (typeOf ringing) := isEvent_iff.mpr (by decide +kernel)
  obtain ⟨-, hlistener⟩ := hroute Unit _ _ _ ringListeners .empty (TurnState.start .empty, ())
    doorbell _ rfl rfl
  obtain ⟨f, earlier, later, fs, -, hsplit, hlater, -⟩ :=
    hlistener _ doorbell_decides _ List.mem_cons_self rfl
  exact ⟨hintent (by decide +kernel), (hevent htype).1, (hresolve (by decide +kernel) {} _).1,
    f, earlier, later, hsplit, hlater⟩

end Doorbell
end TurnRouter
