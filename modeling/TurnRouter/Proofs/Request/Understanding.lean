import TurnRouter.Bot.Envelope
import TurnRouter.Proofs.Routing.Requests

/-! # The intent that a request states

A request is understood if its body states an intent with a name, and its slots are those of that
intent. Anything of another shape, at whatever depth, reads as missing. The intent is looked for at
a position, which is also a key: an object may stand in place of the list of intents.
-/
namespace TurnRouter

theorem Json.at?_cons {step : Text} (h : index? step = none) (steps : List Text) (v : Json) :
    v.at? (step :: steps) = (v.member? step).bind (at? steps) := by
  rw [at?, child?_eq_member? h]

/-- The intent to go by: the first of a list, or the one under the key `0` of an object. -/
inductive FirstIntent : Json → Json → Prop
  | item (intent : Json) (others : List Json) : FirstIntent (.arr (intent :: others)) intent
  | keyed {fs : Fields Json} {intent : Json} : Fields.find? ['0'] fs = some intent →
    FirstIntent (.obj fs) intent

theorem firstIntent_iff {intents intent : Json} :
    FirstIntent intents intent ↔ intents.at? ["0".toList] = some intent := by
  have hstep : intents.at? ["0".toList] = intents.child? ['0'] := Option.bind_fun_some _
  rw [hstep]
  constructor
  · rintro (⟨_, _⟩ | h)
    · rfl
    · exact h
  · intro h
    cases intents with
    | arr items =>
      cases items with
      | nil => cases h
      | cons first others =>
        obtain rfl : first = intent := Option.some.inj h
        exact .item first others
    | obj fs => exact .keyed h
    | _ => cases h

/-- The body is that of an intent request, and its first intent is an object of these fields. -/
def StatesIntent (body : Json) (intent : Fields Json) : Prop :=
  ∃ request intents,
    body.member? "request".toList = some request ∧
    request.member? "type".toList = some (.str RequestType.intent) ∧
    request.member? "intents".toList = some intents ∧
    FirstIntent intents (.obj intent)

/-- The value of a slot among the fields of an intent. -/
def SlotValue (intent : Fields Json) (slot value : Text) : Prop :=
  ∃ slots fs,
    Fields.find? "slots".toList intent = some (.obj slots) ∧
    Fields.find? slot slots = some (.obj fs) ∧
    Fields.find? "value".toList fs = some (.str value)

namespace Understanding

theorem ofJson?_eq_some_iff {v : Json} {u : Understanding} : ofJson? v = some u ↔
    ∃ intent, v = .obj intent ∧ Fields.find? "name".toList intent = some (.str u.intent) ∧
      u.slots = ((Fields.find? "slots".toList intent).bind Json.fields?).getD [] := by
  have hbind : ofJson? v = (v.member? "name".toList).bind fun name => name.text?.bind fun name =>
      some ⟨name, ((v.member? "slots".toList).bind Json.fields?).getD []⟩ := rfl
  rw [hbind]
  constructor
  · intro h
    obtain ⟨w, hw, h⟩ := Option.bind_eq_some_iff.mp h
    obtain ⟨name, hname, h⟩ := Option.bind_eq_some_iff.mp h
    cases h
    cases v with
    | obj intent =>
      cases w with
      | str s =>
        cases hname
        exact ⟨intent, rfl, hw, rfl⟩
      | _ => cases hname
    | _ => cases hw
  · rintro ⟨intent, rfl, hname, hslots⟩
    obtain ⟨name, slots⟩ := u
    cases hslots
    rw [Json.member?, hname]
    rfl

theorem slot?_eq_some_iff {u : Understanding} {intent : Fields Json} {slot value : Text}
    (hslots : u.slots = ((Fields.find? "slots".toList intent).bind Json.fields?).getD []) :
    u.slot? slot = some value ↔ SlotValue intent slot value := by
  have hbind : u.slot? slot = (Fields.find? slot u.slots).bind fun fs =>
      (fs.member? "value".toList).bind fun v => v.text? := rfl
  rw [hbind]
  constructor
  · intro h
    obtain ⟨fs, hfs, h⟩ := Option.bind_eq_some_iff.mp h
    obtain ⟨v, hv, htext⟩ := Option.bind_eq_some_iff.mp h
    obtain ⟨slots, hfound, hmem⟩ : ∃ slots, Fields.find? "slots".toList intent = some (.obj slots) ∧
        Fields.find? slot slots = some fs := by
      rw [hslots] at hfs
      cases hfind : Fields.find? "slots".toList intent with
      | none => rw [hfind] at hfs; cases hfs
      | some w =>
        rw [hfind] at hfs
        cases w with
        | obj slots => exact ⟨slots, rfl, hfs⟩
        | _ => cases hfs
    cases fs with
    | obj fields =>
      cases v with
      | str s =>
        cases htext
        exact ⟨slots, fields, hfound, hmem, hv⟩
      | _ => cases htext
    | _ => cases hv
  · rintro ⟨slots, fs, hfound, hmem, hvalue⟩
    rw [hslots, hfound]
    change (Fields.find? slot slots).bind _ = _
    rw [hmem, Option.bind_some, Json.member?, hvalue]
    rfl

end Understanding

namespace Request
variable {body : Json}

theorem bodyAt?_firstIntent {intent : Json} :
    bodyAt? body ["request", "intents", "0"] = some intent ↔
      ∃ request intents, body.member? "request".toList = some request ∧
        request.member? "intents".toList = some intents ∧ FirstIntent intents intent := by
  have hrequest : Json.index? "request".toList = none := by decide
  have hintents : Json.index? "intents".toList = none := by decide
  have hpath : bodyAt? body ["request", "intents", "0"] = (body.member? "request".toList).bind
      fun request => (request.member? "intents".toList).bind (Json.at? ["0".toList]) := by
    rw [bodyAt?, List.map_cons, Json.at?_cons hrequest]
    congr 1
    funext request
    exact Json.at?_cons hintents _ request
  rw [hpath]
  constructor
  · intro h
    obtain ⟨request, hr, h⟩ := Option.bind_eq_some_iff.mp h
    obtain ⟨intents, hi, h⟩ := Option.bind_eq_some_iff.mp h
    exact ⟨request, intents, hr, hi, firstIntent_iff.mpr h⟩
  · rintro ⟨request, intents, hr, hi, hfirst⟩
    rw [hr, Option.bind_some, hi, Option.bind_some]
    exact firstIntent_iff.mp hfirst

theorem typeOf_eq_intent_iff : typeOf body = RequestType.intent ↔
    ∃ request, body.member? "request".toList = some request ∧
      request.member? "type".toList = some (.str RequestType.intent) := by
  constructor
  · intro h
    have hne : typeOf body ≠ [] := by rw [h]; decide
    obtain ⟨fs, hrequest, htype⟩ := exists_of_typeOf_ne_nil hne
    exact ⟨.obj fs, hrequest, by rw [← h]; exact htype⟩
  · rintro ⟨request, hrequest, htype⟩
    rw [typeOf, hrequest, Option.bind_some, htype]
    rfl

theorem understanding_eq_some_iff {u : Understanding} : (ofJson body).understanding = some u ↔
    ∃ intent, StatesIntent body intent ∧
      Fields.find? "name".toList intent = some (.str u.intent) ∧
      u.slots = ((Fields.find? "slots".toList intent).bind Json.fields?).getD [] := by
  have hdecoded : (ofJson body).understanding =
      if typeOf body = RequestType.intent then
        (bodyAt? body ["request", "intents", "0"]).bind Understanding.ofJson?
      else none := by
    rw [← type_ofJson]
    rfl
  rw [hdecoded]
  constructor
  · intro h
    split at h
    · next htype =>
      obtain ⟨v, hv, hu⟩ := Option.bind_eq_some_iff.mp h
      obtain ⟨request, hrequest, hkind⟩ := typeOf_eq_intent_iff.mp htype
      obtain ⟨request', intents, hrequest', hintents, hfirst⟩ := bodyAt?_firstIntent.mp hv
      obtain ⟨intent, rfl, hname, hslots⟩ := Understanding.ofJson?_eq_some_iff.mp hu
      obtain rfl : request = request' := Option.some.inj (hrequest.symm.trans hrequest')
      exact ⟨intent, ⟨request, intents, hrequest, hkind, hintents, hfirst⟩, hname, hslots⟩
    · cases h
  · rintro ⟨intent, ⟨request, intents, hrequest, hkind, hintents, hfirst⟩, hname, hslots⟩
    have hv := bodyAt?_firstIntent.mpr ⟨request, intents, hrequest, hintents, hfirst⟩
    rw [if_pos (typeOf_eq_intent_iff.mpr ⟨request, hrequest, hkind⟩), hv, Option.bind_some]
    exact Understanding.ofJson?_eq_some_iff.mpr ⟨intent, rfl, hname, hslots⟩

/-- A request is understood exactly if its body states an intent with a name. Its slots are the texts
that are the values of objects among the slots of that intent, if those stand in an object. -/
theorem understanding_decoded (body : Json) :
    ((ofJson body).toTurn.understood = true ↔ ∃ intent name,
      StatesIntent body intent ∧ Fields.find? "name".toList intent = some (.str name)) ∧
    (∀ name, (ofJson body).toTurn.intent = some name ↔ ∃ intent,
      StatesIntent body intent ∧ Fields.find? "name".toList intent = some (.str name)) ∧
    ∀ slot value, (ofJson body).toTurn.slot slot = some value ↔ ∃ intent name,
      StatesIntent body intent ∧ Fields.find? "name".toList intent = some (.str name) ∧
        SlotValue intent slot value := by
  refine ⟨?_, fun name => ?_, fun slot value => ?_⟩
  · refine Option.isSome_iff_exists.trans ⟨?_, ?_⟩
    · rintro ⟨u, hu⟩
      obtain ⟨intent, hstates, hname, -⟩ := understanding_eq_some_iff.mp hu
      exact ⟨intent, u.intent, hstates, hname⟩
    · rintro ⟨intent, name, hstates, hname⟩
      exact ⟨⟨name, _⟩, understanding_eq_some_iff.mpr ⟨intent, hstates, hname, rfl⟩⟩
  · refine Option.map_eq_some_iff.trans ⟨?_, ?_⟩
    · rintro ⟨u, hu, rfl⟩
      obtain ⟨intent, hstates, hname, -⟩ := understanding_eq_some_iff.mp hu
      exact ⟨intent, hstates, hname⟩
    · rintro ⟨intent, hstates, hname⟩
      exact ⟨⟨name, _⟩, understanding_eq_some_iff.mpr ⟨intent, hstates, hname, rfl⟩, rfl⟩
  · refine Option.bind_eq_some_iff.trans ⟨?_, ?_⟩
    · rintro ⟨u, hu, hslot⟩
      obtain ⟨intent, hstates, hname, hslots⟩ := understanding_eq_some_iff.mp hu
      exact ⟨intent, u.intent, hstates, hname, (Understanding.slot?_eq_some_iff hslots).mp hslot⟩
    · rintro ⟨intent, name, hstates, hname, hvalue⟩
      exact ⟨⟨name, _⟩, understanding_eq_some_iff.mpr ⟨intent, hstates, hname, rfl⟩,
        (Understanding.slot?_eq_some_iff rfl).mpr hvalue⟩

private def keyedBody : Json :=
  .object [("request", .object [("type", .str RequestType.intent),
    ("intents", .object [("0", .object [("name", .str "Weather".toList)])])])]

/-- No list of intents stands in the body, and yet it is understood. -/
theorem keyed_intent_taken :
    (ofJson keyedBody).toTurn.understood = true ∧
    (ofJson keyedBody).toTurn.intent = some "Weather".toList ∧
    ∀ intents, bodyAt? keyedBody ["request", "intents"] ≠ some (.arr intents) := by
  refine ⟨by decide +kernel, by decide +kernel, fun intents h => ?_⟩
  cases h

end Request
end TurnRouter
