import TurnRouter.Proofs.Outcome
import TurnRouter.Request

/-! # Requests that are prepared

Before rules look at a request its slots can be set and its session edited, in any order. A slot
then has the last value set for it, the session is what the edits of the session make of it, and
all else about the request stays as it was read.
-/
namespace TurnRouter

inductive SessionEdit
  | set (p : Path) (value : Json)
  | remove (p : Path)
  | clear

def Session.edit (s : Session) : SessionEdit → Session
  | .set p value => s.set p value
  | .remove p => s.remove p
  | .clear => .empty

inductive Preparation
  | setSlot (name value : Text)
  | editSession (edit : SessionEdit)

namespace Preparation

/-- The value that is set for a slot. -/
def setsSlot? (name : Text) : Preparation → Option Text
  | setSlot n value => if n = name then some value else none
  | editSession _ => none

def editsSession? : Preparation → Option SessionEdit
  | setSlot _ _ => none
  | editSession edit => some edit

end Preparation

theorem Understanding.slot?_setSlot (u : Understanding) (name value other : Text) :
    (u.setSlot name value).slot? other = if name = other then some value else u.slot? other := by
  have hbind : ∀ w : Understanding, w.slot? other = (Fields.find? other w.slots).bind fun v =>
      (v.member? "value".toList).bind Json.text? := fun _ => rfl
  rw [hbind, hbind, setSlot, Fields.find?_insert]
  by_cases hname : name = other
  · rw [if_pos hname.symm, if_pos hname, Option.bind_some, Json.member?, Fields.find?_insert,
      if_pos rfl]
    rfl
  · rw [if_neg (Ne.symm hname), if_neg hname]

namespace Request

def perform (r : Request) : Preparation → Request
  | .setSlot name value => r.setSlot name value
  | .editSession edit => { r with session := r.session.edit edit }

def prepare (r : Request) (steps : List Preparation) : Request := steps.foldl perform r

/-- What no step of the preparation touches. -/
structure Agrees (r r' : Request) : Prop where
  body : r'.body = r.body
  type : r'.type = r.type
  intent : r'.toTurn.intent = r.toTurn.intent
  understood : r'.toTurn.understood = r.toTurn.understood

theorem Agrees.trans {r r' r'' : Request} (h : r.Agrees r') (h' : r'.Agrees r'') : r.Agrees r'' :=
  ⟨h'.body.trans h.body, h'.type.trans h.type, h'.intent.trans h.intent,
    h'.understood.trans h.understood⟩

section Step
variable (r : Request) (step : Preparation)

theorem understood_perform : (r.perform step).toTurn.understood = r.toTurn.understood := by
  cases step with
  | setSlot name value => exact Option.isSome_map
  | editSession edit => rfl

theorem slot_perform (name : Text) : (r.perform step).toTurn.slot name =
    if r.toTurn.understood then (step.setsSlot? name).or (r.toTurn.slot name) else none := by
  obtain ⟨body, type, session, understanding⟩ := r
  cases understanding with
  | none => cases step <;> rfl
  | some u =>
    cases step with
    | setSlot n value =>
      refine (u.slot?_setSlot n value name).trans ?_
      rw [Preparation.setsSlot?]
      split <;> rfl
    | editSession edit => rfl

theorem session_perform :
    (r.perform step).session = step.editsSession?.elim r.session r.session.edit := by
  cases step <;> rfl

theorem agrees_perform : r.Agrees (r.perform step) := by
  refine ⟨?_, ?_, ?_, understood_perform r step⟩
  · cases step <;> rfl
  · cases step <;> rfl
  · cases step with
    | setSlot name value => exact Option.map_map ..
    | editSession edit => rfl

end Step

section Run
variable (r : Request) (steps : List Preparation)

theorem agrees_prepare : r.Agrees (r.prepare steps) := by
  induction steps generalizing r with
  | nil => exact ⟨rfl, rfl, rfl, rfl⟩
  | cons step steps ih => exact (agrees_perform r step).trans (ih (r.perform step))

theorem slot_prepare (name : Text) : (r.prepare steps).toTurn.slot name =
    if r.toTurn.understood then
      (steps.filterMap (·.setsSlot? name)).getLast?.or (r.toTurn.slot name)
    else none := by
  induction steps generalizing r with
  | nil =>
    obtain ⟨body, type, session, understanding⟩ := r
    cases understanding <;> rfl
  | cons step steps ih =>
    have hrest := ih (r.perform step)
    rw [understood_perform, slot_perform] at hrest
    refine hrest.trans ?_
    rw [getLast?_filterMap_cons_or]
    split <;> rfl

theorem session_prepare : (r.prepare steps).session =
    (steps.filterMap Preparation.editsSession?).foldl Session.edit r.session := by
  induction steps generalizing r with
  | nil => rfl
  | cons step steps ih =>
    have hrest := ih (r.perform step)
    rw [session_perform] at hrest
    cases step <;> exact hrest

end Run

/-- A prepared request has the slots that were last set and the session as edited, whatever stood in
its slots before, and no step shows anywhere else. -/
theorem prepared_as_asked (r : Request) (steps : List Preparation) :
    (∀ name, (r.prepare steps).toTurn.slot name =
      if r.toTurn.understood then
        (steps.filterMap (·.setsSlot? name)).getLast?.or (r.toTurn.slot name)
      else none) ∧
    (r.prepare steps).session =
      (steps.filterMap Preparation.editsSession?).foldl Session.edit r.session ∧
    (r.prepare steps).toTurn.intent = r.toTurn.intent ∧
    (r.prepare steps).toTurn.understood = r.toTurn.understood ∧
    (r.prepare steps).toTurn.eventKey = r.toTurn.eventKey ∧
    (r.prepare steps).toTurn.eventData = r.toTurn.eventData ∧
    (r.prepare steps).toTurn.requestType = r.toTurn.requestType ∧
    (r.prepare steps).body = r.body ∧
    (r.prepare steps).query = r.query ∧
    (r.prepare steps).userId = r.userId ∧
    (r.prepare steps).botId = r.botId ∧
    (r.prepare steps).logId = r.logId ∧
    (r.prepare steps).cuid = r.cuid ∧
    (r.prepare steps).isLaunch = r.isLaunch ∧
    (r.prepare steps).isSessionEnded = r.isSessionEnded := by
  obtain ⟨hbody, htype, hintent, hunderstood⟩ := agrees_prepare r steps
  have hevent : (r.prepare steps).eventData = r.eventData := by
    rw [eventData, htype, hbody, eventData]
  refine ⟨slot_prepare r steps, session_prepare r steps, hintent, hunderstood,
    congrArg eventType hevent, hevent, htype, hbody, ?_, ?_, ?_, ?_, ?_, ?_, ?_⟩
  · rw [query, htype, hbody, query]
  · rw [userId, hbody, userId]
  · rw [botId, hbody, botId]
  · rw [logId, hbody, logId]
  · rw [cuid, hbody, cuid]
  · rw [isLaunch, htype, isLaunch]
  · rw [isSessionEnded, htype, isSessionEnded]

end Request
end TurnRouter
