import TurnRouter.Proofs.Routing.Course

/-! # The plan of a turn

Which hook comes next depends on how a bot is laid out, on the turn, and on the kinds of the
replies so far: on nothing that a callback wrote. The plan tells it for all replies at once, and a
course of calls follows the plan.
-/
namespace TurnRouter

variable {ι ω : Type}

namespace Reply

/-- All that routing sees of a reply. -/
inductive Kind
  | inconclusive
  | conclusive
  | failed
deriving DecidableEq

def kind : Reply → Kind
  | .ok answer => if Json.inconclusive answer then .inconclusive else .conclusive
  | .error _ => .failed

@[simp] theorem kind_error (e : CallbackError) : kind (.error e) = .failed := rfl

theorem kind_eq_inconclusive {r : Reply} : r.kind = .inconclusive ↔ r.passes = true := by
  cases r with
  | error e => simp
  | ok answer => cases h : Json.inconclusive answer <;> simp [kind, h]

theorem kind_ok_inj {answer answer' : Option Json} :
    kind (.ok answer) = kind (.ok answer') ↔
      Json.inconclusive answer = Json.inconclusive answer' := by
  cases h : Json.inconclusive answer <;> cases h' : Json.inconclusive answer' <;> simp [kind, h, h']

theorem kind_ok_ne_failed (answer : Option Json) : kind (.ok answer) ≠ .failed := by
  cases h : Json.inconclusive answer <;> simp [kind, h]

end Reply

/-- The calls still to be made, each of which may change what comes after it. -/
inductive Plan (ι : Type)
  | finish (outcome : Reply.Kind)
  | call (site : ι) (next : Reply.Kind → Plan ι)

namespace Plan

/-- Nothing is done after a failure. -/
def unlessFailed (next : Reply.Kind → Plan ι) (k : Reply.Kind) : Plan ι :=
  if k = .failed then .finish .failed else next k

/-- The sites are called up to the first that settles the search. -/
def ask (next : Reply.Kind → Plan ι) : List ι → Plan ι
  | [] => next .inconclusive
  | i :: is => .call i fun k => if k = .inconclusive then ask next is else next k

/-- All sites are called, up to a failure. -/
def hand : List ι → Reply.Kind → Plan ι
  | [] => .finish
  | i :: is => fun _ => .call i (unlessFailed (hand is))

@[simp] theorem unlessFailed_failed (next : Reply.Kind → Plan ι) :
    unlessFailed next .failed = .finish .failed := if_pos rfl

theorem unlessFailed_ok (next : Reply.Kind → Plan ι) (answer : Option Json) :
    unlessFailed next (Reply.kind (.ok answer)) = next (Reply.kind (.ok answer)) :=
  if_neg (Reply.kind_ok_ne_failed answer)

end Plan

/-- The calls are those of the plan for their replies, and so is the outcome. -/
inductive Follows : Plan ι → List (Call ι) → Reply.Kind → Prop
  | finish (outcome : Reply.Kind) : Follows (.finish outcome) [] outcome
  | call {i : ι} {next : Reply.Kind → Plan ι} {r : Reply} {calls : List (Call ι)}
      {outcome : Reply.Kind} (hrest : Follows (next r.kind) calls outcome) :
      Follows (.call i next) (⟨i, r⟩ :: calls) outcome

section Follows
variable {next : Reply.Kind → Plan ι} {rest : List (Call ι)} {outcome : Reply.Kind}

theorem Asked.follows {sites : List ι} {calls : List (Call ι)} {out : Reply}
    (h : Asked sites calls out) (hrest : Follows (next out.kind) rest outcome) :
    Follows (Plan.ask next sites) (calls ++ rest) outcome := by
  induction h with
  | nobody => exact hrest
  | @settled i r sites h =>
    have hkind : r.kind ≠ .inconclusive := fun hk => by simp [Reply.kind_eq_inconclusive.mp hk] at h
    refine .call ?_
    rw [if_neg hkind]
    exact hrest
  | @passed i r out sites calls h hasked ih =>
    have hkind : r.kind = .inconclusive := Reply.kind_eq_inconclusive.mpr h
    refine .call ?_
    rw [if_pos hkind]
    exact ih hrest

theorem Asked.follows_ask {sites : List ι} {calls : List (Call ι)} {out : Reply}
    (h : Asked sites calls out) : Follows (Plan.ask .finish sites) calls out.kind := by
  rw [← List.append_nil calls]
  exact h.follows (.finish _)

theorem Handed.follows {is : List Nat} {given : Option Json} {calls : List (Call Visit)}
    {out : Reply} (h : Handed is given calls out) :
    Follows (Plan.hand (is.map Hook.after) (Reply.kind (.ok given)))
      (calls.map (Call.map Visit.hook)) out.kind := by
  induction h with
  | finished answer => exact .finish _
  | failed =>
    refine .call ?_
    rw [Reply.kind_error, Plan.unlessFailed_failed]
    exact .finish _
  | next hrest ih =>
    refine .call ?_
    rw [Plan.unlessFailed_ok]
    exact ih

end Follows

/-- What a bot has, apart from what its hooks and callbacks do. -/
structure Layout where
  rules : List Text
  /-- Whether a listener is bound to a type of event. -/
  bound : Text → Bool
  interceptors : Nat
  options : Options

def Config.layout (config : Config ω) : Layout where
  rules := config.handlers.map Handler.rule
  bound key := (Fields.find? key config.listeners).isSome
  interceptors := config.interceptors.length
  options := config.options

namespace Layout
variable (layout : Layout) (turn : Turn)

def listens : Bool := turn.eventKey.any layout.bound

def matching : List Nat :=
  TurnRouter.matching turn.toContext layout.options (layout.rules.map Handler.bare)

def places : List Nat := List.range layout.interceptors

def route (next : Reply.Kind → Plan Hook) : Plan Hook :=
  if layout.listens turn then .call .listener next
  else .ask next ((layout.matching turn).map Hook.handler)

/-- The calls for a turn that is not declined. -/
def plan : Plan Hook :=
  let close := Plan.unlessFailed (Plan.hand (layout.places.map Hook.after))
  .ask (fun k => if k = .inconclusive then layout.route turn close else close k)
    (layout.places.map Hook.before)

/-- Whether a turn is declined, which no callback has a say in. -/
def declines : Bool :=
  turn.requestType = RequestType.intent && !turn.understood && !layout.listens turn

end Layout

namespace Config
variable {config : Config ω} {turn : Turn}

theorem isSome_listener? : (config.listener? turn).isSome = config.layout.listens turn := by
  cases h : turn.eventKey <;> simp [listener?, Layout.listens, layout, h]

theorem matching_layout : config.matching turn = config.layout.matching turn :=
  matchingFrom_bare 0 config.handlers

theorem declines_layout : config.declines turn = config.layout.declines turn := by
  rw [declines, Layout.declines, ← isSome_listener?]
  cases config.listener? turn <;> rfl

variable {calls : List (Call Visit)} {out : Reply}

theorem Routed.follows {next : Reply.Kind → Plan Hook} {rest : List (Call Hook)}
    {outcome : Reply.Kind} (h : Routed config turn calls out)
    (hrest : Follows (next out.kind) rest outcome) :
    Follows (config.layout.route turn next) (calls.map (Call.map Visit.hook) ++ rest) outcome := by
  cases h with
  | listener h =>
    rw [Layout.route, ← isSome_listener?, if_pos h]
    exact .call hrest
  | handlers h hasked =>
    have hlistens : config.layout.listens turn = false := by rw [← isSome_listener?, h]; rfl
    have hasked := hasked.map Visit.hook
    rw [List.map_map] at hasked
    rw [Layout.route, hlistens, if_neg Bool.false_ne_true, ← matching_layout]
    exact hasked.follows hrest

theorem follows_of_asked {next : Reply.Kind → Plan Hook} {rest : List (Call Hook)}
    {outcome : Reply.Kind} (h : Asked (config.places.map Visit.before) calls out)
    (hrest : Follows (next out.kind) rest outcome) :
    Follows (Plan.ask next (config.layout.places.map Hook.before))
      (calls.map (Call.map Visit.hook) ++ rest) outcome := by
  have h := h.map Visit.hook
  rw [List.map_map] at h
  exact h.follows hrest

/-- A course follows the plan of the layout. -/
theorem Course.follows (h : Course config turn calls out) :
    Follows (config.layout.plan turn) (calls.map (Call.map Visit.hook)) out.kind := by
  cases h with
  | stopped hbefore =>
    rw [← List.append_nil (calls.map _)]
    refine follows_of_asked hbefore ?_
    exact .finish _
  | @answered calls posts answer out hbefore hearly hafter =>
    have hkind : Reply.kind (.ok answer) ≠ .inconclusive := by
      rw [Ne, Reply.kind_eq_inconclusive, Reply.passes_ok, hearly]
      exact Bool.false_ne_true
    rw [List.map_append]
    refine follows_of_asked hbefore ?_
    rw [if_neg hkind, Plan.unlessFailed_ok]
    exact hafter.follows
  | @unrouted calls middle early e hbefore hearly hrouted =>
    have hkind : Reply.kind (.ok early) = .inconclusive := Reply.kind_eq_inconclusive.mpr hearly
    rw [List.map_append, ← List.append_nil (middle.map _)]
    refine follows_of_asked hbefore ?_
    rw [if_pos hkind]
    refine hrouted.follows ?_
    exact .finish _
  | @routed calls middle posts early answer out hbefore hearly hrouted hafter =>
    have hkind : Reply.kind (.ok early) = .inconclusive := Reply.kind_eq_inconclusive.mpr hearly
    rw [List.map_append, List.map_append]
    refine follows_of_asked hbefore ?_
    rw [if_pos hkind]
    refine hrouted.follows ?_
    rw [Plan.unlessFailed_ok]
    exact hafter.follows

end Config
end TurnRouter
