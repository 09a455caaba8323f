import TurnRouter.Dispatch

/-! # Calls

What a run did to a shared state, told as the calls it made. A call names a site, and what is done
there may depend on the state that all earlier calls left. Which sites are called in which order is
said apart from what they do.
-/
namespace TurnRouter

variable {ι κ σ : Type}

/-- What was answered at a site, or how it failed. -/
abbrev Reply := Except CallbackError (Option Json)

namespace Reply

/-- No failure, and an answer that settles nothing. -/
def passes : Reply → Bool
  | .ok answer => Json.inconclusive answer
  | .error _ => false

@[simp] theorem passes_ok (answer : Option Json) :
    passes (.ok answer) = Json.inconclusive answer := rfl

@[simp] theorem passes_error (e : CallbackError) : passes (.error e) = false := rfl

end Reply

structure Call (ι : Type) where
  site : ι
  reply : Reply

def Call.map (f : ι → κ) (c : Call ι) : Call κ := ⟨f c.site, c.reply⟩

/-- The calls lead from a state to another, each made in the state that the one before left. -/
inductive Performs (work : ι → Option (Effect σ (Option Json))) : σ → List (Call ι) → σ → Prop
  | done (s : σ) : Performs work s [] s
  | call {i : ι} {m : Effect σ (Option Json)} {s t u : σ} {r : Reply} {calls : List (Call ι)}
      (hwork : work i = some m) (hresult : Effect.result m s = (r, t))
      (hrest : Performs work t calls u) : Performs work s (⟨i, r⟩ :: calls) u

namespace Performs
variable {work : ι → Option (Effect σ (Option Json))} {s t u : σ} {calls more : List (Call ι)}

theorem append (h : Performs work s calls t) (hmore : Performs work t more u) :
    Performs work s (calls ++ more) u := by
  induction h with
  | done s => exact hmore
  | call hwork hresult hrest ih => exact .call hwork hresult (ih hmore)

theorem map {work' : κ → Option (Effect σ (Option Json))} {f : ι → κ}
    (h : Performs work s calls t) (hf : ∀ i m, work i = some m → work' (f i) = some m) :
    Performs work' s (calls.map (Call.map f)) t := by
  induction h with
  | done s => exact .done s
  | call hwork hresult hrest ih => exact .call (hf _ _ hwork) hresult ih

theorem exists_of_mem (h : Performs work s calls t) {c : Call ι} (hc : c ∈ calls) :
    ∃ m s, work c.site = some m ∧ (Effect.result m s).1 = c.reply := by
  induction h with
  | done s => exact absurd hc List.not_mem_nil
  | @call i m s t u r calls hwork hresult hrest ih =>
    obtain rfl | hc := List.mem_cons.mp hc
    · exact ⟨m, s, hwork, congrArg Prod.fst hresult⟩
    · exact ih hc

/-- A site answers in one way in one state. -/
theorem first_reply {t' : σ} {i : ι} {r r' : Reply} {calls' : List (Call ι)}
    (h : Performs work s (⟨i, r⟩ :: calls) t) (h' : Performs work s (⟨i, r'⟩ :: calls') t') :
    r = r' ∧ ∃ u, Performs work u calls t ∧ Performs work u calls' t' := by
  cases h with
  | @call _ m _ u _ _ _ hwork hresult hrest =>
    cases h' with
    | @call _ m' _ u' _ _ _ hwork' hresult' hrest' =>
      obtain rfl : m = m' := Option.some.inj (hwork.symm.trans hwork')
      obtain ⟨rfl, rfl⟩ : r = r' ∧ u = u' := Prod.mk.inj (hresult.symm.trans hresult')
      exact ⟨rfl, u, hrest, hrest'⟩

end Performs

/-- The sites are called in turn up to the first whose reply does not pass; that reply is the
outcome, and without one the outcome is no answer. -/
inductive Asked : List ι → List (Call ι) → Reply → Prop
  | nobody : Asked [] [] (.ok none)
  | settled {i : ι} {r : Reply} {sites : List ι} (h : r.passes = false) :
      Asked (i :: sites) [⟨i, r⟩] r
  | passed {i : ι} {r out : Reply} {sites : List ι} {calls : List (Call ι)} (h : r.passes = true)
      (hrest : Asked sites calls out) : Asked (i :: sites) (⟨i, r⟩ :: calls) out

namespace Asked
variable {sites : List ι} {calls : List (Call ι)} {out : Reply}

theorem map (h : Asked sites calls out) (f : ι → κ) :
    Asked (sites.map f) (calls.map (Call.map f)) out := by
  induction h with
  | nobody => exact .nobody
  | settled h => exact .settled h
  | passed h hrest ih => exact .passed h ih

theorem sites_prefix (h : Asked sites calls out) : calls.map Call.site <+: sites := by
  induction h with
  | nobody => exact List.nil_prefix
  | settled h => exact List.cons_prefix_cons.mpr ⟨rfl, List.nil_prefix⟩
  | passed h hrest ih => exact List.cons_prefix_cons.mpr ⟨rfl, ih⟩

theorem site_mem (h : Asked sites calls out) {c : Call ι} (hc : c ∈ calls) : c.site ∈ sites :=
  h.sites_prefix.subset (List.mem_map_of_mem hc)

/-- All calls pass but for the last one, which may. -/
theorem passes_of_mem_dropLast (h : Asked sites calls out) :
    ∀ c ∈ calls.dropLast, c.reply.passes = true := by
  induction h with
  | nobody => simp
  | settled h => simp
  | @passed i r out sites calls h hrest ih =>
    cases calls with
    | nil => simp
    | cons c calls =>
      rw [List.dropLast_cons_cons]
      exact List.forall_mem_cons.mpr ⟨h, ih⟩

theorem ending (h : Asked sites calls out) :
    (∃ i, calls.getLast? = some ⟨i, out⟩ ∧ out.passes = false) ∨
      (calls.map Call.site = sites ∧ (∀ c ∈ calls, c.reply.passes = true) ∧ out = .ok none) := by
  induction h with
  | nobody => exact .inr ⟨rfl, by simp, rfl⟩
  | settled h => exact .inl ⟨_, rfl, h⟩
  | passed h hrest ih =>
    obtain ⟨i, hlast, hout⟩ | ⟨hall, hpass, hout⟩ := ih
    · refine .inl ⟨i, ?_, hout⟩
      rw [List.getLast?_cons, hlast]
      rfl
    · exact .inr ⟨by simp [hall], List.forall_mem_cons.mpr ⟨h, hpass⟩, hout⟩

theorem out_ok (h : Asked sites calls out) (hok : ∀ c ∈ calls, ∃ answer, c.reply = .ok answer) :
    ∃ answer, out = .ok answer := by
  obtain ⟨i, hlast, -⟩ | ⟨-, -, hnone⟩ := h.ending
  · exact hok ⟨i, out⟩ (List.mem_of_getLast? hlast)
  · exact ⟨none, hnone⟩

/-- If no reply passes, only the first site is called. -/
theorem sites_of_settling (h : Asked sites calls out)
    (hsettle : ∀ c ∈ calls, c.reply.passes = false) :
    calls.map Call.site = sites.head?.toList := by
  cases h with
  | nobody => rfl
  | settled h => rfl
  | @passed i r out sites calls h hrest =>
    have hfirst : r.passes = false := hsettle ⟨i, r⟩ List.mem_cons_self
    rw [h] at hfirst
    cases hfirst

/-- In one state the same sites are asked in one way. -/
theorem unique {work : ι → Option (Effect σ (Option Json))} {s t t' : σ} {calls' : List (Call ι)}
    {out' : Reply} (h : Asked sites calls out) (h' : Asked sites calls' out')
    (hp : Performs work s calls t) (hp' : Performs work s calls' t') : calls = calls' := by
  induction h generalizing s calls' with
  | nobody =>
    cases h'
    rfl
  | settled h =>
    cases h' with
    | settled h' =>
      obtain ⟨rfl, -⟩ := hp.first_reply hp'
      rfl
    | passed h' hrest' =>
      obtain ⟨rfl, -⟩ := hp.first_reply hp'
      rw [h] at h'
      cases h'
  | passed h hrest ih =>
    cases h' with
    | settled h' =>
      obtain ⟨rfl, -⟩ := hp.first_reply hp'
      rw [h] at h'
      cases h'
    | passed h' hrest' =>
      obtain ⟨rfl, u, hp, hp'⟩ := hp.first_reply hp'
      rw [ih hrest' hp hp']

end Asked

/-- A failure is the outcome, and nothing is called after it. -/
def FailsLast (calls : List (Call ι)) (out : Reply) : Prop :=
  ∀ c ∈ calls, ∀ e, c.reply = .error e → out = .error e ∧ calls.getLast? = some c

namespace FailsLast
variable {calls more : List (Call ι)} {out : Reply}

theorem nil : FailsLast ([] : List (Call ι)) out := fun _ hc => absurd hc List.not_mem_nil

theorem singleton {i : ι} : FailsLast [⟨i, out⟩] out := by
  intro c hc e he
  obtain rfl := List.mem_singleton.mp hc
  exact ⟨he, rfl⟩

theorem append {answer : Option Json} (h : FailsLast calls (.ok answer)) (hmore : FailsLast more out) :
    FailsLast (calls ++ more) out := by
  intro c hc e he
  obtain hc | hc := List.mem_append.mp hc
  · cases (h c hc e he).1
  · obtain ⟨hout, hlast⟩ := hmore c hc e he
    refine ⟨hout, ?_⟩
    rw [List.getLast?_append, hlast]
    rfl

theorem cons {i : ι} {answer : Option Json} (hmore : FailsLast more out) :
    FailsLast (⟨i, .ok answer⟩ :: more) out :=
  singleton.append hmore

end FailsLast

theorem Asked.failsLast {sites : List ι} {calls : List (Call ι)} {out : Reply}
    (h : Asked sites calls out) : FailsLast calls out := by
  induction h with
  | nobody => exact .nil
  | settled h => exact .singleton
  | @passed i r out sites calls h hrest ih =>
    cases r with
    | error e => cases h
    | ok answer => exact ih.cons

end TurnRouter
