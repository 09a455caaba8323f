import TurnRouter.CommandLine.Arguments
import TurnRouter.Proofs.Outcome

/-! # What the arguments give

The settings of an accepted command line hold what its options were given: the last value where
one is enough, and every value where an option may come several times.
-/
namespace TurnRouter.CommandLine

/-- Options without a value. -/
def switches : List Text := ["--color".toList, "--no-color".toList, "--json".toList]

theorem notMem_switches {arg : Text} (hcolor : arg ≠ "--color".toList)
    (hplain : arg ≠ "--no-color".toList) (hjson : arg ≠ "--json".toList) : arg ∉ switches := by
  simp only [switches, List.mem_cons, List.not_mem_nil, or_false, not_or]
  exact ⟨hcolor, hplain, hjson⟩

namespace ValueOption

/-- The values given to an option by the arguments, up to the first that is no option. -/
def given (option : ValueOption) : List Text → List Text
  | [] => []
  | arg :: rest =>
    if arg ∈ switches then given option rest
    else match ofArgument? arg, rest with
      | some other, value :: rest =>
        if other = option then value :: given option rest else given option rest
      | _, _ => []

variable (option : ValueOption) {arg : Text}

theorem given_switch (harg : arg ∈ switches) (rest : List Text) :
    given option (arg :: rest) = given option rest := by
  rw [given.eq_def]
  exact if_pos harg

theorem given_option {other : ValueOption} (harg : arg ∉ switches)
    (hother : ofArgument? arg = some other) (value : Text) (rest : List Text) :
    given option (arg :: value :: rest) =
      if other = option then value :: given option rest else given option rest := by
  rw [given.eq_def]
  dsimp only
  rw [if_neg harg, hother]

theorem given_of_none (harg : arg ∉ switches) (hnone : ofArgument? arg = none)
    (rest : List Text) : given option (arg :: rest) = [] := by
  rw [given.eq_def]
  dsimp only
  rw [if_neg harg, hnone]

end ValueOption

theorem finish_eq_evaluate {settings settings' : Settings}
    (h : finish settings = .ok (.evaluate settings')) : settings = settings' ∧
      (settings.requestPath = none ∨ settings.intent = none ∧ settings.slots = []) := by
  unfold finish at h
  split at h
  · cases h
  · split at h
    · cases h
    · next hconflict =>
      cases h
      refine ⟨rfl, ?_⟩
      cases hpath : settings.requestPath with
      | none => exact .inl rfl
      | some path => exact .inr (by simpa [hpath] using hconflict)

theorem ofArgument?_flag (option : ValueOption) :
    ValueOption.ofArgument? option.flag.toList = some option := by
  cases option <;> decide

theorem parseFrom_of_apply (option : ValueOption) {before after : Settings} {value : Text}
    (happly : option.apply before value = .ok after) (rest : List Text) :
    parseFrom before (option.flag.toList :: value :: rest) = parseFrom after rest := by
  have hhelp : ¬(option.flag.toList = "-h".toList ∨ option.flag.toList = "--help".toList) := by
    cases option <;> decide
  have hversion :
      ¬(option.flag.toList = "-V".toList ∨ option.flag.toList = "--version".toList) := by
    cases option <;> decide
  have hswitch : option.flag.toList ∉ switches := by cases option <;> decide
  simp only [switches, List.mem_cons, List.not_mem_nil, or_false, not_or] at hswitch
  rw [parseFrom, if_neg hhelp, if_neg hversion, if_neg hswitch.1, if_neg hswitch.2.1,
    if_neg hswitch.2.2, ofArgument?_flag]
  dsimp only
  rw [happly]

/-- What the settings hold after some arguments, by what they held before. -/
structure Gathers (before : Settings) (args : List Text) (after : Settings) : Prop where
  requestPath : after.requestPath = (ValueOption.given .request args).getLast?.or before.requestPath
  intent : after.intent = (ValueOption.given .intent args).getLast?.or before.intent
  slots : ∃ more, (ValueOption.given .slot args).map parseSlot = more.map .ok ∧
    after.slots = before.slots ++ more
  session : after.session =
    (ValueOption.given .session args).getLast?.elim before.session Json.parse?
  consistent : after.requestPath = none ∨ after.intent = none ∧ after.slots = []

theorem parse?_of_parseJson {flag : String} {s : Text} {v : Json}
    (h : parseJson flag s = .ok v) : Json.parse? s = some v := by
  obtain ⟨w, hw, hwv⟩ := elim_eq_ok.mp h
  rw [hw, Except.ok.inj hwv]

/-- An option sets one field, or adds to one, and leaves the others. -/
theorem fields_of_apply {before after : Settings} {value : Text} {option : ValueOption}
    (h : option.apply before value = .ok after) :
    after.requestPath = (if option = .request then some value else before.requestPath) ∧
    after.intent = (if option = .intent then some value else before.intent) ∧
    after.session = (if option = .session then Json.parse? value else before.session) ∧
    ∃ more, (if option = .slot then [value] else []).map parseSlot = more.map .ok ∧
      after.slots = before.slots ++ more := by
  have hslots : before.slots = before.slots ++ [] := (List.append_nil _).symm
  cases option with
  | rule | request | intent =>
    cases h
    exact ⟨rfl, rfl, rfl, [], rfl, hslots⟩
  | slot =>
    obtain ⟨slot, hslot, rfl⟩ := map_eq_ok.mp h
    exact ⟨rfl, rfl, rfl, [slot], congrArg (· :: []) hslot, rfl⟩
  | session =>
    obtain ⟨v, hv, rfl⟩ := map_eq_ok.mp h
    exact ⟨rfl, rfl, (parse?_of_parseJson hv).symm, [], rfl, hslots⟩
  | sessionDefault =>
    obtain ⟨v, -, rfl⟩ := map_eq_ok.mp h
    exact ⟨rfl, rfl, rfl, [], rfl, hslots⟩

namespace Gathers
variable {before middle after : Settings} {arg : Text} {args : List Text}

theorem of_finish (rules : List Text) (hnone : ∀ option, ValueOption.given option args = [])
    (h : finish { before with rules } = .ok (.evaluate after)) : Gathers before args after := by
  obtain ⟨rfl, hconsistent⟩ := finish_eq_evaluate h
  constructor
  · rw [hnone]; rfl
  · rw [hnone]; rfl
  · exact ⟨[], by rw [hnone]; rfl, (List.append_nil _).symm⟩
  · rw [hnone]; rfl
  · exact hconsistent

theorem switch {json color : Bool} (harg : arg ∈ switches)
    (h : Gathers { before with json, color } args after) : Gathers before (arg :: args) after := by
  constructor
  · rw [ValueOption.given_switch _ harg]; exact h.requestPath
  · rw [ValueOption.given_switch _ harg]; exact h.intent
  · rw [ValueOption.given_switch _ harg]; exact h.slots
  · rw [ValueOption.given_switch _ harg]; exact h.session
  · exact h.consistent

theorem option {option : ValueOption} {value : Text} (harg : arg ∉ switches)
    (hoption : ValueOption.ofArgument? arg = some option)
    (happly : option.apply before value = .ok middle) (h : Gathers middle args after) :
    Gathers before (arg :: value :: args) after := by
  obtain ⟨hpath, hintent, hsession, first, hfirst, hmiddle⟩ := fields_of_apply happly
  constructor
  · rw [ValueOption.given_option _ harg hoption, h.requestPath, hpath]
    split
    · rw [getLast?_cons_or]
    · rfl
  · rw [ValueOption.given_option _ harg hoption, h.intent, hintent]
    split
    · rw [getLast?_cons_or]
    · rfl
  · obtain ⟨more, hmore, hafter⟩ := h.slots
    refine ⟨first ++ more, ?_, by rw [hafter, hmiddle, List.append_assoc]⟩
    rw [ValueOption.given_option _ harg hoption, List.map_append, ← hfirst, ← hmore]
    split <;> rfl
  · rw [ValueOption.given_option _ harg hoption, h.session, hsession]
    split
    · rw [List.getLast?_cons]
      cases (ValueOption.given .session args).getLast? <;> rfl
    · rfl
  · exact h.consistent

end Gathers

theorem gathers_of_parseFrom {before after : Settings} {args : List Text}
    (h : parseFrom before args = .ok (.evaluate after)) : Gathers before args after := by
  fun_induction parseFrom before args with
  | case1 before => exact .of_finish before.rules (fun _ => rfl) h
  | case2 => cases h
  | case3 => cases h
  | case4 before rest _ _ ih => exact .switch (by decide) (ih h)
  | case5 before rest _ _ _ ih => exact .switch (by decide) (ih h)
  | case6 before rest _ _ _ _ ih => exact .switch (by decide) (ih h)
  | case7 => cases h
  | case8 before arg _ _ hcolor hplain hjson option hoption value rest middle happly ih =>
    exact .option (notMem_switches hcolor hplain hjson) hoption happly (ih h)
  | case9 => cases h
  | case10 before rest =>
    have hnone : ∀ option, ValueOption.given option ("--".toList :: rest) = [] :=
      fun option => ValueOption.given_of_none option (by decide) (by decide) rest
    split at h
    · exact .of_finish before.rules hnone h
    · exact .of_finish _ hnone h
  | case11 => cases h
  | case12 before arg rest _ _ hcolor hplain hjson hoption =>
    have hnone : ∀ option, ValueOption.given option (arg :: rest) = [] := fun option =>
      ValueOption.given_of_none option (notMem_switches hcolor hplain hjson) hoption rest
    exact .of_finish _ hnone h

theorem gathers_of_parse {color : Bool} {args : List Text} {settings : Settings}
    (h : parse color args = .ok (.evaluate settings)) : Gathers { color } args settings :=
  gathers_of_parseFrom h

end TurnRouter.CommandLine
