import TurnRouter.Proofs.CommandLine.Merging

/-! # Slots from the command line

Slots fill the request that is made up from an intent, where the last value of a name counts.
Without an intent the request is read from standard input, and the slots are not looked at.
-/
namespace TurnRouter.CommandLine

section Naming
variable {s name value : Text}

theorem parseSlot_named (value : Text) (hname : '=' ∉ name) : parseSlot (name ++ '=' :: value) =
    if name = [] then .error (.slotWithoutName (name ++ '=' :: value)) else .ok (name, value) := by
  have hmark : ∀ c ∈ name, (c != '=') = true := fun c hc => by
    rw [bne_iff_ne]
    rintro rfl
    exact hname hc
  have htake : (name ++ '=' :: value).takeWhile (· != '=') = name := by
    rw [List.takeWhile_append_of_pos hmark, List.takeWhile_cons_of_neg (by decide), List.append_nil]
  have hdrop : (name ++ '=' :: value).dropWhile (· != '=') = '=' :: value := by
    rw [List.dropWhile_append_of_pos hmark, List.dropWhile_cons_of_neg (by decide)]
  rw [parseSlot, htake, hdrop]

theorem named_of_parseSlot (h : parseSlot s = .ok (name, value)) :
    s = name ++ '=' :: value ∧ '=' ∉ name := by
  unfold parseSlot at h
  split at h
  · cases h
  · next c rest hdrop =>
    split at h
    · cases h
    · cases h
      have hmark : c = '=' := by
        have hhead := List.head?_dropWhile_not (· != '=') s
        rw [hdrop] at hhead
        simpa using hhead
      subst hmark
      refine ⟨by rw [← hdrop, List.takeWhile_append_dropWhile], fun hmem => ?_⟩
      simpa using List.all_eq_true.mp List.all_takeWhile _ hmem

theorem named_iff_starts {slot : Text × Text} (hslot : parseSlot s = .ok slot)
    (hname : '=' ∉ name) : slot.1 = name ↔ name ++ ['='] <+: s := by
  constructor
  · rintro rfl
    rw [(named_of_parseSlot hslot).1]
    exact ⟨slot.2, List.append_assoc ..⟩
  · rintro ⟨value, rfl⟩
    rw [List.append_assoc, List.singleton_append, parseSlot_named value hname] at hslot
    split at hslot
    · cases hslot
    · cases hslot
      rfl

theorem parseFrom_slot (before : Settings) (name value : Text) (rest : List Text)
    (hname : '=' ∉ name) (hne : name ≠ []) :
    parseFrom before ("--slot".toList :: (name ++ '=' :: value) :: rest) =
      parseFrom { before with slots := before.slots ++ [(name, value)] } rest := by
  have hslot : parseSlot (name ++ '=' :: value) = .ok (name, value) :=
    (parseSlot_named value hname).trans (if_neg hne)
  exact parseFrom_of_apply .slot (map_eq_ok.mpr ⟨_, hslot, rfl⟩) rest

end Naming

/-- Of the slots that the arguments give the name, the last has the value. -/
def LastSlot (args : List Text) (name value : Text) : Prop :=
  ∃ before after, ValueOption.given .slot args = before ++ (name ++ '=' :: value) :: after ∧
    '=' ∉ name ∧ ∀ other ∈ after, ¬name ++ ['='] <+: other

theorem find?_slots {args : List Text} {slots : List (Text × Text)} {name value : Text}
    (h : (ValueOption.given .slot args).map parseSlot = slots.map .ok) :
    Fields.find? name slots.reverse = some value ↔ LastSlot args name value := by
  constructor
  · intro hfind
    obtain ⟨later, earlier, hslots, hlater⟩ := Fields.find?_eq_some_iff.mp hfind
    have hslots : slots = earlier.reverse ++ (name, value) :: later.reverse := by
      rw [← slots.reverse_reverse, hslots]
      simp
    rw [hslots, List.map_append, List.map_cons] at h
    obtain ⟨before, rest, hgiven, -, hrest⟩ := List.map_eq_append_iff.mp h
    obtain ⟨s, after, rfl, hs, hafter⟩ := List.map_eq_cons_iff.mp hrest
    obtain ⟨rfl, hname⟩ := named_of_parseSlot hs
    refine ⟨before, after, hgiven, hname, fun other hother hprefix => ?_⟩
    have hmem : parseSlot other ∈ later.reverse.map .ok := hafter ▸ List.mem_map_of_mem hother
    obtain ⟨slot, hslot, hparse⟩ := List.mem_map.mp hmem
    exact hlater slot (List.mem_reverse.mp hslot) ((named_iff_starts hparse.symm hname).mpr hprefix)
  · rintro ⟨before, after, hgiven, hname, hlast⟩
    rw [hgiven, List.map_append, List.map_cons] at h
    obtain ⟨earlier, rest, rfl, -, hrest⟩ := List.map_eq_append_iff.mp h.symm
    obtain ⟨slot, later, rfl, hslot, hlater⟩ := List.map_eq_cons_iff.mp hrest
    have hslot : slot = (name, value) := by
      rw [parseSlot_named value hname] at hslot
      split at hslot
      · cases hslot
      · exact Except.ok.inj hslot
    subst hslot
    refine Fields.find?_eq_some_iff.mpr ⟨later.reverse, earlier.reverse, by simp, ?_⟩
    intro slot hmem heq
    have hmem : Except.ok slot ∈ after.map parseSlot :=
      hlater ▸ List.mem_map_of_mem (List.mem_reverse.mp hmem)
    obtain ⟨other, hother, hparse⟩ := List.mem_map.mp hmem
    exact hlast other hother ((named_iff_starts hparse hname).mp heq)

section Loading
variable {color : Bool} {inputs : Inputs} {args : List Text} {settings : Settings} {text : Text}

theorem slot_intentBody (intent : Text) (slots : List (Text × Text)) (name : Text) :
    (Request.ofJson (intentBody intent slots)).toTurn.slot name =
      Fields.find? name slots.reverse := by
  have hunderstood : (Request.ofJson (intentBody intent slots)).understanding =
      some ⟨intent, Fields.ofList (slots.map fun s => (s.1, slotJson s.1 s.2))⟩ := rfl
  rw [Request.toTurn, hunderstood]
  dsimp only [Option.bind_some, Understanding.slot?]
  rw [Fields.find?_ofList, ← List.map_reverse, Fields.find?_map]
  cases Fields.find? name slots.reverse <;> rfl

/-- The attributes of the session have no part in the slots. -/
theorem slot_loadRequest {request : Request} (h : loadRequest settings inputs = .ok request) :
    ∃ base, baseRequest settings inputs = .ok base ∧ request.toTurn.slot = base.toTurn.slot := by
  unfold loadRequest at h
  split at h
  · cases h
  · next base hbase =>
    split at h
    · cases h
      exact ⟨base, hbase, rfl⟩
    · cases h

/-- Beside slots, the request is made up from the last intent or read from standard input. -/
theorem baseRequest_of_slot (hparse : parse color args = .ok (.evaluate settings))
    (hslot : ValueOption.given .slot args ≠ []) (hinput : inputs.standard = some text) :
    baseRequest settings inputs = (ValueOption.given .intent args).getLast?.elim (decode text)
      fun intent => .ok (.ofJson (intentBody intent settings.slots)) := by
  have hgathers := gathers_of_parse hparse
  have hpath : settings.requestPath = none := by
    refine hgathers.consistent.resolve_right fun ⟨_, hnone⟩ => hslot ?_
    obtain ⟨slots, hslots, hsettings⟩ := hgathers.slots
    obtain rfl : slots = [] := hsettings.symm.trans hnone
    exact List.map_eq_nil_iff.mp hslots
  have hintent : settings.intent = (ValueOption.given .intent args).getLast? :=
    hgathers.intent.trans Option.or_none
  rw [baseRequest, hpath, hintent, readStandard, hinput]
  cases (ValueOption.given .intent args).getLast? <;> rfl

theorem loadRequest_error_of_slot {e : LoadError}
    (hparse : parse color args = .ok (.evaluate settings))
    (hslot : ValueOption.given .slot args ≠ []) (hinput : inputs.standard = some text)
    (h : loadRequest settings inputs = .error e) :
    ValueOption.given .intent args = [] ∧ Json.parse? text = none ∨
      ∃ key v, (key, v) ∈ (settings.session.getD .null).fields ∧ (∀ p, Path.parse key ≠ .ok p) ∧
        e = .invalidSessionKey ⟨key⟩ := by
  obtain hbase | ⟨base, reason, -, rfl, hmerge⟩ := loadRequest_eq_error h
  · left
    rw [baseRequest_of_slot hparse hslot hinput] at hbase
    cases hlast : (ValueOption.given .intent args).getLast? with
    | some intent =>
      rw [hlast] at hbase
      cases hbase
    | none =>
      rw [hlast, Option.elim_none, decode] at hbase
      cases hv : Json.parse? text with
      | none => exact ⟨List.getLast?_eq_none_iff.mp hlast, rfl⟩
      | some v =>
        rw [hv] at hbase
        cases hbase
  · obtain ⟨key, v, hmem, hkey, rfl⟩ := key_of_mergeSession_eq_error hmerge
    refine .inr ⟨key, v, hmem, fun p hp => ?_, rfl⟩
    cases hkey.symm.trans hp

end Loading

/-- An intent given beside the slots makes them those of the request, the last of each name; with
no intent the request is the one that standard input holds. The run fails only if that holds none or
if a key for the session is no path. -/
theorem slots_answered (color : Bool) (timing : Timing) (inputs : Inputs) (args : List Text)
    (settings : Settings) (text : Text) (hparse : parse color args = .ok (.evaluate settings))
    (hslot : ValueOption.given .slot args ≠ []) (hinput : inputs.standard = some text) :
    (∃ e : LoadError, prepare color inputs args = .done (.failure e.message) ∧
      run color timing inputs args = ⟨2, [], e.message ++ ['\n']⟩ ∧
      "error: ".toList <+: e.message ∧
      (ValueOption.given .intent args = [] ∧ Json.parse? text = none ∨
        ∃ key v, (key, v) ∈ (settings.session.getD .null).fields ∧
          (∀ p, Path.parse key ≠ .ok p) ∧ e = .invalidSessionKey ⟨key⟩)) ∨
    ∃ turn, prepare color inputs args = .evaluate settings turn ∧
      run color timing inputs args =
        render settings turn (settings.rules.map (timedReport timing settings turn)) ∧
      (run color timing inputs args).exit = 0 ∧
      (ValueOption.given .intent args ≠ [] →
        ∀ name value, turn.slot name = some value ↔ LastSlot args name value) ∧
      (ValueOption.given .intent args = [] →
        ∃ v, Json.parse? text = some v ∧ turn.slot = (Request.ofJson v).toTurn.slot) := by
  obtain ⟨slots, hslots, rfl⟩ : ∃ slots, (ValueOption.given .slot args).map parseSlot =
      slots.map .ok ∧ settings.slots = slots := (gathers_of_parse hparse).slots
  have hbase := baseRequest_of_slot hparse hslot hinput
  cases hload : loadRequest settings inputs with
  | error e =>
    obtain ⟨hprepare, hrun, hmessage⟩ := failure_of_loadRequest hparse hload
    have hreason := loadRequest_error_of_slot hparse hslot hinput hload
    exact .inl ⟨e, hprepare, hrun, hmessage, hreason⟩
  | ok request =>
    have hprepare := prepare_of_loadRequest hparse hload
    obtain ⟨base, hread, hturn⟩ := slot_loadRequest hload
    rw [hbase] at hread
    have hrun : run color timing inputs args = render settings request.toTurn
        (settings.rules.map (timedReport timing settings request.toTurn)) := run_of_evaluate hprepare
    refine .inr ⟨_, hprepare, hrun, congrArg Result.exit hrun, ?_, ?_⟩
    · intro hgiven name value
      rw [List.getLast?_eq_some_getLast hgiven] at hread
      cases hread
      rw [hturn, slot_intentBody]
      exact find?_slots hslots
    · intro hgiven
      rw [hgiven] at hread
      obtain ⟨v, hv, hrequest⟩ := elim_eq_ok.mp hread
      cases hrequest
      exact ⟨v, hv, hturn⟩

section Runs

private def standardOnly (text : Text) : Inputs := ⟨fun _ => .error .notFound, some text⟩

private def repeatedArgs : List Text :=
  ["--slot".toList, "city=Beijing".toList, "--intent".toList, "Forecast".toList, "--slot".toList,
    "city=Oslo".toList, "slot.city".toList]

private def repeatedSettings : Settings where
  rules := ["slot.city".toList]
  intent := some "Forecast".toList
  slots := [("city".toList, "Beijing".toList), ("city".toList, "Oslo".toList)]

private theorem parse_repeatedArgs :
    parse false repeatedArgs = .ok (.evaluate repeatedSettings) := by
  refine (parseFrom_slot {} "city".toList "Beijing".toList _ (by decide) (by decide)).trans ?_
  refine (parseFrom_of_apply .intent rfl _).trans ?_
  exact parseFrom_slot _ "city".toList "Oslo".toList _ (by decide) (by decide)

theorem slots_answered_repeated : ∃ turn,
    prepare false (standardOnly []) repeatedArgs = .evaluate repeatedSettings turn ∧
    (run false ⟨"1µs".toList, 1⟩ (standardOnly []) repeatedArgs).exit = 0 ∧
    turn.slot "city".toList = some "Oslo".toList := by
  have hload : loadRequest repeatedSettings (standardOnly []) = .ok (.ofJson
      (intentBody "Forecast".toList repeatedSettings.slots)) := rfl
  obtain ⟨e, hfailed, -⟩ | ⟨turn, hprepare, -, hexit, hslots, -⟩ := slots_answered false
    ⟨"1µs".toList, 1⟩ (standardOnly []) repeatedArgs repeatedSettings [] parse_repeatedArgs
    (by decide) rfl
  · rw [prepare_of_loadRequest parse_repeatedArgs hload] at hfailed
    cases hfailed
  · refine ⟨turn, hprepare, hexit, (hslots (by decide) _ _).mpr ?_⟩
    exact ⟨["city=Beijing".toList], [], rfl, by decide, fun _ h => by cases h⟩

private def intentlessArgs : List Text :=
  ["--slot".toList, "city=Beijing".toList, "slot.city".toList]

private def intentlessSettings : Settings where
  rules := ["slot.city".toList]
  slots := [("city".toList, "Beijing".toList)]

private theorem parse_intentlessArgs :
    parse false intentlessArgs = .ok (.evaluate intentlessSettings) :=
  parseFrom_slot {} "city".toList "Beijing".toList _ (by decide) (by decide)

/-- Slots are accepted without an intent, and standard input answers in their place. -/
theorem slots_dropped_without_intent : ∃ turn,
    parse false intentlessArgs = .ok (.evaluate intentlessSettings) ∧
    prepare false (standardOnly "\x7b\x7d".toList) intentlessArgs
      = .evaluate intentlessSettings turn ∧
    LastSlot intentlessArgs "city".toList "Beijing".toList ∧ turn.slot "city".toList = none := by
  have hload : loadRequest intentlessSettings (standardOnly "\x7b\x7d".toList) =
      .ok (.ofJson (.obj [])) := rfl
  refine ⟨_, parse_intentlessArgs, prepare_of_loadRequest parse_intentlessArgs hload, ?_, rfl⟩
  exact ⟨[], [], rfl, by decide, fun _ h => by cases h⟩

end Runs

end TurnRouter.CommandLine
