import Mathlib.Data.List.Permutation
import TurnRouter.Proofs.CommandLine.Arguments
import TurnRouter.Proofs.CommandLine.Endings
import TurnRouter.Proofs.Json.Objects
import TurnRouter.Proofs.Session.Paths
import TurnRouter.Proofs.Session.Places

/-! # Session attributes from the command line

The attributes are written into the session in the order of their keys, each at its path. A key
comes before the keys that lead on from it, which go into its value; so nothing that was given is
lost but where a longer key has a value of its own.
-/
namespace TurnRouter.CommandLine

/-- The object has a key with the path `p`, and the value `v` under it. -/
def Keyed (fs : Fields Json) (p : Path) (v : Json) : Prop :=
  ∃ key, (key, v) ∈ fs ∧ Path.parse key = .ok p

section Merge
variable {session session' : Session} {fs gs : Fields Json} {key : Text} {p q : Path} {v : Json}

theorem Keyed.of_subset (h : Keyed fs p v) (hsub : ∀ f ∈ fs, f ∈ gs) : Keyed gs p v := by
  obtain ⟨key, hmem, hp⟩ := h
  exact ⟨key, hsub _ hmem, hp⟩

theorem mergeSession_cons (hp : Path.parse key = .ok p) :
    mergeSession session ((key, v) :: fs) = mergeSession (session.set p v) fs := by
  rw [mergeSession, Session.setText, hp]
  rfl

theorem mergeSession_of_error {e : InvalidPath} (hp : Path.parse key = .error e) :
    mergeSession session ((key, v) :: fs) = .error e := by
  rw [mergeSession, Session.setText, hp]
  rfl

theorem mergeSession_append :
    mergeSession session (fs ++ gs) = (mergeSession session fs).bind (mergeSession · gs) := by
  induction fs generalizing session with
  | nil => rfl
  | cons f fs ih =>
    obtain ⟨key, v⟩ := f
    cases hp : Path.parse key with
    | ok p => rw [List.cons_append, mergeSession_cons hp, mergeSession_cons hp, ih]
    | error e =>
      rw [List.cons_append, mergeSession_of_error hp, mergeSession_of_error hp, bind_error]

theorem exists_mergeSession (h : ∀ f ∈ fs, ∃ p, Path.parse f.1 = .ok p) (session : Session) :
    ∃ session', mergeSession session fs = .ok session' := by
  induction fs generalizing session with
  | nil => exact ⟨session, rfl⟩
  | cons f fs ih =>
    obtain ⟨⟨p, hp⟩, hrest⟩ := List.forall_mem_cons.mp h
    rw [mergeSession_cons hp]
    exact ih hrest (session.set p f.2)

/-- The first key that is no path ends the merging. -/
theorem exists_mergeSession_eq_error (h : ∃ f ∈ fs, ∀ p, Path.parse f.1 ≠ .ok p)
    (session : Session) : ∃ key v, (key, v) ∈ fs ∧ Path.parse key = .error ⟨key⟩ ∧
      mergeSession session fs = .error ⟨key⟩ := by
  induction fs generalizing session with
  | nil => simp at h
  | cons f fs ih =>
    obtain ⟨key, v⟩ := f
    cases hp : Path.parse key with
    | error e =>
      obtain rfl : e = ⟨key⟩ := Path.text_of_parse_eq_error hp
      exact ⟨key, v, List.mem_cons_self, hp, mergeSession_of_error hp⟩
    | ok p =>
      obtain ⟨f, hf, hinvalid⟩ := h
      obtain rfl | hf := List.mem_cons.mp hf
      · exact absurd hp (hinvalid p)
      · obtain ⟨key', v', hmem, hparse, herror⟩ := ih ⟨f, hf, hinvalid⟩ (session.set p v)
        rw [mergeSession_cons hp]
        exact ⟨key', v', List.mem_cons_of_mem _ hmem, hparse, herror⟩

theorem key_of_mergeSession_eq_error {e : InvalidPath} (h : mergeSession session fs = .error e) :
    ∃ key v, (key, v) ∈ fs ∧ Path.parse key = .error ⟨key⟩ ∧ e = ⟨key⟩ := by
  have hinvalid : ∃ f ∈ fs, ∀ p, Path.parse f.1 ≠ .ok p := by
    by_contra hnone
    push Not at hnone
    obtain ⟨session', hmerge⟩ := exists_mergeSession hnone session
    cases h.symm.trans hmerge
  obtain ⟨key, v, hmem, hkey, hmerge⟩ := exists_mergeSession_eq_error hinvalid session
  exact ⟨key, v, hmem, hkey, Except.error.inj (h.symm.trans hmerge)⟩

/-- Places apart from all paths that are written to stay as they were. -/
theorem get?_mergeSession_of_apart (h : mergeSession session fs = .ok session')
    (hapart : ∀ p v, Keyed fs p v → p.Apart q) : session'.get? q = session.get? q := by
  induction fs generalizing session with
  | nil =>
    cases h
    rfl
  | cons f fs ih =>
    obtain ⟨key, v⟩ := f
    cases hp : Path.parse key with
    | error e =>
      rw [mergeSession_of_error hp] at h
      cases h
    | ok p =>
      rw [mergeSession_cons hp] at h
      have hfirst : p.Apart q := hapart p v ⟨key, List.mem_cons_self, hp⟩
      have hrest : ∀ p' v', Keyed fs p' v' → p'.Apart q := fun p' v' hkeyed =>
        hapart p' v' (hkeyed.of_subset fun f hf => List.mem_cons_of_mem _ hf)
      rw [ih h hrest, Session.get?_set_of_apart hfirst]

/-- A value reads as it was given where no later key has a say. -/
theorem get?_mergeSession_of_mem {keys : List Text}
    (h : mergeSession session (fs ++ (key, v) :: gs) = .ok session') (hp : Path.parse key = .ok p)
    (hq : q.segments = p.segments ++ keys) (hapart : ∀ p' v', Keyed gs p' v' → p'.Apart q) :
    session'.get? q = v.follow? keys := by
  rw [mergeSession_append] at h
  obtain ⟨middle, -, hrest⟩ := bind_eq_ok.mp h
  rw [mergeSession_cons hp] at hrest
  rw [get?_mergeSession_of_apart hrest hapart, Session.get?_set_append hq]

/-- In the order of the keys no path comes before one that leads to it. -/
theorem not_prefix_of_sorted {p' : Path} {v' : Json} (h : Fields.Sorted (fs ++ (key, v) :: gs))
    (hp : Path.parse key = .ok p) (hkeyed : Keyed gs p' v') : ¬p'.segments <+: p.segments := by
  intro hprefix
  obtain ⟨key', hmem, hp'⟩ := hkeyed
  have hlt : Text.lt key key' = true := by
    rw [Fields.Sorted, Fields.keys, List.map_append, List.pairwise_append] at h
    exact (Fields.sorted_cons.mp h.2.1).1 key' (List.mem_map_of_mem hmem)
  have hnot := Path.lt_toText_of_prefix hprefix
  rw [Path.toText_of_parse hp, Path.toText_of_parse hp', hlt] at hnot
  cases hnot

theorem apart_of_sorted {keys : List Text} {p' : Path} {v' : Json}
    (h : Fields.Sorted (fs ++ (key, v) :: gs)) (hp : Path.parse key = .ok p)
    (hq : q.segments = p.segments ++ keys) (hkeyed : Keyed gs p' v')
    (hlonger : p.segments <+: p'.segments → p' ≠ p → p'.Apart q) : p'.Apart q := by
  have hnot := not_prefix_of_sorted h hp hkeyed
  by_cases hprefix : p.segments <+: p'.segments
  · refine hlonger hprefix ?_
    rintro rfl
    exact hnot List.prefix_rfl
  · have hdiverge : Json.Diverge p'.segments p.segments := ⟨hnot, hprefix⟩
    rw [Path.Apart, hq]
    exact hdiverge.append_right keys

/-- What a key leads to reads as given where the keys that lead on from it have no say. -/
theorem get?_mergeSession_keyed {keys : List Text} (h : mergeSession session fs = .ok session')
    (hsorted : Fields.Sorted fs) (hkeyed : Keyed fs p v) (hq : q.segments = p.segments ++ keys)
    (hlonger : ∀ p' v', Keyed fs p' v' → p.segments <+: p'.segments → p' ≠ p → p'.Apart q) :
    session'.get? q = v.follow? keys := by
  obtain ⟨key, hmem, hp⟩ := hkeyed
  obtain ⟨before, after, rfl⟩ := List.append_of_mem hmem
  refine get?_mergeSession_of_mem h hp hq fun p' v' hkeyed => ?_
  exact apart_of_sorted hsorted hp hq hkeyed
    (hlonger p' v' (hkeyed.of_subset fun f hf => by simp [hf]))

end Merge

theorem loadRequest_of_session {settings : Settings} {inputs : Inputs} {base : Request}
    {fs : Fields Json} (hbase : baseRequest settings inputs = .ok base)
    (hsession : settings.session = some (.obj fs)) :
    loadRequest settings inputs = ((mergeSession base.session fs).map
      fun session => { base with session }).mapError .invalidSessionKey := by
  rw [loadRequest, hbase, hsession]
  dsimp only [Option.getD_some, Json.fields, Json.fields?]
  cases mergeSession base.session fs <;> rfl

/-- Every value given with the session option is read back, but where a longer key has its own, and
all else in the session is kept. A key that is no path ends the run with status 2, and with a message
that names such a key if there is a request to write to. -/
theorem session_merged (color : Bool) (timing : Timing) (inputs : Inputs) (args : List Text)
    (settings : Settings) (text : Text) (fs : Fields Json)
    (hparse : parse color args = .ok (.evaluate settings))
    (hgiven : (ValueOption.given .session args).getLast? = some text)
    (hobject : Json.parse? text = some (.obj fs)) :
    ((∀ f ∈ fs, ∃ p, Path.parse f.1 = .ok p) → ∀ base, baseRequest settings inputs = .ok base →
      ∃ request, loadRequest settings inputs = .ok request ∧
        prepare color inputs args = .evaluate settings request.toTurn ∧
        run color timing inputs args = render settings request.toTurn
          (settings.rules.map (timedReport timing settings request.toTurn)) ∧
        (∀ p v default, Keyed fs p v →
          (∀ p' v', Keyed fs p' v' → p.segments <+: p'.segments → p' = p) →
          request.session.get p default = v) ∧
        (∀ p v q keys default, Keyed fs p v → q.segments = p.segments ++ keys →
          (∀ p' v', Keyed fs p' v' → p.segments <+: p'.segments → p' ≠ p → p'.Apart q) →
          request.session.get q default = (v.follow? keys).getD default) ∧
        ∀ q default, (∀ p v, Keyed fs p v → p.Apart q) →
          request.session.get q default = base.session.get q default) ∧
    ((∃ f ∈ fs, ∀ p, Path.parse f.1 ≠ .ok p) →
      ∃ e : LoadError, prepare color inputs args = .done (.failure e.message) ∧
        run color timing inputs args = ⟨2, [], e.message ++ ['\n']⟩ ∧
        "error: ".toList <+: e.message ∧
        ∀ base, baseRequest settings inputs = .ok base →
          ∃ key v, (key, v) ∈ fs ∧ (∀ p, Path.parse key ≠ .ok p) ∧ e = .invalidSessionKey ⟨key⟩ ∧
            e.message = "error: invalid --session key: ".toList ++
              ("invalid placeholder path '".toList ++ key ++ ['\''])) := by
  have hsession : settings.session = some (.obj fs) := by
    rw [(gathers_of_parse hparse).session, hgiven, Option.elim_some, hobject]
  have hsorted : fs.Sorted := Json.sorted_of_parse? hobject
  constructor
  · intro hvalid base hbase
    obtain ⟨session, hmerge⟩ := exists_mergeSession hvalid base.session
    have hload : loadRequest settings inputs = .ok { base with session } := by
      rw [loadRequest_of_session hbase hsession, hmerge]
      rfl
    have hprepare := prepare_of_loadRequest hparse hload
    refine ⟨_, hload, hprepare, run_of_evaluate hprepare, ?_, ?_, ?_⟩
    · intro p v default hkeyed hlast
      have hself := get?_mergeSession_keyed hmerge hsorted hkeyed (List.append_nil _).symm
        fun p' v' hkeyed' hprefix hne => absurd (hlast p' v' hkeyed' hprefix) hne
      rw [Session.get, hself]
      rfl
    · intro p v q keys default hkeyed hq hlonger
      rw [Session.get, get?_mergeSession_keyed hmerge hsorted hkeyed hq hlonger]
    · intro q default hapart
      rw [Session.get, get?_mergeSession_of_apart hmerge hapart, Session.get]
  · intro hinvalid
    cases hbase : baseRequest settings inputs with
    | error e =>
      have hload : loadRequest settings inputs = .error e := by rw [loadRequest, hbase]
      obtain ⟨hprepare, hrun, hmessage⟩ := failure_of_loadRequest hparse hload
      exact ⟨e, hprepare, hrun, hmessage, fun base h => by cases h⟩
    | ok base =>
      obtain ⟨key, v, hmem, hkey, hmerge⟩ := exists_mergeSession_eq_error hinvalid base.session
      have hload : loadRequest settings inputs = .error (.invalidSessionKey ⟨key⟩) := by
        rw [loadRequest_of_session hbase hsession, hmerge]
        rfl
      obtain ⟨hprepare, hrun, hmessage⟩ := failure_of_loadRequest hparse hload
      refine ⟨_, hprepare, hrun, hmessage, fun _ _ => ⟨key, v, hmem, fun p hp => ?_, rfl, rfl⟩⟩
      rw [hkey] at hp
      cases hp

section Overlapping

/-- A key, and one that leads on from it. -/
private def overlapping : Fields Json :=
  [("user".toList, .obj [("city".toList, .null), ("name".toList, .str "Ann".toList)]),
    ("user.city".toList, .bool false)]

private def overlappingText : Text :=
  "\x7b\"user\":\x7b\"city\":null,\"name\":\"Ann\"\x7d,\"user.city\":false\x7d".toList

/-- A key with an empty segment. -/
private def pathless : Fields Json := [("user..city".toList, .null)]

private def pathlessText : Text := "\x7b\"user..city\":null\x7d".toList

private def mergingArgs (session : Text) : List Text :=
  ["--intent".toList, "Forecast".toList, "--session".toList, session, "true".toList]

private def mergingSettings (fs : Fields Json) : Settings :=
  { rules := ["true".toList], intent := some "Forecast".toList, session := some (.obj fs) }

private def noInputs : Inputs := ⟨fun _ => .error .notFound, none⟩

private def userPath : Path := ⟨["user".toList], by decide, by decide⟩
private def cityPath : Path := ⟨["user".toList, "city".toList], by decide, by decide⟩
private def namePath : Path := ⟨["user".toList, "name".toList], by decide, by decide⟩
private def otherPath : Path := ⟨["visits".toList], by decide, by decide⟩

private theorem parse_mergingArgs {text : Text} {fs : Fields Json}
    (h : Json.parse? text = some (.obj fs)) :
    parse false (mergingArgs text) = .ok (.evaluate (mergingSettings fs)) := by
  have hread : parseJson "--session" text = .ok (.obj fs) := by rw [parseJson, h]; rfl
  have hsession : ValueOption.session.apply { intent := some "Forecast".toList } text =
      .ok { intent := some "Forecast".toList, session := some (.obj fs) } :=
    map_eq_ok.mpr ⟨_, hread, rfl⟩
  refine (parseFrom_of_apply .intent rfl _).trans ?_
  exact parseFrom_of_apply .session hsession _

private theorem keyed_overlapping {p : Path} {v : Json} (h : Keyed overlapping p v) :
    p = userPath ∨ p = cityPath := by
  obtain ⟨key, hmem, hp⟩ := h
  obtain hfirst | hsecond := List.mem_cons.mp hmem
  · cases hfirst
    cases hp
    exact .inl rfl
  · cases List.mem_singleton.mp hsecond
    cases hp
    exact .inr rfl

set_option maxRecDepth 20000 in
theorem session_merged_overlapping :
    ∃ request : Request,
      prepare false noInputs (mergingArgs overlappingText)
        = .evaluate (mergingSettings overlapping) request.toTurn ∧
      request.session.get cityPath .null = .bool false ∧
      request.session.get namePath .null = .str "Ann".toList ∧
      request.session.get otherPath .null = .null ∧
      run false ⟨"1µs".toList, 1⟩ noInputs (mergingArgs pathlessText) = ⟨2, [],
        "error: invalid --session key: ".toList ++
          ("invalid placeholder path '".toList ++ "user..city".toList ++ ['\'']) ++ ['\n']⟩ := by
  have hobject : Json.parse? overlappingText = some (.obj overlapping) := by cbv
  have hgiven : (ValueOption.given .session (mergingArgs overlappingText)).getLast? =
      some overlappingText := rfl
  have hvalid : ∀ f ∈ overlapping, ∃ p, Path.parse f.1 = .ok p :=
    List.forall_mem_cons.mpr ⟨⟨userPath, rfl⟩, List.forall_mem_singleton.mpr ⟨cityPath, rfl⟩⟩
  have hmerged := session_merged false ⟨"1µs".toList, 1⟩ noInputs _ _ _ _
    (parse_mergingArgs hobject) hgiven hobject
  obtain ⟨request, -, hprepare, -, hlast, hinner, hother⟩ := hmerged.1 hvalid _ rfl
  have hobject' : Json.parse? pathlessText = some (.obj pathless) := by cbv
  have hgiven' : (ValueOption.given .session (mergingArgs pathlessText)).getLast? =
      some pathlessText := rfl
  have hinvalid : ∃ f ∈ pathless, ∀ p, Path.parse f.1 ≠ .ok p :=
    ⟨_, List.mem_cons_self, fun p hp => by cases hp⟩
  have hfailed := session_merged false ⟨"1µs".toList, 1⟩ noInputs _ _ _ _
    (parse_mergingArgs hobject') hgiven' hobject'
  obtain ⟨e, -, hrun, -, hnames⟩ := hfailed.2 hinvalid
  obtain ⟨key, v, hmem, -, -, hmessage⟩ := hnames _ rfl
  obtain rfl : key = "user..city".toList := congrArg Prod.fst (List.mem_singleton.mp hmem)
  refine ⟨request, hprepare, ?_, ?_, ?_, hmessage ▸ hrun⟩
  · refine hlast cityPath _ _ ⟨_, List.mem_cons_of_mem _ List.mem_cons_self, rfl⟩ ?_
    intro p v hkeyed hprefix
    obtain rfl | rfl := keyed_overlapping hkeyed
    · exact absurd hprefix (by decide)
    · rfl
  · refine hinner userPath _ namePath ["name".toList] _ ⟨_, List.mem_cons_self, rfl⟩ rfl ?_
    intro p v hkeyed _ hne
    obtain rfl | rfl := keyed_overlapping hkeyed
    · exact absurd rfl hne
    · decide
  · refine hother otherPath _ ?_
    intro p v hkeyed
    obtain rfl | rfl := keyed_overlapping hkeyed <;> decide

end Overlapping

end TurnRouter.CommandLine
