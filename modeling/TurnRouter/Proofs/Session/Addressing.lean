import TurnRouter.Proofs.Routing.Writes
import TurnRouter.Proofs.Session.Paths
import TurnRouter.Proofs.Session.Places

/-! # Texts that address values of a session

Reads, writes and the placeholders of rules are given texts, each of them splits its text on its
own, and all come to the same place. A text that is no path has none: it reads as the default, and a
write to it fails and leaves the session alone.
-/
namespace TurnRouter

namespace Rule
variable (ctx : Context) (opts : Options)

/-- In code this value is put in place of a session placeholder, whatever stands around it. -/
def Fills (name : Text) (value : Json) : Prop :=
  ∀ code before after, spans code = before ++ .placeholder .session name :: after →
    resolveCode ctx opts code =
      before.flatMap (Span.resolve ctx opts) ++ value.write ++ after.flatMap (Span.resolve ctx opts)

theorem fills_sessionValue (name : Text) : Fills ctx opts name (sessionValue ctx opts name) := by
  intro code before after hspans
  rw [resolveCode, hspans, List.flatMap_append, List.flatMap_cons, ← List.append_assoc]
  rfl

end Rule

/-- The text stands for the path wherever it is given. -/
structure Path.AddressedBy (p : Path) (s : Text) : Prop where
  read : ∀ (session : Session) default, session.getText s default = session.get p default
  write : ∀ (session : Session) value, session.setText s value = .ok (session.set p value)
  reread : ∀ (session : Session) value default, (session.set p value).getText s default = value
  placeholder : ∀ (r : Request) opts,
    Rule.Fills r.toTurn.toContext opts s (r.session.get p opts.sessionDefault)

/-- The text stands for no path. A callback that writes to it goes on in the state it was in. -/
structure AddressesNothing (s : Text) : Prop where
  read : ∀ (session : Session) default, session.getText s default = default
  write : ∀ (session : Session) value, session.setText s value = .error ⟨s⟩
  unchanged : ∀ {ω : Type} value (next : Except InvalidPath Unit → Program ω) state,
    Effect.result (Program.act (.setAttribute s value) next).run state =
      Effect.result (next (.error ⟨s⟩)).run state
  placeholder : ∀ (r : Request) opts, Rule.Fills r.toTurn.toContext opts s opts.sessionDefault

namespace Path
variable {s : Text}

theorem addressedBy_of_parse {p : Path} (h : parse s = .ok p) : p.AddressedBy s where
  read session default := by rw [Session.getText, h]
  write session value := by rw [Session.setText, h]; rfl
  reread session value default := by
    rw [Session.getText, h]
    dsimp only
    rw [Session.get, Session.get?_set_self, Option.getD_some]
  placeholder r opts := by
    have hvalue : Rule.sessionValue r.toTurn.toContext opts s =
        r.session.get p opts.sessionDefault := by
      have hread : r.toTurn.sessionValue s opts.sessionDefault =
        r.session.getText s opts.sessionDefault := rfl
      rw [Rule.sessionValue, h]
      dsimp only
      rw [hread, Session.getText, h]
    rw [← hvalue]
    exact Rule.fills_sessionValue _ opts s

theorem addressesNothing_of_not_spaced (h : ¬Spaced s) : AddressesNothing s := by
  have hparse := parse_of_not_spaced h
  have hset : ∀ (session : Session) value, session.setText s value = .error ⟨s⟩ := by
    intro session value
    rw [Session.setText, hparse]
    rfl
  refine ⟨?_, hset, ?_, ?_⟩
  · intro session default
    rw [Session.getText, hparse]
  · intro ω value next state
    rw [Program.result_act, Operation.perform, TurnState.set, hset]
    rfl
  · intro r opts
    have hvalue : Rule.sessionValue r.toTurn.toContext opts s = opts.sessionDefault := by
      rw [Rule.sessionValue, hparse]
    rw [← hvalue]
    exact Rule.fills_sessionValue _ _ s

/-- Splitting a text at its dots undoes joining the segments of a path, and just the texts whose dots
are spaced come from one. Such a text addresses the value at its path, and any other addresses nothing. -/
theorem texts_address_paths :
    (∀ pieces : List Text, pieces ≠ [] → (∀ piece ∈ pieces, piece ≠ [] ∧ '.' ∉ piece) →
      ∃ p, parse (Text.join '.' pieces) = .ok p ∧ p.segments = pieces) ∧
    (∀ s, (∃ p, parse s = .ok p) ↔ Spaced s) ∧
    (∀ s p, parse s = .ok p → Text.join '.' p.segments = s ∧ p.AddressedBy s) ∧
    ∀ s, ¬Spaced s → parse s = .error ⟨s⟩ ∧ AddressesNothing s := by
  refine ⟨fun pieces hne hproper => ?_, fun s => exists_parse_iff, fun s p h => ?_, fun s h => ?_⟩
  · exact ⟨⟨pieces, hne, hproper⟩, parse_toText ⟨pieces, hne, hproper⟩, rfl⟩
  · exact ⟨toText_of_parse h, addressedBy_of_parse h⟩
  · exact ⟨parse_of_not_spaced h, addressesNothing_of_not_spaced h⟩

section Visits

private def visits : Path := ⟨[['u', 's', 'e', 'r'], ['n']], by decide, by decide⟩

/-- A path of two segments, its text, and that text with a dot too many. -/
theorem texts_address_paths_visits :
    (∃ p, parse (Text.join '.' visits.segments) = .ok p ∧ p.segments = visits.segments) ∧
    parse ['u', 's', 'e', 'r', '.', 'n'] = .ok visits ∧
    visits.AddressedBy ['u', 's', 'e', 'r', '.', 'n'] ∧
    ¬Spaced ['u', 's', 'e', 'r', '.', '.', 'n'] ∧
    AddressesNothing ['u', 's', 'e', 'r', '.', '.', 'n'] := by
  obtain ⟨hjoin, -, hvalid, hinvalid⟩ := texts_address_paths
  have hparse : parse ['u', 's', 'e', 'r', '.', 'n'] = .ok visits := parse_eq_ok_iff.mpr rfl
  have hdots : ¬Spaced ['u', 's', 'e', 'r', '.', '.', 'n'] :=
    fun h => h.apart ⟨['u', 's', 'e', 'r'], ['n'], rfl⟩
  exact ⟨hjoin visits.segments visits.ne_nil visits.proper, hparse, (hvalid _ _ hparse).2, hdots,
    (hinvalid _ hdots).2⟩

end Visits

end Path
end TurnRouter
