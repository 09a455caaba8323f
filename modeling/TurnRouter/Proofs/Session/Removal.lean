import TurnRouter.Proofs.Session.Places

/-! # Removal from a session

Taking a value out of a session finds what reading finds, and leaves everything apart from it in
place. The objects on the way stay, even if nothing is left in them; so removing what was just
written undoes the writing where those objects were there before.
-/
namespace TurnRouter

namespace Json

theorem follow?_obj (key : Text) (keys : List Text) (fs : Fields Json) :
    (obj fs).follow? (key :: keys) = (Fields.find? key fs).bind (follow? keys) := rfl

theorem follow?_of_not_obj {keys : List Text} {v : Json} (hkeys : keys ≠ [])
    (h : ∀ fs, v ≠ .obj fs) : v.follow? keys = none := by
  obtain ⟨key, keys, rfl⟩ := List.exists_cons_of_ne_nil hkeys
  cases v with
  | obj fs => exact absurd rfl (h fs)
  | _ => rfl

theorem detach_cons {key : Text} {keys : List Text} {fs : Fields Json} {v : Json}
    (hkeys : keys ≠ []) (hfind : Fields.find? key fs = some v) : detach (key :: keys) (.obj fs) =
      ((detach keys v).1, .obj (Fields.insert key (detach keys v).2 fs)) := by
  obtain ⟨k, keys, rfl⟩ := List.exists_cons_of_ne_nil hkeys
  rw [detach, hfind]
  exact List.cons_ne_nil k keys

/-- There are objects all the way to the last of the keys. -/
def Leads (keys : List Text) (v : Json) : Prop :=
  ∀ q, q <+: keys → q ≠ keys → ∃ fs, v.follow? q = some (.obj fs)

namespace Leads
variable {key : Text} {keys : List Text} {v : Json}

theorem exists_obj (h : Leads (key :: keys) v) : ∃ fs, v = .obj fs := by
  obtain ⟨fs, hfs⟩ := h [] List.nil_prefix (List.cons_ne_nil key keys).symm
  exact ⟨fs, Option.some.inj hfs⟩

theorem of_find? {fs : Fields Json} (h : Leads (key :: keys) (.obj fs))
    (hfind : Fields.find? key fs = some v) : Leads keys v := by
  intro q hq hne
  obtain ⟨fs', hfs'⟩ := h (key :: q) (List.cons_prefix_cons.mpr ⟨rfl, hq⟩)
    fun heq => hne (List.cons.inj heq).2
  rw [follow?_obj, hfind] at hfs'
  exact ⟨fs', hfs'⟩

theorem last (key : Text) (fs : Fields Json) : Leads [key] (.obj fs) := by
  intro q hq hne
  cases q with
  | nil => exact ⟨fs, rfl⟩
  | cons l q =>
    obtain ⟨rfl, htail⟩ := List.cons_prefix_cons.mp hq
    exact absurd (congrArg (l :: ·) (List.prefix_nil.mp htail)) hne

theorem cons {fs : Fields Json} (hfind : Fields.find? key fs = some v) (h : Leads keys v) :
    Leads (key :: keys) (.obj fs) := by
  intro q hq hne
  cases q with
  | nil => exact ⟨fs, rfl⟩
  | cons l q =>
    obtain ⟨rfl, htail⟩ := List.cons_prefix_cons.mp hq
    rw [follow?_obj, hfind]
    exact h q htail fun heq => hne (congrArg (l :: ·) heq)

end Leads

section Detach
variable {keys p q : List Text} {v : Json}

theorem fst_detach (hkeys : keys ≠ []) : (detach keys v).1 = v.follow? keys := by
  fun_induction detach keys v with
  | case1 key fs =>
    rw [follow?_obj]
    cases Fields.find? key fs <;> rfl
  | case2 key keys fs hne v hfind part ih => rw [follow?_obj, hfind, ih hne, Option.bind_some]
  | case3 key keys fs hne hfind => rw [follow?_obj, hfind, Option.bind_none]
  | case4 keys v hsingle hcons =>
    obtain ⟨key, keys, rfl⟩ := List.exists_cons_of_ne_nil hkeys
    exact (follow?_of_not_obj hkeys fun fs => hcons key keys fs rfl).symm

theorem snd_detach (h : (detach keys v).1 = none) : (detach keys v).2 = v := by
  fun_induction detach keys v with
  | case1 key fs => exact congrArg Json.obj (Fields.erase_eq_self h)
  | case2 key keys fs hne v hfind part ih =>
    have hkept : Fields.insert key v fs = fs := Fields.insert_eq_self hfind
    rw [ih h]
    exact congrArg Json.obj hkept
  | case3 => rfl
  | case4 => rfl

theorem snd_detach_obj (keys : List Text) (fs : Fields Json) :
    ∃ fs', (detach keys (.obj fs)).2 = .obj fs' := by
  generalize hv : obj fs = v
  fun_cases detach keys v with
  | case1 | case2 | case3 => exact ⟨_, rfl⟩
  | case4 => exact ⟨fs, hv.symm⟩

theorem follow?_detach_append (hkeys : keys ≠ []) (more : List Text) :
    (detach keys v).2.follow? (keys ++ more) = none := by
  fun_induction detach keys v with
  | case1 key fs =>
    rw [List.cons_append, follow?_obj, Fields.find?_erase, if_pos rfl, Option.bind_none]
  | case2 key keys fs hne v hfind part ih =>
    rw [List.cons_append, follow?_obj, Fields.find?_insert, if_pos rfl, Option.bind_some, ih hne]
  | case3 key keys fs hne hfind => rw [List.cons_append, follow?_obj, hfind, Option.bind_none]
  | case4 keys v hsingle hcons =>
    obtain ⟨key, keys, rfl⟩ := List.exists_cons_of_ne_nil hkeys
    exact follow?_of_not_obj (List.cons_ne_nil key _) fun fs => hcons key keys fs rfl

theorem follow?_detach_of_diverge (h : Diverge p q) :
    (detach p v).2.follow? q = v.follow? q := by
  fun_induction detach p v generalizing q with
  | case1 key fs =>
    obtain ⟨l, q, rfl, hpart⟩ := h.exists_cons
    have hl : l ≠ key := hpart.elim Ne.symm fun hdiverge => absurd List.nil_prefix hdiverge.1
    rw [follow?_obj, Fields.find?_erase, if_neg hl, follow?_obj]
  | case2 key keys fs hne v hfind part =>
    rename_i ih
    obtain ⟨l, q, rfl, hpart⟩ := h.exists_cons
    rw [follow?_obj, Fields.find?_insert, follow?_obj]
    by_cases hl : l = key
    · subst hl
      rw [if_pos rfl, hfind, Option.bind_some, Option.bind_some,
        ih (hpart.resolve_left fun hne => hne rfl)]
    · rw [if_neg hl]
  | case3 => rfl
  | case4 => rfl

theorem leads_detach (h : (detach keys v).1.isSome = true) : Leads keys (detach keys v).2 := by
  fun_induction detach keys v with
  | case1 key fs => exact .last key _
  | case2 key keys fs hne v hfind part ih =>
    exact .cons (by rw [Fields.find?_insert, if_pos rfl]) (ih h)
  | case3 => cases h
  | case4 => cases h

/-- What was just written can be taken out again, and nothing else is left of the writing. -/
theorem snd_detach_put (w : Json) (hnone : v.follow? keys = none) (hleads : Leads keys v) :
    (detach keys (put w keys v)).2 = v := by
  induction keys generalizing v with
  | nil => cases hnone
  | cons key keys ih =>
    obtain ⟨fs, rfl⟩ := hleads.exists_obj
    rw [follow?_obj] at hnone
    by_cases hkeys : keys = []
    · subst hkeys
      have hnew : Fields.find? key fs = none := by
        cases hfind : Fields.find? key fs with
        | none => rfl
        | some w => rw [hfind] at hnone; cases hnone
      exact congrArg Json.obj (Fields.erase_insert w hnew)
    · obtain ⟨fs', hfs'⟩ := hleads [key] (List.cons_prefix_cons.mpr ⟨rfl, List.nil_prefix⟩)
        fun heq => hkeys (List.cons.inj heq).2.symm
      obtain ⟨v, hfind, hv⟩ := Option.bind_eq_some_iff.mp hfs'
      change Fields.find? key fs = some v at hfind
      rw [hfind, Option.bind_some] at hnone
      have hfields : (put w (key :: keys) (.obj fs)) =
          .obj (Fields.insert key (put w keys v) fs) := by
        rw [put_cons, member?, hfind]
        rfl
      have hput : Fields.find? key (Fields.insert key (put w keys v) fs) = some (put w keys v) := by
        rw [Fields.find?_insert, if_pos rfl]
      have hkept : Fields.insert key v fs = fs := Fields.insert_eq_self hfind
      rw [hfields, detach_cons hkeys hput, ih hnone (hleads.of_find? hfind), Fields.insert_insert,
        hkept]

end Detach

end Json

theorem Path.eq_of_segments_eq {p q : Path} (h : p.segments = q.segments) : p = q := by
  cases p
  cases q
  cases h
  rfl

namespace Session

/-- A session stays an object when something is taken out of it. -/
theorem toJson_remove (s : Session) (p : Path) :
    (s.remove p).toJson = (Json.detach p.segments s.toJson).2 := by
  obtain ⟨fs, hfs⟩ := Json.snd_detach_obj p.segments s.attributes
  rw [remove, detach, toJson, toJson, hfs]
  rfl

theorem fst_detach (s : Session) (p : Path) : (s.detach p).1 = s.get? p := Json.fst_detach p.ne_nil

/-- The objects on the way to a path are values at paths, but for the session itself. -/
theorem leads_of_get? {s : Session} {p : Path}
    (h : ∀ r : Path, r.segments <+: p.segments → r ≠ p → ∃ fs, s.get? r = some (.obj fs)) :
    Json.Leads p.segments s.toJson := by
  intro keys hkeys hne
  by_cases hnil : keys = []
  · exact ⟨s.attributes, by rw [hnil]; rfl⟩
  · have hproper : ∀ piece ∈ keys, piece ≠ [] ∧ '.' ∉ piece :=
      fun piece hpiece => p.proper piece (hkeys.subset hpiece)
    exact h ⟨keys, hnil, hproper⟩ hkeys fun heq => hne (congrArg Path.segments heq)

theorem remove_set {s : Session} {p : Path} (v : Json) (hnone : s.get? p = none)
    (hleads : Json.Leads p.segments s.toJson) : (s.set p v).remove p = s := by
  have hback : ((s.set p v).remove p).toJson = s.toJson := by
    rw [toJson_remove, toJson_set, Json.snd_detach_put v hnone hleads]
  rw [← ofJson_toJson ((s.set p v).remove p), hback, ofJson_toJson]

/-- What is taken out, what is read afterwards, and when taking out undoes a write. -/
theorem removal_laws (s : Session) (p q : Path) (v default : Json) :
    (s.detach p).1.getD default = s.get p default ∧
    (∀ x, (s.detach p).1 = some x ↔ s.get? p = some x) ∧
    ((s.detach p).1 = none → s.remove p = s) ∧
    ((s.detach p).1.isSome = true →
      (p.segments <+: q.segments → (s.remove p).get q default = default) ∧
      (p.Apart q → (s.remove p).get q default = s.get q default) ∧
      (q.segments <+: p.segments → q ≠ p → ∃ fs, (s.remove p).get? q = some (.obj fs))) ∧
    ((s.set p v).detach p).1 = some v ∧
    (s.get? p = none →
      (∀ r : Path, r.segments <+: p.segments → r ≠ p → ∃ fs, s.get? r = some (.obj fs)) →
      (s.set p v).remove p = s) := by
  have hread : (s.remove p).get? q = (Json.detach p.segments s.toJson).2.follow? q.segments := by
    rw [get?, toJson_remove]
  refine ⟨?_, ?_, ?_, fun hsome => ⟨?_, ?_, ?_⟩, ?_, ?_⟩
  · rw [fst_detach, get]
  · intro x
    rw [fst_detach]
  · intro hnone
    have hkept := Json.snd_detach hnone
    rw [← ofJson_toJson (s.remove p), toJson_remove, hkept, ofJson_toJson]
  · rintro ⟨more, hq⟩
    rw [get, hread, ← hq, Json.follow?_detach_append p.ne_nil, Option.getD_none]
  · intro h
    rw [get, hread, Json.follow?_detach_of_diverge h, get, get?]
  · intro hq hne
    rw [hread]
    exact Json.leads_detach hsome q.segments hq fun heq => hne (Path.eq_of_segments_eq heq)
  · rw [fst_detach, get?_set_self]
  · intro hnone hleads
    exact remove_set v hnone (leads_of_get? hleads)

section Nested

/-- A value stands two objects deep, beside a list. -/
private def nested : Session :=
  ⟨[(['a'], .obj [(['b'], .obj [(['c'], .null)]), (['l'], .arr [.null])])]⟩
private def deep : Path := ⟨[['a'], ['b'], ['c']], by decide, by decide⟩
private def parent : Path := ⟨[['a'], ['b']], by decide, by decide⟩
private def beside : Path := ⟨[['a'], ['l']], by decide, by decide⟩
private def fresh : Path := ⟨[['a'], ['b'], ['x']], by decide, by decide⟩

theorem removal_laws_nested :
    (nested.detach deep).1 = some .null ∧
    (nested.remove deep).get deep (.bool true) = .bool true ∧
    (nested.remove deep).get beside .null = nested.get beside .null ∧
    (∃ fs, (nested.remove deep).get? parent = some (.obj fs)) ∧
    (nested.detach fresh).1 = none ∧ nested.remove fresh = nested ∧
    (nested.set fresh .null).remove fresh = nested := by
  have hleads : Json.Leads fresh.segments nested.toJson := .cons rfl (.cons rfl (.last _ _))
  obtain ⟨-, htaken, -, hsame, -⟩ := removal_laws nested deep deep .null (.bool true)
  obtain ⟨-, -, -, hbeside, -⟩ := removal_laws nested deep beside .null .null
  obtain ⟨-, -, -, hparent, -⟩ := removal_laws nested deep parent .null .null
  obtain ⟨-, -, hkept, -, -, hundo⟩ := removal_laws nested fresh fresh .null .null
  have hsome : (nested.detach deep).1 = some .null := (htaken .null).mpr rfl
  have hisSome : (nested.detach deep).1.isSome = true := by rw [hsome]; rfl
  refine ⟨hsome, (hsame hisSome).1 List.prefix_rfl, (hbeside hisSome).2.1 (by decide),
    (hparent hisSome).2.2 (by decide) (by decide), rfl, hkept rfl, hundo rfl ?_⟩
  exact fun r hr hne => hleads r.segments hr fun heq => hne (Path.eq_of_segments_eq heq)

end Nested

end Session
end TurnRouter
