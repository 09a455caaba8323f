import TurnRouter.Session.Basic

/-! # Places in a session

Reading and writing at a path are the two sides of a lens, and places apart have nothing to do
with each other. This holds whatever a session holds: writing makes objects of the values in its
way, but where it does so there was nothing to read for any path that parts from its own.
-/
namespace TurnRouter

namespace Json

theorem member?_eq (key : Text) (v : Json) : v.member? key = Fields.find? key v.fields := by
  cases v <;> rfl

theorem follow?_cons (key : Text) (keys : List Text) (v : Json) :
    v.follow? (key :: keys) = (v.member? key).bind (follow? keys) := rfl

/-- Below a value that is missing there is nothing. -/
theorem follow?_getD {keys : List Text} (h : keys ≠ []) (v : Option Json) :
    (v.getD .null).follow? keys = v.bind (follow? keys) := by
  cases v with
  | some v => rfl
  | none =>
    cases keys with
    | nil => exact absurd rfl h
    | cons key keys => rfl

section Put
variable (w : Json) (key : Text) (keys : List Text) (v : Json)

theorem put_cons : put w (key :: keys) v =
    .obj (Fields.insert key (put w keys ((v.member? key).getD .null)) v.fields) := rfl

theorem fields_put : (put w (key :: keys) v).fields =
    Fields.insert key (put w keys ((v.member? key).getD .null)) v.fields := rfl

theorem member?_put (k : Text) : (put w (key :: keys) v).member? k =
    if k = key then some (put w keys ((v.member? key).getD .null)) else v.member? k := by
  rw [member?_eq, fields_put, Fields.find?_insert, ← member?_eq]

end Put

/-- Neither of two lists of keys starts with the other. -/
def Diverge (p q : List Text) : Prop := ¬p <+: q ∧ ¬q <+: p

instance (p q : List Text) : Decidable (Diverge p q) := inferInstanceAs (Decidable (_ ∧ _))

namespace Diverge
variable {p q : List Text}

theorem cons_iff {k l : Text} : Diverge (k :: p) (l :: q) ↔ k ≠ l ∨ Diverge p q := by
  by_cases h : k = l
  · subst h
    simp [Diverge, List.cons_prefix_cons]
  · simp [Diverge, List.cons_prefix_cons, h, Ne.symm h]

theorem right_ne_nil (h : Diverge p q) : q ≠ [] := by
  rintro rfl
  exact h.2 List.nil_prefix

/-- What diverges from a list of keys has a first key too, and parts there or later. -/
theorem exists_cons {k : Text} (h : Diverge (k :: p) q) :
    ∃ l q', q = l :: q' ∧ (k ≠ l ∨ Diverge p q') := by
  cases q with
  | nil => exact absurd rfl h.right_ne_nil
  | cons l q => exact ⟨l, q, rfl, cons_iff.mp h⟩

/-- What parts from the beginning of a list of keys parts from the list. -/
theorem append_right (h : Diverge p q) (more : List Text) : Diverge p (q ++ more) := by
  constructor
  · intro hp
    obtain hp | hp := List.prefix_or_prefix_of_prefix hp (List.prefix_append q more)
    · exact h.1 hp
    · exact h.2 hp
  · intro hq
    exact h.2 ((List.prefix_append q more).trans hq)

end Diverge

section Laws
variable (v w : Json) {p q : List Text} (x : Json)

theorem follow?_put_append (keys more : List Text) :
    (put w keys x).follow? (keys ++ more) = w.follow? more := by
  induction keys generalizing x with
  | nil => rfl
  | cons key keys ih =>
    rw [List.cons_append, follow?_cons, member?_put, if_pos rfl, Option.bind_some, ih]

theorem follow?_put_of_diverge (h : Diverge p q) : (put w p x).follow? q = x.follow? q := by
  induction p generalizing q x with
  | nil => exact absurd List.nil_prefix h.1
  | cons key p ih =>
    obtain ⟨l, q, rfl, hpart⟩ := h.exists_cons
    rw [follow?_cons, follow?_cons, member?_put]
    by_cases hl : l = key
    · subst hl
      have hpq : Diverge p q := hpart.resolve_left fun hne => hne rfl
      rw [if_pos rfl, Option.bind_some, ih _ hpq, follow?_getD hpq.right_ne_nil]
    · rw [if_neg hl]

theorem put_put (keys : List Text) : put w keys (put v keys x) = put w keys x := by
  induction keys generalizing x with
  | nil => rfl
  | cons key keys ih =>
    rw [put_cons w, member?_put, if_pos rfl, Option.getD_some, ih, fields_put, put_cons w,
      Fields.insert_insert]

theorem put_of_follow? {keys : List Text} {w x : Json} (h : x.follow? keys = some w) :
    put w keys x = x := by
  induction keys generalizing x with
  | nil => exact (Option.some.inj h).symm
  | cons key keys ih =>
    obtain ⟨y, hy, hfollow⟩ := Option.bind_eq_some_iff.mp h
    cases x with
    | obj fs =>
      have hkept : Fields.insert key y fs = fs := Fields.insert_eq_self hy
      rw [put_cons, hy, Option.getD_some, ih hfollow]
      exact congrArg Json.obj hkept
    | _ => cases hy

theorem put_comm (h : Diverge p q) : put w q (put v p x) = put v p (put w q x) := by
  induction p generalizing q x with
  | nil => exact absurd List.nil_prefix h.1
  | cons key p ih =>
    obtain ⟨l, q, rfl, hpart⟩ := h.exists_cons
    rw [put_cons w l q (put v (key :: p) x), member?_put, fields_put,
      put_cons v key p (put w (l :: q) x), member?_put, fields_put]
    by_cases hl : l = key
    · subst hl
      have hpq : Diverge p q := hpart.resolve_left fun hne => hne rfl
      rw [if_pos rfl, if_pos rfl, Option.getD_some, Option.getD_some, ih _ hpq,
        Fields.insert_insert, Fields.insert_insert]
    · rw [if_neg hl, if_neg (Ne.symm hl), Fields.insert_comm hl]

end Laws
end Json

/-- Neither path leads to the other's place or through it. -/
def Path.Apart (p q : Path) : Prop := Json.Diverge p.segments q.segments

instance (p q : Path) : Decidable (p.Apart q) := inferInstanceAs (Decidable (Json.Diverge _ _))

namespace Session

theorem ofJson_toJson (s : Session) : ofJson s.toJson = s := rfl

/-- A session stays an object, since a path has a segment. -/
theorem toJson_set (s : Session) (p : Path) (v : Json) :
    (s.set p v).toJson = .put v p.segments s.toJson := by
  obtain ⟨key, keys, hp⟩ := List.exists_cons_of_ne_nil p.ne_nil
  rw [set, hp]
  rfl

section Written
variable {s : Session} {p q : Path} {v : Json}

theorem get?_set_append {keys : List Text} (h : q.segments = p.segments ++ keys) :
    (s.set p v).get? q = v.follow? keys := by
  rw [get?, toJson_set, h, Json.follow?_put_append]

theorem get?_set_self : (s.set p v).get? p = some v := get?_set_append (List.append_nil _).symm

theorem get?_set_of_apart (h : p.Apart q) : (s.set p v).get? q = s.get? q := by
  rw [get?, toJson_set, Json.follow?_put_of_diverge v _ h, ← get?]

end Written

/-- What is read after a write, and which writes can be dropped or change places. -/
theorem get_set_laws (s : Session) (p q : Path) (v w default : Json) :
    (∀ keys, q.segments = p.segments ++ keys →
      (s.set p v).get q default = (v.follow? keys).getD default) ∧
    (s.set p v).get p default = v ∧
    (p.Apart q → (s.set p v).get q default = s.get q default) ∧
    (s.set p v).set p w = s.set p w ∧
    (s.get? p = some v → s.set p v = s) ∧
    (p.Apart q → (s.set p v).set q w = (s.set q w).set p v) := by
  have hread : ∀ r : Path, (s.set p v).get r default =
      ((Json.put v p.segments s.toJson).follow? r.segments).getD default := by
    intro r
    rw [get, get?, toJson_set]
  refine ⟨?_, ?_, ?_, ?_, ?_, ?_⟩
  · intro keys hq
    rw [hread, hq, Json.follow?_put_append]
  · have hself := Json.follow?_put_append v s.toJson p.segments []
    rw [List.append_nil] at hself
    rw [hread, hself]
    rfl
  · intro h
    rw [hread, Json.follow?_put_of_diverge v _ h, get, get?]
  · rw [set, toJson_set, Json.put_put, ← set]
  · intro h
    rw [set, Json.put_of_follow? h, ofJson_toJson]
  · intro h
    rw [set, toJson_set, Json.put_comm v w _ h, ← toJson_set s q w, ← set]

section Crowded

/-- A list stands where the two paths part. -/
private def crowded : Session := ⟨[(['a'], .arr [.null]), (['b'], .bool true)]⟩
private def left : Path := ⟨[['a'], ['x'], ['y']], by decide, by decide⟩
private def right : Path := ⟨[['a'], ['z']], by decide, by decide⟩
private def below : Path := ⟨[['a'], ['x'], ['y'], ['k']], by decide, by decide⟩
private def present : Path := ⟨[['b']], by decide, by decide⟩

theorem get_set_laws_crowded :
    (crowded.set left (.obj [(['k'], .str ['v'])])).get below .null = .str ['v'] ∧
    left.Apart right ∧
    (crowded.set left .null).get right (.bool false) = crowded.get right (.bool false) ∧
    (crowded.set left .null).set right (.bool true) = (crowded.set right (.bool true)).set left .null ∧
    crowded.get? present = some (.bool true) ∧ crowded.set present (.bool true) = crowded := by
  have hapart : left.Apart right := by decide
  have hpresent : crowded.get? present = some (.bool true) := rfl
  obtain ⟨hbelow, -⟩ := get_set_laws crowded left below (.obj [(['k'], .str ['v'])]) .null .null
  obtain ⟨-, -, hother, -, -, hcomm⟩ :=
    get_set_laws crowded left right .null (.bool true) (.bool false)
  obtain ⟨-, -, -, -, hback, -⟩ := get_set_laws crowded present right (.bool true) .null .null
  exact ⟨hbelow [['k']] rfl, hapart, hother hapart, hcomm hapart, hpresent, hback hpresent⟩

end Crowded

end Session
end TurnRouter
