import TurnRouter.Json.Reader

/-! # Objects that were read

The fields of an object that was read stand in the order of their keys, and no key comes twice.
-/
namespace TurnRouter

namespace Fields
variable {α : Type}

def keys (fs : Fields α) : List Text := fs.map Prod.fst

/-- The keys ascend, so that none comes twice. -/
def Sorted (fs : Fields α) : Prop := fs.keys.Pairwise fun k l => Text.lt k l = true

theorem sorted_cons {f : Text × α} {fs : Fields α} :
    Sorted (f :: fs) ↔ (∀ k ∈ keys fs, Text.lt f.1 k = true) ∧ Sorted fs := List.pairwise_cons

theorem keys_replace (key : Text) (v : α) (fs : Fields α) : keys (replace key v fs) = keys fs := by
  induction fs with
  | nil => rfl
  | cons f fs ih => grind [keys, replace]

theorem mem_keys_place {key k : Text} {v : α} {fs : Fields α} :
    k ∈ keys (place key v fs) ↔ k = key ∨ k ∈ keys fs := by
  induction fs with
  | nil => simp [place, keys]
  | cons f fs ih => grind [keys, place]

theorem sorted_place {key : Text} (v : α) {fs : Fields α} (hnew : find? key fs = none)
    (h : Sorted fs) : Sorted (place key v fs) := by
  induction fs with
  | nil => exact List.pairwise_singleton ..
  | cons f fs ih =>
    obtain ⟨hfirst, hrest⟩ := sorted_cons.mp h
    rw [find?_cons] at hnew
    split at hnew
    · cases hnew
    · next hne =>
      unfold place
      split
      · next hlt =>
        refine sorted_cons.mpr ⟨?_, h⟩
        intro k hk
        obtain rfl | hk := List.mem_cons.mp hk
        · exact hlt
        · exact Text.lt_trans hlt (hfirst k hk)
      · next hlt =>
        refine sorted_cons.mpr ⟨?_, ih hnew hrest⟩
        intro k hk
        obtain rfl | hk := mem_keys_place.mp hk
        · exact (Text.lt_or_gt_of_ne hne).resolve_right hlt
        · exact hfirst k hk

theorem sorted_insert (key : Text) (v : α) {fs : Fields α} (h : Sorted fs) :
    Sorted (insert key v fs) := by
  unfold insert
  split
  · rwa [Sorted, keys_replace]
  · next hnew => exact sorted_place v (by simpa using hnew) h

theorem sorted_ofList (fs : List (Text × α)) : Sorted (ofList fs) := by
  have hfold : ∀ acc : Fields α, Sorted acc →
      Sorted (fs.foldl (fun acc f => insert f.1 f.2 acc) acc) := by
    induction fs with
    | nil => exact fun acc hacc => hacc
    | cons f fs ih => exact fun acc hacc => ih _ (sorted_insert f.1 f.2 hacc)
  exact hfold [] .nil

end Fields

namespace Json
variable {s : Text} {fs : Fields Json}

theorem value_readWord? {c : Char} {word : Text} {value : Json} {r : Taken Json s}
    (h : readWord? c word value s = some r) : r.value = value := by
  unfold readWord? at h
  split at h
  · cases h; rfl
  · cases h

theorem value_readNumber?_ne_obj {r : Taken Json s} (h : readNumber? s = some r) :
    r.value ≠ .obj fs := by
  unfold readNumber? at h
  split at h
  · obtain ⟨x, -, rfl⟩ := Option.map_eq_some_iff.mp h
    exact Json.noConfusion
  · cases h

theorem value_readScalar?_ne_obj {r : Taken Json s} (h : readScalar? s = some r) :
    r.value ≠ .obj fs := by
  unfold readScalar? at h
  split at h
  · obtain ⟨body, -, rfl⟩ := Option.map_eq_some_iff.mp h
    exact Json.noConfusion
  · rw [value_readWord? h]
    exact Json.noConfusion
  · rw [value_readWord? h]
    exact Json.noConfusion
  · rw [value_readWord? h]
    exact Json.noConfusion
  · exact value_readNumber?_ne_obj h

theorem sorted_of_readNested? {part? : Option (Reader Json)} {r : Taken Json s}
    (h : readNested? part? s = some r) (hr : r.value = .obj fs) : fs.Sorted := by
  cases s with
  | nil => cases h
  | cons c s =>
    rw [readNested?] at h
    split at h
    · obtain ⟨part, -, h⟩ := Option.bind_eq_some_iff.mp h
      obtain ⟨items, -, rfl⟩ := Option.map_eq_some_iff.mp h
      cases hr
    · split at h
      · obtain ⟨part, -, h⟩ := Option.bind_eq_some_iff.mp h
        obtain ⟨members, -, rfl⟩ := Option.map_eq_some_iff.mp h
        cases hr
        exact Fields.sorted_ofList members.value
      · exact absurd hr (value_readScalar?_ne_obj h)

theorem sorted_of_readValue? {depth : Nat} {r : Taken Json s} (h : readValue? depth s = some r)
    (hr : r.value = .obj fs) : fs.Sorted := by
  cases depth with
  | zero =>
    obtain ⟨inner, hinner, rfl⟩ := Option.map_eq_some_iff.mp h
    exact sorted_of_readNested? hinner hr
  | succ depth =>
    obtain ⟨inner, hinner, rfl⟩ := Option.map_eq_some_iff.mp h
    exact sorted_of_readNested? hinner hr

theorem sorted_of_parse? (h : parse? s = some (.obj fs)) : fs.Sorted := by
  obtain ⟨r, hread, h⟩ := Option.bind_eq_some_iff.mp h
  split at h
  · exact sorted_of_readValue? hread (Option.some.inj h)
  · cases h

end Json
end TurnRouter
