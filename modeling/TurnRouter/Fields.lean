import TurnRouter.Text.Basic

/-! # Fields: values under keys, in the order of the keys

A new key takes its place among the keys by code point, and a known one keeps its place. The
laws of lookup, insertion and removal hold for any list of fields, sorted or not.
-/
namespace TurnRouter

abbrev Fields (α : Type) := List (Text × α)

namespace Fields
variable {α : Type}

def find? (key : Text) : Fields α → Option α
  | [] => none
  | (k, v) :: fs => if k = key then some v else find? key fs

def replace (key : Text) (value : α) : Fields α → Fields α
  | [] => []
  | (k, v) :: fs => if k = key then (k, value) :: fs else (k, v) :: replace key value fs

def place (key : Text) (value : α) : Fields α → Fields α
  | [] => [(key, value)]
  | (k, v) :: fs => if Text.lt key k then (key, value) :: (k, v) :: fs else (k, v) :: place key value fs

def insert (key : Text) (value : α) (fs : Fields α) : Fields α :=
  if (find? key fs).isSome then replace key value fs else place key value fs

def erase (key : Text) (fs : Fields α) : Fields α := fs.filter fun f => f.1 ≠ key

/-- Of two fields with one key the later counts. -/
def ofList (fs : List (Text × α)) : Fields α := fs.foldl (fun acc f => insert f.1 f.2 acc) []

@[simp] theorem find?_nil (key : Text) : find? key ([] : Fields α) = none := rfl

theorem find?_cons (key k : Text) (v : α) (fs : Fields α) :
    find? key ((k, v) :: fs) = if k = key then some v else find? key fs := rfl

theorem find?_eq_some_iff {key : Text} {v : α} {fs : Fields α} : find? key fs = some v ↔
    ∃ before after, fs = before ++ (key, v) :: after ∧ ∀ f ∈ before, f.1 ≠ key := by
  constructor
  · intro h
    induction fs with
    | nil => cases h
    | cons f fs ih =>
      rw [find?_cons] at h
      split at h
      · next heq =>
        cases h
        exact ⟨[], fs, by rw [← heq]; rfl, fun _ hf => by cases hf⟩
      · next hne =>
        obtain ⟨before, after, rfl, hbefore⟩ := ih h
        exact ⟨f :: before, after, rfl, List.forall_mem_cons.mpr ⟨hne, hbefore⟩⟩
  · rintro ⟨before, after, rfl, hbefore⟩
    induction before with
    | nil => exact if_pos rfl
    | cons f before ih =>
      obtain ⟨hne, hrest⟩ := List.forall_mem_cons.mp hbefore
      rw [List.cons_append, find?_cons, if_neg hne, ih hrest]

theorem find?_map {β : Type} (g : Text → α → β) (key : Text) (fs : Fields α) :
    find? key (fs.map fun f => (f.1, g f.1 f.2)) = (find? key fs).map (g key) := by
  induction fs with
  | nil => rfl
  | cons f fs ih => grind [find?]

theorem find?_replace (key k : Text) (v : α) (fs : Fields α) :
    find? k (replace key v fs) = if k = key then (find? k fs).map fun _ => v else find? k fs := by
  induction fs with
  | nil => simp [replace]
  | cons f fs ih => grind [replace, find?]

theorem find?_place (key k : Text) (v : α) {fs : Fields α} (h : find? key fs = none) :
    find? k (place key v fs) = if k = key then some v else find? k fs := by
  induction fs with
  | nil => grind [place, find?]
  | cons f fs ih => grind [place, find?]

theorem find?_insert (key k : Text) (v : α) (fs : Fields α) :
    find? k (insert key v fs) = if k = key then some v else find? k fs := by
  unfold insert
  split
  · next h =>
    obtain ⟨w, hw⟩ := Option.isSome_iff_exists.1 h
    grind [find?_replace]
  · next h => exact find?_place key k v (by simpa using h)

theorem ofList_concat (fs : List (Text × α)) (f : Text × α) :
    ofList (fs ++ [f]) = insert f.1 f.2 (ofList fs) := by
  simp [ofList]

theorem find?_ofList (key : Text) (fs : List (Text × α)) :
    find? key (ofList fs) = find? key fs.reverse := by
  have hreverse : ∀ gs : Fields α, find? key (ofList gs.reverse) = find? key gs := by
    intro gs
    induction gs with
    | nil => rfl
    | cons g gs ih =>
      rw [List.reverse_cons, ofList_concat, find?_insert, ih, find?_cons]
      simp only [eq_comm]
  rw [← hreverse fs.reverse, List.reverse_reverse]

theorem find?_erase (key k : Text) (fs : Fields α) :
    find? k (erase key fs) = if k = key then none else find? k fs := by
  induction fs with
  | nil => simp [erase]
  | cons f fs ih => grind [erase, find?]

theorem erase_eq_self {key : Text} {fs : Fields α} (h : find? key fs = none) : erase key fs = fs := by
  induction fs with
  | nil => rfl
  | cons f fs ih => grind [erase, find?]

section Writes

theorem replace_replace (key : Text) (v w : α) (fs : Fields α) :
    replace key w (replace key v fs) = replace key w fs := by
  induction fs with
  | nil => rfl
  | cons f fs ih => grind [replace]

theorem replace_place (key : Text) (v w : α) {fs : Fields α} (h : find? key fs = none) :
    replace key w (place key v fs) = place key w fs := by
  induction fs with
  | nil => simp [place, replace]
  | cons f fs ih => grind [place, replace, find?]

theorem replace_eq_self {key : Text} {v : α} {fs : Fields α} (h : find? key fs = some v) :
    replace key v fs = fs := by
  induction fs with
  | nil => rfl
  | cons f fs ih => grind [replace, find?]

theorem insert_insert (key : Text) (v w : α) (fs : Fields α) :
    insert key w (insert key v fs) = insert key w fs := by
  have hfound : (find? key (insert key v fs)).isSome = true := by simp [find?_insert]
  rw [insert, if_pos hfound]
  unfold insert
  split
  · exact replace_replace key v w fs
  · next h => exact replace_place key v w (by simpa using h)

theorem insert_eq_self {key : Text} {v : α} {fs : Fields α} (h : find? key fs = some v) :
    insert key v fs = fs := by
  rw [insert, if_pos (by rw [h]; rfl), replace_eq_self h]

theorem erase_place {key : Text} (v : α) {fs : Fields α} (h : find? key fs = none) :
    erase key (place key v fs) = fs := by
  induction fs with
  | nil => simp [place, erase]
  | cons f fs ih =>
    have hkeep : erase key (f :: fs) = f :: fs := erase_eq_self h
    grind [place, erase, find?]

/-- Removing what was added under a new key. -/
theorem erase_insert {key : Text} (v : α) {fs : Fields α} (h : find? key fs = none) :
    erase key (insert key v fs) = fs := by
  rw [insert, if_neg (by rw [h]; exact Bool.false_ne_true), erase_place v h]

variable {k l : Text} (h : k ≠ l)
include h

theorem replace_comm (v w : α) (fs : Fields α) :
    replace k v (replace l w fs) = replace l w (replace k v fs) := by
  induction fs with
  | nil => rfl
  | cons f fs ih => grind [replace]

theorem replace_place_comm (v w : α) (fs : Fields α) :
    replace k v (place l w fs) = place l w (replace k v fs) := by
  induction fs with
  | nil => simp [place, replace, Ne.symm h]
  | cons f fs ih => grind [place, replace]

/-- The order of the keys settles the places of two new fields, whichever comes first. -/
theorem place_comm (v w : α) (fs : Fields α) :
    place k v (place l w fs) = place l w (place k v fs) := by
  have horder := Text.lt_or_gt_of_ne h
  have hasymm : ∀ {s t : Text}, Text.lt s t = true → Text.lt t s = false := Text.lt_asymm
  induction fs with
  | nil => grind [place]
  | cons f fs ih => grind [place, Text.lt_trans]

theorem insert_comm (v w : α) (fs : Fields α) :
    insert k v (insert l w fs) = insert l w (insert k v fs) := by
  have hk : find? k (insert l w fs) = find? k fs := by rw [find?_insert, if_neg h]
  have hl : find? l (insert k v fs) = find? l fs := by rw [find?_insert, if_neg (Ne.symm h)]
  rw [insert.eq_def k v (insert l w fs), hk, insert.eq_def l w (insert k v fs), hl, insert, insert]
  split <;> split
  · exact replace_comm h v w fs
  · exact replace_place_comm h v w fs
  · exact (replace_place_comm (Ne.symm h) w v fs).symm
  · exact place_comm h v w fs

end Writes

end Fields
end TurnRouter
