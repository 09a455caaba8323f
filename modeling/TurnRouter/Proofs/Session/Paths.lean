import TurnRouter.Session.Path

/-! # Paths and their texts

A path that leads on from another has a text that goes on where the other's ends, and comes after
it in the order of texts.
-/
namespace TurnRouter

namespace Text

theorem join_cons (mark : Char) (piece : Text) {pieces : List Text} (h : pieces ≠ []) :
    join mark (piece :: pieces) = piece ++ mark :: join mark pieces := by
  obtain ⟨next, pieces, rfl⟩ := List.exists_cons_of_ne_nil h
  simp [join, List.intercalate]

theorem join_append (mark : Char) {ps qs : List Text} (hp : ps ≠ []) (hq : qs ≠ []) :
    join mark (ps ++ qs) = join mark ps ++ mark :: join mark qs := by
  induction ps with
  | nil => exact absurd rfl hp
  | cons piece ps ih =>
    by_cases hps : ps = []
    · subst hps
      rw [List.singleton_append, join_cons mark piece hq]
      simp [join]
    · rw [List.cons_append, join_cons mark piece (List.append_ne_nil_of_left_ne_nil hps qs),
        ih hps, join_cons mark piece hps, List.append_assoc, List.cons_append]

theorem split_eq_splitOn (mark : Char) (s : Text) : split mark s = s.splitOn mark := by
  induction s with
  | nil => rfl
  | cons c s ih =>
    rw [List.splitOn_cons_eq_if_modifyHead, ← ih, split]
    by_cases hc : c = mark
    · rw [if_pos hc, if_pos (beq_iff_eq.mpr hc)]
    · rw [if_neg hc, if_neg fun h => hc (beq_iff_eq.mp h)]
      obtain ⟨piece, pieces, hs⟩ := List.exists_cons_of_ne_nil (split_ne_nil mark s)
      rw [hs, List.modifyHead_cons]

theorem split_cons_self (mark : Char) (s : Text) : split mark (mark :: s) = [] :: split mark s :=
  if_pos rfl

theorem split_append (mark : Char) (s t : Text) :
    split mark (s ++ mark :: t) = split mark s ++ split mark t := by
  rw [split_eq_splitOn, split_eq_splitOn, split_eq_splitOn, List.splitOn_append_cons_self]

theorem split_join {mark : Char} {pieces : List Text} (h : ∀ piece ∈ pieces, mark ∉ piece)
    (hne : pieces ≠ []) : split mark (join mark pieces) = pieces := by
  rw [split_eq_splitOn]
  exact List.splitOn_intercalate mark h hne

/-- An empty piece stands before a mark at the beginning, after one at the end, or between two. -/
theorem nil_mem_split_iff {mark : Char} {s : Text} : [] ∈ split mark s ↔
    s = [] ∨ s.head? = some mark ∨ s.getLast? = some mark ∨ [mark, mark] <:+: s := by
  constructor
  · intro h
    obtain ⟨ps, qs, hsplit⟩ := List.append_of_mem h
    have hs : s = join mark (ps ++ [] :: qs) := by rw [← hsplit, join_split]
    by_cases hp : ps = [] <;> by_cases hq : qs = []
    · subst hp hq
      exact .inl hs
    · subst hp
      rw [List.nil_append, join_cons mark [] hq] at hs
      exact .inr (.inl (by rw [hs]; rfl))
    · subst hq
      rw [join_append mark hp (List.cons_ne_nil [] [])] at hs
      exact .inr (.inr (.inl (by rw [hs]; exact List.getLast?_concat)))
    · rw [join_append mark hp (List.cons_ne_nil [] qs), join_cons mark [] hq] at hs
      exact .inr (.inr (.inr ⟨join mark ps, join mark qs, by rw [hs]; simp⟩))
  · rintro (rfl | hhead | hlast | ⟨before, after, rfl⟩)
    · exact List.mem_singleton.mpr rfl
    · obtain ⟨t, rfl⟩ := List.head?_eq_some_iff.mp hhead
      rw [split_cons_self]
      exact List.mem_cons_self
    · obtain ⟨t, rfl⟩ := List.getLast?_eq_some_iff.mp hlast
      rw [split_append mark t []]
      exact List.mem_append_right _ (List.mem_singleton.mpr rfl)
    · rw [List.append_assoc, List.cons_append, split_append, List.singleton_append, split_cons_self]
      exact List.mem_append_right _ List.mem_cons_self

/-- No text comes before one that it starts with. -/
theorem lt_append (s t : Text) : lt (s ++ t) s = false := by
  induction s with
  | nil => cases t <;> rfl
  | cons c s ih =>
    have hself : compare c c = .eq := Std.ReflCmp.compare_self
    rw [lt, List.cons_append, List.compare_cons_cons, hself]
    exact ih

end Text

namespace Path
variable {p q : Path}

theorem toText_of_parse {s : Text} (h : parse s = .ok p) : p.toText = s := by
  unfold parse at h
  split at h
  · cases h
  · cases h
    exact Text.join_split '.' s

theorem text_of_parse_eq_error {s : Text} {e : InvalidPath} (h : parse s = .error e) : e = ⟨s⟩ := by
  unfold parse at h
  split at h
  · cases h
    rfl
  · cases h

theorem parse_toText (p : Path) : parse p.toText = .ok p := by
  obtain ⟨pieces, hne, hproper⟩ := p
  have hsplit : Text.split '.' (Text.join '.' pieces) = pieces :=
    Text.split_join (fun piece hpiece => (hproper piece hpiece).2) hne
  have hvalid : ¬(Text.split '.' (Text.join '.' pieces)).contains [] := by
    rw [hsplit, List.contains_iff_mem]
    exact fun hnil => (hproper [] hnil).1 rfl
  rw [toText, parse, dif_neg hvalid]
  simp only [hsplit]

/-- A text is valid for the one path that it is the text of. -/
theorem parse_eq_ok_iff {s : Text} : parse s = .ok p ↔ p.toText = s :=
  ⟨toText_of_parse, fun h => h ▸ parse_toText p⟩

/-- What keeps the pieces between the dots of a text from being empty. -/
structure Spaced (s : Text) : Prop where
  ne_nil : s ≠ []
  head : s.head? ≠ some '.'
  last : s.getLast? ≠ some '.'
  apart : ¬['.', '.'] <:+: s

theorem spaced_iff {s : Text} : Spaced s ↔ [] ∉ Text.split '.' s := by
  rw [Text.nil_mem_split_iff, not_or, not_or, not_or]
  exact ⟨fun h => ⟨h.ne_nil, h.head, h.last, h.apart⟩, fun ⟨h, hh, hl, ha⟩ => ⟨h, hh, hl, ha⟩⟩

theorem parse_of_not_spaced {s : Text} (h : ¬Spaced s) : parse s = .error ⟨s⟩ := by
  rw [spaced_iff, Classical.not_not] at h
  exact dif_pos (List.contains_iff_mem.mpr h)

theorem exists_parse_iff {s : Text} : (∃ p, parse s = .ok p) ↔ Spaced s := by
  constructor
  · rintro ⟨p, hp⟩
    refine Classical.byContradiction fun h => ?_
    rw [parse_of_not_spaced h] at hp
    cases hp
  · intro h
    rw [spaced_iff, ← List.contains_iff_mem] at h
    exact ⟨_, dif_neg h⟩

theorem exists_toText_eq_append (h : p.segments <+: q.segments) :
    ∃ t, q.toText = p.toText ++ t := by
  obtain ⟨more, hmore⟩ := h
  cases more with
  | nil =>
    rw [List.append_nil] at hmore
    exact ⟨[], by rw [toText, ← hmore, List.append_nil]; rfl⟩
  | cons piece more =>
    have hjoin := Text.join_append '.' p.ne_nil (List.cons_ne_nil piece more)
    exact ⟨_, by rw [toText, ← hmore, hjoin]; rfl⟩

/-- Paths that lead on come later: a text never precedes its beginning. -/
theorem lt_toText_of_prefix (h : p.segments <+: q.segments) :
    Text.lt q.toText p.toText = false := by
  obtain ⟨t, ht⟩ := exists_toText_eq_append h
  rw [ht]
  exact Text.lt_append p.toText t

end Path
end TurnRouter
