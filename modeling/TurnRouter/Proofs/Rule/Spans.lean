import TurnRouter.Proofs.Condition.Locality
import TurnRouter.Rule.Placeholder
import TurnRouter.Rule.Segment
import TurnRouter.Text.Blank

/-! # Placeholders before a gap

A name runs up to the first character that cannot belong to it. What stands between the two sides
of a comparison, blanks and an operator, belongs to no name and to no marker, so a placeholder
before it is found as it was written.
-/
namespace TurnRouter.Rule

/-- The characters of a gap. -/
def separators : List Char := blanks ++ ['=', '!', '<', '>']

def Gap (s : Text) : Prop := ∀ c ∈ s, c ∈ separators

section Members
variable {c : Char} (hc : c ∈ separators)
include hc

theorem isDottedNameChar_of_mem : isDottedNameChar c = false := by
  have hall : (separators.all fun c => !isDottedNameChar c) = true := by decide +kernel
  exact Bool.not_eq_true' _ |>.mp (List.all_eq_true.mp hall c hc)

theorem isQuote_of_mem : isQuote c = false := by
  have hall : (separators.all fun c => !isQuote c) = true := by decide +kernel
  exact Bool.not_eq_true' _ |>.mp (List.all_eq_true.mp hall c hc)

theorem ne_hash_of_mem : c ≠ '#' := by
  rintro rfl
  have hnot : separators.contains '#' = false := by decide +kernel
  exact absurd (List.contains_iff_mem.mpr hc) (Bool.eq_false_iff.mp hnot)

end Members

theorem Gap.blanks {s : Text} (h : ∀ c ∈ s, isBlank c = true) : Gap s :=
  fun c hc => List.mem_append_left _ (mem_blanks (h c hc))

theorem Gap.append {s t : Text} (hs : Gap s) (ht : Gap t) : Gap (s ++ t) := by
  intro c hc
  obtain hc | hc := List.mem_append.mp hc
  · exact hs c hc
  · exact ht c hc

theorem isDottedNameChar_of_isNameChar {c : Char} (h : isNameChar c = true) :
    isDottedNameChar c = true := by
  rw [isDottedNameChar, h, Bool.true_or]

theorem isQuote_of_isDottedNameChar {c : Char} (h : isDottedNameChar c = true) :
    isQuote c = false := by
  rw [← Bool.not_eq_true]
  intro hq
  obtain rfl | rfl := Bool.or_eq_true_iff.mp hq |>.imp eq_of_beq eq_of_beq <;> cases h

section Scans
variable {f : Family} {s name rest : Text}

/-- A whole name is taken, whatever comes after it. -/
theorem Family.name?_append (hne : name ≠ []) (hname : ∀ c ∈ name, f.inName c = true)
    (hrest : ∀ c ∈ rest.head?, f.inName c = false) :
    f.name? (f.marker ++ (name ++ rest)) = some (name, rest) := by
  have htake : (name ++ rest).takeWhile f.inName = name := by
    have hstop := (takeWhile_append_of_head (s := []) hrest).1
    rw [List.nil_append] at hstop
    rw [List.takeWhile_append_of_pos hname, hstop]
    exact List.append_nil name
  have hdrop : (name ++ rest).dropWhile f.inName = rest := by
    have hstop := (takeWhile_append_of_head (s := []) hrest).2
    rw [List.nil_append] at hstop
    rw [List.dropWhile_append_of_pos hname, hstop]
    rfl
  rw [Family.name?, Text.drop?_eq_some_iff.mpr rfl, Option.bind_some, htake, hdrop, if_neg hne]

theorem Family.name?_of_notMem {c : Char} (hc : c ∈ f.marker) (hs : c ∉ s) : f.name? s = none := by
  cases h : f.name? s with
  | none => rfl
  | some x =>
    have hsplit := (Family.append_of_name? h).1
    exact absurd (by rw [hsplit]; simp [hc]) hs

theorem scan_of_name? (h : f.name? s = some (name, rest)) :
    scan f s = .placeholder f name :: scan f rest := by
  cases s with
  | nil => exact absurd (Family.length_lt_of_name? h) (Nat.not_lt_zero _)
  | cons c s =>
    rw [scan]
    split
    · next h' =>
      cases h'.symm.trans h
      rfl
    · next h' => cases h'.symm.trans h

theorem scan_cons_of_none {c : Char} (h : f.name? (c :: s) = none) :
    scan f (c :: s) = Span.consRaw c (scan f s) := by
  rw [scan]
  split
  · next h' => cases h'.symm.trans h
  · rfl

/-- Without one of the marker's characters there is no placeholder. -/
theorem scan_of_notMem {c : Char} (hc : c ∈ f.marker) (hs : c ∉ s) (hne : s ≠ []) :
    scan f s = [.raw s] := by
  induction s with
  | nil => exact absurd rfl hne
  | cons d s ih =>
    rw [scan_cons_of_none (Family.name?_of_notMem hc hs)]
    cases s with
    | nil => rw [scan]; rfl
    | cons e s => rw [ih (fun h => hs (List.mem_cons_of_mem _ h)) (List.cons_ne_nil _ _)]; rfl

end Scans

section Code
variable {name gap : Text}

theorem notMem_of_gap {c : Char} (hc : isDottedNameChar c = true) (hgap : Gap gap) : c ∉ gap := by
  intro h
  rw [isDottedNameChar_of_mem (hgap c h)] at hc
  cases hc

/-- Code with a dot is no request type, and without a hash it has no intent. -/
theorem spans_of_dot {code : Text} (hdot : '.' ∈ code) (hhash : '#' ∉ code) :
    spans code = refine .slot (scan .session code) := by
  have htypes : requestTypes.contains code = false := by
    have hnodot : ∀ t ∈ requestTypes, '.' ∉ t := by decide
    rw [← Bool.not_eq_true, List.contains_iff_mem]
    exact fun h => hnodot code h hdot
  have hintent : scan .intent code = [.raw code] :=
    scan_of_notMem (List.mem_singleton.mpr rfl) hhash (List.ne_nil_of_mem hdot)
  rw [spans, htypes, if_neg Bool.false_ne_true]
  simp [refine, hintent]

section Marked
variable (hname : ∀ c ∈ name, isDottedNameChar c = true) (hgap : Gap gap)
include hname hgap

theorem hash_notMem {marker : Text} (hmarker : '#' ∉ marker) : '#' ∉ marker ++ (name ++ gap) := by
  intro h
  obtain h | h := List.mem_append.mp h
  · exact hmarker h
  · obtain h | h := List.mem_append.mp h
    · exact absurd (hname _ h) (by decide)
    · exact ne_hash_of_mem (hgap _ h) rfl

theorem spans_session (hne : name ≠ []) (hgapne : gap ≠ []) :
    spans ("session.".toList ++ (name ++ gap)) = [.placeholder .session name, .raw gap] := by
  have hstop : ∀ c ∈ gap.head?, isDottedNameChar c = false := fun c hc =>
    isDottedNameChar_of_mem (hgap c (List.mem_of_mem_head? hc))
  have hdot : '.' ∉ gap := notMem_of_gap rfl hgap
  have hname? : Family.session.name? ("session.".toList ++ (name ++ gap)) = some (name, gap) :=
    Family.name?_append hne hname hstop
  have hsession : scan .session ("session.".toList ++ (name ++ gap)) =
      [.placeholder .session name, .raw gap] := by
    rw [scan_of_name? hname?, scan_of_notMem (f := .session) (by decide) hdot hgapne]
  have hslot : scan .slot gap = [.raw gap] := scan_of_notMem (by decide) hdot hgapne
  rw [spans_of_dot (by simp) (hash_notMem hname hgap (by decide)), hsession]
  simp [refine, hslot]

end Marked

/-- The only dot of the code is not one of a session placeholder. -/
theorem scan_session_slot {rest : Text} (hrest : '.' ∉ rest) (hne : rest ≠ []) :
    scan .session ("slot.".toList ++ rest) = [.raw ("slot.".toList ++ rest)] := by
  have hmarker : Family.session.marker = ['s', 'e', 's', 's', 'i', 'o', 'n', '.'] := rfl
  have hmiss : ∀ c t, c ≠ 's' → Family.session.name? (c :: t) = none := by
    intro c t hc
    rw [Family.name?, hmarker, Text.drop?, if_neg (Ne.symm hc), Option.bind_none]
  have hfirst : Family.session.name? ('s' :: 'l' :: 'o' :: 't' :: '.' :: rest) = none := by
    rw [Family.name?, hmarker]
    rfl
  have hraw : scan .session rest = [.raw rest] := scan_of_notMem (by decide) hrest hne
  change scan .session ('s' :: 'l' :: 'o' :: 't' :: '.' :: rest) = _
  rw [scan_cons_of_none hfirst, scan_cons_of_none (hmiss 'l' _ (by decide)),
    scan_cons_of_none (hmiss 'o' _ (by decide)), scan_cons_of_none (hmiss 't' _ (by decide)),
    scan_cons_of_none (hmiss '.' _ (by decide)), hraw]
  rfl

theorem spans_slot (hne : name ≠ []) (hname : ∀ c ∈ name, isNameChar c = true)
    (hgap : Gap gap) (hgapne : gap ≠ []) :
    spans ("slot.".toList ++ (name ++ gap)) = [.placeholder .slot name, .raw gap] := by
  have hdotted : ∀ c ∈ name, isDottedNameChar c = true := fun c hc =>
    isDottedNameChar_of_isNameChar (hname c hc)
  have hstop : ∀ c ∈ gap.head?, isNameChar c = false := by
    intro c hc
    have hnot := isDottedNameChar_of_mem (hgap c (List.mem_of_mem_head? hc))
    exact (Bool.or_eq_false_iff.mp hnot).1
  have hdot : '.' ∉ gap := notMem_of_gap rfl hgap
  have hrest : '.' ∉ name ++ gap := by
    intro h
    obtain h | h := List.mem_append.mp h
    · exact absurd (hname _ h) (by decide)
    · exact hdot h
  have hsession : scan .session ("slot.".toList ++ (name ++ gap)) =
      [.raw ("slot.".toList ++ (name ++ gap))] :=
    scan_session_slot hrest (by simp [hne])
  have hname? : Family.slot.name? ("slot.".toList ++ (name ++ gap)) = some (name, gap) :=
    Family.name?_append hne hname hstop
  have hslot : scan .slot ("slot.".toList ++ (name ++ gap)) =
      [.placeholder .slot name, .raw gap] := by
    rw [scan_of_name? hname?, scan_of_notMem (f := .slot) (by decide) hdot hgapne]
  rw [spans_of_dot (by simp) (hash_notMem hdotted hgap (by decide)), hsession, refine,
    List.flatMap_singleton]
  exact hslot

end Code
end TurnRouter.Rule
