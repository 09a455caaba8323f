import TurnRouter.Proofs.Rule.Passes

/-! # What the spans of code cover

The spans are stretches of the code, one after the other, and nothing is left out. In a raw one no
family finds anything any more, not even where an earlier family has cut it off. So the text alone
settles which stretches are replaced, and each is replaced by the value of its own name.
-/
namespace TurnRouter.Rule

/-- What a context has for the name of a placeholder. -/
inductive Denotes (ctx : Context) (opts : Options) : Family → Text → Json → Prop
  | intent {name : Text} : Denotes ctx opts .intent name (.bool (ctx.intent = some name))
  | session {name : Text} : [] ∉ Text.split '.' name →
    Denotes ctx opts .session name (ctx.sessionValue name opts.sessionDefault)
  | noPath {name : Text} : [] ∈ Text.split '.' name →
    Denotes ctx opts .session name opts.sessionDefault
  | slot {name v : Text} : ctx.slot name = some v → Denotes ctx opts .slot name (.str v)
  | noSlot {name : Text} : ctx.slot name = none → Denotes ctx opts .slot name .null
  | requestType {name : Text} :
    Denotes ctx opts .requestType name (.bool (ctx.requestType = name))

theorem denotes_value (ctx : Context) (opts : Options) (f : Family) (name : Text) :
    Denotes ctx opts f name (f.value ctx opts name) := by
  cases f with
  | intent => exact .intent
  | requestType => exact .requestType
  | slot =>
    cases h : ctx.slot name with
    | none =>
      have hvalue : Family.slot.value ctx opts name = .null := by rw [Family.value, h]; rfl
      rw [hvalue]
      exact .noSlot h
    | some v =>
      have hvalue : Family.slot.value ctx opts name = .str v := by rw [Family.value, h]; rfl
      rw [hvalue]
      exact .slot h
  | session =>
    by_cases h : (Text.split '.' name).contains [] = true
    · have hvalue : Family.session.value ctx opts name = opts.sessionDefault := by
        rw [Family.value, sessionValue, Path.parse, dif_pos h]
      rw [hvalue]
      exact .noPath (List.contains_iff_mem.mp h)
    · have hvalue : Family.session.value ctx opts name =
          ctx.sessionValue name opts.sessionDefault := by
        rw [Family.value, sessionValue, Path.parse, dif_neg h]
      rw [hvalue]
      exact .session fun hmem => h (List.contains_iff_mem.mpr hmem)

namespace Family

/-- Somewhere in the text the marker of the family has a character of a name right after it. -/
def OccursIn (f : Family) (s : Text) : Prop :=
  ∃ before c after, s = before ++ (f.marker ++ c :: after) ∧ f.inName c = true

section Occurrences
variable {f : Family} {c : Char} {s t : Text}

theorem OccursIn.of_infix (h : f.OccursIn s) (hst : s <:+: t) : f.OccursIn t := by
  obtain ⟨before, c, after, rfl, hc⟩ := h
  obtain ⟨left, right, rfl⟩ := hst
  exact ⟨left ++ before, c, after ++ right, by simp, hc⟩

theorem name?_ne_none (hc : f.inName c = true) (s : Text) : f.name? (f.marker ++ c :: s) ≠ none := by
  rw [name?, Text.drop?_eq_some_iff.mpr rfl, Option.bind_some, List.takeWhile_cons_of_pos hc,
    if_neg (List.cons_ne_nil _ _)]
  exact Option.some_ne_none _

/-- A text that starts no placeholder adds none to what follows. -/
theorem not_occursIn_cons (hname : f.name? (c :: (s ++ t)) = none) (hs : ¬ f.OccursIn s) :
    ¬ f.OccursIn (c :: s) := by
  rintro ⟨before, d, after, heq, hd⟩
  cases before with
  | nil =>
    rw [← List.cons_append, heq, List.nil_append, List.append_assoc] at hname
    exact name?_ne_none hd _ hname
  | cons b before =>
    obtain ⟨-, hs'⟩ := List.cons_eq_cons.mp heq
    exact hs ⟨before, d, after, hs', hd⟩

end Occurrences
end Family

section Raw
variable {f g : Family} {s t : Text} {spans : List Span}

theorem infix_of_mem {span : Span} (h : span ∈ spans) :
    span.source <:+: spans.flatMap Span.source := by
  obtain ⟨before, after, rfl⟩ := List.append_of_mem h
  exact ⟨before.flatMap Span.source, after.flatMap Span.source, by simp⟩

/-- No raw span has a placeholder of this family in it. -/
def Cleared (f : Family) (spans : List Span) : Prop := ∀ s, .raw s ∈ spans → ¬ f.OccursIn s

theorem cleared_scan (f : Family) (t : Text) : Cleared f (scan f t) := by
  fun_induction scan f t with
  | case1 =>
    intro s h
    cases h
  | case2 c t name rest _ _ ih =>
    intro s h
    obtain heq | h := List.mem_cons.mp h
    · cases heq
    · exact ih s h
  | case3 c t hname ih =>
    intro s h
    have hsource := source_scan f t
    unfold Span.consRaw at h
    split at h
    · next u more hscan =>
      rw [hscan] at ih hsource
      obtain heq | h := List.mem_cons.mp h
      · cases heq
        rw [← hsource, List.flatMap_cons] at hname
        exact Family.not_occursIn_cons hname (ih u List.mem_cons_self)
      · exact ih s (List.mem_cons_of_mem _ h)
    · obtain heq | h := List.mem_cons.mp h
      · cases heq
        have hnil : ¬ f.OccursIn [] := by
          rintro ⟨before, d, after, heq, -⟩
          simp at heq
        exact Family.not_occursIn_cons (t := t) hname hnil
      · exact ih s h

theorem mem_refine_raw (h : .raw s ∈ refine f spans) :
    ∃ t, .raw t ∈ spans ∧ .raw s ∈ scan f t := by
  obtain ⟨span, hspan, hmem⟩ := List.mem_flatMap.mp h
  cases span with
  | raw t => exact ⟨t, hspan, hmem⟩
  | placeholder g name => cases List.mem_singleton.mp hmem

theorem cleared_refine (f : Family) (spans : List Span) : Cleared f (refine f spans) := by
  intro s hs
  obtain ⟨t, -, hmem⟩ := mem_refine_raw hs
  exact cleared_scan f t s hmem

/-- What is cut out of a cleared text is clear. -/
theorem Cleared.refine (h : Cleared g spans) (f : Family) : Cleared g (refine f spans) := by
  intro s hs hoccurs
  obtain ⟨t, ht, hmem⟩ := mem_refine_raw hs
  have hinfix : s <:+: t := by
    have := infix_of_mem hmem
    rwa [source_scan] at this
  exact h t ht (hoccurs.of_infix hinfix)

theorem cleared_spans (hf : f ≠ .requestType) (code : Text) : Cleared f (Rule.spans code) := by
  unfold Rule.spans
  split
  · intro s hs
    cases List.mem_singleton.mp hs
  · cases f with
    | intent => exact ((cleared_refine .intent _).refine .session).refine .slot
    | session => exact (cleared_refine .session _).refine .slot
    | slot => exact cleared_refine .slot _
    | requestType => exact absurd rfl hf

end Raw

/-- A span and the byte where it starts. -/
structure Place where
  span : Span
  start : Nat
deriving DecidableEq

namespace Place

def stop (p : Place) : Nat := p.start + Text.width p.span.source

/-- The places of spans of which the first starts at the byte `offset`. -/
def ofSpans (offset : Nat) : List Span → List Place
  | [] => []
  | span :: spans => ⟨span, offset⟩ :: ofSpans (offset + Text.width span.source) spans

section OfSpans
variable {p : Place} {offset : Nat} {spans : List Span}

/-- A place is a stretch of the text that the spans make up. -/
theorem source_of_mem (h : p ∈ ofSpans offset spans) :
    ∃ before after, spans.flatMap Span.source = before ++ (p.span.source ++ after) ∧
      p.start = offset + Text.width before := by
  induction spans generalizing offset with
  | nil => cases h
  | cons span spans ih =>
    obtain rfl | h := List.mem_cons.mp h
    · exact ⟨[], spans.flatMap Span.source, rfl, rfl⟩
    · obtain ⟨before, after, hsource, hstart⟩ := ih h
      refine ⟨span.source ++ before, after, ?_, ?_⟩
      · rw [List.flatMap_cons, hsource, List.append_assoc]
      · rw [hstart, Text.width_append]
        omega

theorem apart_ofSpans (offset : Nat) (spans : List Span) :
    (ofSpans offset spans).Pairwise fun p q => p.stop ≤ q.start := by
  induction spans generalizing offset with
  | nil => exact .nil
  | cons span spans ih =>
    refine .cons (fun q hq => ?_) (ih _)
    obtain ⟨before, after, -, hstart⟩ := source_of_mem hq
    rw [hstart]
    exact Nat.le_add_right _ _

end OfSpans
end Place

theorem eq_of_requestType_mem {code name : Text} (h : .placeholder .requestType name ∈ spans code) :
    code ∈ requestTypes ∧ name = code ∧ spans code = [.placeholder .requestType code] := by
  by_cases hcode : code ∈ requestTypes
  · have hspans : spans code = [.placeholder .requestType code] := if_pos (by simpa using hcode)
    rw [hspans] at h
    cases List.mem_singleton.mp h
    exact ⟨hcode, rfl, hspans⟩
  · exact absurd h (requestType_notMem_spans hcode name)

/-- A code segment has its spans from its text alone. They make up the segment one after the other,
and resolving it, in passes or at once, leaves the raw ones and puts in for each placeholder the JSON
text of what the context has for its name. Nothing more is to be found in a raw span, no two spans
overlap, and a request type is a placeholder only as the whole segment. -/
theorem spans_cover (code : Text) :
    (spans code).flatMap Span.source = code ∧
    (∀ ctx opts,
      resolveInPasses ctx opts code = resolveCode ctx opts code ∧
      resolveCode ctx opts code = (spans code).flatMap (Span.resolve ctx opts) ∧
      (∀ s, Span.resolve ctx opts (.raw s) = s) ∧
      ∀ f name, ∃ v, Denotes ctx opts f name v ∧
        Span.resolve ctx opts (.placeholder f name) = v.write) ∧
    (∀ s, .raw s ∈ spans code → ∀ f, f ≠ Family.requestType → ¬ f.OccursIn s) ∧
    (∀ p ∈ Place.ofSpans 0 (spans code), ∃ before after,
      code = before ++ (p.span.source ++ after) ∧ p.start = Text.width before) ∧
    (Place.ofSpans 0 (spans code)).Pairwise (fun p q => p.stop ≤ q.start) ∧
    ∀ name, .placeholder .requestType name ∈ spans code →
      code ∈ requestTypes ∧ name = code ∧ spans code = [.placeholder .requestType code] := by
  refine ⟨source_spans code, ?_, ?_, ?_, Place.apart_ofSpans 0 _, fun _ => eq_of_requestType_mem⟩
  · intro ctx opts
    refine ⟨resolveInPasses_eq ctx opts code, rfl, fun _ => rfl, fun f name => ?_⟩
    exact ⟨f.value ctx opts name, denotes_value ctx opts f name, rfl⟩
  · intro s hs f hf
    exact cleared_spans hf code s hs
  · intro p hp
    obtain ⟨before, after, hsource, hstart⟩ := Place.source_of_mem hp
    rw [source_spans] at hsource
    exact ⟨before, after, hsource, by rw [hstart, Nat.zero_add]⟩

section Nesting

/-- The session holds a text that looks like placeholders. -/
private def nesting : Context where
  intent := some "session.x".toList
  requestType := "LaunchRequest".toList
  slot _ := none
  sessionValue _ _ := .str "slot.a #b".toList

/-- An intent whose name looks like a session value, and a session value behind a slot's marker. -/
private def nested : Text := "#session.x slot.session.y".toList

private theorem spans_nested : spans nested =
    [.placeholder .intent "session.x".toList, .raw " slot.".toList, .placeholder .session ['y']] := by
  decide +kernel

theorem spans_cover_nested :
    resolveInPasses nesting {} nested = "true slot.\"slot.a #b\"".toList ∧
    ¬ Family.slot.OccursIn " slot.".toList ∧
    (∃ before after, nested = before ++ ("session.y".toList ++ after) ∧ Text.width before = 16) ∧
    spans "LaunchRequest".toList = [.placeholder .requestType "LaunchRequest".toList] := by
  obtain ⟨-, hresolve, hraw, hplaces, -, -⟩ := spans_cover nested
  obtain ⟨-, -, -, -, -, htype⟩ := spans_cover "LaunchRequest".toList
  refine ⟨?_, ?_, ?_, ?_⟩
  · obtain ⟨hpasses, hspans, -⟩ := hresolve nesting {}
    rw [hpasses, hspans, spans_nested]
    decide
  · exact hraw _ (by rw [spans_nested]; simp) .slot (by decide)
  · obtain ⟨before, after, hsource, hstart⟩ :=
      hplaces ⟨.placeholder .session ['y'], 16⟩ (by rw [spans_nested]; decide)
    exact ⟨before, after, hsource, hstart.symm⟩
  · exact (htype "LaunchRequest".toList (by decide +kernel)).2.2

end Nesting

end TurnRouter.Rule
