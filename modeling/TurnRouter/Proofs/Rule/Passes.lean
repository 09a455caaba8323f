import TurnRouter.Proofs.Rule.Pieces
import TurnRouter.Proofs.Rule.Spans

/-! # Placeholders family by family

Code can also be resolved in passes, one a family. A pass looks for placeholders in the stretches
that are still raw and leaves alone what an earlier one put in. Together the passes put each value
in at its span of the code, so no value ever decides where another one goes.
-/
namespace TurnRouter.Rule

/-- A stretch of code that is still raw, or the text put in for a placeholder. -/
inductive Patch
  | raw (text : Text)
  | filled (text : Text)

def Patch.text : Patch → Text
  | raw s => s
  | filled s => s

def Span.patch (ctx : Context) (opts : Options) : Span → Patch
  | raw s => .raw s
  | placeholder f name => .filled (f.value ctx opts name).write

/-- A raw text as a span, if there is anything in it. -/
def stretch (s : Text) : List Span := if s = [] then [] else [.raw s]

namespace Family

/-- The leftmost place where the marker has a name after it: the text before, the name, and the
text after. -/
def search? (f : Family) : Text → Option (Text × Text × Text)
  | [] => none
  | c :: s =>
    match f.name? (c :: s) with
    | some (name, rest) => some ([], name, rest)
    | none => (search? f s).map fun found => (c :: found.1, found.2)

/-- The first placeholder of a stretch. A request type is a whole stretch or none. -/
def first? (f : Family) (s : Text) : Option (Text × Text × Text) :=
  if f = requestType then if requestTypes.contains s then some ([], s, []) else none
  else f.search? s

theorem length_lt_of_search? {f : Family} {s before name rest : Text}
    (h : f.search? s = some (before, name, rest)) : rest.length < s.length := by
  induction s generalizing before with
  | nil => cases h
  | cons c s ih =>
    unfold search? at h
    split at h
    · next hname =>
      cases h
      exact length_lt_of_name? hname
    · obtain ⟨⟨before', name', rest'⟩, hfound, heq⟩ := Option.map_eq_some_iff.mp h
      cases heq
      exact Nat.lt_succ_of_lt (ih hfound)

theorem length_lt_of_first? {f : Family} {s before name rest : Text}
    (h : f.first? s = some (before, name, rest)) : rest.length < s.length := by
  unfold first? at h
  split at h
  · split at h
    · next hmem =>
      cases h
      have hpos : ∀ t ∈ requestTypes, 0 < t.length := by decide
      exact hpos _ (List.contains_iff_mem.mp hmem)
    · cases h
  · exact length_lt_of_search? h

/-- The placeholders of a stretch, each looked for from where the last one ended. -/
def cut (f : Family) (s : Text) : List Span :=
  match h : f.first? s with
  | none => stretch s
  | some (before, name, rest) =>
    have := length_lt_of_first? h
    stretch before ++ .placeholder f name :: cut f rest
termination_by s.length

/-- The order of the passes. -/
def order : List Family := [intent, session, slot, requestType]

end Family

/-- A pass over all stretches. For a request type there has to be a single one. -/
def pass (ctx : Context) (opts : Options) (patches : List Patch) (f : Family) : List Patch :=
  if f = .requestType ∧ patches.length ≠ 1 then patches
  else patches.flatMap fun
    | .raw s => (f.cut s).map (Span.patch ctx opts)
    | .filled s => [.filled s]

def resolveInPasses (ctx : Context) (opts : Options) (code : Text) : Text :=
  (Family.order.foldl (pass ctx opts) [.raw code]).flatMap Patch.text

section Cuts
variable {f : Family} {s before name rest : Text}

theorem scan_of_search?_eq_none (h : f.search? s = none) : scan f s = stretch s := by
  induction s with
  | nil => rw [scan]; rfl
  | cons c s ih =>
    unfold Family.search? at h
    split at h
    · cases h
    · next hname =>
      rw [scan_cons_of_none hname, ih (Option.map_eq_none_iff.mp h)]
      cases s <;> rfl

theorem scan_of_search?_eq_some (h : f.search? s = some (before, name, rest)) :
    scan f s = stretch before ++ .placeholder f name :: scan f rest := by
  induction s generalizing before with
  | nil => cases h
  | cons c s ih =>
    unfold Family.search? at h
    split at h
    · next hname =>
      cases h
      exact scan_of_name? hname
    · next hname =>
      obtain ⟨⟨before', name', rest'⟩, hfound, heq⟩ := Option.map_eq_some_iff.mp h
      cases heq
      rw [scan_cons_of_none hname, ih hfound]
      cases before' <;> rfl

theorem cut_of_first?_eq_none (h : f.first? s = none) : f.cut s = stretch s := by
  unfold Family.cut
  split
  · rfl
  · next h' => cases h.symm.trans h'

theorem cut_of_first?_eq_some (h : f.first? s = some (before, name, rest)) :
    f.cut s = stretch before ++ .placeholder f name :: f.cut rest := by
  rw [Family.cut]
  split
  · next h' => cases h.symm.trans h'
  · next h' =>
    cases h.symm.trans h'
    rfl

theorem cut_eq_scan (hf : f ≠ .requestType) (s : Text) : f.cut s = scan f s := by
  fun_induction Family.cut f s with
  | case1 s h =>
    rw [Family.first?, if_neg hf] at h
    exact (scan_of_search?_eq_none h).symm
  | case2 s before name rest h _ ih =>
    rw [Family.first?, if_neg hf] at h
    rw [scan_of_search?_eq_some h, ih]

theorem raw_nil_notMem_scan (f : Family) (s : Text) : .raw [] ∉ scan f s := by
  fun_induction scan f s with
  | case1 => exact List.not_mem_nil
  | case2 c t name rest h _ ih => simpa using ih
  | case3 c t h ih =>
    intro hmem
    obtain hmem | ⟨s, hraw⟩ := mem_consRaw hmem
    · exact ih hmem
    · cases hraw

end Cuts

section Passes
variable {ctx : Context} {opts : Options} {code : Text}

/-- A pass finds what the spans are refined by, and fills it in. -/
theorem pass_eq_map_refine {f : Family} (hf : f ≠ .requestType) (spans : List Span) :
    pass ctx opts (spans.map (Span.patch ctx opts)) f =
      (refine f spans).map (Span.patch ctx opts) := by
  rw [pass, if_neg (fun h => hf h.1), refine, List.flatMap_map, List.map_flatMap]
  congr 1
  funext span
  cases span with
  | raw s =>
    simp only [Span.patch]
    rw [cut_eq_scan hf]
  | placeholder g name => rfl

theorem raw_nil_notMem_refine (f : Family) (spans : List Span) : .raw [] ∉ refine f spans := by
  intro h
  obtain ⟨span, -, hmem⟩ := List.mem_flatMap.mp h
  cases span with
  | raw s => exact raw_nil_notMem_scan f s hmem
  | placeholder g name => cases List.mem_singleton.mp hmem

theorem cut_requestType (s : Text) : Family.requestType.cut s =
    if requestTypes.contains s then [.placeholder .requestType s] else stretch s := by
  have hnil : Family.requestType.cut [] = [] := by
    rw [cut_of_first?_eq_none (by decide)]
    rfl
  split
  · next hs =>
    have hfirst : Family.requestType.first? s = some ([], s, []) := by
      rw [Family.first?, if_pos rfl, if_pos hs]
    rw [cut_of_first?_eq_some hfirst, hnil]
    rfl
  · next hs =>
    apply cut_of_first?_eq_none
    rw [Family.first?, if_pos rfl, if_neg hs]

/-- The last pass finds a request type if the code is nothing else. -/
theorem pass_requestType {spans : List Span} (hsource : spans.flatMap Span.source = code)
    (hempty : .raw [] ∉ spans) (htypes : code ∈ requestTypes → spans = [.raw code]) :
    pass ctx opts (spans.map (Span.patch ctx opts)) .requestType =
      (if requestTypes.contains code then [.placeholder .requestType code] else spans).map
        (Span.patch ctx opts) := by
  cases hcode : requestTypes.contains code with
  | true =>
    rw [htypes (List.contains_iff_mem.mp hcode)]
    simp only [pass, List.map_cons, List.map_nil, List.flatMap_cons, List.flatMap_nil, Span.patch,
      cut_requestType, hcode, if_true]
    rfl
  | false =>
    simp only [pass, List.length_map, true_and, Bool.false_eq_true, if_false]
    split
    · rfl
    · next hone =>
      obtain ⟨span, rfl⟩ := List.length_eq_one_iff.mp (Decidable.not_not.mp hone)
      cases span with
      | placeholder f name => rfl
      | raw s =>
        -- A single raw stretch is the whole code.
        obtain rfl : s = code := by simpa [Span.source] using hsource
        have hne : s ≠ [] := by
          rintro rfl
          exact hempty List.mem_cons_self
        simp only [List.map_cons, List.map_nil, List.flatMap_cons, List.flatMap_nil, Span.patch,
          cut_requestType, hcode, stretch, if_neg hne]
        rfl

/-- The passes fill in the spans of the code. -/
theorem passes_eq_map_spans (ctx : Context) (opts : Options) (code : Text) :
    Family.order.foldl (pass ctx opts) [.raw code] = (spans code).map (Span.patch ctx opts) := by
  have htypes : ∀ t ∈ requestTypes,
      refine .slot (refine .session (refine .intent [.raw t])) = [.raw t] := by decide +kernel
  have hsource : (refine .slot (refine .session (refine .intent [.raw code]))).flatMap Span.source =
      code := by
    simp [source_refine, Span.source]
  change pass ctx opts (pass ctx opts (pass ctx opts (pass ctx opts
    ([Span.raw code].map (Span.patch ctx opts)) .intent) .session) .slot) .requestType = _
  rw [pass_eq_map_refine (by decide), pass_eq_map_refine (by decide),
    pass_eq_map_refine (by decide),
    pass_requestType hsource (raw_nil_notMem_refine _ _) (htypes code), spans]

theorem resolveInPasses_eq (ctx : Context) (opts : Options) (code : Text) :
    resolveInPasses ctx opts code = resolveCode ctx opts code := by
  have hspan : (fun span => (Span.patch ctx opts span).text) = Span.resolve ctx opts := by
    funext span
    cases span <;> rfl
  rw [resolveInPasses, passes_eq_map_spans, List.flatMap_map, hspan, resolveCode]

end Passes

end TurnRouter.Rule
