import TurnRouter.Proofs.Condition.Neighbours
import TurnRouter.Proofs.Rule.LiteralEnds

/-! # Request types in rules

A request type is looked up only where its name is a whole segment of code. In a rule of more than
that, a literal stands next to the segment, and the truth value put in for it is read right beside
a string. So such a rule is never a condition, and no other rule sees the type of the request.
-/
namespace TurnRouter
open Condition

/-- The context of a turn that is of another type, and the same in all else. -/
def Context.retyped (ctx : Context) (type : Text) : Context := { ctx with requestType := type }

namespace Rule

section Retyped
variable {ctx : Context} {opts : Options} {type : Text}

theorem resolve_span_retyped {span : Span} (h : ∀ name, span ≠ .placeholder .requestType name) :
    span.resolve (ctx.retyped type) opts = span.resolve ctx opts := by
  cases span with
  | raw s => rfl
  | placeholder f name =>
    cases f with
    | requestType => exact absurd rfl (h name)
    | _ => rfl

theorem resolveCode_retyped {code : Text} (h : code ∉ requestTypes) :
    resolveCode (ctx.retyped type) opts code = resolveCode ctx opts code := by
  have hspans : (spans code).map (Span.resolve (ctx.retyped type) opts) =
      (spans code).map (Span.resolve ctx opts) := by
    refine List.map_congr_left fun span hspan => resolve_span_retyped ?_
    rintro name rfl
    exact requestType_notMem_spans h name hspan
  rw [resolveCode, resolveCode, List.flatMap_def, List.flatMap_def, hspans]

theorem resolve_retyped {segs : List Segment}
    (h : ∀ code, .code code ∈ segs → code ∉ requestTypes) :
    resolve (ctx.retyped type) opts segs = resolve ctx opts segs := by
  have hsegments : segs.map (Segment.resolve (ctx.retyped type) opts) =
      segs.map (Segment.resolve ctx opts) := by
    refine List.map_congr_left fun segment hsegment => ?_
    cases segment with
    | code code => exact resolveCode_retyped (h code hsegment)
    | literal text => rfl
  rw [resolve, resolve, List.flatMap_def, List.flatMap_def, hsegments]

/-- A rule without a request type among its segments does not see the type of the turn. -/
theorem check_retyped {rule : Text}
    (h : ∀ segs code, segments rule = .ok segs → .code code ∈ segs → code ∉ requestTypes) :
    check (ctx.retyped type) opts rule = check ctx opts rule :=
  check_congr fun segs _ hrule => by rw [resolve_retyped fun code hcode => h segs code hrule hcode]

end Retyped

section Neighbours
variable {segs : List Segment} {code : Text}

theorem literal_before_or_head (h : Canonical segs) (hcode : .code code ∈ segs) :
    (∃ before text after, segs = before ++ .literal text :: .code code :: after) ∨
      ∃ more, segs = .code code :: more := by
  induction h with
  | nil => cases hcode
  | code => exact .inr ⟨[], by rw [List.mem_singleton.mp hcode]⟩
  | @pair s body quote segs _ _ _ _ ih =>
    obtain heq | hcode := List.mem_cons.mp hcode
    · exact .inr ⟨_, by rw [heq]⟩
    obtain heq | hcode := List.mem_cons.mp hcode
    · cases heq
    obtain ⟨before, text, after, hsplit⟩ | ⟨more, hsplit⟩ := ih hcode
    · exact .inl ⟨.code s :: .literal (quote :: body) :: before, text, after, by rw [hsplit]; rfl⟩
    · exact .inl ⟨[.code s], quote :: body, more, by rw [hsplit]; rfl⟩

/-- A code segment is the whole rule or has a literal next to it. -/
theorem neighbours (h : Canonical segs) (hcode : .code code ∈ segs) : segs = [.code code] ∨
    (∃ before text after, segs = before ++ .literal text :: .code code :: after) ∨
      ∃ text after, segs = .code code :: .literal text :: after := by
  obtain hbefore | ⟨more, rfl⟩ := literal_before_or_head h hcode
  · exact .inr (.inl hbefore)
  · cases h with
    | code => exact .inl rfl
    | pair => exact .inr (.inr ⟨_, _, rfl⟩)

end Neighbours

section Truth
variable {b : Bool}

/-- A truth value before anything that does not go on with it is read as one token. -/
theorem scan_bool {t : Text} (ht : Fresh t) :
    Scan 0 ((Json.bool b).write ++ t) [⟨.value (.boolean b), (Json.bool b).write, 0⟩]
      (Text.width (Json.bool b).write) t := by
  have hquoteless : Quoteless (Json.bool b).write := by cases b <;> decide
  have hlex : lexFrom 0 (Json.bool b).write =
      .ok [⟨.value (.boolean b), (Json.bool b).write, 0⟩] := by
    refine lexFrom_eq_ok_iff.mpr ?_
    cases b with
    | true =>
      have hread : readToken 0 't' "rue".toList =
          .ok ⟨.value (.boolean true), "true".toList, []⟩ := rfl
      exact .token (by decide) hread .done
    | false =>
      have hread : readToken 0 'f' "alse".toList =
          .ok ⟨.value (.boolean false), "false".toList, []⟩ := rfl
      exact .token (by decide) hread .done
  have hscan := (scan_append ht 0 _ hquoteless).1 _ hlex
  rwa [Nat.zero_add] at hscan

/-- A truth value before anything is read as a value if at all. -/
theorem readToken_bool (b : Bool) : ∃ c s, (Json.bool b).write = c :: s ∧ isBlank c = false ∧
    ∀ offset t r, readToken offset c (s ++ t) = .ok r → ∃ v, r.value = .value v := by
  have hword : ∀ offset s r, readWord offset s = .ok r → ∃ v, r.value = .value v := by
    intro offset s r h
    unfold readWord at h
    split at h
    · next v _ =>
      cases h
      exact ⟨v, rfl⟩
    · cases h
  cases b with
  | true => exact ⟨'t', "rue".toList, rfl, by decide, fun offset t r h => hword offset _ r h⟩
  | false => exact ⟨'f', "alse".toList, rfl, by decide, fun offset t r h => hword offset _ r h⟩

end Truth

section Errors
variable {ctx : Context} {opts : Options} {limit : Nat} {rule code : Text} {segs : List Segment}

theorem resolve_requestType (ctx : Context) (opts : Options) (code : Text) :
    ∃ b, (Piece.placeholder .requestType code).resolve ctx opts = (Json.bool b).write :=
  ⟨decide (ctx.requestType = code), rfl⟩

theorem pieces_requestType (h : code ∈ requestTypes) (segs : List Segment) :
    pieces (.code code :: segs) = .placeholder .requestType code :: pieces segs := by
  have hspans : spans code = [.placeholder .requestType code] := if_pos (by simpa using h)
  rw [pieces, List.flatMap_cons, Segment.pieces, hspans]
  rfl

theorem pieces_literal (text : Text) (segs : List Segment) :
    pieces (.literal text :: segs) = .literal text :: pieces segs := rfl

theorem evaluate_of_stops {s : Text} {stop : Nat} {e : Condition.Error} (h : Stops 0 s stop e) :
    ∃ e, Condition.evaluate limit s = .error e :=
  ⟨e, evaluate_of_lex_error h.lexFrom_eq limit⟩

/-- A string, and right after it a truth value. -/
theorem evaluate_of_literal_before (hproper : ∀ p ∈ pieces segs, p.Proper)
    {before after : List Piece} {text : Text}
    (hsplit : pieces segs = before ++ .literal text :: .placeholder .requestType code :: after) :
    ∃ e, Condition.evaluate limit (resolve ctx opts segs) = .error e := by
  obtain ⟨quote, body, rfl, hq, hclosed⟩ : (Piece.literal text).Proper :=
    hproper _ (by rw [hsplit]; simp)
  obtain ⟨b, hb⟩ := resolve_requestType ctx opts code
  obtain ⟨c, s, hwrite, hblank, hvalue⟩ := readToken_bool b
  have hreach := reaches_before ctx opts hproper hsplit rfl hq
  rw [resolve_split ctx opts hsplit]
  rw [Piece.resolveAll_cons, hb, hwrite] at hreach ⊢
  obtain ⟨ls, hscan⟩ | ⟨stop, e, hstop, -, -⟩ := hreach
  · obtain ⟨v, hv⟩ | hbad := readToken_settled hq (settled_of_closed hq body hclosed)
    · have hstring := hscan.append (.token (isBlank_quote hq) (hv _ _) .done)
      exact evaluate_of_neighbours hstring hblank fun r hr => hvalue _ _ r hr
    · obtain ⟨e, he, -⟩ := hbad (0 + Text.width (Piece.resolveAll ctx opts before)) _
      exact evaluate_of_stops ⟨ls, quote, _, hscan, isBlank_quote hq, he⟩
  · exact evaluate_of_stops hstop

/-- A truth value at the start, and right after it a string. -/
theorem evaluate_of_literal_after (hproper : ∀ p ∈ pieces segs, p.Proper) {after : List Piece}
    {text : Text}
    (hsplit : pieces segs = .placeholder .requestType code :: .literal text :: after) :
    ∃ e, Condition.evaluate limit (resolve ctx opts segs) = .error e := by
  obtain ⟨quote, body, rfl, hq, hclosed⟩ : (Piece.literal text).Proper :=
    hproper _ (by rw [hsplit]; simp)
  obtain ⟨b, hb⟩ := resolve_requestType ctx opts code
  rw [resolve_eq_resolveAll, hsplit, Piece.resolveAll_cons, Piece.resolveAll_cons, hb]
  have hfresh : Fresh (quote :: (body ++ Piece.resolveAll ctx opts after)) := fresh_quote hq
  have hscan : Scan 0 ((Json.bool b).write ++ (quote :: body ++ Piece.resolveAll ctx opts after))
      ([] ++ [⟨.value (.boolean b), (Json.bool b).write, 0⟩]) (Text.width (Json.bool b).write)
      (quote :: (body ++ Piece.resolveAll ctx opts after)) := scan_bool hfresh
  refine evaluate_of_neighbours hscan (isBlank_quote hq) fun r hr => ?_
  obtain ⟨v, hv⟩ | hbad := readToken_settled hq (settled_of_closed hq body hclosed)
  · rw [hv] at hr
    cases hr
    exact ⟨.string v, rfl⟩
  · obtain ⟨e, he, -⟩ := hbad (Text.width (Json.bool b).write) (Piece.resolveAll ctx opts after)
    rw [he] at hr
    cases hr

theorem check_of_evaluate (hne : rule ≠ []) (hrule : segments rule = .ok segs)
    (h : ∃ e, Condition.evaluate opts.maxDepth (resolve ctx opts segs) = .error e) :
    ∃ e, check ctx opts rule = .error e := by
  obtain ⟨e, he⟩ := h
  refine ⟨.condition e, ?_⟩
  rw [check_of_segments hne hrule, evaluate, he, mapError_error]

/-- A request type in a rule of more than its name is never part of a condition. -/
theorem check_of_requestType (hrule : segments rule = .ok segs) (hcode : .code code ∈ segs)
    (hmem : code ∈ requestTypes) (hne : rule ≠ code) : ∃ e, check ctx opts rule = .error e := by
  obtain ⟨hcanonical, htext⟩ := segments_eq_ok_iff.mp hrule
  have hproper := proper_of_segments hrule
  have hempty : rule ≠ [] := by
    rintro rfl
    cases segmentsFrom_nil.symm.trans hrule
    cases hcode
  refine check_of_evaluate hempty hrule ?_
  obtain rfl | ⟨before, text, after, rfl⟩ | ⟨text, after, rfl⟩ := neighbours hcanonical hcode
  · refine absurd ?_ hne
    simpa [Segment.text] using htext.symm
  · have hsplit : pieces (before ++ .literal text :: .code code :: after) =
        pieces before ++ .literal text :: .placeholder .requestType code :: pieces after := by
      rw [pieces, List.flatMap_append, ← pieces, ← pieces, pieces_literal, pieces_requestType hmem]
    exact evaluate_of_literal_before hproper hsplit
  · have hsplit : pieces (.code code :: .literal text :: after) =
        .placeholder .requestType code :: .literal text :: pieces after := by
      rw [pieces_requestType hmem, pieces_literal]
    exact evaluate_of_literal_after hproper hsplit

end Errors

/-- Only a rule that is nothing but a request type sees the type of the request: any other says
the same of two turns that differ in their type, or is no condition for either. -/
theorem requestType_only_alone (rule : Text) (hlaunch : rule ≠ "LaunchRequest".toList)
    (hended : rule ≠ "SessionEndedRequest".toList) :
    (∀ ctx type opts,
      (∃ b, check ctx opts rule = .ok b ∧ check (ctx.retyped type) opts rule = .ok b) ∨
      ((∃ e, check ctx opts rule = .error e) ∧ ∃ e, check (ctx.retyped type) opts rule = .error e)) ∧
    ∀ segs code, segments rule = .ok segs → .code code ∈ segs → code ∈ requestTypes →
      ∀ ctx opts, ∃ e, check ctx opts rule = .error e := by
  have halone : rule ∉ requestTypes := by simpa [requestTypes] using ⟨hlaunch, hended⟩
  have hnever : ∀ segs code, segments rule = .ok segs → .code code ∈ segs → code ∈ requestTypes →
      ∀ ctx opts, ∃ e, check ctx opts rule = .error e := by
    intro segs code hrule hcode hmem ctx opts
    refine check_of_requestType hrule hcode hmem ?_
    rintro rfl
    exact halone hmem
  refine ⟨fun ctx type opts => ?_, hnever⟩
  by_cases hblind : ∀ segs code, segments rule = .ok segs → .code code ∈ segs → code ∉ requestTypes
  · rw [check_retyped hblind]
    cases hcheck : check ctx opts rule with
    | ok b => exact .inl ⟨b, rfl, rfl⟩
    | error e => exact .inr ⟨⟨e, rfl⟩, e, rfl⟩
  · simp only [Classical.not_forall, Decidable.not_not] at hblind
    obtain ⟨segs, code, hrule, hcode, hmem⟩ := hblind
    exact .inr ⟨hnever segs code hrule hcode hmem ctx opts,
      hnever segs code hrule hcode hmem (ctx.retyped type) opts⟩

/-- A turn that opens a conversation. -/
private def launching : Context :=
  ⟨none, "LaunchRequest".toList, fun _ => none, fun _ default => default⟩

theorem requestType_only_alone_glued :
    (∃ e, check launching {} "'x'LaunchRequest".toList = .error e) ∧
    (∃ e, check launching {} "SessionEndedRequest''".toList = .error e) ∧
    ∃ b, check launching {} "#a || true".toList = .ok b ∧
      check (launching.retyped []) {} "#a || true".toList = .ok b := by
  have hbehind : segments "'x'LaunchRequest".toList =
      .ok [.code [], .literal "'x'".toList, .code "LaunchRequest".toList] :=
    segments_eq_ok_iff.mpr
      ⟨.pair .nil rfl (.plain (by decide) (by decide) .close) (.code (by decide) (by decide)), rfl⟩
  have hbefore : segments "SessionEndedRequest''".toList =
      .ok [.code "SessionEndedRequest".toList, .literal "''".toList] :=
    segments_eq_ok_iff.mpr ⟨.pair (by decide) rfl .close .nil, rfl⟩
  refine ⟨?_, ?_, ?_⟩
  · obtain ⟨-, hnever⟩ := requestType_only_alone "'x'LaunchRequest".toList (by decide) (by decide)
    exact hnever _ "LaunchRequest".toList hbehind (by simp) (by decide) launching {}
  · obtain ⟨-, hnever⟩ := requestType_only_alone "SessionEndedRequest''".toList (by decide) (by decide)
    exact hnever _ "SessionEndedRequest".toList hbefore (by simp) (by decide) launching {}
  · obtain ⟨hsame, -⟩ := requestType_only_alone "#a || true".toList (by decide) (by decide)
    have hcheck : check launching {} "#a || true".toList = .ok true := by decide +kernel
    obtain hok | ⟨⟨e, he⟩, -⟩ := hsame launching [] {}
    · exact hok
    · rw [hcheck] at he
      cases he

end Rule
end TurnRouter
