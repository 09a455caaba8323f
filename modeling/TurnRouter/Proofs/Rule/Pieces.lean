import TurnRouter.Proofs.Condition.Locality
import TurnRouter.Proofs.Condition.Encoding
import TurnRouter.Proofs.Json.Plain
import TurnRouter.Rule.Resolve

/-! # Pieces of a rule

A rule in the order of its text: raw code, literals and placeholders. Resolving works on each
piece alone, and code has no quotes, so that quotes come from literals and from values only.
-/
namespace TurnRouter.Rule
open Condition

inductive Piece
  | raw (text : Text)
  | literal (text : Text)
  | placeholder (family : Family) (name : Text)
deriving DecidableEq

def Span.piece : Span → Piece
  | raw s => .raw s
  | placeholder f name => .placeholder f name

def Segment.pieces : Segment → List Piece
  | code s => (spans s).map Span.piece
  | literal s => [.literal s]

def pieces (segs : List Segment) : List Piece := segs.flatMap Segment.pieces

namespace Piece

def resolve (ctx : Context) (opts : Options) : Piece → Text
  | raw s => s
  | literal s => s
  | placeholder f name => (f.value ctx opts name).write

/-- The text of a whole list of pieces. -/
def resolveAll (ctx : Context) (opts : Options) (ps : List Piece) : Text :=
  ps.flatMap (Piece.resolve ctx opts)

section Lists
variable {ctx : Context} {opts : Options}

@[simp] theorem resolveAll_nil : resolveAll ctx opts [] = [] := rfl

@[simp] theorem resolveAll_cons (p : Piece) (ps : List Piece) :
    resolveAll ctx opts (p :: ps) = p.resolve ctx opts ++ resolveAll ctx opts ps := rfl

@[simp] theorem resolveAll_append (ps qs : List Piece) :
    resolveAll ctx opts (ps ++ qs) = resolveAll ctx opts ps ++ resolveAll ctx opts qs :=
  List.flatMap_append

end Lists

end Piece

theorem resolve_eq_resolveAll (ctx : Context) (opts : Options) (segs : List Segment) :
    resolve ctx opts segs = Piece.resolveAll ctx opts (pieces segs) := by
  have hspan : Span.resolve ctx opts = fun span => span.piece.resolve ctx opts := by
    funext span
    cases span <;> rfl
  have hsegment : Segment.resolve ctx opts =
      fun seg => seg.pieces.flatMap (Piece.resolve ctx opts) := by
    funext seg
    cases seg with
    | code s => simp only [Segment.resolve, resolveCode, Segment.pieces, List.flatMap_map, hspan]
    | literal s => simp [Segment.resolve, Segment.pieces, Piece.resolve]
  rw [resolve, hsegment, Piece.resolveAll, pieces, List.flatMap_assoc]

section Sources

theorem source_consRaw (c : Char) (spans : List Span) :
    (Span.consRaw c spans).flatMap Span.source = c :: spans.flatMap Span.source := by
  unfold Span.consRaw
  split <;> simp [Span.source]

theorem source_scan (f : Family) (s : Text) : (scan f s).flatMap Span.source = s := by
  fun_induction scan f s with
  | case1 => rfl
  | case2 c t name rest h _ ih =>
    rw [List.flatMap_cons, ih, (Family.append_of_name? h).1]
    rfl
  | case3 c t h ih => rw [source_consRaw, ih]

theorem source_refine (f : Family) (spans : List Span) :
    (refine f spans).flatMap Span.source = spans.flatMap Span.source := by
  unfold refine
  rw [List.flatMap_assoc]
  congr 1
  funext span
  cases span with
  | raw s => exact source_scan f s
  | placeholder g name => simp

/-- The spans of a code segment written one after the other are the segment. -/
theorem source_spans (code : Text) : (spans code).flatMap Span.source = code := by
  by_cases h : requestTypes.contains code = true
  · rw [spans, if_pos h, List.flatMap_cons, List.flatMap_nil, List.append_nil]
    rfl
  · rw [spans, if_neg h, source_refine, source_refine, source_refine, List.flatMap_cons,
      List.flatMap_nil, List.append_nil]
    rfl

end Sources

section Members

theorem mem_consRaw {span : Span} {c : Char} {spans : List Span}
    (h : span ∈ Span.consRaw c spans) : span ∈ spans ∨ ∃ s, span = .raw (c :: s) := by
  unfold Span.consRaw at h
  split at h
  · obtain hraw | h := List.mem_cons.mp h
    · exact .inr ⟨_, hraw⟩
    · exact .inl (List.mem_cons_of_mem _ h)
  · obtain hraw | h := List.mem_cons.mp h
    · exact .inr ⟨[], hraw⟩
    · exact .inl h

theorem family_of_mem_scan {f g : Family} {name s : Text} (h : .placeholder g name ∈ scan f s) :
    g = f := by
  fun_induction scan f s with
  | case1 => cases h
  | case2 c t first rest _ _ ih =>
    obtain heq | hrest := List.mem_cons.mp h
    · cases heq
      rfl
    · exact ih hrest
  | case3 c t _ ih =>
    obtain h | ⟨s, hraw⟩ := mem_consRaw h
    · exact ih h
    · cases hraw

theorem mem_refine {f g : Family} {name : Text} {spans : List Span}
    (h : .placeholder g name ∈ refine f spans) : g = f ∨ .placeholder g name ∈ spans := by
  obtain ⟨span, hspan, hmem⟩ := List.mem_flatMap.mp h
  cases span with
  | raw s => exact .inl (family_of_mem_scan hmem)
  | placeholder f' name' =>
    rw [List.mem_singleton.mp hmem]
    exact .inr hspan

theorem requestType_notMem_spans {code : Text} (h : code ∉ requestTypes) (name : Text) :
    .placeholder .requestType name ∉ spans code := by
  intro hmem
  rw [spans, if_neg (by simpa using h)] at hmem
  obtain hslot | hmem := mem_refine hmem
  · cases hslot
  obtain hsession | hmem := mem_refine hmem
  · cases hsession
  obtain hintent | hmem := mem_refine hmem
  · cases hintent
  · simp at hmem

end Members

namespace Piece

/-- What splitting guarantees: raw text has no quotes, and a literal ends at its closing quote. -/
def Proper : Piece → Prop
  | raw s => Quoteless s
  | literal s => ∃ quote body, s = quote :: body ∧ isQuote quote = true ∧ Closed quote body
  | placeholder _ _ => True

end Piece

theorem proper_of_mem_code {s : Text} (h : Quoteless s) {p : Piece}
    (hp : p ∈ (Segment.code s).pieces) : p.Proper := by
  obtain ⟨span, hspan, rfl⟩ := List.mem_map.mp hp
  cases span with
  | placeholder f name => trivial
  | raw t =>
    refine h.of_subset fun c hc => ?_
    rw [← source_spans s]
    exact List.mem_flatMap.mpr ⟨.raw t, hspan, hc⟩

theorem proper_of_canonical {segs : List Segment} (h : Canonical segs) :
    ∀ p ∈ pieces segs, p.Proper := by
  induction h with
  | nil => intro p hp; cases hp
  | @code s _ hq =>
    intro p hp
    have hmem : p ∈ (Segment.code s).pieces := by simpa [pieces] using hp
    exact proper_of_mem_code hq hmem
  | @pair s body quote segs hq hquote hclosed _ ih =>
    intro p hp
    have hmem : p ∈ (Segment.code s).pieces ∨ p = .literal (quote :: body) ∨ p ∈ pieces segs := by
      simpa [pieces, Segment.pieces] using hp
    rcases hmem with hcode | rfl | hrest
    · exact proper_of_mem_code hq hcode
    · exact ⟨quote, body, rfl, hquote, hclosed⟩
    · exact ih p hrest

theorem proper_of_segments {rule : Text} {segs : List Segment} (h : segments rule = .ok segs) :
    ∀ p ∈ pieces segs, p.Proper := proper_of_canonical (segments_eq_ok_iff.mp h).1

section Heads
variable {c : Char} {s : Text}

theorem fresh_quote (h : isQuote c = true) : Fresh (c :: s) := by
  rintro d hd
  cases hd
  rcases isQuote_iff.mp h with rfl | rfl <;> decide

theorem fresh_bracket (h : Json.isBracket c = true) : Fresh (c :: s) := by
  simp only [Json.isBracket, Bool.or_eq_true, beq_iff_eq] at h
  rintro d hd
  cases hd
  rcases h with rfl | rfl <;> decide

theorem readToken_bracket (h : Json.isBracket c = true) (start : Nat) (s : Text) :
    isBlank c = false ∧ readToken start c s = .error (.unexpectedChar c start) := by
  simp only [Json.isBracket, Bool.or_eq_true, beq_iff_eq] at h
  rcases h with rfl | rfl <;> exact ⟨by decide, rfl⟩

end Heads

/-- What the text of a piece is to the lexer. -/
theorem Piece.resolve_cases (ctx : Context) (opts : Options) {p : Piece} (hp : p.Proper) :
    Quoteless (p.resolve ctx opts) ∨
    (∃ quote body, p.resolve ctx opts = quote :: body ∧ isQuote quote = true ∧ Settled quote body) ∨
    (∃ c s, p.resolve ctx opts = c :: s ∧ Json.isBracket c = true) := by
  cases p with
  | raw s => exact .inl hp
  | literal s =>
    obtain ⟨quote, body, rfl, hq, hclosed⟩ := hp
    exact .inr (.inl ⟨quote, body, rfl, hq, settled_of_closed hq body hclosed⟩)
  | placeholder f name =>
    rcases Json.write_cases (f.value ctx opts name) with ⟨s, hs⟩ | hplain | hbracket
    · refine .inr (.inl ⟨'"', writtenBody s, ?_, rfl, settled_written s⟩)
      rw [Piece.resolve, hs]
      exact writeString_eq s
    · exact .inl hplain
    · exact .inr (.inr hbracket)

end TurnRouter.Rule
