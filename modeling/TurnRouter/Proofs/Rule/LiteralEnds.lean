import TurnRouter.Proofs.Condition.Scan
import TurnRouter.Proofs.Condition.Stages
import TurnRouter.Proofs.Condition.StringReading
import TurnRouter.Proofs.Rule.Pieces
import TurnRouter.Rule.Check

/-! # Literals of a rule and strings of a condition

Whatever a rule resolves to, the lexer stands at the start of a token when it comes to a literal or
to the text of a string value, and reads it as one string.
-/
namespace TurnRouter.Rule
open Condition

/-- The lexer comes to the rest `t` of a text as to the start of a token, after `s` bytes more, or
stops before; it never stops at a string without an end. -/
def Reaches (offset : Nat) (s t : Text) : Prop :=
  (∃ ls, Scan offset (s ++ t) ls (offset + Text.width s) t) ∨
  (∃ stop e, Stops offset (s ++ t) stop e ∧ stop < offset + Text.width s ∧
    ∀ p, e ≠ .unterminatedString p)

theorem reaches_of_quoteless {s t : Text} (hs : Quoteless s) (ht : Fresh t) (offset : Nat) :
    Reaches offset s t := by
  obtain ⟨hok, herror⟩ := scan_append ht offset s hs
  cases hlex : lexFrom offset s with
  | ok ls => exact .inl ⟨ls, hok ls hlex⟩
  | error e =>
    obtain ⟨stop, hlt, hstop⟩ := herror e hlex
    refine .inr ⟨stop, e, hstop, hlt, ?_⟩
    obtain ⟨stop', ls, c, u, hscan, -, hread⟩ := lexFrom_eq_error_iff.mp hlex
    obtain ⟨part, hpart, -⟩ := hscan.source
    have hc : isQuote c = false := hs c (by rw [hpart]; simp)
    exact ne_unterminated_of_readToken hc hread

namespace Reaches
variable {offset : Nat} {s s' t : Text}

theorem stops {stop : Nat} {e : Condition.Error} (h : Stops offset (s ++ t) stop e)
    (hlt : stop < offset + Text.width s) (he : ∀ p, e ≠ .unterminatedString p) :
    Reaches offset s t := .inr ⟨stop, e, h, hlt, he⟩

/-- One stretch after the other. -/
theorem trans (h : Reaches offset s (s' ++ t)) (h' : Reaches (offset + Text.width s) s' t) :
    Reaches offset (s ++ s') t := by
  unfold Reaches
  rw [List.append_assoc, Text.width_append, ← Nat.add_assoc]
  obtain ⟨ls, hscan⟩ | ⟨stop, e, hstop, hlt, he⟩ := h
  · obtain ⟨ls', hscan'⟩ | ⟨stop, e, hstop, hlt, he⟩ := h'
    · exact .inl ⟨ls ++ ls', hscan.append hscan'⟩
    · exact .inr ⟨stop, e, hscan.stops hstop, hlt, he⟩
  · exact .inr ⟨stop, e, hstop, by omega, he⟩

end Reaches

theorem ne_unterminated_of_invalidEscape {e : Condition.Error} (h : e.variant = .invalidEscape)
    (p : Nat) : e ≠ .unterminatedString p := by
  rintro rfl
  cases h

theorem reaches_settled {quote : Char} {body : Text} (hq : isQuote quote = true)
    (h : Settled quote body) (offset : Nat) (t : Text) : Reaches offset (quote :: body) t := by
  have hpos : 0 < Text.width (quote :: body) := Text.width_pos (List.cons_ne_nil _ _)
  obtain ⟨v, hv⟩ | hbad := readToken_settled hq h
  · exact .inl ⟨_, .token (isBlank_quote hq) (hv offset t) .done⟩
  · obtain ⟨e, he, hvariant⟩ := hbad offset t
    exact .stops ⟨[], quote, body ++ t, .done, isBlank_quote hq, he⟩ (by omega)
      (ne_unterminated_of_invalidEscape hvariant)

theorem reaches_bracket {c : Char} (hc : Json.isBracket c = true) (offset : Nat) (s t : Text) :
    Reaches offset (c :: s) t := by
  have hpos : 0 < Text.width (c :: s) := Text.width_pos (List.cons_ne_nil _ _)
  obtain ⟨hblank, he⟩ := readToken_bracket hc offset (s ++ t)
  exact .stops ⟨[], c, s ++ t, .done, hblank, he⟩ (by omega) fun _ => Condition.Error.noConfusion

/-- Code without quotes is gathered in `s` until the next quote or bracket, where it ends. -/
theorem reaches_pieces (ctx : Context) (opts : Options) {t : Text} (ht : Fresh t)
    (ps : List Piece) (hps : ∀ p ∈ ps, p.Proper) (s : Text) (hs : Quoteless s) (offset : Nat) :
    Reaches offset (s ++ Piece.resolveAll ctx opts ps) t := by
  induction ps generalizing s offset with
  | nil =>
    rw [Piece.resolveAll_nil, List.append_nil]
    exact reaches_of_quoteless hs ht offset
  | cons p ps ih =>
    have hrest : ∀ q ∈ ps, q.Proper := fun q hq => hps q (List.mem_cons_of_mem _ hq)
    rw [Piece.resolveAll_cons]
    rcases Piece.resolve_cases ctx opts (hps p List.mem_cons_self) with
      hplain | ⟨quote, body, heq, hq, hsettled⟩ | ⟨c, u, heq, hc⟩
    · rw [← List.append_assoc]
      exact ih hrest _ (hs.append hplain) offset
    · rw [heq]
      refine (reaches_of_quoteless hs (fresh_quote hq) offset).trans ?_
      refine (reaches_settled hq hsettled _ _).trans ?_
      exact ih hrest [] .nil _
    · rw [heq]
      exact (reaches_of_quoteless hs (fresh_bracket hc) offset).trans
        (reaches_bracket hc _ _ _)

section Splits
variable (ctx : Context) (opts : Options) {segs : List Segment} {before after : List Piece}

/-- The lexer comes to a piece that starts with a quote, or stops before it. -/
theorem reaches_before {quote : Char} {body : Text} {p : Piece}
    (hproper : ∀ q ∈ pieces segs, q.Proper) (hsplit : pieces segs = before ++ p :: after)
    (hp : p.resolve ctx opts = quote :: body) (hq : isQuote quote = true) :
    Reaches 0 (Piece.resolveAll ctx opts before)
      (p.resolve ctx opts ++ Piece.resolveAll ctx opts after) := by
  have hbefore : ∀ q ∈ before, q.Proper := fun q hmem =>
    hproper q (by rw [hsplit]; exact List.mem_append_left _ hmem)
  rw [hp]
  exact reaches_pieces ctx opts (fresh_quote hq) before hbefore [] .nil 0

theorem resolve_split {p : Piece} (hsplit : pieces segs = before ++ p :: after) :
    resolve ctx opts segs = Piece.resolveAll ctx opts before ++
      (p.resolve ctx opts ++ Piece.resolveAll ctx opts after) := by
  rw [resolve_eq_resolveAll, hsplit, Piece.resolveAll_append, Piece.resolveAll_cons]

end Splits

end TurnRouter.Rule
