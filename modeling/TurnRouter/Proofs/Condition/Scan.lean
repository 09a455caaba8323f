import TurnRouter.Proofs.Condition.Locality
import TurnRouter.Proofs.Outcome
import TurnRouter.Proofs.Rule.Canonical

/-! # Runs of the lexer

A run goes from one byte of a text to a later one and collects lexemes. The lexer succeeds if a
run comes to the end of the text (`lexFrom_eq_ok_iff`), and fails with an error if one comes to a
token with that error (`lexFrom_eq_error_iff`).
-/
namespace TurnRouter.Condition

section Equations
variable {offset : Nat} {c : Char} {s : Text}

theorem lexFrom_nil : lexFrom offset [] = .ok [] := by rw [lexFrom]

theorem lexFrom_blank (h : isBlank c = true) :
    lexFrom offset (c :: s) = lexFrom (offset + c.utf8Size) s := by
  rw [lexFrom, if_pos h]

theorem lexFrom_token (h : isBlank c = false) :
    lexFrom offset (c :: s) =
      (readToken offset c s).bind fun r =>
        (lexFrom (offset + Text.width r.source) r.rest).map (⟨r.value, r.source, offset⟩ :: ·) := by
  rw [lexFrom, if_neg (by rw [h]; decide)]
  split
  · next e he => rw [he]; rfl
  · next r hr => simp only [hr, bind_ok]

end Equations

/-- The lexer reads these lexemes between the first byte and text and the second ones. -/
inductive Scan : Nat → Text → List Lexeme → Nat → Text → Prop
  | done {offset : Nat} {s : Text} : Scan offset s [] offset s
  | blank {offset offset' : Nat} {c : Char} {s s' : Text} {ls : List Lexeme} : isBlank c = true →
    Scan (offset + c.utf8Size) s ls offset' s' → Scan offset (c :: s) ls offset' s'
  | token {offset offset' : Nat} {c : Char} {s s' : Text} {r : Reading Token} {ls : List Lexeme} :
    isBlank c = false → readToken offset c s = .ok r →
    Scan (offset + Text.width r.source) r.rest ls offset' s' →
    Scan offset (c :: s) (⟨r.value, r.source, offset⟩ :: ls) offset' s'

/-- The lexer comes to the token at the byte `stop` and finds this error in it. -/
def Stops (offset : Nat) (s : Text) (stop : Nat) (e : Error) : Prop :=
  ∃ ls c t, Scan offset s ls stop (c :: t) ∧ isBlank c = false ∧ readToken stop c t = .error e

namespace Scan
variable {offset offset' offset'' : Nat} {s s' s'' : Text} {ls ls' : List Lexeme}

theorem append (h : Scan offset s ls offset' s') (h' : Scan offset' s' ls' offset'' s'') :
    Scan offset s (ls ++ ls') offset'' s'' := by
  induction h with
  | done => exact h'
  | blank hc _ ih => exact .blank hc (ih h')
  | token hc hr _ ih => exact .token hc hr (ih h')

theorem lexFrom_eq (h : Scan offset s ls offset' s') :
    lexFrom offset s = (lexFrom offset' s').map (ls ++ ·) := by
  induction h with
  | @done offset s => cases lexFrom offset s <;> rfl
  | blank hc _ ih => rw [lexFrom_blank hc, ih]
  | @token offset offset' c s s' r ls hc hr _ ih =>
    rw [lexFrom_token hc, hr, bind_ok, ih]
    cases lexFrom offset' s' <;> rfl

theorem stops {stop : Nat} {e : Error} (h : Scan offset s ls offset' s')
    (hs : Stops offset' s' stop e) : Stops offset s stop e := by
  obtain ⟨ls', c, t, h', hc, he⟩ := hs
  exact ⟨ls ++ ls', c, t, h.append h', hc, he⟩

/-- A run takes a part of the text and is as many bytes further. -/
theorem source (h : Scan offset s ls offset' s') :
    ∃ part, s = part ++ s' ∧ offset' = offset + Text.width part := by
  induction h with
  | done => exact ⟨[], rfl, rfl⟩
  | @blank offset offset' c s s' ls _ _ ih =>
    obtain ⟨part, rfl, rfl⟩ := ih
    exact ⟨c :: part, rfl, by rw [Text.width_cons]; omega⟩
  | @token offset offset' c s s' r ls _ hr _ ih =>
    obtain ⟨part, hpart, rfl⟩ := ih
    have hsplit := (splits_of_readToken hr).1
    refine ⟨r.source ++ part, ?_, by rw [Text.width_append]; omega⟩
    rw [hsplit, hpart, List.append_assoc]

/-- A run comes to each of its lexemes. -/
theorem of_mem (h : Scan offset s ls offset' s') {l : Lexeme} (hl : l ∈ ls) :
    ∃ before c t rest, Scan offset s before l.offset (c :: t) ∧ isBlank c = false ∧
      readToken l.offset c t = .ok ⟨l.token, l.source, rest⟩ := by
  induction h with
  | done => cases hl
  | blank hc _ ih =>
    obtain ⟨before, d, t, rest, hscan, hd, hread⟩ := ih hl
    exact ⟨before, d, t, rest, .blank hc hscan, hd, hread⟩
  | @token offset offset' c s s' r ls hc hr _ ih =>
    obtain rfl | hl := List.mem_cons.mp hl
    · exact ⟨[], c, s, r.rest, .done, hc, hr⟩
    · obtain ⟨before, d, t, rest, hscan, hd, hread⟩ := ih hl
      exact ⟨_, d, t, rest, .token hc hr hscan, hd, hread⟩

end Scan

theorem Stops.lexFrom_eq {offset stop : Nat} {s : Text} {e : Error} (h : Stops offset s stop e) :
    lexFrom offset s = .error e := by
  obtain ⟨ls, c, t, h, hc, he⟩ := h
  rw [h.lexFrom_eq, lexFrom_token hc, he]
  rfl

/-- Lexing ends at the end of the text or at an error. -/
theorem scan_or_stops (offset : Nat) (s : Text) :
    (∃ ls, lexFrom offset s = .ok ls ∧ Scan offset s ls (offset + Text.width s) []) ∨
    (∃ e stop, lexFrom offset s = .error e ∧ Stops offset s stop e) := by
  induction hn : s.length using Nat.strongRecOn generalizing offset s with
  | _ n ih =>
    cases s with
    | nil => exact .inl ⟨[], lexFrom_nil, .done⟩
    | cons c s =>
      cases hc : isBlank c with
      | true =>
        have hlt : s.length < n := by rw [← hn, List.length_cons]; omega
        rw [lexFrom_blank hc, Text.width_cons, ← Nat.add_assoc]
        obtain ⟨ls, hls, h⟩ | ⟨e, stop, he, h⟩ := ih s.length hlt (offset + c.utf8Size) s rfl
        · exact .inl ⟨ls, hls, .blank hc h⟩
        · exact .inr ⟨e, stop, he, (Scan.blank hc .done).stops h⟩
      | false =>
        rw [lexFrom_token hc]
        cases hr : readToken offset c s with
        | error e => exact .inr ⟨e, offset, rfl, [], c, s, .done, hc, hr⟩
        | ok r =>
          have hlt : r.rest.length < n := hn ▸ length_lt_of_readToken hr
          have hwidth : offset + Text.width (c :: s) =
              offset + Text.width r.source + Text.width r.rest := by
            rw [(splits_of_readToken hr).1, Text.width_append, Nat.add_assoc]
          rw [bind_ok, hwidth]
          obtain ⟨ls, hls, h⟩ | ⟨e, stop, he, h⟩ :=
            ih r.rest.length hlt (offset + Text.width r.source) r.rest rfl
          · exact .inl ⟨_, by rw [hls, map_ok], .token hc hr h⟩
          · exact .inr ⟨e, stop, by rw [he, map_error], (Scan.token hc hr .done).stops h⟩

theorem lexFrom_eq_ok_iff {offset : Nat} {s : Text} {ls : List Lexeme} :
    lexFrom offset s = .ok ls ↔ Scan offset s ls (offset + Text.width s) [] := by
  constructor
  · intro h
    obtain ⟨ls', hls, hscan⟩ | ⟨e, stop, he, -⟩ := scan_or_stops offset s
    · cases hls.symm.trans h
      exact hscan
    · cases he.symm.trans h
  · intro h
    rw [h.lexFrom_eq, lexFrom_nil, map_ok, List.append_nil]

theorem lexFrom_eq_error_iff {offset : Nat} {s : Text} {e : Error} :
    lexFrom offset s = .error e ↔ ∃ stop, Stops offset s stop e := by
  constructor
  · intro h
    obtain ⟨ls, hls, -⟩ | ⟨e', stop, he, hstop⟩ := scan_or_stops offset s
    · cases hls.symm.trans h
    · cases he.symm.trans h
      exact ⟨stop, hstop⟩
  · rintro ⟨stop, h⟩
    exact h.lexFrom_eq

/-- In code without quotes the lexer is not disturbed by what comes after, if that is fresh. -/
theorem scan_append {t : Text} (ht : Fresh t) (offset : Nat) (s : Text) (hq : Rule.Quoteless s) :
    (∀ ls, lexFrom offset s = .ok ls → Scan offset (s ++ t) ls (offset + Text.width s) t) ∧
    (∀ e, lexFrom offset s = .error e →
      ∃ stop, stop < offset + Text.width s ∧ Stops offset (s ++ t) stop e) := by
  induction hn : s.length using Nat.strongRecOn generalizing offset s with
  | _ n ih =>
    cases s with
    | nil =>
      rw [lexFrom_nil]
      exact ⟨fun ls h => (by cases h; exact .done), fun e h => (by cases h)⟩
    | cons c s =>
      have hpos := c.utf8Size_pos
      rw [Text.width_cons, ← Nat.add_assoc]
      cases hc : isBlank c with
      | true =>
        have hlt : s.length < n := by rw [← hn, List.length_cons]; omega
        have hqs : Rule.Quoteless s := fun d hd => hq d (List.mem_cons_of_mem _ hd)
        obtain ⟨hok, herror⟩ := ih s.length hlt (offset + c.utf8Size) s hqs rfl
        rw [lexFrom_blank hc]
        refine ⟨fun ls h => .blank hc (hok ls h), fun e h => ?_⟩
        obtain ⟨stop, hstoplt, hstop⟩ := herror e h
        exact ⟨stop, hstoplt, (Scan.blank hc .done).stops hstop⟩
      | false =>
        have hcq := Rule.isQuote_eq_false_iff.mp (hq c List.mem_cons_self)
        have happ := readToken_append ht hcq offset s
        rw [lexFrom_token hc]
        cases hr : readToken offset c s with
        | error e =>
          refine ⟨fun ls h => (by cases h), fun e' h => ?_⟩
          cases h
          exact ⟨offset, by omega, [], c, s ++ t, .done, hc, by rw [happ, hr]; rfl⟩
        | ok r =>
          have hlt : r.rest.length < n := hn ▸ length_lt_of_readToken hr
          have hsplit := (splits_of_readToken hr).1
          have hwidth : offset + c.utf8Size + Text.width s =
              offset + Text.width r.source + Text.width r.rest := by
            have := congrArg Text.width hsplit
            rw [Text.width_cons, Text.width_append] at this
            omega
          have hqr : Rule.Quoteless r.rest := fun d hd =>
            hq d (by rw [hsplit]; exact List.mem_append_right _ hd)
          have hstep : readToken offset c (s ++ t) = .ok { r with rest := r.rest ++ t } := by
            rw [happ, hr]; rfl
          obtain ⟨hok, herror⟩ := ih r.rest.length hlt (offset + Text.width r.source) r.rest hqr rfl
          have hone : Scan offset (c :: s ++ t) [⟨r.value, r.source, offset⟩]
              (offset + Text.width r.source) (r.rest ++ t) :=
            .token (r := { r with rest := r.rest ++ t }) hc hstep .done
          rw [bind_ok, hwidth]
          refine ⟨fun ls h => ?_, fun e h => ?_⟩
          · obtain ⟨more, hmore, rfl⟩ := map_eq_ok.mp h
            exact hone.append (hok more hmore)
          · obtain ⟨stop, hstoplt, hstop⟩ := herror e (map_eq_error.mp h)
            exact ⟨stop, hstoplt, hone.stops hstop⟩

end TurnRouter.Condition
