import TurnRouter.Proofs.Condition.Answer
import TurnRouter.Proofs.Condition.Grammar

/-! # The parser follows the grammar

Each combinator of the parser turns a parser of one level of the grammar into a parser of the
next. So the parser takes the phrases with at most `limit` negations and parentheses around a
lexeme, and says of the deeper ones that they are too deep.
-/
namespace TurnRouter.Condition

def kinds (ts : List Lexeme) : List Token := ts.map Lexeme.token

@[simp] theorem kinds_cons (t : Lexeme) (ts : List Lexeme) : kinds (t :: ts) = t.token :: kinds ts := rfl
theorem kinds_append (ts us : List Lexeme) : kinds (ts ++ us) = kinds ts ++ kinds us := List.map_append
theorem kinds_eq_append {ts : List Lexeme} {as bs : List Token} (h : kinds ts = as ++ bs) :
    ∃ us vs, ts = us ++ vs ∧ kinds us = as ∧ kinds vs = bs := List.map_eq_append_iff.mp h
theorem kinds_eq_cons {ts : List Lexeme} {a : Token} {as : List Token} (h : kinds ts = a :: as) :
    ∃ t us, ts = t :: us ∧ t.token = a ∧ kinds us = as := List.map_eq_cons_iff.mp h

theorem token_of_comparison? {t : Token} {op : Comparison} (h : t.comparison? = some op) :
    t = .compare op := by
  unfold Token.comparison? at h
  split at h
  · cases h; rfl
  · cases h

namespace Parser

/-- What a parser takes is a phrase of the level, nested no deeper than `room`. -/
def Sound (parser : Parser) (l : Level) (room : Nat) : Prop :=
  ∀ ts e rest, parser.answer ts = .ok (e, rest) →
    ∃ p : Phrase l, kinds ts = p.tokens ++ kinds rest ∧ p.tree = e ∧ p.nesting ≤ room

section Soundness
variable {parser : Parser} {room : Nat}

theorem Sound.further {c : Connective} (hp : parser.Sound c.operandLevel room)
    (ts : List Lexeme) {es : List Expr} {rest : List Lexeme}
    (h : further c parser ts = .ok (es, rest)) :
    ∃ m : Tail c, kinds ts = m.tokens ++ kinds rest ∧ m.trees = es ∧ m.nesting ≤ room := by
  induction ts using further_induction c parser generalizing es with
  | nil =>
    rw [further_nil] at h
    cases h
    exact ⟨.nil, rfl, rfl, Nat.zero_le _⟩
  | other t ts ht =>
    rw [further_of_ne ht] at h
    cases h
    exact ⟨.nil, rfl, rfl, Nat.zero_le _⟩
  | more t ts ht ih =>
    rw [further_of_eq ht] at h
    obtain ⟨x, hfirst, h⟩ := bind_eq_ok.mp h
    obtain ⟨y, hmore, hy⟩ := map_eq_ok.mp h
    cases hy
    obtain ⟨p, hp', htree, hdeep⟩ := hp _ _ _ hfirst
    obtain ⟨m, hm, htrees, hdeeper⟩ := ih x.1 x.2 hfirst hmore
    refine ⟨.cons p m, ?_, ?_, Nat.max_le.mpr ⟨hdeep, hdeeper⟩⟩
    · rw [kinds_cons, ht, hp', hm]
      simp [Tail.tokens]
    · rw [Tail.trees, htree, htrees]

theorem Sound.chain {c : Connective} (hp : parser.Sound c.operandLevel room) :
    Sound (Condition.chain c parser) (.chain c) room := by
  intro ts e rest h
  rw [answer_chain] at h
  obtain ⟨x, hfirst, h⟩ := bind_eq_ok.mp h
  obtain ⟨y, hmore, hy⟩ := map_eq_ok.mp h
  cases hy
  obtain ⟨p, hp', htree, hdeep⟩ := hp _ _ _ hfirst
  obtain ⟨m, hm, htrees, hdeeper⟩ := hp.further x.2 hmore
  refine ⟨.chain c p m, ?_, ?_, Nat.max_le.mpr ⟨hdeep, hdeeper⟩⟩
  · rw [hp', hm]
    simp [Phrase.tokens]
  · rw [Phrase.tree_chain, htree, htrees]

theorem Sound.comparison (hp : parser.Sound .unary room) :
    Sound (Condition.comparison parser) .comparison room := by
  intro ts e rest h
  rw [answer_comparison] at h
  obtain ⟨⟨left, us⟩, hleft, h⟩ := bind_eq_ok.mp h
  obtain ⟨p, hp', htree, hdeep⟩ := hp _ _ _ hleft
  dsimp only at h
  unfold comparisonAnswer at h
  split at h
  · cases h
    exact ⟨.single p, hp', htree, hdeep⟩
  · split at h
    · cases h
      exact ⟨.single p, hp', htree, hdeep⟩
    · next op hop =>
      obtain ⟨y, hright, hy⟩ := map_eq_ok.mp h
      cases hy
      obtain ⟨q, hq, htree', hdeep'⟩ := hp _ _ _ hright
      refine ⟨.compare op p q, ?_, ?_, Nat.max_le.mpr ⟨hdeep, hdeep'⟩⟩
      · rw [hp', kinds_cons, token_of_comparison? hop, hq]
        simp [Phrase.tokens]
      · rw [Phrase.tree, htree, htree']

theorem Sound.disjunction (hp : parser.Sound .unary room) :
    Sound (Condition.disjunction parser) (.chain .or) room :=
  Sound.chain (c := .or) (Sound.chain (c := .and) hp.comparison)

end Soundness

theorem operand_sound (limit room : Nat) : Sound (operand limit room) .unary room := by
  induction room using Nat.strongRecOn with
  | ind room ih =>
    intro ts e rest h
    obtain ⟨t, v, rfl, ht, rfl⟩ | ⟨t, us, less, e', rfl, ht, rfl, hs, rfl⟩ |
      ⟨t, us, less, u, rfl, ht, rfl, hs, hu⟩ := answer_operand_eq_ok h
    · exact ⟨.plain (.value v), by rw [kinds_cons, ht]; rfl, rfl, Nat.zero_le _⟩
    · obtain ⟨p, hp, htree, hdeep⟩ := ih less (Nat.lt_succ_self less) _ _ _ hs
      refine ⟨.not p, ?_, ?_, Nat.succ_le_succ hdeep⟩
      · rw [kinds_cons, ht, hp]; rfl
      · rw [Phrase.tree, htree]
    · obtain ⟨p, hp, htree, hdeep⟩ := (ih less (Nat.lt_succ_self less)).disjunction _ _ _ hs
      refine ⟨.plain (.group p), ?_, htree, Nat.succ_le_succ hdeep⟩
      rw [kinds_cons, ht, hp, kinds_cons, hu]
      simp [Phrase.tokens]

/-- The answer for a phrase with this nesting, which there is room for or not. -/
def within {α : Type} (limit room nesting : Nat) (answer : α) : Except Error α :=
  if nesting ≤ room then .ok answer else .error (.tooDeep limit)

section Within
variable {α β : Type} {limit room n m : Nat} {a : α} {b : β}

theorem within_of_le (h : n ≤ room) : within limit room n a = .ok a := if_pos h
theorem within_of_lt (h : room < n) : within limit room n a = .error (.tooDeep limit) :=
  if_neg (Nat.not_le.mpr h)
theorem within_succ : within limit (room + 1) (n + 1) a = within limit room n a := by
  simp only [within, Nat.add_le_add_iff_right]

theorem map_within (f : α → β) : (within limit room n a).map f = within limit room n (f a) := by
  unfold within
  split <;> rfl

theorem bind_within {f : α → Except Error β} (h : f a = within limit room m b) :
    (within limit room n a).bind f = within limit room (max n m) b := by
  by_cases hn : n ≤ room
  · rw [within_of_le hn, bind_ok, h]
    simp only [within, Nat.max_le, hn, true_and]
  · rw [within_of_lt (Nat.not_le.mp hn), within_of_lt (by omega), bind_error]

theorem bind_within_ok {f : α → Except Error β} (h : f a = .ok b) :
    (within limit room n a).bind f = within limit room n b := by
  have hzero : f a = within limit room 0 b := h.trans (within_of_le (Nat.zero_le room)).symm
  have hb := bind_within (n := n) hzero
  rwa [Nat.max_zero] at hb

end Within

/-- A parser takes every phrase of the level that the text starts with and what follows ends, or
finds it nested too deep. -/
def Complete (parser : Parser) (l : Level) (limit room : Nat) : Prop :=
  ∀ (p : Phrase l) (us rest : List Lexeme), kinds us = p.tokens → l.Ends (kinds rest) →
    parser.answer (us ++ rest) = within limit room p.nesting (p.tree, rest)

section Completeness
variable {parser : Parser} {limit room : Nat}

theorem Complete.further {c : Connective} (hp : parser.Complete c.operandLevel limit room) :
    ∀ (m : Tail c) (us rest : List Lexeme), kinds us = m.tokens → (Level.chain c).Ends (kinds rest) →
      Parser.further c parser (us ++ rest) = within limit room m.nesting (m.trees, rest)
  | .nil, us, rest, hus, hrest => by
    have hnil : us = [] := List.map_eq_nil_iff.mp hus
    subst hnil
    refine Eq.trans ?_ (within_of_le (Nat.zero_le room)).symm
    cases rest with
    | nil => exact further_nil
    | cons t rest =>
      have ht : t.token ≠ .connective c := by
        intro ht
        rw [kinds_cons, ht] at hrest
        exact Level.not_ends_connective _ _ hrest
      exact further_of_ne ht
  | .cons p more, us, rest, hus, hrest => by
    obtain ⟨t, us, rfl, ht, hus⟩ := kinds_eq_cons hus
    obtain ⟨vs, ws, rfl, hvs, hws⟩ := kinds_eq_append hus
    have hend : c.operandLevel.Ends (kinds (ws ++ rest)) := by
      rw [kinds_append, hws]
      exact hrest.operand more
    rw [List.cons_append, further_of_eq ht, List.append_assoc, hp p vs (ws ++ rest) hvs hend]
    exact bind_within ((congrArg _ (Complete.further hp more ws rest hws hrest)).trans (map_within _))

theorem Complete.chain {c : Connective} (hp : parser.Complete c.operandLevel limit room) :
    Complete (Condition.chain c parser) (.chain c) limit room := by
  intro p us rest hus hrest
  cases p with
  | chain _ first more =>
    obtain ⟨vs, ws, rfl, hvs, hws⟩ := kinds_eq_append hus
    have hend : c.operandLevel.Ends (kinds (ws ++ rest)) := by
      rw [kinds_append, hws]
      exact hrest.operand more
    rw [answer_chain, List.append_assoc, hp first vs (ws ++ rest) hvs hend, Phrase.tree_chain]
    exact bind_within ((congrArg _ (hp.further more ws rest hws hrest)).trans (map_within _))

theorem Complete.comparison (hp : parser.Complete .unary limit room) :
    Complete (Condition.comparison parser) .comparison limit room := by
  intro p us rest hus hrest
  rw [answer_comparison]
  cases p with
  | single p =>
    have hstop : comparisonAnswer parser p.tree rest = .ok (p.tree, rest) := by
      unfold comparisonAnswer
      split
      · rfl
      · split
        · rfl
        · next op hop =>
          rw [kinds_cons, token_of_comparison? hop] at hrest
          exact absurd hrest (Level.not_ends_compare _ _)
    rw [hp p us rest hus (Level.ends_unary _)]
    exact bind_within_ok hstop
  | compare op p q =>
    obtain ⟨vs, ws, rfl, hvs, hws⟩ := kinds_eq_append hus
    obtain ⟨t, ws, rfl, ht, hws⟩ := kinds_eq_cons hws
    have hright : comparisonAnswer parser p.tree (t :: (ws ++ rest)) =
        within limit room q.nesting (.compare op p.tree q.tree, rest) := by
      simp only [comparisonAnswer, ht, Token.comparison?]
      rw [hp q ws rest hws (Level.ends_unary _), map_within]
    rw [List.append_assoc, List.cons_append, hp p vs _ hvs (Level.ends_unary _)]
    exact bind_within hright

theorem Complete.disjunction (hp : parser.Complete .unary limit room) :
    Complete (Condition.disjunction parser) (.chain .or) limit room :=
  Complete.chain (c := .or) (Complete.chain (c := .and) hp.comparison)

end Completeness

theorem operand_complete (limit room : Nat) : Complete (operand limit room) .unary limit room := by
  induction room using Nat.strongRecOn with
  | ind room ih =>
    intro p us rest hus hrest
    cases p with
    | not p =>
      obtain ⟨t, us, rfl, ht, hus⟩ := kinds_eq_cons hus
      rw [List.cons_append, answer_operand_cons, ht]
      cases room with
      | zero => exact (within_of_lt (Nat.succ_pos _)).symm
      | succ room =>
        rw [Phrase.nesting, within_succ]
        exact (congrArg _ (ih room (Nat.lt_succ_self room) p us rest hus (Level.ends_unary _))).trans
          (map_within _)
    | plain p =>
      cases p with
      | value v =>
        obtain ⟨t, us, rfl, ht, hus⟩ := kinds_eq_cons hus
        rw [List.map_eq_nil_iff.mp hus, List.cons_append, answer_operand_cons, ht]
        exact (within_of_le (Nat.zero_le room)).symm
      | group p =>
        obtain ⟨t, us, rfl, ht, hus⟩ := kinds_eq_cons hus
        rw [List.cons_append, answer_operand_cons, ht]
        cases room with
        | zero => exact (within_of_lt (Nat.succ_pos _)).symm
        | succ room =>
          obtain ⟨vs, ws, rfl, hvs, hws⟩ := kinds_eq_append hus
          obtain ⟨u, ws, rfl, hu, hws⟩ := kinds_eq_cons hws
          have hend : (Level.chain .or).Ends (kinds (u :: rest)) := by
            rw [kinds_cons, hu]
            exact Level.ends_closing _ _
          have hinner := (ih room (Nat.lt_succ_self room)).disjunction p vs (u :: rest) hvs hend
          have hclose : closeAnswer p.tree (u :: rest) = .ok (p.tree, rest) := if_pos hu
          rw [List.map_eq_nil_iff.mp hws, List.append_assoc, List.singleton_append]
          dsimp only
          rw [hinner, Phrase.nesting, Phrase.nesting, within_succ]
          exact bind_within_ok hclose

/-- The parser takes exactly the phrases of the grammar that are not nested too deep, each with its
one derivation, and gives their trees; of those nested deeper it says so. -/
theorem parses_exactly_grammar (limit : Nat) (ts : List Lexeme) :
    (∀ e, parseLexemes limit ts = .ok e ↔
      ∃ p : Phrase (.chain .or), p.tokens = kinds ts ∧ p.nesting ≤ limit ∧ p.tree = e) ∧
    (∀ p p' : Phrase (.chain .or), p.tokens = kinds ts → p'.tokens = kinds ts → p = p') ∧
    (∀ p : Phrase (.chain .or), p.tokens = kinds ts → limit < p.nesting →
      parseLexemes limit ts = .error (.tooDeep limit)) := by
  have hcomplete : ∀ p : Phrase (.chain .or), p.tokens = kinds ts →
      parseLexemes limit ts = (within limit limit p.nesting p.tree) := by
    intro p hp
    have h := (operand_complete limit limit).disjunction p ts [] hp.symm (Level.ends_nil _)
    rw [List.append_nil] at h
    rw [parseLexemes_eq, h]
    unfold within
    split <;> rfl
  refine ⟨fun e => ⟨fun h => ?_, ?_⟩, fun p p' hp hp' => ?_, fun p hp hdeep => ?_⟩
  · rw [parseLexemes_eq] at h
    obtain ⟨⟨e', rest⟩, hanswer, h⟩ := bind_eq_ok.mp h
    cases rest with
    | cons t rest => cases h
    | nil =>
      cases h
      obtain ⟨p, hp, htree, hdeep⟩ := (operand_sound limit limit).disjunction _ _ _ hanswer
      exact ⟨p, by rw [hp]; simp [kinds], hdeep, htree⟩
  · rintro ⟨p, hp, hdeep, rfl⟩
    rw [hcomplete p hp, within_of_le hdeep]
  · have h : p.tokens ++ [] = p'.tokens ++ [] := by rw [hp, hp']
    exact (Phrase.eq_of_tokens (Level.ends_nil _) (Level.ends_nil _) p p' h).1
  · rw [hcomplete p hp, within_of_lt hdeep]

/-- A negation needs room for itself. -/
theorem parses_exactly_grammar_not :
    parseLexemes 1 [⟨.not, ['!'], 0⟩, ⟨.value .null, "null".toList, 1⟩] =
      .ok (.not (.literal .null)) ∧
    parseLexemes 0 [⟨.not, ['!'], 0⟩, ⟨.value .null, "null".toList, 1⟩] = .error (.tooDeep 0) := by
  let p : Phrase (.chain .or) :=
    .chain .or (.chain .and (.single (.not (.plain (.value .null)))) .nil) .nil
  constructor
  · exact ((parses_exactly_grammar 1 _).1 _).mpr ⟨p, rfl, by decide, rfl⟩
  · exact (parses_exactly_grammar 0 _).2.2 p rfl (by decide)

end Parser
end TurnRouter.Condition
