import TurnRouter.Proofs.Condition.Derivation
import TurnRouter.Proofs.Condition.Walk

/-! # Counting positions and depths

The calls that count come to what the parser answers that is given the remaining lexemes and the
remaining room: a call that succeeds leaves the depth as it found it, and the count goes beyond the
limit only where the call ends for that.
-/
namespace TurnRouter.Condition

/-- An operand that is no negation. -/
def primary (limit room : Nat) : Parser := fun ts =>
  match ts with
  | [] => .error .unexpectedEnd
  | t :: us =>
    if t.token = .not then .error (.unexpectedToken t.token t.offset)
    else operand limit room (t :: us)

/-- The parser of a level, where this much room is left. -/
def Level.parser (limit room : Nat) : Level → Parser
  | primary => Condition.primary limit room
  | unary => operand limit room
  | comparison => Condition.comparison (operand limit room)
  | chain .and => Condition.chain .and (Condition.comparison (operand limit room))
  | chain .or => disjunction (operand limit room)

/-- How many levels are tighter. -/
def Level.below : Level → Nat
  | primary => 0
  | unary => 1
  | comparison => 2
  | chain .and => 3
  | chain .or => 4

theorem Level.below_le (l : Level) : l.below ≤ 4 := by
  cases l with
  | chain c => cases c <;> decide
  | _ => decide

theorem Connective.below_operandLevel (c : Connective) :
    c.operandLevel.below < (Level.chain c).below := by
  cases c <;> decide

namespace Parser
variable {limit room : Nat} {t : Lexeme} {us : List Lexeme}

theorem answer_primary_nil : (primary limit room).answer [] = .error .unexpectedEnd := rfl

theorem answer_primary_of_not (ht : t.token = .not) :
    (primary limit room).answer (t :: us) = .error (.unexpectedToken t.token t.offset) := by
  rw [answer, primary, if_pos ht]
  rfl

theorem answer_primary_of_ne (ht : t.token ≠ .not) :
    (primary limit room).answer (t :: us) = (operand limit room).answer (t :: us) := by
  rw [answer, primary, if_neg ht]
  rfl

theorem parser_chain (c : Connective) : (Level.chain c).parser limit room =
    Condition.chain c (c.operandLevel.parser limit room) := by
  cases c <;> rfl

theorem primary_sound (limit room : Nat) : Sound (primary limit room) .primary room := by
  intro ts e rest h
  cases ts with
  | nil => cases h
  | cons t us =>
    by_cases ht : t.token = .not
    · rw [answer_primary_of_not ht] at h
      cases h
    · rw [answer_primary_of_ne ht] at h
      obtain ⟨p, hp, htree, hdeep⟩ := operand_sound limit room _ _ _ h
      cases p with
      | plain p => exact ⟨p, hp, htree, hdeep⟩
      | not p => exact absurd (List.cons_eq_cons.mp hp).1 ht

theorem parser_sound (limit room : Nat) (l : Level) : Sound (l.parser limit room) l room := by
  have hcomparison := (operand_sound limit room).comparison
  cases l with
  | primary => exact primary_sound limit room
  | unary => exact operand_sound limit room
  | comparison => exact hcomparison
  | chain c =>
    cases c with
    | and => exact Sound.chain (c := .and) hcomparison
    | or => exact (operand_sound limit room).disjunction

end Parser

namespace Counters

/-- From these counters to those the depth was set to nothing above the limit. -/
def Within (limit : Nat) (s t : Counters) : Prop :=
  ∃ depths, t.depths = depths ++ s.depths ∧ ∀ d ∈ depths, d ≤ limit

namespace Within
variable {limit : Nat} {s t u : Counters}

theorem of_eq (h : t.depths = s.depths) : Within limit s t := ⟨[], h, nofun⟩

theorem trans (h : Within limit s t) (h' : Within limit t u) : Within limit s u := by
  obtain ⟨ds, hds, hle⟩ := h
  obtain ⟨ds', hds', hle'⟩ := h'
  refine ⟨ds' ++ ds, by rw [hds', hds, List.append_assoc], fun d hd => ?_⟩
  exact (List.mem_append.mp hd).elim (hle' d) (hle d)

theorem setDepth {d : Nat} (hd : d ≤ limit) (s : Counters) : Within limit s (s.setDepth d) :=
  ⟨[d], rfl, fun _ hmem => List.mem_singleton.mp hmem ▸ hd⟩

end Within

/-- The position did not move beyond the lexemes; the depth is the same again. -/
structure Passes (limit : Nat) (ts : List Lexeme) (s t : Counters) : Prop where
  inside : s.position ≤ ts.length → t.position ≤ ts.length
  depth : t.depth = s.depth
  within : Within limit s t

namespace Passes
variable {limit : Nat} {ts us : List Lexeme} {s t u : Counters}

theorem refl (s : Counters) : Passes limit ts s s := ⟨id, rfl, .of_eq rfl⟩

theorem trans (h : Passes limit ts s t) (h' : Passes limit ts t u) : Passes limit ts s u :=
  ⟨fun hs => h'.inside (h.inside hs), h'.depth.trans h.depth, h.within.trans h'.within⟩

theorem advance {l : Lexeme} (h : ts.drop s.position = l :: us) :
    Passes limit ts s s.advance :=
  ⟨fun _ => (Walk.drop_eq_cons h).2.2, rfl, .of_eq rfl⟩

end Passes
end Counters

namespace Walk
open TurnRouter.Condition.Parser Counters

/-- A run that counts comes to the given answer, from these counters. -/
inductive Tracks (limit : Nat) (ts : List Lexeme) (s : Counters) {α : Type} :
    Answer α → Option (Except Error α × Counters) → Prop
  | ok {a : α} {t : Counters} : s.Passes limit ts t →
    Tracks limit ts s (.ok (a, ts.drop t.position)) (some (.ok a, t))
  | error {e : Error} {t : Counters} : (∀ k, e ≠ .tooDeep k) → s.Within limit t →
    Tracks limit ts s (.error e) (some (.error e, t))
  | tooDeep {t u : Counters} : s.Within limit t → u.depth = limit + 1 →
    u.depths = (limit + 1) :: t.depths →
    Tracks limit ts s (.error (.tooDeep limit)) (some (.error (.tooDeep limit), u))

namespace Tracks
variable {limit : Nat} {ts us : List Lexeme} {s t : Counters} {α β : Type} {x : Answer α}

theorem pure (a : α) (h : ts.drop s.position = us) :
    Tracks limit ts s (.ok (a, us)) ((Pure.pure a : Walk α).result s) :=
  h ▸ .ok (.refl s)

theorem unexpectedEnd :
    Tracks limit ts s (.error .unexpectedEnd : Answer α) (some (.error .unexpectedEnd, s)) :=
  .error (fun _ h => by cases h) (.of_eq rfl)

theorem unexpectedToken (found : Token) (offset : Nat) :
    Tracks limit ts s (.error (.unexpectedToken found offset))
      ((MonadExcept.throw (Error.unexpectedToken found offset) : Walk α).result s) :=
  .error (fun _ h => by cases h) (.of_eq rfl)

theorem after {r : Option (Except Error α × Counters)} (hs : s.Passes limit ts t)
    (h : Tracks limit ts t x r) : Tracks limit ts s x r := by
  cases h with
  | ok hpass => exact .ok (hs.trans hpass)
  | error he hwithin => exact .error he (hs.within.trans hwithin)
  | tooDeep hwithin hdepth hdepths => exact .tooDeep (hs.within.trans hwithin) hdepth hdepths

theorem bind {m : Walk α} {k : α → Walk β} {f : α × List Lexeme → Answer β}
    (h : Tracks limit ts s x (m.result s))
    (hk : ∀ a t, s.Passes limit ts t → x = .ok (a, ts.drop t.position) →
      Tracks limit ts t (f (a, ts.drop t.position)) ((k a).result t)) :
    Tracks limit ts s (x.bind f) ((m >>= k).result s) := by
  generalize hr : m.result s = r at h
  cases h with
  | ok hpass =>
    rw [result_bind_ok hr]
    exact (hk _ _ hpass rfl).after hpass
  | error he hwithin =>
    rw [result_bind_error hr]
    exact .error he hwithin
  | tooDeep hwithin hdepth hdepths =>
    rw [result_bind_error hr]
    exact .tooDeep hwithin hdepth hdepths

theorem map {m : Walk α} (h : Tracks limit ts s x (m.result s)) (g : α → β) :
    Tracks limit ts s (x.map fun y => (g y.1, y.2)) ((m >>= fun a => Pure.pure (g a)).result s) := by
  rw [map_eq_bind]
  exact h.bind fun a _ _ _ => .pure (g a) rfl

/-- Around a phrase that is nested the depth goes up and down again. -/
theorem nested {m : Walk α} {k : α → Walk β} {f : α × List Lexeme → Answer β}
    (hlt : s.depth < limit)
    (h : Tracks limit ts (s.setDepth (s.depth + 1)) x (m.result (s.setDepth (s.depth + 1))))
    (hk : ∀ a t, s.Passes limit ts t →
      Tracks limit ts t (f (a, ts.drop t.position)) ((k a).result t)) :
    Tracks limit ts s (x.bind f)
      ((do enter limit; let a ← m; leave; k a : Walk β).result s) := by
  have hinner : s.Within limit (s.setDepth (s.depth + 1)) := .setDepth hlt s
  rw [result_bind_ok (result_enter_of_lt hlt)]
  generalize hr : m.result (s.setDepth (s.depth + 1)) = r at h
  cases h with
  | @ok a t hpass =>
    have hdepth : t.depth - 1 = s.depth := by rw [hpass.depth]; rfl
    have houter : t.Within limit (t.setDepth (t.depth - 1)) := .setDepth (by omega) t
    have hpasses : s.Passes limit ts (t.setDepth (t.depth - 1)) :=
      ⟨hpass.inside, hdepth, (hinner.trans hpass.within).trans houter⟩
    rw [result_bind_ok hr, result_bind_ok result_leave]
    exact (hk a _ hpasses).after hpasses
  | error he hwithin =>
    rw [result_bind_error hr]
    exact .error he (hinner.trans hwithin)
  | tooDeep hwithin hdepth hdepths =>
    rw [result_bind_error hr]
    exact .tooDeep (hinner.trans hwithin) hdepth hdepths

theorem no_room {k : Unit → Walk β} (h : s.depth = limit) :
    Tracks limit ts s (.error (.tooDeep limit)) ((enter limit >>= k).result s) := by
  rw [result_bind_error (result_enter_of_eq h)]
  exact .tooDeep (t := s) (.of_eq rfl) (congrArg (· + 1) h) (by rw [← h]; rfl)

end Tracks

section Levels
variable {limit stack : Nat} {ts : List Lexeme}

/-- Where the stack has five calls for each lexeme that remains, the call for a level answers as its
parser: five levels lie on one another, and what is called again has one lexeme less. -/
def Faithful (limit : Nat) (ts : List Lexeme) (stack : Nat) (l : Level) : Prop :=
  ∀ ⦃s : Counters⦄ ⦃us : List Lexeme⦄ ⦃room : Nat⦄, ts.drop s.position = us →
    s.depth + room = limit → 5 * us.length + l.below < stack →
    Tracks limit ts s ((l.parser limit room).answer us) ((call limit ts stack l).result s)

def FaithfulMore (limit : Nat) (ts : List Lexeme) (stack : Nat) (c : Connective) : Prop :=
  ∀ ⦃s : Counters⦄ ⦃us : List Lexeme⦄ ⦃room : Nat⦄, ts.drop s.position = us →
    s.depth + room = limit → 5 * us.length < stack →
    Tracks limit ts s (further c (c.operandLevel.parser limit room) us)
      ((callMore limit ts stack c).result s)

/-- What is nested has less room. -/
theorem room_inside {s : Counters} {less : Nat} (hs : s.depth + (less + 1) = limit) :
    s.depth < limit ∧ (s.setDepth (s.depth + 1)).depth + less = limit := by
  have hdepth : (s.setDepth (s.depth + 1)).depth = s.depth + 1 := rfl
  rw [hdepth]
  omega

theorem tracks_close (e : Expr) (s : Counters) :
    Tracks limit ts s (closeAnswer e (ts.drop s.position))
      ((do let u ← next ts
           if u.token = .closing then return e
           else throw (.unexpectedToken u.token u.offset) : Walk Expr).result s) := by
  cases hdrop : ts.drop s.position with
  | nil =>
    rw [result_bind_error (result_next_nil hdrop)]
    exact .unexpectedEnd
  | cons u us =>
    rw [result_bind_ok (result_next_cons hdrop), closeAnswer]
    refine .after (.advance hdrop) ?_
    split
    · exact .pure e (drop_advance hdrop)
    · exact .unexpectedToken ..

theorem faithful_primary (h : Faithful limit ts stack (.chain .or)) :
    Faithful limit ts (stack + 1) .primary := by
  intro s us room hdrop hs hstack
  rw [call, Level.parser]
  cases us with
  | nil =>
    rw [answer_primary_nil, result_bind_error (result_next_nil hdrop)]
    exact .unexpectedEnd
  | cons t us =>
    rw [List.length_cons] at hstack
    rw [result_bind_ok (result_next_cons hdrop)]
    refine .after (.advance hdrop) ?_
    by_cases hnot : t.token = .not
    · rw [answer_primary_of_not hnot, hnot]
      exact .unexpectedToken ..
    · rw [answer_primary_of_ne hnot, answer_operand_cons]
      cases ht : t.token with
      | value v => exact .pure (Expr.literal v) (drop_advance hdrop)
      | not => exact absurd ht hnot
      | opening =>
        cases room with
        | zero => exact .no_room hs
        | succ less =>
          obtain ⟨hlt, hinner⟩ := room_inside (s := s.advance) hs
          have hbelow := (Level.chain .or).below_le
          have hgroup := h (s := s.advance.setDepth (s.advance.depth + 1)) (drop_advance hdrop)
            hinner (by omega)
          exact .nested hlt hgroup fun e t _ => tracks_close e t
      | _ => exact .unexpectedToken ..

theorem faithful_unary (h : Faithful limit ts stack .unary)
    (hprimary : Faithful limit ts stack .primary) : Faithful limit ts (stack + 1) .unary := by
  rintro s _ room rfl hs hstack
  obtain ⟨t, us, hdrop, ht, heat⟩ | ⟨hother, heat⟩ := eat_cases ts .not s
  · rw [hdrop, List.length_cons] at hstack
    rw [hdrop, call, Level.parser, result_bind_ok heat, if_pos rfl, answer_operand_cons, ht]
    refine .after (.advance hdrop) ?_
    cases room with
    | zero => exact .no_room hs
    | succ less =>
      obtain ⟨hlt, hinner⟩ := room_inside (s := s.advance) hs
      have hnegated := h (s := s.advance.setDepth (s.advance.depth + 1)) (drop_advance hdrop)
        hinner (by omega)
      dsimp only
      rw [map_eq_bind]
      exact .nested hlt hnegated fun e _ _ => .pure (Expr.not e) rfl
  · have hsame : (Level.unary.parser limit room).answer (ts.drop s.position) =
        (Level.primary.parser limit room).answer (ts.drop s.position) := by
      cases hdrop : ts.drop s.position with
      | nil => exact answer_operand_nil
      | cons t us => exact (answer_primary_of_ne (hother t (by rw [hdrop]; rfl))).symm
    rw [call, result_bind_ok heat, if_neg Bool.false_ne_true, hsame]
    exact hprimary rfl hs (Nat.lt_of_succ_lt_succ hstack)

theorem faithful_comparison (h : Faithful limit ts stack .unary) :
    Faithful limit ts (stack + 1) .comparison := by
  intro s us room hdrop hs hstack
  rw [call, Level.parser, answer_comparison]
  refine (h hdrop hs (Nat.lt_of_succ_lt_succ hstack)).bind fun left t hpass hanswer => ?_
  have ht : t.advance.depth + room = limit := hpass.depth ▸ hs
  have hless := length_lt_of_answer hanswer
  rw [result_bind_ok result_peek, ← List.head?_drop]
  cases hrest : ts.drop t.position with
  | nil => exact .pure left hrest
  | cons u us =>
    rw [List.head?_cons, Option.bind_some, comparisonAnswer]
    cases u.token.comparison? with
    | none => exact .pure left hrest
    | some op =>
      have hadvance : advance.result t = some (.ok (), t.advance) := rfl
      rw [hrest, List.length_cons] at hless
      have hbelow := Level.unary.below_le
      have hright := h (drop_advance hrest) ht (by omega)
      dsimp only
      rw [result_bind_ok hadvance]
      exact .after (.advance hrest) (hright.map (Expr.compare op left))

theorem faithfulMore {c : Connective} (h : Faithful limit ts stack c.operandLevel)
    (hmore : FaithfulMore limit ts stack c) : FaithfulMore limit ts (stack + 1) c := by
  rintro s _ room rfl hs hstack
  obtain ⟨t, us, hdrop, ht, heat⟩ | ⟨hother, heat⟩ := eat_cases ts (.connective c) s
  · have hbelow := c.operandLevel.below_le
    rw [hdrop, List.length_cons] at hstack
    rw [hdrop, further_of_eq ht, callMore, result_bind_ok heat, if_pos rfl]
    refine .after (.advance hdrop) ?_
    refine (h (drop_advance hdrop) hs (by omega)).bind fun e u hpass hanswer => ?_
    have hless := length_lt_of_answer hanswer
    exact (hmore rfl (hpass.depth ▸ hs) (by omega)).map (e :: ·)
  · have hstop : further c (c.operandLevel.parser limit room) (ts.drop s.position) =
        .ok ([], ts.drop s.position) := by
      cases hdrop : ts.drop s.position with
      | nil => exact further_nil
      | cons t us => exact further_of_ne (hother t (by rw [hdrop]; rfl))
    rw [hstop, callMore, result_bind_ok heat, if_neg Bool.false_ne_true]
    exact .pure [] rfl

theorem faithful_chain {c : Connective} (h : Faithful limit ts stack c.operandLevel)
    (hmore : FaithfulMore limit ts stack c) : Faithful limit ts (stack + 1) (.chain c) := by
  intro s us room hdrop hs hstack
  have hbelow := c.below_operandLevel
  rw [call, parser_chain, answer_chain]
  refine (h hdrop hs (by omega)).bind fun first t hpass hanswer => ?_
  have hless := length_lt_of_answer hanswer
  exact (hmore rfl (hpass.depth ▸ hs) (by omega)).map (chainTree c first)

theorem faithful (limit : Nat) (ts : List Lexeme) (stack : Nat) :
    (∀ l, Faithful limit ts stack l) ∧ ∀ c, FaithfulMore limit ts stack c := by
  induction stack with
  | zero => exact ⟨fun _ _ _ _ _ _ h => absurd h (Nat.not_lt_zero _),
      fun _ _ _ _ _ _ h => absurd h (Nat.not_lt_zero _)⟩
  | succ stack ih =>
    obtain ⟨ih, ihMore⟩ := ih
    refine ⟨fun l => ?_, fun c => faithfulMore (ih _) (ihMore c)⟩
    cases l with
    | primary => exact faithful_primary (ih _)
    | unary => exact faithful_unary (ih _) (ih _)
    | comparison => exact faithful_comparison (ih _)
    | chain c => exact faithful_chain (ih _) (ihMore c)

end Levels

/-- What a parser of a level takes between two positions is written as one phrase. -/
theorem exists_phrase_between {parser : Parser} {l : Level} {room n m : Nat} {ts : List Lexeme}
    {e : Expr} (hp : parser.Sound l room)
    (h : parser.answer (ts.drop n) = .ok (e, ts.drop m)) :
    ∃ p : Phrase l, p.tokens = kinds ((ts.take m).drop n) ∧ p.tree = e ∧
      ∀ p' : Phrase l, p'.tokens = p.tokens → p' = p := by
  obtain ⟨p, hp, htree, -⟩ := hp _ _ _ h
  have hle : n ≤ (ts.take m).length := by
    have hlt := length_lt_of_answer h
    simp only [List.length_drop] at hlt
    rw [List.length_take]
    omega
  have hsplit : ts.drop n = (ts.take m).drop n ++ ts.drop m := by
    rw [← List.drop_append_of_le_length hle, List.take_append_drop]
  rw [hsplit, kinds_append] at hp
  refine ⟨p, (List.append_cancel_right hp).symm, htree, fun p' hp' => ?_⟩
  have hsame : p'.tokens ++ [] = p.tokens ++ [] := congrArg (· ++ []) hp'
  exact (Phrase.eq_of_tokens (Level.ends_nil _) (Level.ends_nil _) p' p hsame).1

/-- From any position, and any depth that is not above the limit, the call for a level comes to the
answer of its parser. If it succeeds it has moved ahead over the lexemes of one phrase of the level
and the depth is what it was; the depth is never above the limit, except where the call ends for
that. -/
theorem calls_keep_counters (limit : Nat) (ts : List Lexeme) (l : Level) (s : Counters)
    (stack : Nat) (hs : s.depth ≤ limit) (hstack : 5 * (ts.length + 1) ≤ stack) :
    ∃ outcome t depths, (call limit ts stack l).result s = some (outcome, t) ∧
      t.depths = depths ++ s.depths ∧
      (l.parser limit (limit - s.depth)).answer (ts.drop s.position) =
        outcome.map (fun e => (e, ts.drop t.position)) ∧
      (∀ e, outcome = .ok e → s.position < t.position ∧ t.position ≤ ts.length ∧
        t.depth = s.depth ∧
        ∃ p : Phrase l, p.tokens = kinds ((ts.take t.position).drop s.position) ∧ p.tree = e ∧
          ∀ p' : Phrase l, p'.tokens = p.tokens → p' = p) ∧
      ((∀ k, outcome ≠ .error (.tooDeep k)) → ∀ d ∈ depths, d ≤ limit) ∧
      (∀ k, outcome = .error (.tooDeep k) → k = limit ∧ t.depth = limit + 1 ∧
        ∃ earlier, depths = (limit + 1) :: earlier ∧ ∀ d ∈ earlier, d ≤ limit) := by
  have hroom : 5 * (ts.drop s.position).length + l.below < stack := by
    have hbelow := l.below_le
    rw [List.length_drop]
    omega
  have htracks := (faithful limit ts stack).1 l rfl (Nat.add_sub_cancel' hs) hroom
  generalize hanswer : (l.parser limit (limit - s.depth)).answer (ts.drop s.position) = x at htracks
  generalize hresult : (call limit ts stack l).result s = r at htracks
  cases htracks with
  | @ok e t hpass =>
    obtain ⟨depths, hdepths, hle⟩ := hpass.within
    refine ⟨.ok e, t, depths, rfl, hdepths, rfl, ?_, fun _ => hle, nofun⟩
    rintro e ⟨⟩
    have hlt := length_lt_of_answer hanswer
    simp only [List.length_drop] at hlt
    exact ⟨by omega, hpass.inside (by omega), hpass.depth,
      exists_phrase_between (parser_sound limit _ l) hanswer⟩
  | @error e t he hwithin =>
    obtain ⟨depths, hdepths, hle⟩ := hwithin
    refine ⟨.error e, t, depths, rfl, hdepths, rfl, nofun, fun _ => hle, ?_⟩
    rintro k ⟨⟩
    exact absurd rfl (he k)
  | @tooDeep t u hwithin hdepth hdepths =>
    obtain ⟨earlier, hearlier, hle⟩ := hwithin
    refine ⟨.error (.tooDeep limit), u, (limit + 1) :: earlier, rfl, ?_, rfl, nofun, ?_, ?_⟩
    · rw [hdepths, hearlier, List.cons_append]
    · exact fun hnot => absurd rfl (hnot limit)
    · rintro k ⟨⟩
      exact ⟨rfl, hdepth, earlier, rfl, hle⟩

section Example

private def orNotGroup : List Lexeme :=
  [⟨.connective .or, ['|', '|'], 0⟩, ⟨.not, ['!'], 2⟩, ⟨.opening, ['('], 3⟩,
    ⟨.value .null, "null".toList, 4⟩, ⟨.closing, [')'], 8⟩]

private def notGroup : Phrase .unary :=
  .not (.plain (.group (.chain .or (.chain .and (.single (.plain (.value .null))) .nil) .nil)))

private def afterOr : Counters := ⟨1, 3, [3]⟩

/-- With `3` around it, a group in a negation takes the depth to `5`. -/
theorem calls_keep_counters_nested :
    afterOr.depth ≤ 4 ∧ 5 * (orNotGroup.length + 1) ≤ 30 ∧
    (∃ t, (call 5 orNotGroup 30 .unary).result afterOr = some (.ok (.not (.literal .null)), t) ∧
      t.position = 5 ∧ t.depth = 3) ∧
    ∃ t, (call 4 orNotGroup 30 .unary).result afterOr = some (.error (.tooDeep 4), t) ∧
      t.depth = 5 := by
  have hle : afterOr.depth ≤ 4 := by decide
  have hstack : 5 * (orNotGroup.length + 1) ≤ 30 := by decide
  refine ⟨hle, hstack, ?_, ?_⟩
  · obtain ⟨outcome, t, _, hresult, -, hanswer, hok, -, -⟩ :=
      calls_keep_counters 5 orNotGroup .unary afterOr 30 (by decide) hstack
    have hparsed : (Level.unary.parser 5 (5 - afterOr.depth)).answer
        (orNotGroup.drop afterOr.position) = .ok (.not (.literal .null), []) :=
      (operand_complete 5 2 notGroup (orNotGroup.drop 1) [] rfl (Level.ends_unary _)).trans
        (within_of_le (by decide))
    rw [hparsed] at hanswer
    obtain ⟨e, rfl, he⟩ := map_eq_ok.mp hanswer.symm
    obtain ⟨hnot, hrest⟩ := Prod.mk.inj he
    obtain ⟨-, hinside, hdepth, -⟩ := hok e rfl
    rw [← hnot]
    exact ⟨t, hresult, Nat.le_antisymm hinside (List.drop_eq_nil_iff.mp hrest), hdepth⟩
  · obtain ⟨outcome, t, _, hresult, -, hanswer, -, -, hdeep⟩ :=
      calls_keep_counters 4 orNotGroup .unary afterOr 30 hle hstack
    have hparsed : (Level.unary.parser 4 (4 - afterOr.depth)).answer
        (orNotGroup.drop afterOr.position) = .error (.tooDeep 4) := by rfl
    rw [hparsed] at hanswer
    cases outcome with
    | ok e => cases hanswer
    | error e =>
      cases hanswer
      exact ⟨t, hresult, (hdeep 4 rfl).2.1⟩

end Example

end Walk
end TurnRouter.Condition
