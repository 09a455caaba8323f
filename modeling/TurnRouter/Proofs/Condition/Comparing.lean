import TurnRouter.Proofs.Condition.Answer
import TurnRouter.Proofs.Condition.Scan

/-! # Conditions that compare two values

An operator between blanks is one lexeme, and with a value on either side it makes a comparison at
any depth limit. Between texts that is a relation of the order by code point; between values of
different kinds only equality and its opposite are defined.
-/
namespace TurnRouter

namespace Text

/-- The order by code point, in which a text comes after its beginnings. -/
inductive Before : Text → Text → Prop
  | start {b : Char} {t : Text} : Before [] (b :: t)
  | differ {a b : Char} {s t : Text} (h : a.toNat < b.toNat) : Before (a :: s) (b :: t)
  | agree {a : Char} {s t : Text} (h : Before s t) : Before (a :: s) (a :: t)

theorem not_before_nil {s : Text} : ¬Before s [] := by
  intro h
  cases h

theorem before_cons {a b : Char} {s t : Text} :
    Before (a :: s) (b :: t) ↔ a.toNat < b.toNat ∨ a = b ∧ Before s t := by
  constructor
  · intro h
    cases h with
    | differ h => exact .inl h
    | agree h => exact .inr ⟨rfl, h⟩
  · rintro (h | ⟨rfl, h⟩)
    · exact .differ h
    · exact .agree h

theorem compare_eq_lt {s t : Text} : compare s t = .lt ↔ Before s t := by
  have hchar : ∀ a b : Char, compare a b = .lt ↔ a.toNat < b.toNat := fun a b =>
    compareOfLessAndEq_eq_lt.trans UInt32.lt_iff_toNat_lt
  induction s generalizing t with
  | nil =>
    cases t with
    | nil => simp [not_before_nil]
    | cons b t => simp [Before.start]
  | cons a s ih =>
    cases t with
    | nil => simp [not_before_nil]
    | cons b t =>
      have hrest : compare s t = .lt ↔ Before s t := ih
      rw [List.compare_cons_cons, Ordering.then_eq_lt, before_cons, hchar,
        Std.LawfulEqOrd.compare_eq_iff_eq, hrest]

theorem compare_eq_gt {s t : Text} : compare s t = .gt ↔ Before t s := by
  rw [Std.OrientedCmp.gt_iff_lt, compare_eq_lt]

theorem compare_eq_eq {s t : Text} : compare s t = .eq ↔ s = t := Std.LawfulEqOrd.compare_eq_iff_eq

end Text

namespace Condition
namespace Comparison

/-- What an operator says of two texts. -/
def relation : Comparison → Text → Text → Prop
  | eq, v, w => v = w
  | ne, v, w => v ≠ w
  | gt, v, w => Text.Before w v
  | lt, v, w => Text.Before v w
  | ge, v, w => v = w ∨ Text.Before w v
  | le, v, w => v = w ∨ Text.Before v w

theorem accepts_compare (op : Comparison) (v w : Text) :
    op.accepts (compare v w) = true ↔ op.relation v w := by
  have hless : Text.Before v w ↔ compare v w = .lt := Text.compare_eq_lt.symm
  have hmore : Text.Before w v ↔ compare v w = .gt := Text.compare_eq_gt.symm
  have hsame : v = w ↔ compare v w = .eq := Text.compare_eq_eq.symm
  cases op <;> simp only [relation, accepts, ne_eq, hless, hmore, hsame] <;>
    cases compare v w <;> decide

instance (op : Comparison) (v w : Text) : Decidable (op.relation v w) :=
  decidable_of_iff _ (accepts_compare op v w)

theorem outcome?_strings (op : Comparison) (v w : Text) :
    op.outcome? (.string v) (.string w) = some (decide (op.relation v w)) := by
  have horder : op.accepts (compare v w) = decide (op.relation v w) := by
    rw [Bool.eq_iff_iff, decide_eq_true_eq, accepts_compare]
  cases op with
  | eq =>
    refine congrArg some ?_
    rw [Scalar.equal, Bool.eq_iff_iff, beq_iff_eq, decide_eq_true_eq, relation]
  | ne =>
    refine congrArg some ?_
    rw [Scalar.equal, Bool.eq_iff_iff, Bool.not_eq_true', beq_eq_false_iff_ne, decide_eq_true_eq,
      relation]
  | gt => exact congrArg some horder
  | lt => exact congrArg some horder
  | ge => exact congrArg some horder
  | le => exact congrArg some horder

end Comparison

section Scans
variable {offset : Nat} {s t : Text}

theorem not_continues_of_mem {c : Char} (hc : c ∈ blanks) : continues c = false := by
  have hall : (blanks.all fun c => !continues c) = true := by decide +kernel
  exact Bool.not_eq_true' _ |>.mp (List.all_eq_true.mp hall c hc)

theorem fresh_blanks_append (hs : ∀ c ∈ s, isBlank c = true) (ht : Fresh t) : Fresh (s ++ t) := by
  cases s with
  | nil => exact ht
  | cons b s =>
    rintro c hc
    cases hc
    exact not_continues_of_mem (mem_blanks (hs b List.mem_cons_self))

theorem scan_blanks (hs : ∀ c ∈ s, isBlank c = true) :
    Scan offset (s ++ t) [] (offset + Text.width s) t := by
  induction s generalizing offset with
  | nil => exact .done
  | cons c s ih =>
    have hrest : Scan (offset + c.utf8Size) (s ++ t) [] (offset + c.utf8Size + Text.width s) t :=
      ih fun d hd => hs d (List.mem_cons_of_mem c hd)
    rw [Nat.add_assoc, ← Text.width_cons] at hrest
    exact .blank (hs c List.mem_cons_self) hrest

theorem scan_operator (offset : Nat) (op : Comparison) (ht : Fresh t) :
    Scan offset (op.symbol ++ t) [⟨.compare op, op.symbol, offset⟩]
      (offset + Text.width op.symbol) t := by
  obtain ⟨c, tail, hsymbol, hblank, hquote, hread⟩ : ∃ c tail, op.symbol = c :: tail ∧
      isBlank c = false ∧ ¬(c = '\'' ∨ c = '"') ∧
      readToken offset c tail = .ok ⟨.compare op, op.symbol, []⟩ := by
    cases op <;> exact ⟨_, _, rfl, by decide, by decide, rfl⟩
  have happ := readToken_append ht hquote offset tail
  rw [hread] at happ
  rw [hsymbol] at happ ⊢
  exact .token hblank happ .done

theorem scan_between {before after : Text} (op : Comparison) (hbefore : ∀ c ∈ before, isBlank c = true)
    (hafter : ∀ c ∈ after, isBlank c = true) (ht : Fresh t) :
    Scan offset ((before ++ op.symbol ++ after) ++ t)
      [⟨.compare op, op.symbol, offset + Text.width before⟩]
      (offset + Text.width (before ++ op.symbol ++ after)) t := by
  have hoperator := scan_operator (offset + Text.width before) op (fresh_blanks_append hafter ht)
  have hscan := (scan_blanks hbefore).append (hoperator.append (scan_blanks hafter))
  rw [List.append_assoc, List.append_assoc, Text.width_append, Text.width_append]
  simpa [Nat.add_assoc] using hscan

end Scans

section Trees
variable {a b : Scalar} {op : Comparison} {l m r : Lexeme}

theorem parseLexemes_comparison (limit : Nat) (hl : l.token = .value a) (hm : m.token = .compare op)
    (hr : r.token = .value b) :
    parseLexemes limit [l, m, r] = .ok (.compare op (.literal a) (.literal b)) := by
  have hleft : ((operand limit limit).answer [l, m, r]) = .ok (.literal a, [m, r]) := by
    rw [Parser.answer_operand_cons, hl]
  have hright : ((operand limit limit).answer [r]) = .ok (.literal b, []) := by
    rw [Parser.answer_operand_cons, hr]
  have hcompare : (comparison (operand limit limit)).answer [l, m, r] =
      .ok (.compare op (.literal a) (.literal b), []) := by
    rw [Parser.answer_comparison, hleft, bind_ok, Parser.comparisonAnswer, hm]
    simp only [Token.comparison?, hright, map_ok]
  rw [Parser.parseLexemes_eq, disjunction, Parser.answer_chain, Parser.answer_chain, hcompare]
  simp only [bind_ok, Parser.further_nil, map_ok, chainTree]

/-- A comparison of two values comes out as the operator says, or its operands do not fit. -/
theorem evaluate_comparison (limit : Nat) {s : Text} (hlex : lex s = .ok [l, m, r])
    (hl : l.token = .value a) (hm : m.token = .compare op) (hr : r.token = .value b) :
    evaluate limit s =
      match op.outcome? a b with
      | some answer => .ok answer
      | none => .error (.typeMismatch op a.kind b.kind) := by
  rw [evaluate, parse, hlex]
  simp only [parseLexemes_comparison limit hl hm hr, Expr.eval, Comparison.eval]
  cases op.outcome? a b <;> rfl

end Trees
end Condition
end TurnRouter
