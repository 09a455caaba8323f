import TurnRouter.Proofs.Condition.Comparing
import TurnRouter.Proofs.Condition.Composition
import TurnRouter.Proofs.Condition.Positions
import TurnRouter.Proofs.Numeral

/-! # The order of scalars

Numbers have an order and texts have one, and the six comparisons say the same of it. Values of
other kinds are equal or not, and no order is asked of them. The number without a place in the
order is written by no text, and a condition computes with no values but those written and
booleans, so numbers are always comparable.
-/
namespace TurnRouter

theorem Binary64.exists_rank {x : Binary64} (h : x ≠ .nan) : ∃ i, x.rank? = some i := by
  cases x with
  | nan => exact absurd rfl h
  | infinite s => exact ⟨_, rfl⟩
  | finite s u hu => exact ⟨_, rfl⟩

namespace Condition
namespace Scalar

/-- Some text has a lexeme with this value. -/
def Written (v : Scalar) : Prop := ∃ s ls l, lex s = .ok ls ∧ l ∈ ls ∧ l.token = .value v

theorem Written.ne_nan {v : Scalar} (h : v.Written) : v ≠ .number .nan := by
  obtain ⟨s, ls, l, hlex, hl, hvalue⟩ := h
  obtain ⟨-, c, t, rest, -, -, hread⟩ := (lexFrom_eq_ok_iff.mp hlex).of_mem hl
  rw [hvalue] at hread
  obtain ⟨-, text, rfl⟩ | ⟨n, -, -, rfl⟩ | rfl | ⟨b, rfl⟩ := readToken_value_cases hread
  · exact Scalar.noConfusion
  · exact fun hnan => n.toBinary64_ne_nan (Scalar.number.inj hnan)
  · exact Scalar.noConfusion
  · exact Scalar.noConfusion

/-- Two values of a kind that has an order. -/
inductive Comparable : Scalar → Scalar → Prop
  | numbers (x y : Binary64) : Comparable (.number x) (.number y)
  | strings (s t : Text) : Comparable (.string s) (.string t)

/-- One value of one kind; the two zeros are one number. -/
inductive Same : Scalar → Scalar → Prop
  | null : Same .null .null
  | boolean (b : Bool) : Same (.boolean b) (.boolean b)
  | number {x y : Binary64} {i : Int} : x.rank? = some i → y.rank? = some i →
    Same (.number x) (.number y)
  | string (s : Text) : Same (.string s) (.string s)

variable {a b c : Scalar} {o : Ordering}

theorem equal_iff : a.equal b = true ↔ a.Same b := by
  constructor
  · intro h
    cases a <;> cases b <;> try cases h
    case mp.null.null.refl => exact .null
    case mp.boolean.boolean p q =>
      obtain rfl : p = q := eq_of_beq h
      exact .boolean p
    case mp.number.number x y =>
      have hsame : x.compare? y = some .eq := eq_of_beq h
      obtain ⟨i, hi, hrest⟩ := Option.bind_eq_some_iff.mp hsame
      obtain ⟨j, hj, hij⟩ := Option.bind_eq_some_iff.mp hrest
      obtain rfl := Std.LawfulEqOrd.eq_of_compare (Option.some.inj hij)
      exact .number hi hj
    case mp.string.string s t =>
      obtain rfl : s = t := eq_of_beq h
      exact .string s
  · intro h
    cases h with
    | null => rfl
    | boolean p => exact beq_self_eq_true p
    | number hi hj => simp [equal, Binary64.compare?, hi, hj]
    | string s => exact beq_self_eq_true s

theorem order?_numbers {x y : Binary64} {i j : Int} (hi : x.rank? = some i) (hj : y.rank? = some j) :
    (number x).order? (number y) = some (compare i j) := by
  simp [order?, Binary64.compare?, hi, hj]

theorem order?_eq_none (h : ¬a.Comparable b) : a.order? b = none := by
  cases a <;> cases b <;> first
    | rfl
    | exact (h (.numbers _ _)).elim
    | exact (h (.strings _ _)).elim

/-- What has an order is two texts or two numbers with a rank. -/
theorem order?_cases (h : a.order? b = some o) :
    (∃ s t, a = .string s ∧ b = .string t ∧ compare s t = o) ∨
    ∃ x y i j, a = .number x ∧ b = .number y ∧ x.rank? = some i ∧ y.rank? = some j ∧
      compare i j = o := by
  cases a <;> cases b <;> try cases h
  case number.number x y =>
    obtain ⟨i, hi, hrest⟩ := Option.bind_eq_some_iff.mp h
    obtain ⟨j, hj, hij⟩ := Option.bind_eq_some_iff.mp hrest
    exact .inr ⟨x, y, i, j, rfl, rfl, hi, hj, Option.some.inj hij⟩
  case string.string.refl s t => exact .inl ⟨s, t, rfl, rfl, rfl⟩

theorem order?_swap (h : a.order? b = some o) : b.order? a = some o.swap := by
  obtain ⟨s, t, rfl, rfl, rfl⟩ | ⟨x, y, i, j, rfl, rfl, hi, hj, rfl⟩ := order?_cases h
  · rw [← Std.OrientedOrd.eq_swap]
    rfl
  · rw [← Std.OrientedOrd.eq_swap, order?_numbers hj hi]

theorem order?_trans (h : a.order? b = some .lt) (h' : b.order? c = some .lt) :
    a.order? c = some .lt := by
  obtain ⟨s, t, rfl, rfl, hst⟩ | ⟨x, y, i, j, rfl, rfl, hi, hj, hij⟩ := order?_cases h
  · obtain ⟨t', u, ht, rfl, htu⟩ | ⟨_, _, _, _, hnumber, -⟩ := order?_cases h'
    · cases ht
      exact congrArg some (Std.TransCmp.lt_trans hst htu)
    · cases hnumber
  · obtain ⟨_, _, hstring, -⟩ | ⟨y', z, j', k, hy, rfl, hj', hk, hjk⟩ := order?_cases h'
    · cases hstring
    · cases hy
      obtain rfl : j = j' := Option.some.inj (hj.symm.trans hj')
      rw [order?_numbers hi hk, Std.TransCmp.lt_trans hij hjk]

theorem comparable_of_kind (h : a.kind = b.kind) (ha : a.kind = .number ∨ a.kind = .string) :
    a.Comparable b := by
  cases a <;> cases b <;> cases h <;> obtain ha | ha := ha <;> cases ha
  · exact .numbers _ _
  · exact .strings _ _

/-- But for NaN, two values of one ordered kind have places in the order. -/
theorem Comparable.exists_order (h : a.Comparable b) (ha : a ≠ .number .nan) (hb : b ≠ .number .nan) :
    ∃ o, a.order? b = some o := by
  cases h with
  | numbers x y =>
    obtain ⟨i, hi⟩ := Binary64.exists_rank fun hx => ha (congrArg _ hx)
    obtain ⟨j, hj⟩ := Binary64.exists_rank fun hy => hb (congrArg _ hy)
    exact ⟨_, order?_numbers hi hj⟩
  | strings s t => exact ⟨_, rfl⟩

end Scalar

namespace Comparison
open Scalar
variable {a b c : Scalar} {o : Ordering}

/-- The comparison succeeds and says yes. -/
def Holds (op : Comparison) (a b : Scalar) : Prop := op.eval a b = .ok (.boolean true)

theorem eval_of_outcome? {op : Comparison} {answer : Bool} (h : op.outcome? a b = some answer) :
    op.eval a b = .ok (.boolean answer) := by
  rw [Comparison.eval, h]

theorem equal_eq_beq (h : a.order? b = some o) : a.equal b = (o == .eq) := by
  obtain ⟨s, t, rfl, rfl, rfl⟩ | ⟨x, y, i, j, rfl, rfl, hi, hj, rfl⟩ := order?_cases h
  · rw [Bool.eq_iff_iff, beq_iff_eq, Text.compare_eq_eq]
    exact beq_iff_eq
  · simp [equal, Binary64.compare?, hi, hj]

/-- Where there is an order, all six comparisons go by it. -/
theorem eval_of_order? (h : a.order? b = some o) (op : Comparison) :
    op.eval a b = .ok (.boolean (op.accepts o)) := by
  refine eval_of_outcome? ?_
  cases op with
  | eq => exact congrArg some (equal_eq_beq h)
  | ne => exact congrArg some (congrArg not (equal_eq_beq h))
  | gt | lt | ge | le => exact congrArg (Option.map _) h

theorem holds_iff (h : a.order? b = some o) (op : Comparison) : op.Holds a b ↔ op.accepts o = true := by
  rw [Holds, eval_of_order? h, Except.ok.injEq, Scalar.boolean.injEq]

theorem order?_of_holds_lt (h : lt.Holds a b) : a.order? b = some .lt := by
  cases ho : a.order? b with
  | none =>
    have hnone : lt.outcome? a b = none := congrArg (Option.map _) ho
    rw [Holds, Comparison.eval, hnone] at h
    cases h
  | some o =>
    have hless := (holds_iff ho lt).mp h
    cases o <;> cases hless
    rfl

theorem Holds.lt_trans (h : lt.Holds a b) (h' : lt.Holds b c) : lt.Holds a c :=
  (holds_iff (order?_trans (order?_of_holds_lt h) (order?_of_holds_lt h')) lt).mpr rfl

/-- Without an order the four comparisons that ask for one fail. -/
theorem eval_of_not_comparable (h : ¬a.Comparable b) {op : Comparison}
    (hop : op ∈ [gt, lt, ge, le]) : op.eval a b = .error (.typeMismatch op a.kind b.kind) := by
  have hnone : op.outcome? a b = none := by
    simp only [List.mem_cons, List.not_mem_nil, or_false] at hop
    obtain rfl | rfl | rfl | rfl := hop <;> exact congrArg (Option.map _) (order?_eq_none h)
  rw [Comparison.eval, hnone]

theorem of_eval_error {op : Comparison} {err : Error} (ha : a ≠ .number .nan) (hb : b ≠ .number .nan)
    (h : op.eval a b = .error err) :
    op ∈ [gt, lt, ge, le] ∧ ¬a.Comparable b ∧ err = .typeMismatch op a.kind b.kind := by
  have hop : op ∈ [gt, lt, ge, le] := by
    cases op with
    | eq | ne => cases h
    | gt | lt | ge | le => decide
  have hnot : ¬a.Comparable b := by
    intro hab
    obtain ⟨o, ho⟩ := hab.exists_order ha hb
    cases (eval_of_order? ho op).symm.trans h
  exact ⟨hop, hnot, Except.error.inj (h.symm.trans (eval_of_not_comparable hnot hop))⟩

/-- The comparison that holds in just one order. -/
def naming : Ordering → Comparison
  | .lt => lt
  | .eq => eq
  | .gt => gt

theorem naming_iff {op : Comparison} : op ∈ [lt, eq, gt] ∧ op.accepts o = true ↔ op = naming o := by
  cases op <;> cases o <;> decide

/-- The comparisons of two values agree on one place of the first against the second. -/
structure TotallyOrdered (a b : Scalar) : Prop where
  answered (op : Comparison) : ∃ answer, op.eval a b = .ok (.boolean answer)
  exactly_one : ∃! op, op ∈ [lt, eq, gt] ∧ op.Holds a b
  le_iff : le.Holds a b ↔ lt.Holds a b ∨ eq.Holds a b
  ge_iff : ge.Holds a b ↔ gt.Holds a b ∨ eq.Holds a b
  ne_iff : ne.Holds a b ↔ ¬eq.Holds a b
  flipped : lt.Holds a b ↔ gt.Holds b a

theorem totallyOrdered (h : a.order? b = some o) : TotallyOrdered a b where
  answered op := ⟨_, eval_of_order? h op⟩
  exactly_one := by
    simp only [holds_iff h, naming_iff]
    exact ⟨naming o, rfl, fun op hop => hop⟩
  le_iff := by
    simp only [holds_iff h]
    cases o <;> decide
  ge_iff := by
    simp only [holds_iff h]
    cases o <;> decide
  ne_iff := by
    simp only [holds_iff h]
    cases o <;> decide
  flipped := by
    rw [holds_iff h, holds_iff (order?_swap h)]
    cases o <;> decide

end Comparison

section Trees
variable {P : Scalar → Prop}

/-- All values written in a tree are such. -/
inductive Expr.Over (P : Scalar → Prop) : Expr → Prop
  | literal {v : Scalar} : P v → Over P (.literal v)
  | not {e : Expr} : Over P e → Over P (.not e)
  | chain {c : Connective} {es : List Expr} : (∀ e ∈ es, Over P e) → Over P (.chain c es)
  | compare {op : Comparison} {l r : Expr} : Over P l → Over P r → Over P (.compare op l r)

/-- An outcome that comes from such values: one of them, or the failure to compare two. -/
def From (P : Scalar → Prop) : Except Error Scalar → Prop
  | .ok v => P v
  | .error err => ∃ op a b, P a ∧ P b ∧ Comparison.eval op a b = .error err

namespace From
variable {x : Except Error Scalar}

theorem bind {f : Scalar → Except Error Scalar} (hx : From P x) (hf : ∀ v, P v → From P (f v)) :
    From P (x.bind f) := by
  cases x with
  | error err => exact hx
  | ok v => exact hf v hx

theorem boolean (hP : ∀ b, P (.boolean b)) (hx : From P x) (f : Scalar → Bool) :
    From P (x.map fun v => .boolean (f v)) := by
  cases x with
  | error err => exact hx
  | ok v => exact hP (f v)

theorem compare (hP : ∀ b, P (.boolean b)) (op : Comparison) {a b : Scalar} (ha : P a) (hb : P b) :
    From P (op.eval a b) := by
  cases heval : op.eval a b with
  | error err => exact ⟨op, a, b, ha, hb, heval⟩
  | ok v =>
    rw [Comparison.eval] at heval
    split at heval <;> cases heval
    exact hP _

theorem operands (hP : ∀ b, P (.boolean b)) (c : Connective) {es : List Expr}
    (h : ∀ e ∈ es, From P e.eval) : From P (evalOperands c es) := by
  induction es with
  | nil => exact hP _
  | cons e es ih =>
    rw [evalOperands_cons]
    refine (h e List.mem_cons_self).bind fun v _ => ?_
    split
    · exact hP _
    · exact ih fun e he => h e (List.mem_cons_of_mem _ he)

end From

/-- The outcomes of operators are booleans, so whatever else is compared was written. -/
theorem Expr.Over.from_eval (hP : ∀ b, P (.boolean b)) {e : Expr} (h : e.Over P) : From P e.eval := by
  induction h with
  | literal hv => exact hv
  | not _ ih =>
    rw [eval_not]
    exact ih.boolean hP _
  | chain _ ih =>
    rw [Expr.eval]
    exact From.operands hP _ ih
  | compare _ _ ihl ihr =>
    rw [eval_compare]
    exact ihl.bind fun v hv => ihr.bind fun w hw => From.compare hP _ hv hw

mutual

theorem Phrase.over {l : Level} :
    ∀ p : Phrase l, (∀ v, Token.value v ∈ p.tokens → P v) → p.tree.Over P
  | .value v, h => .literal (h v List.mem_cons_self)
  | .group p, h => p.over fun v hv => h v (by simp [Phrase.tokens, hv])
  | .plain p, h => p.over h
  | .not p, h => .not (p.over fun v hv => h v (by simp [Phrase.tokens, hv]))
  | .single p, h => p.over h
  | .compare op p q, h => .compare (p.over fun v hv => h v (by simp [Phrase.tokens, hv]))
      (q.over fun v hv => h v (by simp [Phrase.tokens, hv]))
  | .chain c first .nil, h => first.over fun v hv => h v (by simp [Phrase.tokens, hv])
  | .chain c first (.cons p more), h => by
    have hfirst := first.over fun v hv => h v (by simp [Phrase.tokens, hv])
    have hmore := (Tail.cons p more).over fun v hv => h v (List.mem_append_right _ hv)
    refine .chain fun e he => ?_
    obtain rfl | he := List.mem_cons.mp he
    · exact hfirst
    · exact hmore e he

theorem Tail.over {c : Connective} :
    ∀ m : Tail c, (∀ v, Token.value v ∈ m.tokens → P v) → ∀ e ∈ m.trees, e.Over P
  | .nil, _ => fun e he => by cases he
  | .cons p more, h => fun e he => by
    obtain rfl | he := List.mem_cons.mp he
    · exact p.over fun v hv => h v (by simp [Tail.tokens, hv])
    · exact more.over (fun v hv => h v (by simp [Tail.tokens, hv])) e he

end

theorem over_of_parse {limit : Nat} {s : Text} {e : Expr} (h : parse limit s = .ok e) :
    e.Over Scalar.Written := by
  obtain ⟨ls, hlex, p, hp, -, rfl⟩ := phrase_of_parse h
  refine p.over fun v hv => ?_
  rw [hp] at hv
  obtain ⟨l, hl, hvalue⟩ := List.mem_map.mp hv
  exact ⟨s, ls, l, hlex, hl, hvalue⟩

end Trees

theorem Scalar.written_boolean (b : Bool) : Written (.boolean b) := by
  cases b with
  | true => exact ⟨"true".toList, [⟨.value (.boolean true), "true".toList, 0⟩], _, by decide +kernel,
      List.mem_cons_self, rfl⟩
  | false => exact ⟨"false".toList, [⟨.value (.boolean false), "false".toList, 0⟩], _,
      by decide +kernel, List.mem_cons_self, rfl⟩

/-- An error of the evaluation comes from the tree of the text. -/
theorem parse_of_evaluate {limit : Nat} {s : Text} {e : Error} (h : evaluate limit s = .error e)
    (he : e.stage = .evaluation) : ∃ tree, parse limit s = .ok tree ∧ tree.eval = .error e := by
  rw [evaluate_eq_bind] at h
  obtain hlex | ⟨ts, hlex, hlater⟩ := bind_eq_error.mp h
  · rw [stage_of_lex hlex] at he
    cases he
  obtain hparse | ⟨tree, hparse, heval⟩ := bind_eq_error.mp hlater
  · rw [Parser.stage_of_parseLexemes hparse] at he
    cases he
  · refine ⟨tree, ?_, map_eq_error.mp heval⟩
    rw [parse, hlex]
    exact hparse

/-- Only an operator that asks for an order fails, and not on two numbers or two texts. -/
theorem kinds_of_typeMismatch {limit : Nat} {s : Text} {op : Comparison} {l r : Kind}
    (h : evaluate limit s = .error (.typeMismatch op l r)) :
    op ∈ [Comparison.gt, .lt, .ge, .le] ∧ (l = r → l ≠ .number ∧ l ≠ .string) := by
  obtain ⟨e, hparse, heval⟩ := parse_of_evaluate h rfl
  have hfrom := (over_of_parse hparse).from_eval Scalar.written_boolean
  rw [heval] at hfrom
  obtain ⟨op', a, b, ha, hb, hfails⟩ := hfrom
  obtain ⟨hop, hnot, herr⟩ := Comparison.of_eval_error ha.ne_nan hb.ne_nan hfails
  cases herr
  refine ⟨hop, fun hkind => ⟨fun hl => ?_, fun hl => ?_⟩⟩
  · exact hnot (Scalar.comparable_of_kind hkind (.inl hl))
  · exact hnot (Scalar.comparable_of_kind hkind (.inr hl))

open Comparison in
/-- Numbers and texts that conditions can hold are totally ordered, each by their own order; other values
have no order, and equality is defined for all. -/
theorem comparisons_consistent :
    (∀ a b, a.Written → b.Written → a.Comparable b → TotallyOrdered a b) ∧
    (∀ a b c, lt.Holds a b → lt.Holds b c → lt.Holds a c) ∧
    (∀ s t, lt.Holds (.string s) (.string t) ↔ Text.Before s t) ∧
    (∀ x y i j, x.rank? = some i → y.rank? = some j → (lt.Holds (.number x) (.number y) ↔ i < j)) ∧
    (∀ a b, ¬a.Comparable b → ∀ op ∈ [gt, lt, ge, le],
      op.eval a b = .error (.typeMismatch op a.kind b.kind)) ∧
    (∀ a b, ∃ answer, eq.eval a b = .ok (.boolean answer) ∧ ne.eval a b = .ok (.boolean !answer) ∧
      (answer = true ↔ a.Same b)) ∧
    ∀ limit s op l r, evaluate limit s = .error (.typeMismatch op l r) →
      op ∈ [gt, lt, ge, le] ∧ (l = r → l ≠ .number ∧ l ≠ .string) := by
  refine ⟨?_, fun a b c => Holds.lt_trans, ?_, ?_, fun a b h op => eval_of_not_comparable h, ?_,
    fun limit s op l r => kinds_of_typeMismatch⟩
  · intro a b ha hb hab
    obtain ⟨o, ho⟩ := hab.exists_order ha.ne_nan hb.ne_nan
    exact totallyOrdered ho
  · intro s t
    rw [holds_iff (o := compare s t) rfl, ← Text.compare_eq_lt]
    exact beq_iff_eq
  · intro x y i j hi hj
    rw [holds_iff (Scalar.order?_numbers hi hj), ← Int.compare_eq_lt]
    exact beq_iff_eq
  · intro a b
    exact ⟨a.equal b, rfl, rfl, Scalar.equal_iff⟩

/-- The two zeros are one number, written in two ways. -/
theorem comparisons_consistent_zeros :
    Comparison.TotallyOrdered (.number (.zero true)) (.number (.zero false)) ∧
    Comparison.lt.Holds (.string "10".toList) (.string "9".toList) ∧
    Comparison.lt.eval (.number (.zero true)) (.string []) =
      .error (.typeMismatch .lt .number .string) ∧
    Comparison.eq.eval (.number (.zero true)) (.number (.zero false)) = .ok (.boolean true) := by
  obtain ⟨htotal, -, hstrings, -, hother, hequal, -⟩ := comparisons_consistent
  have hminus : Scalar.Written (.number (.zero true)) :=
    ⟨"-0".toList, [⟨.value (.number (.zero true)), "-0".toList, 0⟩], _, by decide +kernel,
      List.mem_cons_self, rfl⟩
  have hplain : Scalar.Written (.number (.zero false)) :=
    ⟨"0".toList, [⟨.value (.number (.zero false)), "0".toList, 0⟩], _, by decide +kernel,
      List.mem_cons_self, rfl⟩
  obtain ⟨answer, heq, -, hsame⟩ := hequal (.number (.zero true)) (.number (.zero false))
  have hanswer : answer = true := hsame.mpr (.number (i := 0) rfl rfl)
  rw [hanswer] at heq
  have hbefore : Text.Before "10".toList "9".toList := .differ (by decide)
  exact ⟨htotal _ _ hminus hplain (.numbers _ _), (hstrings _ _).mpr hbefore,
    hother _ _ (fun h => by cases h) .lt (by decide), heq⟩

end Condition
end TurnRouter
