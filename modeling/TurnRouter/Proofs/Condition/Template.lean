import TurnRouter.Proofs.Condition.Stages

/-! # Conditions with gaps

A template is a tree with gaps where strings go. The parser does not look into its values, so the
texts that fill the gaps of a list of tokens fill the gaps of its tree, and decide nothing else.
-/
namespace TurnRouter.Condition

section Uniform
variable {ι α β γ δ : Type}

/-- In all cases alike there is success, each value related to one `b`, or an error of one kind. -/
def Uniform (x : ι → Except Error α) (R : β → ι → α → Prop) : Prop :=
  (∃ b, ∀ i, ∃ a, x i = .ok a ∧ R b i a) ∨ ∃ v, ∀ i, ∃ e, x i = .error e ∧ e.variant = v

namespace Uniform
variable {x : ι → Except Error α} {R : β → ι → α → Prop} {S : γ → ι → δ → Prop}

theorem ok (b : β) (a : ι → α) (hx : ∀ i, x i = .ok (a i)) (h : ∀ i, R b i (a i)) : Uniform x R :=
  .inl ⟨b, fun i => ⟨a i, hx i, h i⟩⟩

theorem error (v : Error.Variant) (e : ι → Error) (hx : ∀ i, x i = .error (e i))
    (h : ∀ i, (e i).variant = v) : Uniform x R := .inr ⟨v, fun i => ⟨e i, hx i, h i⟩⟩

theorem mono {S : β → ι → α → Prop} (h : Uniform x R) (hRS : ∀ b i a, R b i a → S b i a) :
    Uniform x S := by
  obtain ⟨b, hb⟩ | hv := h
  · refine .inl ⟨b, fun i => ?_⟩
    obtain ⟨a, ha, hR⟩ := hb i
    exact ⟨a, ha, hRS b i a hR⟩
  · exact .inr hv

theorem bind {y : ι → Except Error δ} (h : Uniform x R) (f : ι → α → Except Error δ)
    (hy : ∀ i, y i = (x i).bind (f i))
    (hf : ∀ (b : β) (a : ι → α), (∀ i, x i = .ok (a i)) → (∀ i, R b i (a i)) →
      Uniform (fun i => f i (a i)) S) :
    Uniform y S := by
  obtain ⟨b, hb⟩ | ⟨v, hv⟩ := h
  · obtain ⟨a, ha⟩ := Classical.skolem.mp hb
    have hy' : y = fun i => f i (a i) := by
      funext i
      rw [hy, (ha i).1, bind_ok]
    rw [hy']
    exact hf b a (fun i => (ha i).1) fun i => (ha i).2
  · refine .inr ⟨v, fun i => ?_⟩
    obtain ⟨e, he, hvariant⟩ := hv i
    exact ⟨e, by rw [hy, he, bind_error], hvariant⟩

theorem map {y : ι → Except Error δ} (h : Uniform x R) (f : ι → α → δ)
    (hy : ∀ i, y i = (x i).map (f i)) (g : β → γ) (hg : ∀ b i a, R b i a → S (g b) i (f i a)) :
    Uniform y S := by
  obtain ⟨b, hb⟩ | ⟨v, hv⟩ := h
  · refine .inl ⟨g b, fun i => ?_⟩
    obtain ⟨a, ha, hR⟩ := hb i
    exact ⟨f i a, by rw [hy, ha, map_ok], hg b i a hR⟩
  · refine .inr ⟨v, fun i => ?_⟩
    obtain ⟨e, he, hvariant⟩ := hv i
    exact ⟨e, by rw [hy, he, map_error], hvariant⟩

end Uniform
end Uniform

/-- A token, or a gap for a string. -/
inductive Item (G : Type)
  | token (t : Token)
  | gap (g : G)

inductive Template (G : Type)
  | literal (v : Scalar)
  | gap (g : G)
  | not (t : Template G)
  | chain (c : Connective) (operands : List (Template G))
  | compare (op : Comparison) (left right : Template G)

variable {G : Type}

namespace Item

def fill (φ : G → Text) : Item G → Token
  | token t => t
  | gap g => .value (.string (φ g))

def gap? : Item G → Option G
  | token _ => none
  | gap g => some g

def comparison? : Item G → Option Comparison
  | token t => t.comparison?
  | gap _ => none

theorem fill_eq_iff {φ : G → Text} {item : Item G} {t : Token} (ht : ∀ v, t ≠ .value v) :
    item.fill φ = t ↔ item = token t := by
  cases item with
  | token u => exact ⟨fun h => congrArg token h, fun h => by cases h; rfl⟩
  | gap g => exact ⟨fun h => absurd h.symm (ht _), fun h => by cases h⟩

theorem comparison?_fill (φ : G → Text) (item : Item G) :
    (item.fill φ).comparison? = item.comparison? := by
  cases item <;> rfl

end Item

def gapsOf (items : List (Item G)) : List G := items.filterMap Item.gap?

namespace Template

mutual

def fill (φ : G → Text) : Template G → Expr
  | literal v => .literal v
  | gap g => .literal (.string (φ g))
  | not t => .not (t.fill φ)
  | chain c ts => .chain c (fillAll φ ts)
  | compare op l r => .compare op (l.fill φ) (r.fill φ)

def fillAll (φ : G → Text) : List (Template G) → List Expr
  | [] => []
  | t :: ts => t.fill φ :: fillAll φ ts

end

mutual

/-- The gaps from left to right. -/
def gaps : Template G → List G
  | literal _ => []
  | gap g => [g]
  | not t => t.gaps
  | chain _ ts => gapsAll ts
  | compare _ l r => l.gaps ++ r.gaps

def gapsAll : List (Template G) → List G
  | [] => []
  | t :: ts => t.gaps ++ gapsAll ts

end

/-- A single operand is no chain. -/
def chainOf (c : Connective) (first : Template G) : List (Template G) → Template G
  | [] => first
  | more => chain c (first :: more)

theorem fill_chainOf (φ : G → Text) (c : Connective) (first : Template G)
    (more : List (Template G)) :
    (chainOf c first more).fill φ = chainTree c (first.fill φ) (fillAll φ more) := by
  cases more <;> simp [chainOf, chainTree, fill, fillAll]

theorem gaps_chainOf (c : Connective) (first : Template G) (more : List (Template G)) :
    (chainOf c first more).gaps = first.gaps ++ gapsAll more := by
  cases more <;> simp [chainOf, gaps, gapsAll]

end Template

/-- These lexemes are the items with their gaps filled. -/
def Fits (φ : G → Text) (items : List (Item G)) (ts : List Lexeme) : Prop :=
  ts.map Lexeme.token = items.map (Item.fill φ)

namespace Fits
variable {φ : G → Text} {items : List (Item G)} {ts : List Lexeme}

theorem length_eq (h : Fits φ items ts) : ts.length = items.length := by
  simpa using congrArg List.length h

theorem nil_iff : Fits φ [] ts ↔ ts = [] := List.map_eq_nil_iff

theorem cons_iff {item : Item G} :
    Fits φ (item :: items) ts ↔ ∃ t us, ts = t :: us ∧ t.token = item.fill φ ∧ Fits φ items us := by
  cases ts with
  | nil => exact ⟨fun h => (by cases h), fun ⟨_, _, h, _⟩ => (by cases h)⟩
  | cons t us =>
    constructor
    · intro h
      obtain ⟨ht, hus⟩ := List.cons_eq_cons.mp h
      exact ⟨t, us, rfl, ht, hus⟩
    · rintro ⟨t, us, ⟨⟩, ht, hus⟩
      exact List.cons_eq_cons.mpr ⟨ht, hus⟩

/-- The first lexeme in each case, and those after it. -/
theorem cons_family {ι : Type} {φ : ι → G → Text} {item : Item G} {ts : ι → List Lexeme}
    (h : ∀ i, Fits (φ i) (item :: items) (ts i)) :
    ∃ (t : ι → Lexeme) (us : ι → List Lexeme), ts = (fun i => t i :: us i) ∧
      (∀ i, (t i).token = item.fill (φ i)) ∧ ∀ i, Fits (φ i) items (us i) := by
  obtain ⟨t, ht⟩ := Classical.skolem.mp fun i => cons_iff.mp (h i)
  obtain ⟨us, hus⟩ := Classical.skolem.mp ht
  exact ⟨t, us, funext fun i => (hus i).1, fun i => (hus i).2.1, fun i => (hus i).2.2⟩

end Fits

namespace Parser
variable {ι : Type} {φ : ι → G → Text} {parser : Parser}

/-- The answer is a template with its gaps filled, and every gap is in it or left for later. -/
def Answers (φ : ι → G → Text) (items : List (Item G)) (b : Template G × List (Item G)) (i : ι)
    (a : Expr × List Lexeme) : Prop :=
  a.1 = b.1.fill (φ i) ∧ Fits (φ i) b.2 a.2 ∧ b.1.gaps ++ gapsOf b.2 = gapsOf items

/-- What this parser does with items does not depend on the texts in their gaps. -/
def Blind (φ : ι → G → Text) (parser : Parser) : Prop :=
  ∀ (items : List (Item G)) (ts : ι → List Lexeme), (∀ i, Fits (φ i) items (ts i)) →
    Uniform (fun i => parser.answer (ts i)) (Answers φ items)

/-- The same for the further operands of a chain. -/
def AnswersAll (φ : ι → G → Text) (items : List (Item G))
    (b : List (Template G) × List (Item G)) (i : ι) (a : List Expr × List Lexeme) : Prop :=
  a.1 = Template.fillAll (φ i) b.1 ∧ Fits (φ i) b.2 a.2 ∧
    Template.gapsAll b.1 ++ gapsOf b.2 = gapsOf items

theorem gapsOf_token (t : Token) (items : List (Item G)) :
    gapsOf (.token t :: items) = gapsOf items := rfl

namespace Blind
variable {items : List (Item G)} {ts : ι → List Lexeme}

/-- The parenthesis after a group is never in a gap. -/
theorem close {a : ι → Expr × List Lexeme} {b : Template G × List (Item G)}
    (hb : ∀ i, Answers φ items b i (a i)) :
    Uniform (fun i => closeAnswer (a i).1 (a i).2) (Answers φ items) := by
  obtain ⟨tree, more⟩ := b
  have hfits : ∀ i, Fits (φ i) more (a i).2 := fun i => (hb i).2.1
  cases more with
  | nil =>
    refine .error .unexpectedEnd (fun _ => .unexpectedEnd) (fun i => ?_) fun i => rfl
    rw [Fits.nil_iff.mp (hfits i), closeAnswer]
  | cons item more =>
    obtain ⟨t, us, heq, ht, hus⟩ := Fits.cons_family hfits
    have hi : ∀ i, (a i).2 = t i :: us i := fun i => congrFun heq i
    have hclosing : ∀ i, (t i).token = .closing ↔ item = .token .closing := fun i => by
      rw [ht]
      exact Item.fill_eq_iff fun v => Token.noConfusion
    by_cases hitem : item = .token .closing
    · refine .ok (tree, more) (fun i => ((a i).1, us i)) (fun i => ?_)
        fun i => ⟨(hb i).1, hus i, ?_⟩
      · rw [hi, closeAnswer, if_pos ((hclosing i).mpr hitem)]
      · rw [← (hb i).2.2, hitem]
        rfl
    · refine .error .unexpectedToken (fun i => .unexpectedToken (t i).token (t i).offset)
        (fun i => ?_) fun i => rfl
      rw [hi, closeAnswer, if_neg fun h => hitem ((hclosing i).mp h)]

theorem comparison (h : Blind φ parser) : Blind φ (Condition.comparison parser) := by
  intro items ts hts
  refine (h items ts hts).bind _ (fun i => answer_comparison) fun b a ha hb => ?_
  obtain ⟨left, more⟩ := b
  have hleft : ∀ i, (a i).1 = left.fill (φ i) := fun i => (hb i).1
  have hgaps : ∀ i : ι, left.gaps ++ gapsOf more = gapsOf items := fun i => (hb i).2.2
  have hfits : ∀ i, Fits (φ i) more (a i).2 := fun i => (hb i).2.1
  cases more with
  | nil =>
    refine .ok (left, []) (fun i => ((a i).1, [])) (fun i => ?_) fun i => ⟨hleft i, rfl, hgaps i⟩
    rw [Fits.nil_iff.mp (hfits i), comparisonAnswer]
  | cons item more =>
    obtain ⟨t, us, heq, ht, hus⟩ := Fits.cons_family hfits
    have hsame : ∀ i, (t i).token.comparison? = item.comparison? := fun i => by
      rw [ht, Item.comparison?_fill]
    cases hop : item.comparison? with
    | none =>
      refine .ok (left, item :: more) a (fun i => ?_) fun i => ⟨hleft i, hfits i, hgaps i⟩
      have hi : (a i).2 = t i :: us i := congrFun heq i
      rw [hi, comparisonAnswer, hsame, hop, ← hi]
    | some op =>
      refine (h more us hus).map (fun i y => (.compare op (a i).1 y.1, y.2)) (fun i => ?_)
        (fun d => (.compare op left d.1, d.2)) ?_
      · have hi : (a i).2 = t i :: us i := congrFun heq i
        rw [hi, comparisonAnswer, hsame, hop]
      · rintro d i y ⟨hright, hrest, hmore⟩
        refine ⟨?_, hrest, ?_⟩
        · rw [Template.fill, hright, hleft]
        · have htoken : gapsOf (item :: more) = gapsOf more := by
            cases item with
            | token t => rfl
            | gap g => cases hop
          rw [Template.gaps, List.append_assoc, hmore, ← hgaps i, htoken]

section Chains
variable [Nonempty ι]

/-- A parser that succeeds leaves fewer items than it was given. -/
theorem rest_lt {b : Template G × List (Item G)} {a : ι → Expr × List Lexeme}
    (hts : ∀ i, Fits (φ i) items (ts i)) (ha : ∀ i, parser.answer (ts i) = .ok (a i))
    (hb : ∀ i, Answers φ items b i (a i)) : b.2.length < items.length := by
  obtain ⟨i⟩ := ‹Nonempty ι›
  have hlt := length_lt_of_answer (ha i)
  rwa [(hb i).2.1.length_eq, (hts i).length_eq] at hlt

theorem further (h : Blind φ parser) (c : Connective) :
    ∀ (items : List (Item G)) (ts : ι → List Lexeme), (∀ i, Fits (φ i) items (ts i)) →
      Uniform (fun i => Parser.further c parser (ts i)) (AnswersAll φ items) := by
  intro items
  -- The induction is on the items, which all cases share.
  induction hn : items.length using Nat.strongRecOn generalizing items with
  | _ n ih =>
    intro ts hts
    cases items with
    | nil =>
      refine .ok ([], []) (fun _ => ([], [])) (fun i => ?_) fun i => ⟨rfl, rfl, rfl⟩
      rw [Fits.nil_iff.mp (hts i), further_nil]
    | cons item items =>
      obtain ⟨t, us, rfl, ht, hus⟩ := Fits.cons_family hts
      by_cases hitem : item = .token (.connective c)
      · subst hitem
        refine (h items us hus).bind _ (fun i => further_of_eq (ht i)) fun b a ha hb => ?_
        have hlt := rest_lt hus ha hb
        have hfits : ∀ i, Fits (φ i) b.2 (a i).2 := fun i => (hb i).2.1
        rw [List.length_cons] at hn
        refine (ih b.2.length (by omega) b.2 rfl _ hfits).map _ (fun i => rfl)
          (fun d => (b.1 :: d.1, d.2)) ?_
        rintro d i y ⟨htrees, hrest, hgaps⟩
        refine ⟨?_, hrest, ?_⟩
        · rw [Template.fillAll, htrees, (hb i).1]
        · rw [Template.gapsAll, List.append_assoc, hgaps, (hb i).2.2, gapsOf_token]
      · have hne : ∀ i, (t i).token ≠ .connective c := fun i heq =>
          hitem ((Item.fill_eq_iff fun v => Token.noConfusion).mp ((ht i).symm.trans heq))
        exact .ok ([], item :: items) (fun i => ([], t i :: us i)) (fun i => further_of_ne (hne i))
          fun i => ⟨rfl, hts i, rfl⟩

theorem chain (h : Blind φ parser) (c : Connective) : Blind φ (Condition.chain c parser) := by
  intro items ts hts
  refine (h items ts hts).bind _ (fun i => answer_chain) fun b a ha hb => ?_
  have hfits : ∀ i, Fits (φ i) b.2 (a i).2 := fun i => (hb i).2.1
  refine (h.further c b.2 _ hfits).map _ (fun i => rfl)
    (fun d => (Template.chainOf c b.1 d.1, d.2)) ?_
  rintro d i y ⟨htrees, hrest, hgaps⟩
  refine ⟨?_, hrest, ?_⟩
  · rw [Template.fill_chainOf, htrees, (hb i).1]
  · rw [Template.gaps_chainOf, List.append_assoc, hgaps, (hb i).2.2]

theorem disjunction (h : Blind φ parser) : Blind φ (Condition.disjunction parser) :=
  (h.comparison.chain .and).chain .or

end Chains

/-- An operand takes its first item and leaves the rest to operands with less room. -/
theorem operand_of_less [Nonempty ι] {limit room : Nat}
    (hless : ∀ less, room = less + 1 → Blind φ (operand limit less)) :
    Blind φ (operand limit room) := by
  intro items ts hts
  cases items with
  | nil =>
    refine .error .unexpectedEnd (fun _ => .unexpectedEnd) (fun i => ?_) fun i => rfl
    rw [Fits.nil_iff.mp (hts i), answer_operand_nil]
  | cons item items =>
    obtain ⟨t, us, rfl, ht, hus⟩ := Fits.cons_family hts
    cases item with
    | gap g =>
      refine .ok (.gap g, items) (fun i => (.literal (.string (φ i g)), us i)) (fun i => ?_)
        fun i => ⟨rfl, hus i, rfl⟩
      rw [answer_operand_cons, ht i]
      rfl
    | token token =>
      have htoken : ∀ i, (t i).token = token := ht
      cases token with
      | value v =>
        refine .ok (.literal v, items) (fun i => (.literal v, us i)) (fun i => ?_)
          fun i => ⟨rfl, hus i, rfl⟩
        rw [answer_operand_cons, htoken i]
      | not =>
        cases room with
        | zero =>
          refine .error .tooDeep (fun _ => .tooDeep limit) (fun i => ?_) fun i => rfl
          rw [answer_operand_cons, htoken i]
        | succ less =>
          refine (hless less rfl items us hus).map (fun _ x => (.not x.1, x.2)) (fun i => ?_)
            (fun d => (.not d.1, d.2)) ?_
          · rw [answer_operand_cons, htoken i]
          · rintro d i x ⟨htree, hrest, hgaps⟩
            exact ⟨by rw [Template.fill, htree], hrest, hgaps⟩
      | opening =>
        cases room with
        | zero =>
          refine .error .tooDeep (fun _ => .tooDeep limit) (fun i => ?_) fun i => rfl
          rw [answer_operand_cons, htoken i]
        | succ less =>
          refine ((hless less rfl).disjunction items us hus).bind (fun _ x => closeAnswer x.1 x.2)
            (fun i => ?_) fun b a ha hb => close hb
          rw [answer_operand_cons, htoken i]
      | _ =>
        refine .error .unexpectedToken (fun i => .unexpectedToken (t i).token (t i).offset)
          (fun i => ?_) fun i => rfl
        rw [answer_operand_cons, htoken i]

end Blind

theorem blind_operand [Nonempty ι] (limit : Nat) : ∀ room, Blind φ (operand limit room) := by
  intro room
  induction room with
  | zero => exact .operand_of_less fun less h => by cases h
  | succ room ih => exact .operand_of_less fun less h => by cases h; exact ih

/-- Parsing filled items fills one template, or finds the same kind of error in all of them. -/
theorem uniform_parseLexemes [Nonempty ι] (limit : Nat) {items : List (Item G)}
    {ts : ι → List Lexeme} (hts : ∀ i, Fits (φ i) items (ts i)) :
    Uniform (fun i => parseLexemes limit (ts i)) fun (b : Template G) i a =>
      a = b.fill (φ i) ∧ b.gaps = gapsOf items := by
  refine ((blind_operand limit limit).disjunction items ts hts).bind _ (fun i => parseLexemes_eq)
    fun b a ha hb => ?_
  obtain ⟨tree, more⟩ := b
  have hfits : ∀ i, Fits (φ i) more (a i).2 := fun i => (hb i).2.1
  cases more with
  | nil =>
    refine .ok tree (fun i => (a i).1) (fun i => ?_) fun i => ⟨(hb i).1, ?_⟩
    · rw [Fits.nil_iff.mp (hfits i)]
    · have hgaps : tree.gaps ++ [] = gapsOf items := (hb i).2.2
      rwa [List.append_nil] at hgaps
  | cons item more =>
    obtain ⟨t, us, heq, -, -⟩ := Fits.cons_family hfits
    refine .error .trailingInput (fun i => .trailingInput (t i).token (t i).offset) (fun i => ?_)
      fun i => rfl
    have hi : (a i).2 = t i :: us i := congrFun heq i
    rw [hi]

end Parser
end TurnRouter.Condition
