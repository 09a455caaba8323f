import TurnRouter.Rule.Segment

/-! # Canonical segments

The lists of segments that splitting a rule can give: code and literals take turns, code comes
first, and the last code is not empty. Each rule has at most one such list.
-/
namespace TurnRouter.Rule

/-- What may follow an opening quote, up to and with the closing one. -/
inductive Closed (quote : Char) : Text → Prop
  | close : Closed quote [quote]
  | plain {c : Char} {s : Text} : c ≠ quote → c ≠ '\\' → Closed quote s → Closed quote (c :: s)
  | guarded {c : Char} {s : Text} : Closed quote s → Closed quote ('\\' :: c :: s)

theorem isQuote_iff {c : Char} : isQuote c = true ↔ c = '\'' ∨ c = '"' := by
  simp only [isQuote, Bool.or_eq_true, beq_iff_eq]

theorem isQuote_eq_false_iff {c : Char} : isQuote c = false ↔ ¬(c = '\'' ∨ c = '"') := by
  rw [← isQuote_iff, Bool.not_eq_true]

def Quoteless (s : Text) : Prop := ∀ c ∈ s, isQuote c = false

instance (s : Text) : Decidable (Quoteless s) :=
  decidable_of_iff (s.all fun c => !isQuote c) (by simp [Quoteless])

namespace Quoteless
variable {s t : Text} {c : Char}

theorem nil : Quoteless [] := fun _ h => (by cases h)

theorem cons (hc : isQuote c = false) (h : Quoteless s) : Quoteless (c :: s) := by
  intro d hd
  rcases List.mem_cons.mp hd with rfl | hd
  · exact hc
  · exact h d hd

theorem append (hs : Quoteless s) (ht : Quoteless t) : Quoteless (s ++ t) := by
  intro d hd
  rcases List.mem_append.mp hd with hd | hd
  · exact hs d hd
  · exact ht d hd

theorem of_subset (h : Quoteless t) (hst : ∀ d ∈ s, d ∈ t) : Quoteless s :=
  fun d hd => h d (hst d hd)

theorem replicate (n : Nat) (hc : isQuote c = false) : Quoteless (List.replicate n c) := by
  intro d hd
  rw [List.eq_of_mem_replicate hd]
  exact hc

end Quoteless

inductive Canonical : List Segment → Prop
  | nil : Canonical []
  | code {s : Text} : s ≠ [] → Quoteless s → Canonical [.code s]
  | pair {s body : Text} {quote : Char} {segs : List Segment} : Quoteless s → isQuote quote = true →
    Closed quote body → Canonical segs → Canonical (.code s :: .literal (quote :: body) :: segs)

theorem ne_backslash_of_isQuote {quote : Char} (h : isQuote quote = true) : quote ≠ '\\' := by
  rintro rfl
  exact absurd h (by decide)

theorem closed_of_closing? {quote : Char} {s body rest : Text}
    (h : closing? quote s = some (body, rest)) : Closed quote body := by
  fun_induction closing? quote s generalizing body rest with
  | case1 => cases h
  | case2 => cases h; exact .close
  | case3 => cases h
  | case4 e s hq ih =>
    obtain ⟨r, hr, he⟩ := Option.map_eq_some_iff.mp h
    cases he
    exact .guarded (ih hr)
  | case5 c s hc hb ih =>
    obtain ⟨r, hr, he⟩ := Option.map_eq_some_iff.mp h
    cases he
    exact .plain hc hb (ih hr)

theorem Closed.closing? {quote : Char} (hq : quote ≠ '\\') {body : Text} (h : Closed quote body)
    (rest : Text) : Rule.closing? quote (body ++ rest) = some (body, rest) := by
  induction h with
  | close => rw [List.singleton_append, Rule.closing?.eq_def]; simp
  | plain hc hb _ ih => rw [List.cons_append, Rule.closing?.eq_def]; simp [hc, hb, ih]
  | guarded _ ih => simp [Rule.closing?, Ne.symm hq, ih]

theorem codeOf_quoteless (s : Text) : Quoteless (codeOf s) := by
  intro c hc
  simpa using List.all_eq_true.mp List.all_takeWhile c hc

theorem isQuote_of_afterCode {s t : Text} {quote : Char} (h : afterCode s = quote :: t) :
    isQuote quote = true := by
  have hp := List.head?_dropWhile_not (fun c => !isQuote c) s
  rw [show s.dropWhile (fun c => !isQuote c) = quote :: t from h] at hp
  simpa using hp

theorem Quoteless.codeOf_append {s t : Text} (h : Quoteless s) :
    codeOf (s ++ t) = s ++ codeOf t ∧ afterCode (s ++ t) = afterCode t := by
  have hp : ∀ c ∈ s, (!isQuote c) = true := fun c hc => by rw [h c hc]; rfl
  exact ⟨List.takeWhile_append_of_pos hp, List.dropWhile_append_of_pos hp⟩

theorem codeOf_quote {quote : Char} (h : isQuote quote = true) (s : Text) :
    codeOf (quote :: s) = [] ∧ afterCode (quote :: s) = quote :: s := by
  simp [codeOf, afterCode, h]

section Equations
variable {offset : Nat} {s t body rest : Text} {quote : Char}

theorem segmentsFrom_nil : segmentsFrom offset [] = .ok [] := by
  rw [segmentsFrom, if_pos rfl]

theorem segmentsFrom_code (hs : s ≠ []) (h : afterCode s = []) :
    segmentsFrom offset s = .ok [.code (codeOf s)] := by
  rw [segmentsFrom, if_neg hs]
  split
  · rfl
  · next h' => rw [h] at h'; cases h'

theorem ne_nil_of_afterCode (h : afterCode s = quote :: t) : s ≠ [] := by
  rintro rfl
  cases h

theorem segmentsFrom_open (h : afterCode s = quote :: t) (hc : closing? quote t = none) :
    segmentsFrom offset s = .error ⟨quote, offset + Text.width (codeOf s)⟩ := by
  rw [segmentsFrom, if_neg (ne_nil_of_afterCode h)]
  split
  · next h' => rw [h] at h'; cases h'
  · next h' =>
    cases h.symm.trans h'
    dsimp only
    split
    · rfl
    · next hc' => rw [hc] at hc'; cases hc'

theorem segmentsFrom_literal (h : afterCode s = quote :: t)
    (hc : closing? quote t = some (body, rest)) :
    segmentsFrom offset s =
      (segmentsFrom (offset + Text.width (codeOf s) + quote.utf8Size + Text.width body) rest).map
        fun more => .code (codeOf s) :: .literal (quote :: body) :: more := by
  rw [segmentsFrom, if_neg (ne_nil_of_afterCode h)]
  split
  · next h' => rw [h] at h'; cases h'
  · next h' =>
    cases h.symm.trans h'
    dsimp only
    split
    · next hc' => rw [hc] at hc'; cases hc'
    · next hc' => cases hc.symm.trans hc'; rfl

end Equations

theorem canonical_of_segmentsFrom {offset : Nat} {s : Text} {segs : List Segment}
    (h : segmentsFrom offset s = .ok segs) : Canonical segs ∧ segs.flatMap Segment.text = s := by
  fun_induction segmentsFrom offset s generalizing segs with
  | case1 => cases h; exact ⟨.nil, rfl⟩
  | case2 offset s hs hcode =>
    cases h
    have hall := codeOf_append_afterCode s
    rw [hcode, List.append_nil] at hall
    exact ⟨.code (by rwa [hall]) (codeOf_quoteless s), by simpa [Segment.text] using hall⟩
  | case3 => cases h
  | case4 offset s hs quote t hcode start body rest hclose =>
    rename_i ih
    cases hmore : segmentsFrom (start + quote.utf8Size + Text.width body) rest with
    | error e => rw [hmore] at h; cases h
    | ok more =>
      rw [hmore] at h
      cases h
      obtain ⟨hcan, htext⟩ := ih hmore
      have hall := codeOf_append_afterCode s
      rw [hcode, append_of_closing? hclose] at hall
      refine ⟨.pair (codeOf_quoteless s) (isQuote_of_afterCode hcode) (closed_of_closing? hclose)
        hcan, ?_⟩
      simp [Segment.text, htext, hall]

theorem Canonical.segmentsFrom {segs : List Segment} (h : Canonical segs) (offset : Nat) :
    Rule.segmentsFrom offset (segs.flatMap Segment.text) = .ok segs := by
  induction h generalizing offset with
  | nil => exact segmentsFrom_nil
  | @code s hs hq =>
    have hcut := hq.codeOf_append (t := [])
    rw [List.append_nil] at hcut
    have htext : [Segment.code s].flatMap Segment.text = s := by simp [Segment.text]
    rw [htext, segmentsFrom_code hs hcut.2, hcut.1]
    simp [codeOf]
  | @pair s body quote segs hs hq hclosed _ ih =>
    obtain ⟨hcode, hafter⟩ := hs.codeOf_append (t := quote :: (body ++ segs.flatMap Segment.text))
    obtain ⟨hnone, hself⟩ := codeOf_quote hq (body ++ segs.flatMap Segment.text)
    rw [hnone, List.append_nil] at hcode
    rw [hself] at hafter
    have htext : (Segment.code s :: .literal (quote :: body) :: segs).flatMap Segment.text =
        s ++ quote :: (body ++ segs.flatMap Segment.text) := by simp [Segment.text]
    rw [htext, segmentsFrom_literal hafter (hclosed.closing? (ne_backslash_of_isQuote hq) _), ih,
      hcode]
    rfl

/-- Splitting inverts writing the segments one after the other, on canonical lists. -/
theorem segments_eq_ok_iff {rule : Text} {segs : List Segment} :
    segments rule = .ok segs ↔ Canonical segs ∧ segs.flatMap Segment.text = rule :=
  ⟨canonical_of_segmentsFrom, fun ⟨h, htext⟩ => htext ▸ h.segmentsFrom 0⟩

end TurnRouter.Rule
