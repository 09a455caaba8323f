import TurnRouter.Proofs.Outcome
import TurnRouter.Proofs.Rule.Canonical

/-! # Splitting a rule by its bytes

Rules arrive in UTF-8. A scan that looks at single bytes, and after a backslash passes over one
byte however long the character there is, cuts a rule where the scan of its characters does: no
byte of a longer character is a quote or a backslash.
-/
namespace TurnRouter

namespace Text

def utf8 (s : Text) : List UInt8 := s.flatMap String.utf8EncodeChar

@[simp] theorem utf8_nil : utf8 [] = [] := rfl
@[simp] theorem utf8_cons (c : Char) (s : Text) :
    utf8 (c :: s) = String.utf8EncodeChar c ++ utf8 s := rfl
@[simp] theorem utf8_append (s t : Text) : utf8 (s ++ t) = utf8 s ++ utf8 t := List.flatMap_append
theorem length_utf8 (s : Text) : (utf8 s).length = width s := by
  induction s with
  | nil => rfl
  | cons c s ih => simp [ih]

/-- A character below U+0080 is its own byte; all bytes of another lie above. -/
theorem byte_of_mem_utf8EncodeChar {c : Char} {b : UInt8} (h : b ∈ String.utf8EncodeChar c) :
    b.toNat = c.toNat ∨ 0x80 ≤ c.toNat ∧ 0x80 ≤ b.toNat := by
  have hc : c.val.toNat = c.toNat := rfl
  revert h
  fun_cases String.utf8EncodeChar <;> simp only [List.mem_cons, List.not_mem_nil, or_false] <;>
    intro h <;> rcases h with rfl | rfl | rfl | rfl <;> simp only [UInt8.toNat_ofNat'] <;> omega

theorem toNat_toUInt8 {a : Char} (ha : a.toNat < 0x80) : a.toUInt8.toNat = a.toNat := by
  change a.val.toNat % 256 = a.toNat
  exact Nat.mod_eq_of_lt (Nat.lt_trans ha (by decide))

theorem utf8EncodeChar_ascii {a : Char} (ha : a.toNat < 0x80) :
    String.utf8EncodeChar a = [a.toUInt8] :=
  String.utf8EncodeChar_eq_singleton (Char.utf8Size_eq_one_iff.mpr (Nat.le_of_lt_succ ha))

theorem utf8_cons_ascii {a : Char} (ha : a.toNat < 0x80) (s : Text) :
    utf8 (a :: s) = a.toUInt8 :: utf8 s := by
  rw [utf8_cons, utf8EncodeChar_ascii ha]; rfl

theorem eq_of_mem_utf8EncodeChar {a c : Char} (ha : a.toNat < 0x80)
    (h : a.toUInt8 ∈ String.utf8EncodeChar c) : c = a := by
  have hb := byte_of_mem_utf8EncodeChar h
  rw [toNat_toUInt8 ha] at hb
  apply Char.toNat_inj.mp
  omega

theorem byte_of_mem_tail {c : Char} {b : UInt8} (h : b ∈ (String.utf8EncodeChar c).tail) :
    0x80 ≤ b.toNat := by
  by_cases hc : c.toNat < 0x80
  · rw [utf8EncodeChar_ascii hc] at h
    cases h
  · have := byte_of_mem_utf8EncodeChar (List.mem_of_mem_tail h)
    omega

end Text

namespace Rule

def isQuoteByte (b : UInt8) : Bool := b == 0x27 || b == 0x22

/-- Number of bytes from after an opening quote up to and with the closing one. -/
def literalEnd? (quote : UInt8) : List UInt8 → Option Nat
  | [] => none
  | b :: bs =>
    if b = 0x5C then
      match bs with
      | [] => none
      | _ :: bs => (literalEnd? quote bs).map (2 + ·)
    else if b = quote then some 1
    else (literalEnd? quote bs).map (1 + ·)

def codeBytes (bs : List UInt8) : List UInt8 := bs.takeWhile fun b => !isQuoteByte b
def afterCodeBytes (bs : List UInt8) : List UInt8 := bs.dropWhile fun b => !isQuoteByte b

theorem length_lt_of_afterCodeBytes {bs t : List UInt8} {quote : UInt8}
    (h : afterCodeBytes bs = quote :: t) (n : Nat) : (t.drop n).length < bs.length := by
  have hle : (afterCodeBytes bs).length ≤ bs.length := (List.dropWhile_suffix _).length_le
  rw [h, List.length_cons] at hle
  rw [List.length_drop]
  omega

/-- Splits bytes that start at the byte `offset` of their rule; literals are marked. -/
def segmentBytes (offset : Nat) (bs : List UInt8) :
    Except (UInt8 × Nat) (List (Bool × List UInt8)) :=
  if bs = [] then .ok []
  else
    match h : afterCodeBytes bs with
    | [] => .ok [(false, codeBytes bs)]
    | quote :: t =>
      let start := offset + (codeBytes bs).length
      match literalEnd? quote t with
      | none => .error (quote, start)
      | some n =>
        have := length_lt_of_afterCodeBytes h n
        (segmentBytes (start + (1 + n)) (t.drop n)).map
          fun more => (false, codeBytes bs) :: (true, quote :: t.take n) :: more
termination_by bs.length
decreasing_by exact this

def Segment.bytes (seg : Segment) : Bool × List UInt8 := (seg.isLiteral, Text.utf8 seg.text)
def Unterminated.bytes (e : Unterminated) : UInt8 × Nat := (e.quote.toUInt8, e.offset)

theorem ascii_of_isQuote {quote : Char} (h : isQuote quote = true) : quote.toNat < 0x80 := by
  rcases isQuote_iff.mp h with rfl | rfl <;> decide

theorem isQuoteByte_toUInt8 {quote : Char} (h : isQuote quote = true) :
    isQuoteByte quote.toUInt8 = true := by
  rcases isQuote_iff.mp h with rfl | rfl <;> rfl

theorem isQuoteByte_eq_false {c : Char} (hc : isQuote c = false) {b : UInt8}
    (hb : b ∈ String.utf8EncodeChar c) : isQuoteByte b = false := by
  rw [← Bool.not_eq_true]
  intro h
  simp only [isQuoteByte, Bool.or_eq_true, beq_iff_eq] at h
  rcases h with rfl | rfl
  · rw [Text.eq_of_mem_utf8EncodeChar (a := '\'') (by decide) hb] at hc; cases hc
  · rw [Text.eq_of_mem_utf8EncodeChar (a := '"') (by decide) hb] at hc; cases hc

theorem Quoteless.codeBytes_append {s : Text} (h : Quoteless s) (bs : List UInt8) :
    codeBytes (Text.utf8 s ++ bs) = Text.utf8 s ++ codeBytes bs ∧
      afterCodeBytes (Text.utf8 s ++ bs) = afterCodeBytes bs := by
  have hp : ∀ b ∈ Text.utf8 s, (!isQuoteByte b) = true := by
    intro b hb
    obtain ⟨c, hc, hb⟩ := List.mem_flatMap.mp hb
    rw [isQuoteByte_eq_false (h c hc) hb]; rfl
  exact ⟨List.takeWhile_append_of_pos hp, List.dropWhile_append_of_pos hp⟩

/-- Bytes that are neither the quote nor a backslash are passed over. -/
theorem literalEnd?_append {quote : UInt8} {bs more : List UInt8}
    (h : ∀ b ∈ bs, b ≠ quote ∧ b ≠ 0x5C) :
    literalEnd? quote (bs ++ more) = (literalEnd? quote more).map (bs.length + ·) := by
  induction bs with
  | nil => simp
  | cons b bs ih =>
    obtain ⟨hq, hb⟩ := h b List.mem_cons_self
    rw [List.cons_append, literalEnd?.eq_def]
    simp only [hq, hb, ↓reduceIte, ih fun b hb => h b (List.mem_cons_of_mem _ hb), Option.map_map]
    congr 1
    funext n
    simp only [Function.comp_apply, List.length_cons]
    omega

theorem literalEnd?_utf8 {quote : Char} (hq : isQuote quote = true) (s : Text) :
    literalEnd? quote.toUInt8 (Text.utf8 s) =
      (closing? quote s).map fun r => (Text.utf8 r.1).length := by
  have hslash : quote.toUInt8 ≠ 0x5C := by
    rcases isQuote_iff.mp hq with rfl | rfl <;> decide
  -- A byte of a character that is neither the quote nor a backslash is neither of them.
  have hpass : ∀ c : Char, c ≠ quote → c ≠ '\\' → ∀ b ∈ String.utf8EncodeChar c,
      b ≠ quote.toUInt8 ∧ b ≠ 0x5C := by
    intro c hc hb b hmem
    refine ⟨?_, ?_⟩
    · rintro rfl
      exact hc (Text.eq_of_mem_utf8EncodeChar (ascii_of_isQuote hq) hmem)
    · rintro rfl
      exact hb (Text.eq_of_mem_utf8EncodeChar (a := '\\') (by decide) hmem)
  fun_induction closing? quote s with
  | case1 => rfl
  | case2 s =>
    rw [Text.utf8_cons_ascii (ascii_of_isQuote hq), literalEnd?.eq_def]
    simp [hslash, Text.utf8EncodeChar_ascii (ascii_of_isQuote hq)]
  | case3 => rfl
  | case4 e s hne ih =>
    obtain ⟨b, more, hbytes⟩ := List.exists_cons_of_ne_nil (String.utf8EncodeChar_ne_nil (c := e))
    have htail : ∀ b' ∈ more, b' ≠ quote.toUInt8 ∧ b' ≠ 0x5C := by
      intro b' hb'
      have hhigh := Text.byte_of_mem_tail (c := e) (b := b') (by rw [hbytes]; exact hb')
      have hlow := Text.toNat_toUInt8 (ascii_of_isQuote hq)
      have := ascii_of_isQuote hq
      refine ⟨?_, ?_⟩
      · rintro rfl; omega
      · rintro rfl; exact absurd hhigh (by decide)
    have hhead : Text.utf8 ('\\' :: e :: s) = 0x5C :: b :: (more ++ Text.utf8 s) := by
      rw [Text.utf8_cons, Text.utf8_cons, hbytes]; rfl
    rw [hhead, literalEnd?, if_pos rfl, literalEnd?_append htail, ih]
    cases closing? quote s with
    | none => rfl
    | some r =>
      simp only [Option.map_some, Text.utf8_cons, hbytes, List.length_append, List.length_cons,
        Text.utf8EncodeChar_ascii (a := '\\') (by decide), List.length_nil]
      congr 1
      omega
  | case5 c s hc hb ih =>
    rw [Text.utf8_cons, literalEnd?_append (hpass c hc hb), ih]
    cases closing? quote s <;> simp

theorem codeBytes_utf8 (s : Text) : codeBytes (Text.utf8 s) = Text.utf8 (codeOf s) ∧
    afterCodeBytes (Text.utf8 s) = Text.utf8 (afterCode s) := by
  have h := (codeOf_quoteless s).codeBytes_append (Text.utf8 (afterCode s))
  rw [← Text.utf8_append, codeOf_append_afterCode] at h
  -- What follows the code is nothing or starts with a quote.
  have hend : codeBytes (Text.utf8 (afterCode s)) = [] ∧
      afterCodeBytes (Text.utf8 (afterCode s)) = Text.utf8 (afterCode s) := by
    cases hs : afterCode s with
    | nil => exact ⟨rfl, rfl⟩
    | cons quote t =>
      have hq := isQuote_of_afterCode hs
      rw [Text.utf8_cons_ascii (ascii_of_isQuote hq)]
      simp [codeBytes, afterCodeBytes, isQuoteByte_toUInt8 hq]
  rw [hend.1, hend.2, List.append_nil] at h
  exact h

section Equations
variable {offset n : Nat} {bs t : List UInt8} {quote : UInt8}

theorem segmentBytes_code (hs : bs ≠ []) (h : afterCodeBytes bs = []) :
    segmentBytes offset bs = .ok [(false, codeBytes bs)] := by
  rw [segmentBytes, if_neg hs]
  split
  · rfl
  · next h' => rw [h] at h'; cases h'

theorem ne_nil_of_afterCodeBytes (h : afterCodeBytes bs = quote :: t) : bs ≠ [] := by
  rintro rfl
  cases h

theorem segmentBytes_open (h : afterCodeBytes bs = quote :: t) (hc : literalEnd? quote t = none) :
    segmentBytes offset bs = .error (quote, offset + (codeBytes bs).length) := by
  rw [segmentBytes, if_neg (ne_nil_of_afterCodeBytes h)]
  split
  · next h' => rw [h] at h'; cases h'
  · next h' =>
    cases h.symm.trans h'
    rw [hc]

theorem segmentBytes_literal (h : afterCodeBytes bs = quote :: t)
    (hc : literalEnd? quote t = some n) :
    segmentBytes offset bs =
      (segmentBytes (offset + (codeBytes bs).length + (1 + n)) (t.drop n)).map
        fun more => (false, codeBytes bs) :: (true, quote :: t.take n) :: more := by
  rw [segmentBytes, if_neg (ne_nil_of_afterCodeBytes h)]
  split
  · next h' => rw [h] at h'; cases h'
  · next h' =>
    cases h.symm.trans h'
    rw [hc]

end Equations

/-- Both scans give the same segments, or fail at the same byte. -/
theorem segmentBytes_utf8 (offset : Nat) (s : Text) :
    segmentBytes offset (Text.utf8 s) =
      ((segmentsFrom offset s).map (List.map Segment.bytes)).mapError Unterminated.bytes := by
  fun_induction segmentsFrom offset s with
  | case1 => rw [Text.utf8_nil, segmentBytes, if_pos rfl]; rfl
  | case2 offset s hs hcode =>
    obtain ⟨hbytes, hafter⟩ := codeBytes_utf8 s
    have hne : Text.utf8 s ≠ [] := by
      rw [← List.length_pos_iff, Text.length_utf8]
      exact Text.width_pos hs
    rw [segmentBytes_code hne (by rw [hafter, hcode]; rfl), hbytes]
    rfl
  | case3 offset s hs quote t hcode start hclose =>
    have hq := isQuote_of_afterCode hcode
    obtain ⟨hbytes, hafter⟩ := codeBytes_utf8 s
    rw [hcode, Text.utf8_cons_ascii (ascii_of_isQuote hq)] at hafter
    rw [segmentBytes_open hafter (by rw [literalEnd?_utf8 hq, hclose]; rfl), hbytes,
      Text.length_utf8]
    rfl
  | case4 offset s hs quote t hcode start body rest hclose =>
    rename_i ih
    have hq := isQuote_of_afterCode hcode
    obtain ⟨hbytes, hafter⟩ := codeBytes_utf8 s
    rw [hcode, Text.utf8_cons_ascii (ascii_of_isQuote hq)] at hafter
    have htext : Text.utf8 t = Text.utf8 body ++ Text.utf8 rest := by
      rw [append_of_closing? hclose, Text.utf8_append]
    have hstart : offset + (codeBytes (Text.utf8 s)).length + (1 + (Text.utf8 body).length) =
        start + quote.utf8Size + Text.width body := by
      have := Char.utf8Size_eq_one_iff.mpr (Nat.le_of_lt_succ (ascii_of_isQuote hq))
      rw [hbytes, Text.length_utf8, Text.length_utf8]
      omega
    rw [segmentBytes_literal hafter (by rw [literalEnd?_utf8 hq, hclose]; rfl), hstart]
    rw [htext, List.drop_left, List.take_left, ih, hbytes]
    cases segmentsFrom (start + quote.utf8Size + Text.width body) rest with
    | error e => rfl
    | ok more =>
      simp [Segment.bytes, Segment.isLiteral, Segment.text,
        Text.utf8_cons_ascii (ascii_of_isQuote hq), -Text.utf8_cons]

/-- Splitting is a bijection between the rules it accepts and the canonical segment lists, with
writing one after the other as its inverse, and every cut falls between two characters. -/
theorem segments_bijective (rule : Text) (segs : List Segment) :
    (segments rule = .ok segs ↔ Canonical segs ∧ segs.flatMap Segment.text = rule) ∧
      segmentBytes 0 (Text.utf8 rule) =
        ((segments rule).map (List.map Segment.bytes)).mapError Unterminated.bytes :=
  ⟨segments_eq_ok_iff, segmentBytes_utf8 0 rule⟩

end Rule
end TurnRouter
