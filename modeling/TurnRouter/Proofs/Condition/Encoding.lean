import TurnRouter.Proofs.Condition.CodePoints
import TurnRouter.Proofs.Condition.Scan
import TurnRouter.Proofs.Condition.StringReading
import TurnRouter.Rule.Resolve

/-! # Ways to write a string

Between quotes most characters can be written in several ways: as they are, behind a backslash, or by
their code. Reading a string gives back the text, whichever way is chosen for each character.
-/
namespace TurnRouter.Condition

/-- The letters that a backslash makes into controls. -/
def shortEscapes : List (Char × Char) :=
  [('n', '\n'), ('t', '\t'), ('r', '\r'), ('b', '\x08'), ('f', '\x0c')]

/-- The characters that a backslash leaves as they are. -/
def selfEscapes : List Char := ['/', '\\', '\'', '"']

/-- The UTF-16 code units of a character. -/
def codeUnits (c : Char) : List Nat :=
  if c.toNat < 0x10000 then [c.toNat]
  else [0xD800 + (c.toNat - 0x10000) / 0x400, 0xDC00 + (c.toNat - 0x10000) % 0x400]

/-- Each unit is a backslash, `u` and four hexadecimal digits. -/
inductive UnitSpelling : List Nat → Text → Prop
  | nil : UnitSpelling [] []
  | cons {n : Nat} {ns : List Nat} {group s : Text} : HexGroup group n → UnitSpelling ns s →
    UnitSpelling (n :: ns) ('\\' :: 'u' :: (group ++ s))

/-- A character as it may be written between two quotes. -/
inductive Spelling (quote : Char) : Char → Text → Prop
  | raw {c : Char} : c ≠ quote → c ≠ '\\' → Spelling quote c [c]
  | short {letter c : Char} : (letter, c) ∈ shortEscapes → Spelling quote c ['\\', letter]
  | self {c : Char} : c ∈ selfEscapes → Spelling quote c ['\\', c]
  | units {c : Char} {s : Text} : UnitSpelling (codeUnits c) s → Spelling quote c s

/-- A text as it may be written between two quotes, each of its characters in some way. -/
inductive Encodes (quote : Char) : Text → Text → Prop
  | nil : Encodes quote [] []
  | cons {c : Char} {s part enc : Text} : Spelling quote c part → Encodes quote s enc →
    Encodes quote (c :: s) (part ++ enc)

section Units
variable {c : Char} {s : Text}

theorem unitSpelling_nil_iff : UnitSpelling [] s ↔ s = [] :=
  ⟨fun h => (by cases h; rfl), fun h => h ▸ .nil⟩

theorem unitSpelling_cons_iff {n : Nat} {ns : List Nat} : UnitSpelling (n :: ns) s ↔
    ∃ group t, s = '\\' :: 'u' :: (group ++ t) ∧ HexGroup group n ∧ UnitSpelling ns t := by
  constructor
  · rintro (_ | ⟨hgroup, hmore⟩)
    exact ⟨_, _, rfl, hgroup, hmore⟩
  · rintro ⟨group, t, rfl, hgroup, hmore⟩
    exact .cons hgroup hmore

/-- A single unit is no surrogate, and two units are a surrogate pair. -/
theorem codePoint_of_unitSpelling (h : UnitSpelling (codeUnits c) s) :
    ∃ e, s = '\\' :: 'u' :: e ∧ CodePoint HexGroup e c := by
  have hvalid : c.toNat < 0xD800 ∨ 0xDFFF < c.toNat ∧ c.toNat < 0x110000 := c.valid
  unfold codeUnits at h
  split at h
  · next hsmall =>
    simp only [unitSpelling_cons_iff, unitSpelling_nil_iff] at h
    obtain ⟨group, _, rfl, hgroup, rfl⟩ := h
    have hhigh : isHighSurrogate c.toNat = false := by
      simp only [isHighSurrogate, Bool.and_eq_false_iff, decide_eq_false_iff_not]
      omega
    have hlow : isLowSurrogate c.toNat = false := by
      simp only [isLowSurrogate, Bool.and_eq_false_iff, decide_eq_false_iff_not]
      omega
    have hpoint := CodePoint.unit hgroup hhigh hlow
    rw [Char.ofNat_toNat] at hpoint
    exact ⟨group, by rw [List.append_nil], hpoint⟩
  · next hlarge =>
    simp only [unitSpelling_cons_iff, unitSpelling_nil_iff] at h
    obtain ⟨group, _, rfl, hgroup, group', _, rfl, hgroup', rfl⟩ := h
    have hhigh : isHighSurrogate (0xD800 + (c.toNat - 0x10000) / 0x400) = true := by
      simp only [isHighSurrogate, Bool.and_eq_true, decide_eq_true_eq]
      omega
    have hlow : isLowSurrogate (0xDC00 + (c.toNat - 0x10000) % 0x400) = true := by
      simp only [isLowSurrogate, Bool.and_eq_true, decide_eq_true_eq]
      omega
    have hjoin : joinSurrogates (0xD800 + (c.toNat - 0x10000) / 0x400)
        (0xDC00 + (c.toNat - 0x10000) % 0x400) = c := by
      have hcode : 0x10000 + (0xD800 + (c.toNat - 0x10000) / 0x400 - 0xD800) * 0x400 +
          (0xDC00 + (c.toNat - 0x10000) % 0x400 - 0xDC00) = c.toNat := by omega
      rw [joinSurrogates, hcode, Char.ofNat_toNat]
    have hpoint := CodePoint.pair hgroup hhigh hgroup' hlow
    rw [hjoin] at hpoint
    exact ⟨_, by rw [List.append_nil], hpoint⟩

end Units

section Reading
variable {start : Nat} {quote c : Char} {s part enc rest : Text} (hq : Rule.isQuote quote = true)
include hq

theorem readBody_spelling (h : Spelling quote c part) (rest : Text) :
    readBody start quote (part ++ rest) = Reading.after [c] part (readBody start quote rest) := by
  have hne := Rule.ne_backslash_of_isQuote hq
  cases h with
  | raw hquote hslash => exact readBody_plain hquote hslash
  | @short letter _ hmem =>
    have hletter : ∀ p ∈ shortEscapes, p.1 ≠ 'u' ∧ unescape p.1 = [p.2] := by decide
    obtain ⟨hu, hvalue⟩ := hletter _ hmem
    rw [← hvalue]
    exact readBody_guarded hne hu
  | self hmem =>
    have hself : c ≠ 'u' ∧ unescape c = [c] := by
      simp only [selfEscapes, List.mem_cons, List.not_mem_nil, or_false] at hmem
      obtain rfl | rfl | rfl | rfl := hmem <;> decide
    have hread : readBody start quote ('\\' :: c :: rest) =
        Reading.after (unescape c) ['\\', c] (readBody start quote rest) := readBody_guarded hne hself.1
    rw [hself.2] at hread
    exact hread
  | units hunits =>
    obtain ⟨e, rfl, hpoint⟩ := codePoint_of_unitSpelling hunits
    have hread : readCodePoint (e ++ rest) = .ok ⟨c, e, rest⟩ :=
      readCodePoint_eq_ok_iff.mpr ⟨rfl, hpoint.mono fun _ _ => HexGroup.unitGroup⟩
    exact readBody_unit hne hread

theorem readBody_encodes (h : Encodes quote s enc) (rest : Text) :
    readBody start quote (enc ++ quote :: rest) = .ok ⟨s, enc ++ [quote], rest⟩ := by
  induction h with
  | nil => exact readBody_quote
  | cons hpart _ ih =>
    rw [List.append_assoc, readBody_spelling hq hpart, ih]
    simp [Reading.after]

end Reading

section Written
variable {start : Nat}

theorem hexGroup_hex4 {n : Nat} (h : n < 0x20) : HexGroup (Text.hex4 n) n := by
  have hall : ∀ n < 0x20, (Text.hex4 n).length = 4 ∧ hexValue? (Text.hex4 n) = some n := by
    decide +kernel
  obtain ⟨hlength, hvalue⟩ := hall n h
  exact ⟨hlength, hexValue?_eq_some_iff.mp hvalue⟩

/-- JSON writes each character in one of the ways. -/
theorem spelling_escapeChar (c : Char) : Spelling '"' c (Json.escapeChar c) := by
  unfold Json.escapeChar
  split
  · next hself =>
    obtain rfl | rfl := hself <;> exact .self (by decide)
  · next hself =>
    obtain ⟨hquote, hslash⟩ := not_or.mp hself
    split_ifs with hb hf hn hr ht hcontrol
    · exact .short (by rw [hb]; decide)
    · exact .short (by rw [hf]; decide)
    · exact .short (by rw [hn]; decide)
    · exact .short (by rw [hr]; decide)
    · exact .short (by rw [ht]; decide)
    · have hunits : codeUnits c = [c.toNat] := if_pos (by omega)
      refine .units ?_
      rw [hunits, unitSpelling_cons_iff]
      exact ⟨_, [], by rw [List.append_nil], hexGroup_hex4 hcontrol, .nil⟩
    · exact .raw hquote hslash

theorem encodes_escapes (value : Text) : Encodes '"' value (value.flatMap Json.escapeChar) := by
  induction value with
  | nil => exact .nil
  | cons c value ih => exact .cons (spelling_escapeChar c) ih

/-- The rest of a JSON string after its opening quote. -/
def writtenBody (value : Text) : Text := value.flatMap Json.escapeChar ++ ['"']

theorem writeString_eq (value : Text) : Json.writeString value = '"' :: writtenBody value := rfl

theorem readBody_written (value rest : Text) :
    readBody start '"' (writtenBody value ++ rest) = .ok ⟨value, writtenBody value, rest⟩ := by
  rw [writtenBody, List.append_assoc]
  exact readBody_encodes rfl (encodes_escapes value) rest

theorem settled_written (value : Text) : Settled '"' (writtenBody value) :=
  .inl ⟨value, fun _ rest => readBody_written value rest⟩

theorem readToken_written (value rest : Text) :
    readToken start '"' (writtenBody value ++ rest) =
      .ok ⟨.value (.string value), Json.writeString value, rest⟩ := by
  rw [readToken_quote rfl, readString, readBody_written, writeString_eq]

/-- Reading a string undoes each way to write it and ends right behind the closing quote. The text of
a placeholder with a string for its value is one of these ways. -/
theorem strings_decoded :
    (∀ (quote : Char) (s enc : Text), Rule.isQuote quote = true → Encodes quote s enc →
      ∀ start rest,
        readString start quote (enc ++ quote :: rest) =
          .ok ⟨.value (.string s), quote :: (enc ++ [quote]), rest⟩ ∧
        lexFrom start (quote :: (enc ++ quote :: rest)) =
          (lexFrom (start + Text.width (quote :: (enc ++ [quote]))) rest).map
            (⟨.value (.string s), quote :: (enc ++ [quote]), start⟩ :: ·)) ∧
    ∀ (ctx : Context) (opts : Options) (f : Rule.Family) (name value : Text),
      f.value ctx opts name = .str value →
      ∃ enc, (Rule.Span.placeholder f name).resolve ctx opts = '"' :: (enc ++ ['"']) ∧
        Encodes '"' value enc := by
  constructor
  · intro quote s enc hq henc start rest
    have hread : readString start quote (enc ++ quote :: rest) =
        .ok ⟨.value (.string s), quote :: (enc ++ [quote]), rest⟩ := by
      rw [readString, readBody_encodes hq henc]
    refine ⟨hread, ?_⟩
    rw [lexFrom_token (isBlank_quote hq), readToken_quote hq, hread, bind_ok]
  · intro ctx opts f name value hvalue
    refine ⟨value.flatMap Json.escapeChar, ?_, encodes_escapes value⟩
    rw [Rule.Span.resolve, hvalue, Json.write]
    rfl

end Written

section Mixing

private def mixed : Text := "/é\n'😀".toList

/-- As it is, by digits in both cases, by a letter, as the quote itself and as a surrogate pair. -/
private def mixedParts : List Text :=
  ["/", "\\u00e9", "\\n", "\\'", "\\uD83D\\uDe00"].map String.toList

private theorem encodes_mixed : Encodes '\'' mixed mixedParts.flatten := by
  have haccent : UnitSpelling (codeUnits 'é') "\\u00e9".toList :=
    unitSpelling_cons_iff.mpr ⟨"00e9".toList, [], rfl, by decide, .nil⟩
  have hlow : UnitSpelling [0xDE00] "\\uDe00".toList :=
    unitSpelling_cons_iff.mpr ⟨"De00".toList, [], rfl, by decide, .nil⟩
  have hface : UnitSpelling (codeUnits '😀') "\\uD83D\\uDe00".toList :=
    unitSpelling_cons_iff.mpr ⟨"D83D".toList, "\\uDe00".toList, rfl, by decide, hlow⟩
  exact .cons (.raw (by decide) (by decide)) <| .cons (.units haccent) <|
    .cons (.short (by decide)) <| .cons (.self (by decide)) <| .cons (.units hface) .nil

/-- A guest who says the mixed text. -/
private def saying : Context := ⟨none, [], fun _ => some mixed, fun _ default => default⟩

theorem strings_decoded_mixed :
    readString 0 '\'' ("/\\u00e9\\n\\'\\uD83D\\uDe00' == slot".toList) =
      .ok ⟨.value (.string mixed), "'/\\u00e9\\n\\'\\uD83D\\uDe00'".toList, " == slot".toList⟩ ∧
    lex "'/\\u00e9\\n\\'\\uD83D\\uDe00'".toList =
      .ok [⟨.value (.string mixed), "'/\\u00e9\\n\\'\\uD83D\\uDe00'".toList, 0⟩] ∧
    ∃ enc, (Rule.Span.placeholder .slot "name".toList).resolve saying {} = '"' :: (enc ++ ['"']) ∧
      Encodes '"' mixed enc := by
  obtain ⟨hread, hwritten⟩ := strings_decoded
  refine ⟨(hread '\'' _ _ rfl encodes_mixed 0 " == slot".toList).1, ?_,
    hwritten saying {} .slot "name".toList mixed rfl⟩
  rw [lex]
  exact (hread '\'' _ _ rfl encodes_mixed 0 []).2.trans (by rw [lexFrom_nil]; rfl)

end Mixing

end TurnRouter.Condition
