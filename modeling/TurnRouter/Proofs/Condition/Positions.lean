import TurnRouter.Proofs.Condition.Escapes

/-! # Places in a condition

The lexemes of a text stand in it one behind the other, and around them there are only blanks. An
error that names a place names a character of the text, and what it says of that place is so.
-/
namespace TurnRouter

/-- The part stands in the text at the byte `offset`. -/
def Text.StandsAt (s : Text) (offset : Nat) (part : Text) : Prop :=
  ∃ before after, s = before ++ (part ++ after) ∧ offset = Text.width before

theorem Text.StandsAt.head {s part : Text} {offset : Nat} (h : s.StandsAt offset part)
    (hpart : part ≠ []) : ∃ c, s.StandsAt offset [c] := by
  obtain ⟨before, after, rfl, rfl⟩ := h
  obtain ⟨c, part, rfl⟩ := List.exists_cons_of_ne_nil hpart
  exact ⟨c, before, part ++ after, rfl, rfl⟩

/-- A character of two texts put together is one of the first or of the second. -/
theorem Text.side_of_append {before after s t : Text} {c : Char}
    (h : before ++ c :: after = s ++ t) :
    (∃ more, s = before ++ c :: more) ∨ ∃ more, before = s ++ more ∧ t = more ++ c :: after := by
  obtain ⟨more, hs, hmore⟩ | ⟨more, hbefore, ht⟩ := List.append_eq_append_iff.mp h
  · cases more with
    | nil => exact .inr ⟨[], by rw [hs, List.append_nil, List.append_nil], hmore.symm⟩
    | cons d more =>
      obtain ⟨rfl, -⟩ := List.cons_eq_cons.mp hmore
      exact .inl ⟨more, hs⟩
  · exact .inr ⟨more, hbefore, ht⟩

namespace Condition

/-- The byte behind a lexeme. -/
def Lexeme.stop (l : Lexeme) : Nat := l.offset + Text.width l.source

/-- The lexemes stand in the text one behind the other, with blanks around them. -/
structure Covers (ls : List Lexeme) (s : Text) : Prop where
  source_ne_nil : ∀ l ∈ ls, l.source ≠ []
  standsAt : ∀ l ∈ ls, s.StandsAt l.offset l.source
  ascending : ls.Pairwise fun l m => l.stop ≤ m.offset
  blank_or_inside : ∀ c offset, s.StandsAt offset [c] →
    isBlank c = true ∨ ∃ l ∈ ls, l.offset ≤ offset ∧ offset + c.utf8Size ≤ l.stop

namespace Scan
variable {offset offset' : Nat} {s s' : Text} {ls : List Lexeme}

theorem standsAt {part rest : Text} (h : Scan 0 s ls offset (part ++ rest)) :
    s.StandsAt offset part := by
  obtain ⟨before, hs, hoffset⟩ := h.source
  exact ⟨before, rest, hs, by rw [hoffset, Nat.zero_add]⟩

theorem source_of_mem (h : Scan 0 s ls offset' s') {l : Lexeme} (hl : l ∈ ls) :
    l.source ≠ [] ∧ s.StandsAt l.offset l.source := by
  obtain ⟨before, c, t, rest, hscan, -, hread⟩ := h.of_mem hl
  obtain ⟨hsplit, hne⟩ := splits_of_readToken hread
  have hsource : c :: t = l.source ++ rest := hsplit
  rw [hsource] at hscan
  exact ⟨hne, hscan.standsAt⟩

theorem le_of_mem (h : Scan offset s ls offset' s') {l : Lexeme} (hl : l ∈ ls) :
    offset ≤ l.offset := by
  obtain ⟨before, c, t, rest, hscan, -, -⟩ := h.of_mem hl
  obtain ⟨part, -, hoffset⟩ := hscan.source
  omega

theorem ascending (h : Scan offset s ls offset' s') :
    ls.Pairwise fun l m => l.stop ≤ m.offset := by
  induction h with
  | done => exact .nil
  | blank _ _ ih => exact ih
  | token _ _ hrest ih => exact .cons (fun m hm => hrest.le_of_mem hm) ih

theorem blank_or_inside (h : Scan offset s ls offset' s') (hs' : s' = []) {before after : Text}
    {c : Char} (hs : s = before ++ c :: after) :
    isBlank c = true ∨ ∃ l ∈ ls, l.offset ≤ offset + Text.width before ∧
      offset + Text.width before + c.utf8Size ≤ l.stop := by
  induction h generalizing before with
  | done =>
    subst hs'
    exact absurd hs.symm (by simp)
  | @blank offset offset' d s s' ls hd _ ih =>
    cases before with
    | nil =>
      obtain ⟨rfl, -⟩ := List.cons_eq_cons.mp hs
      exact .inl hd
    | cons d' before =>
      obtain ⟨rfl, hrest⟩ := List.cons_eq_cons.mp hs
      rw [Text.width_cons, ← Nat.add_assoc]
      exact ih hs' hrest
  | @token offset offset' d s s' r ls hd hr _ ih =>
    have hsplit : d :: s = r.source ++ r.rest := (splits_of_readToken hr).1
    rw [hs] at hsplit
    obtain ⟨more, hsource⟩ | ⟨more, rfl, hrest⟩ := Text.side_of_append hsplit
    · refine .inr ⟨_, List.mem_cons_self, Nat.le_add_right _ _, ?_⟩
      simp only [Lexeme.stop, hsource, Text.width_append, Text.width_cons]
      omega
    · obtain hblank | ⟨l, hl, hle, hstop⟩ := ih hs' hrest
      · exact .inl hblank
      · rw [Text.width_append, ← Nat.add_assoc]
        exact .inr ⟨l, List.mem_cons_of_mem _ hl, hle, hstop⟩

theorem covers (h : Scan 0 s ls offset []) : Covers ls s where
  source_ne_nil _ hl := (h.source_of_mem hl).1
  standsAt _ hl := (h.source_of_mem hl).2
  ascending := h.ascending
  blank_or_inside := by
    rintro c offset ⟨before, after, hs, rfl⟩
    have hplace := h.blank_or_inside rfl hs
    rwa [Nat.zero_add] at hplace

end Scan

theorem covers_of_lex {s : Text} {ls : List Lexeme} (h : lex s = .ok ls) : Covers ls s :=
  (lexFrom_eq_ok_iff.mp h).covers

/-- The lexeme of this token starts at the byte `offset` of the text. -/
def HasLexeme (s : Text) (token : Token) (offset : Nat) : Prop :=
  ∃ ls, lex s = .ok ls ∧ ∃ l ∈ ls, l.token = token ∧ l.offset = offset

theorem HasLexeme.standsAt {s : Text} {token : Token} {offset : Nat} (h : HasLexeme s token offset) :
    ∃ c, s.StandsAt offset [c] := by
  obtain ⟨ls, hlex, l, hl, -, rfl⟩ := h
  have hcovers := covers_of_lex hlex
  exact (hcovers.standsAt l hl).head (hcovers.source_ne_nil l hl)

namespace Error

/-- The byte that an error names. -/
def offset? : Error → Option Nat
  | unexpectedChar _ offset | unknownWord _ offset | unterminatedString offset
  | unexpectedToken _ offset | trailingInput _ offset => some offset
  | malformedEscape _ | loneSurrogate _ | unexpectedEnd | typeMismatch _ _ _ | tooDeep _ => none

/-- If an error is about a lexeme, it is one of these. -/
def About (ts : List Lexeme) : Error → Prop
  | unexpectedToken token offset | trailingInput token offset =>
    ∃ t ∈ ts, t.token = token ∧ t.offset = offset
  | _ => True

/-- What an error says of the place it names holds of the text. -/
def HoldsOf (s : Text) : Error → Prop
  | unexpectedChar c offset => s.StandsAt offset [c]
  | unterminatedString offset => ∃ ls quote rest, Scan 0 s ls offset (quote :: rest) ∧
    Rule.isQuote quote = true ∧ ∀ body more, rest = body ++ more → ¬ Rule.Closed quote body
  | unknownWord word offset => word ≠ [] ∧ (∀ c ∈ word, isWordChar c = true) ∧
    (∃ before after, s = before ++ (word ++ after) ∧ offset = Text.width before ∧
      ∀ c ∈ after.head?, isWordChar c = false) ∧
    '\'' :: (word ++ ['\'']) <:+: (unknownWord word offset).message
  | unexpectedToken token offset => HasLexeme s token offset ∧
    token.description <:+: (unexpectedToken token offset).message
  | trailingInput token offset => HasLexeme s token offset ∧
    token.description <:+: (trailingInput token offset).message
  | _ => True

theorem About.mono {ts us : List Lexeme} {e : Error} (h : e.About us) (hus : us ⊆ ts) :
    e.About ts := by
  cases e with
  | unexpectedToken token offset =>
    obtain ⟨t, ht, hplace⟩ := h
    exact ⟨t, hus ht, hplace⟩
  | trailingInput token offset =>
    obtain ⟨t, ht, hplace⟩ := h
    exact ⟨t, hus ht, hplace⟩
  | _ => trivial

end Error

section Lexing
variable {start stop : Nat} {quote : Char} {s : Text} {e : Error}

theorem error_of_readBody (h : readBody start quote s = .error e) :
    e = .unterminatedString start ∨ e.variant = .invalidEscape := by
  fun_induction readBody start quote s with
  | case1 => cases h; exact .inl rfl
  | case2 => cases h
  | case3 => cases h; exact .inl rfl
  | case4 s e' hbad => cases h; exact .inr (variant_of_readCodePoint hbad)
  | case5 s x hr hle hc ih => exact ih (Reading.error_of_after h)
  | case6 c s hu hc ih => exact ih (Reading.error_of_after h)
  | case7 c s hc hb ih => exact ih (Reading.error_of_after h)

theorem stage_of_readToken {c : Char} (h : readToken start c s = .error e) : e.stage = .lexing := by
  cases hq : Rule.isQuote c with
  | true =>
    rw [readToken_quote hq, readString] at h
    split at h
    · cases h
    · next hbody =>
      cases h
      obtain rfl | hvariant := error_of_readBody hbody
      · rfl
      · exact stage_of_invalidEscape hvariant
  | false => obtain rfl | ⟨word, rfl⟩ := error_of_readToken hq h <;> rfl

theorem stage_of_lex (h : lex s = .error e) : e.stage = .lexing := by
  obtain ⟨stop, ls, c, t, -, -, hread⟩ := lexFrom_eq_error_iff.mp h
  exact stage_of_readToken hread

/-- A string that is found to have no end has none, whatever its escapes. -/
theorem not_closed_of_readBody (hq : Rule.isQuote quote = true)
    (h : readBody start quote s = .error (.unterminatedString start)) {body more : Text}
    (hs : s = body ++ more) : ¬ Rule.Closed quote body := by
  intro hclosed
  subst hs
  obtain ⟨v, hv⟩ | hbad := settled_of_closed hq body hclosed
  · cases (hv start more).symm.trans h
  · obtain ⟨e, he, hvariant⟩ := hbad start more
    cases he.symm.trans h
    cases hvariant

theorem startsWord_isWordChar {c : Char} (h : startsWord c = true) : isWordChar c = true := by
  obtain h | h := Bool.or_eq_true_iff.mp h
  · simp [isWordChar, isAlphanumeric, h]
  · simp [isWordChar, h]

theorem infix_message_unknownWord (word : Text) (offset : Nat) :
    '\'' :: (word ++ ['\'']) <:+: (Error.unknownWord word offset).message := by
  refine ⟨"unexpected identifier ".toList, " at byte ".toList ++ Text.ofNat offset, ?_⟩
  change _ = "unexpected identifier '".toList ++ word ++
    '\'' :: (" at byte ".toList ++ Text.ofNat offset)
  simp

theorem holdsOf_unknownWord {ls : List Lexeme} {c : Char} {t : Text} (hc : startsWord c = true)
    (h : Scan 0 s ls stop (c :: t)) :
    (Error.unknownWord ((c :: t).takeWhile isWordChar) stop).HoldsOf s := by
  obtain ⟨before, hs, hstop⟩ := h.source
  have hsplit : c :: t = (c :: t).takeWhile isWordChar ++ (c :: t).dropWhile isWordChar :=
    List.takeWhile_append_dropWhile.symm
  refine ⟨?_, fun d hd => List.all_eq_true.mp List.all_takeWhile d hd,
    ⟨before, (c :: t).dropWhile isWordChar, by rw [← hsplit, hs], by omega, ?_⟩,
    infix_message_unknownWord _ stop⟩
  · rw [List.takeWhile_cons, startsWord_isWordChar hc]
    exact List.cons_ne_nil _ _
  · intro d hd
    have hnot := List.head?_dropWhile_not isWordChar (c :: t)
    rw [hd] at hnot
    simpa using hnot

theorem Stops.holdsOf (h : Stops 0 s stop e) : e.HoldsOf s := by
  obtain ⟨ls, c, t, hscan, -, hread⟩ := h
  have hchar : s.StandsAt stop [c] := hscan.standsAt
  obtain ⟨r, -, hcase⟩ | ⟨hq, hcase⟩ | ⟨-, hcase⟩ | ⟨hword, hcase⟩ | hcase :=
    readToken_cases stop c t
  · cases hcase.symm.trans hread
  · rw [hcase, readString] at hread
    split at hread
    · cases hread
    · next hbody =>
      cases hread
      obtain rfl | hvariant := error_of_readBody hbody
      · exact ⟨ls, c, t, hscan, hq, fun body more => not_closed_of_readBody hq hbody⟩
      · cases e <;> trivial
  · rw [hcase, readNumber] at hread
    split at hread <;> cases hread
    exact hchar
  · rw [hcase, readWord] at hread
    split at hread
    · cases hread
    · cases hread
      exact holdsOf_unknownWord hword hscan
  · cases hcase.symm.trans hread
    exact hchar

end Lexing

namespace Parser

/-- What is left of these lexemes is an end of them, and an error is about one of them. -/
def Stays {α : Type} (ts : List Lexeme) : Answer α → Prop
  | .ok x => x.2 <:+ ts
  | .error e => e.About ts

theorem Stays.widen {α : Type} {ts us : List Lexeme} {x : Answer α} (h : Stays us x)
    (hus : us <:+ ts) : Stays ts x := by
  cases x with
  | ok a => exact List.IsSuffix.trans h hus
  | error e => exact Error.About.mono h hus.subset

theorem kept_stays (limit : Nat) : Kept limit fun _ _ ts x _ => Stays ts x where
  ok _ ts := List.suffix_refl ts
  bind {_ _ _ _ x _ _ _} hx hf := by
    cases x with
    | ok a => exact (hf a rfl).widen hx
    | error e => exact hx
  behind {_ _ t ts _ _} h := h.widen (List.suffix_cons t ts)
  inside {_ _ t ts _ _} h := h.widen (List.suffix_cons t ts)
  unexpectedEnd := trivial
  unexpectedToken {_ _ t _} := ⟨t, List.mem_cons_self, rfl, rfl⟩
  tooDeep := trivial

theorem about_of_parseLexemes {limit : Nat} {ts : List Lexeme} {e : Error}
    (h : parseLexemes limit ts = .error e) : e.About ts := by
  rw [parseLexemes_eq] at h
  have hstays := (kept_stays limit).condition (Nat.le_refl limit) ts
  obtain hall | ⟨x, hx, hrest⟩ := bind_eq_error.mp h
  · rw [hall] at hstays
    exact hstays
  · rw [hx] at hstays
    split at hrest
    · cases hrest
    · next t us hus =>
      cases hrest
      refine ⟨t, hstays.subset ?_, rfl, rfl⟩
      rw [hus]
      exact List.mem_cons_self

end Parser

section Errors
variable {s : Text} {e : Error}

theorem infix_message_unexpectedToken (token : Token) (offset : Nat) :
    token.description <:+: (Error.unexpectedToken token offset).message :=
  ⟨"unexpected ".toList, " at byte ".toList ++ Text.ofNat offset, rfl⟩

theorem infix_message_trailingInput (token : Token) (offset : Nat) :
    token.description <:+: (Error.trailingInput token offset).message :=
  ⟨"unexpected trailing ".toList, " at byte ".toList ++ Text.ofNat offset, rfl⟩

theorem holdsOf_of_parseLexemes {limit : Nat} {ls : List Lexeme} (hlex : lex s = .ok ls)
    (h : parseLexemes limit ls = .error e) : e.HoldsOf s := by
  have habout := Parser.about_of_parseLexemes h
  have hstage := Parser.stage_of_parseLexemes h
  cases e with
  | unexpectedToken token offset =>
    exact ⟨⟨ls, hlex, habout⟩, infix_message_unexpectedToken token offset⟩
  | trailingInput token offset =>
    exact ⟨⟨ls, hlex, habout⟩, infix_message_trailingInput token offset⟩
  | unexpectedEnd | tooDeep _ | typeMismatch _ _ _ => trivial
  | _ => cases hstage

theorem holdsOf_of_evaluate {limit : Nat} (h : evaluate limit s = .error e) : e.HoldsOf s := by
  rw [evaluate_eq_bind] at h
  obtain hlex | ⟨ls, hlex, hlater⟩ := bind_eq_error.mp h
  · obtain ⟨stop, hstop⟩ := lexFrom_eq_error_iff.mp hlex
    exact hstop.holdsOf
  obtain hparse | ⟨tree, -, heval⟩ := bind_eq_error.mp hlater
  · exact holdsOf_of_parseLexemes hlex hparse
  · have hstage := stage_of_eval _ _ (map_eq_error.mp heval)
    cases e <;> trivial

/-- An error that names a place names a character. -/
theorem Error.HoldsOf.standsAt (h : e.HoldsOf s) {offset : Nat} (ho : e.offset? = some offset) :
    ∃ c, s.StandsAt offset [c] := by
  cases e with
  | unexpectedChar c _ =>
    cases ho
    exact ⟨c, h⟩
  | unterminatedString _ =>
    cases ho
    obtain ⟨ls, quote, rest, hscan, -⟩ := h
    have hquote : s.StandsAt offset [quote] := hscan.standsAt
    exact ⟨quote, hquote⟩
  | unknownWord word _ =>
    cases ho
    obtain ⟨hne, -, ⟨before, after, hs, hoffset, -⟩, -⟩ := h
    exact Text.StandsAt.head ⟨before, after, hs, hoffset⟩ hne
  | unexpectedToken token _ =>
    cases ho
    exact h.1.standsAt
  | trailingInput token _ =>
    cases ho
    exact h.1.standsAt
  | _ => cases ho

end Errors

/-- The lexemes of a text cover it up to blanks. An error that names a place names a character of the
text, and what it says of that place is so. -/
theorem places_real (s : Text) :
    (∀ ls, lex s = .ok ls → Covers ls s) ∧
    ∀ limit e, evaluate limit s = .error e →
      (∀ offset, e.offset? = some offset → ∃ c, s.StandsAt offset [c]) ∧ e.HoldsOf s := by
  refine ⟨fun ls h => covers_of_lex h, fun limit e h => ?_⟩
  have hholds := holdsOf_of_evaluate h
  exact ⟨fun offset ho => hholds.standsAt ho, hholds⟩

/-- Behind a character of two bytes, a lexeme, a word and a second value are where they are said to be. -/
theorem places_real_accented :
    Covers [⟨.value (.string ['é']), "'é'".toList, 0⟩, ⟨.compare .lt, ['<'], 5⟩,
      ⟨.value .null, "null".toList, 6⟩] "'é' <null".toList ∧
    (Error.unknownWord "é1".toList 5).HoldsOf "'é' é1<".toList ∧
    (Error.trailingInput (.value .null) 5).HoldsOf "'é' null".toList := by
  have hlex : lex "'é' <null".toList = .ok [⟨.value (.string ['é']), "'é'".toList, 0⟩,
      ⟨.compare .lt, ['<'], 5⟩, ⟨.value .null, "null".toList, 6⟩] := by
    decide +kernel
  have hword : evaluate 0 "'é' é1<".toList = .error (.unknownWord "é1".toList 5) := by
    decide +kernel
  have htrailing : evaluate 0 "'é' null".toList = .error (.trailingInput (.value .null) 5) := by
    decide +kernel
  exact ⟨(places_real _).1 _ hlex, ((places_real _).2 0 _ hword).2,
    ((places_real _).2 0 _ htrailing).2⟩

end Condition
end TurnRouter
