import RpcTransport.Proofs.Json.Grammar

/-!
What is passed over is JSON. Each step of passing over takes a text of the grammar, so the texts
that are passed over as one value are exactly the values of the grammar.
-/

namespace RpcTransport.Json

/-! ### Numbers -/

section Numbers

variable {s digits rest : Bytes} {numeral : Numeral}

/-- The digits at the start of a text are digits, and after them comes the rest. -/
theorem digits_of_takeWhile (s : Bytes) :
    (∀ d ∈ s.takeWhile Ascii.isDigit, Ascii.isDigit d = true) ∧
      s = s.takeWhile Ascii.isDigit ++ s.dropWhile Ascii.isDigit :=
  ⟨fun _ member => List.mem_takeWhile_imp member, List.takeWhile_append_dropWhile.symm⟩

theorem isWhole_of_readWhole (read : Numeral.readWhole s = .ok (digits, rest)) :
    IsWhole digits ∧ s = digits ++ rest := by
  cases s with
  | nil => cases read
  | cons b s =>
      rw [Numeral.readWhole.eq_def] at read
      simp only at read
      split at read
      · next isZero =>
          subst isZero
          split at read
          · cases read
            exact ⟨.zero, rfl⟩
          · split at read
            · cases read
            · cases read
              exact ⟨.zero, rfl⟩
      · next notZero =>
          split at read
          · next first =>
              cases read
              obtain ⟨areDigits, split⟩ := digits_of_takeWhile s
              exact ⟨.digits first notZero areDigits, congrArg (b :: ·) split⟩
          · cases read

theorem exists_fraction_of_readFraction (read : Numeral.readFraction s = .ok (digits, rest)) :
    ∃ fraction, IsFraction fraction ∧ s = fraction ++ rest := by
  cases s with
  | nil =>
      cases read
      exact ⟨[], .none, rfl⟩
  | cons b s =>
      simp only [Numeral.readFraction] at read
      split at read
      · next isPoint =>
          subst isPoint
          split at read
          · cases read
          · cases read
          · next found after notEnded notStopped =>
              cases read
              obtain ⟨areDigits, split⟩ := digits_of_takeWhile s
              cases taken : s.takeWhile Ascii.isDigit with
              | nil =>
                  cases left : s.dropWhile Ascii.isDigit with
                  | nil => exact (notEnded taken left).elim
                  | cons c after => exact (notStopped c after taken left).elim
              | cons d others =>
                  rw [taken] at areDigits split
                  obtain ⟨first, areDigits⟩ := List.forall_mem_cons.mp areDigits
                  exact ⟨_, .digits (.digits first areDigits),
                    congrArg (Ascii.point :: ·) split⟩
      · cases read
        exact ⟨[], .none, rfl⟩

theorem isDigits_of_readExponentDigits {negative : Bool} {exponent : Option (Bool × Bytes)}
    (read : Numeral.readExponentDigits negative s = .ok (exponent, rest)) :
    ∃ digits, IsDigits digits ∧ s = digits ++ rest := by
  cases s with
  | nil => cases read
  | cons b s =>
      simp only [Numeral.readExponentDigits] at read
      split at read
      · next first =>
          cases read
          obtain ⟨areDigits, split⟩ := digits_of_takeWhile s
          exact ⟨_, .digits first areDigits, congrArg (b :: ·) split⟩
      · cases read

theorem exists_exponent_of_readExponent {exponent : Option (Bool × Bytes)}
    (read : Numeral.readExponent s = .ok (exponent, rest)) :
    ∃ text, IsExponent text ∧ s = text ++ rest := by
  cases s with
  | nil =>
      cases read
      exact ⟨[], .none, rfl⟩
  | cons mark s =>
      rw [Numeral.readExponent.eq_def] at read
      simp only at read
      split at read
      · next marked =>
          have isMark : mark = Ascii.byte 'e' ∨ mark = Ascii.byte 'E' := by simpa using marked
          split at read
          · cases read
          · next c s =>
              split at read
              · next isPlus =>
                  subst isPlus
                  obtain ⟨digits, isDigits, rfl⟩ := isDigits_of_readExponentDigits read
                  exact ⟨_, .digits isMark .plus isDigits, rfl⟩
              split at read
              · next isMinus =>
                  subst isMinus
                  obtain ⟨digits, isDigits, rfl⟩ := isDigits_of_readExponentDigits read
                  exact ⟨_, .digits isMark .minus isDigits, rfl⟩
              · obtain ⟨digits, isDigits, whole⟩ := isDigits_of_readExponentDigits read
                exact ⟨_, .digits isMark .none isDigits, congrArg (mark :: ·) whole⟩
      · cases read
        exact ⟨[], .none, rfl⟩

theorem exists_parts_of_readUnsigned {negative : Bool}
    (read : Numeral.readUnsigned negative s = .ok (numeral, rest)) :
    ∃ whole fraction exponent, IsWhole whole ∧ IsFraction fraction ∧ IsExponent exponent ∧
      s = whole ++ (fraction ++ exponent) ++ rest := by
  obtain ⟨⟨whole, afterWhole⟩, readWhole, read⟩ := bind_eq_ok.mp read
  obtain ⟨⟨_, afterFraction⟩, readFraction, read⟩ := bind_eq_ok.mp read
  obtain ⟨⟨_, afterExponent⟩, readExponent, read⟩ := bind_eq_ok.mp read
  cases read
  obtain ⟨isWhole, rfl⟩ := isWhole_of_readWhole readWhole
  obtain ⟨fraction, isFraction, rfl⟩ := exists_fraction_of_readFraction readFraction
  obtain ⟨exponent, isExponent, rfl⟩ := exists_exponent_of_readExponent readExponent
  exact ⟨whole, fraction, exponent, isWhole, isFraction, isExponent, by simp⟩

/-- What is read as a numeral is a number. -/
theorem exists_number_of_read (read : Numeral.read s = .ok (numeral, rest)) :
    ∃ text, IsNumber text ∧ s = text ++ rest := by
  cases s with
  | nil => cases read
  | cons b s =>
      simp only [Numeral.read] at read
      split at read
      · next isMinus =>
          subst isMinus
          obtain ⟨_, _, _, isWhole, isFraction, isExponent, rfl⟩ :=
            exists_parts_of_readUnsigned read
          exact ⟨_, .negative isWhole isFraction isExponent, rfl⟩
      · obtain ⟨_, _, _, isWhole, isFraction, isExponent, whole⟩ :=
          exists_parts_of_readUnsigned read
        exact ⟨_, .positive isWhole isFraction isExponent, whole⟩

end Numbers

/-! ### Strings -/

section Strings

variable {s rest : Bytes} {b : UInt8}

theorem isHexDigit_of_hexValue? {n : Nat} (value : Ascii.hexValue? b = some n) : IsHexDigit b := by
  unfold Ascii.hexValue? at value
  split at value
  · next isDigit => exact Or.inl isDigit
  split at value
  · next isLower => exact Or.inr (Or.inl (by simpa using isLower))
  split at value
  · next isUpper => exact Or.inr (Or.inr (by simpa using isUpper))
  · cases value

theorem mem_escapeLetters_of_unescape? {letter : UInt8} (value : Quoted.unescape? letter = some b) :
    letter ∈ escapeLetters := by
  by_contra other
  simp only [escapeLetters, List.mem_cons, List.not_mem_nil, or_false, not_or] at other
  obtain ⟨noQuote, noBackslash, noSlash, noB, noF, noN, noR, noT⟩ := other
  simp only [Quoted.unescape?, noQuote, noBackslash, noSlash, noB, noF, noN, noR, noT,
    if_false] at value
  cases value

theorem exists_digits_of_fourDigits {n : Nat} (read : Quoted.fourDigits s = .ok (n, rest)) :
    ∃ first second third fourth, (∀ b ∈ [first, second, third, fourth], IsHexDigit b) ∧
      s = first :: second :: third :: fourth :: rest := by
  unfold Quoted.fourDigits at read
  split at read
  · next a b c d after =>
      split at read
      · next hasFirst hasSecond hasThird hasFourth =>
          cases read
          refine ⟨a, b, c, d, ?_, rfl⟩
          simp only [List.forall_mem_cons]
          exact ⟨isHexDigit_of_hexValue? hasFirst, isHexDigit_of_hexValue? hasSecond,
            isHexDigit_of_hexValue? hasThird, isHexDigit_of_hexValue? hasFourth,
            fun _ member => nomatch member⟩
      · cases read
  · cases read

/-- An escape that is passed over may stand in a string. -/
theorem isContent_of_skimEscape {x : Unit} {content : Bytes}
    (skimmed : Quoted.skimEscape s = .ok (x, rest)) (isContent : IsContent content)
    (more : Bytes) (split : rest = content ++ more) :
    ∃ escaped, IsContent (Ascii.backslash :: escaped) ∧ s = escaped ++ more := by
  subst split
  cases s with
  | nil => cases skimmed
  | cons letter s =>
      simp only [Quoted.skimEscape] at skimmed
      split at skimmed
      · next b unescaped =>
          cases skimmed
          exact ⟨letter :: content, .short (mem_escapeLetters_of_unescape? unescaped) isContent,
            rfl⟩
      split at skimmed
      · next isUnicode =>
          subst isUnicode
          obtain ⟨⟨n, after⟩, digits, done⟩ := bind_eq_ok.mp skimmed
          cases done
          obtain ⟨_, _, _, _, areHex, rfl⟩ := exists_digits_of_fourDigits digits
          exact ⟨_, .unicode areHex isContent, rfl⟩
      · cases skimmed

/-- What is passed over up to a closing quote is the content of a string. -/
theorem exists_content_of_skimContent {fuel : Nat}
    (skimmed : Quoted.skimContent fuel s = .ok ((), rest)) :
    ∃ content, IsContent content ∧ s = content ++ Ascii.doubleQuote :: rest := by
  induction fuel generalizing s with
  | zero => cases skimmed
  | succ fuel inductionHypothesis =>
      cases s with
      | nil => cases skimmed
      | cons b s =>
          simp only [Quoted.skimContent] at skimmed
          split at skimmed
          · next isQuote =>
              cases skimmed
              exact ⟨[], .empty, congrArg (· :: rest) isQuote⟩
          split at skimmed
          · next isBackslash =>
              subst isBackslash
              obtain ⟨⟨_, after⟩, escape, skimmed⟩ := bind_eq_ok.mp skimmed
              obtain ⟨content, isContent, split⟩ := inductionHypothesis skimmed
              obtain ⟨escaped, isEscaped, whole⟩ :=
                isContent_of_skimEscape escape isContent _ split
              exact ⟨_, isEscaped, congrArg (Ascii.backslash :: ·) whole⟩
          split at skimmed
          · cases skimmed
          · next noQuote noBackslash printable =>
              obtain ⟨content, isContent, rfl⟩ := inductionHypothesis skimmed
              exact ⟨b :: content,
                .plain noQuote noBackslash (UInt8.not_lt.mp printable) isContent, rfl⟩

/-- What is passed over after a quote is the rest of a string. -/
theorem exists_string_of_skim (skimmed : Quoted.skim s = .ok ((), rest)) :
    ∃ text, IsString text ∧ Ascii.doubleQuote :: s = text ++ rest := by
  obtain ⟨content, isContent, rfl⟩ := exists_content_of_skimContent skimmed
  exact ⟨_, .quoted isContent, by simp⟩

end Strings

/-! ### Values -/

section Values

variable {s rest after before text value : Bytes} {b : UInt8} {phrase : Phrase} {close : UInt8}

/-- What is passed over as a scalar is a value. -/
theorem exists_text_of_skimScalar (skimmed : skimScalar b rest = .ok ((), after)) :
    ∃ text, IsText .value text ∧ b :: rest = text ++ after := by
  unfold skimScalar at skimmed
  split at skimmed
  · next isNull =>
      subst isNull
      exact ⟨_, .null, congrArg (Ascii.byte 'n' :: ·) (keyword_eq_ok.mp skimmed)⟩
  split at skimmed
  · next isTrue =>
      subst isTrue
      exact ⟨_, .true, congrArg (Ascii.byte 't' :: ·) (keyword_eq_ok.mp skimmed)⟩
  split at skimmed
  · next isFalse =>
      subst isFalse
      exact ⟨_, .false, congrArg (Ascii.byte 'f' :: ·) (keyword_eq_ok.mp skimmed)⟩
  split at skimmed
  · obtain ⟨numeral, read⟩ := skimNumber_eq_ok.mp skimmed
    obtain ⟨text, isNumber, whole⟩ := exists_number_of_read read
    exact ⟨text, .number isNumber, whole⟩
  split at skimmed
  · next isQuote =>
      subst isQuote
      obtain ⟨text, isString, whole⟩ := exists_string_of_skim skimmed
      exact ⟨text, .string isString, whole⟩
  · cases skimmed

/-- A text starts with a phrase, with blanks before it. -/
def Opens (phrase : Phrase) (s rest : Bytes) : Prop :=
  ∃ before text, Blank before ∧ IsText phrase text ∧ s = before ++ (text ++ rest)

/-- A text starts with a list of phrases, at least one, up to a mark. -/
def OpensList (phrase : Phrase) (close : UInt8) (s rest : Bytes) : Prop :=
  ∃ texts inner, texts ≠ [] ∧ Listed texts inner ∧ (∀ text ∈ texts, IsText phrase text) ∧
    s = inner ++ close :: rest

theorem Opens.last (opens : Opens phrase s rest) (closes : skipBlanks rest = close :: after) :
    OpensList phrase close s after := by
  obtain ⟨before, text, blank, isText, rfl⟩ := opens
  obtain ⟨blanks, blankAfter, rfl⟩ := exists_blank_of_skipBlanks closes
  have follows : Follows [] (blanks ++ close :: after) (close :: after) :=
    ⟨blanks, blankAfter, Or.inl ⟨rfl, rfl⟩⟩
  obtain ⟨inner, listed, whole⟩ := follows.listed blank text
  exact ⟨[text], inner, List.cons_ne_nil _ _, listed, by simpa using isText, whole⟩

theorem Opens.more {more : Bytes} (opens : Opens phrase s rest)
    (comma : skipBlanks rest = Ascii.comma :: more) (others : OpensList phrase close more after) :
    OpensList phrase close s after := by
  obtain ⟨before, text, blank, isText, rfl⟩ := opens
  obtain ⟨blanks, blankAfter, rfl⟩ := exists_blank_of_skipBlanks comma
  obtain ⟨texts, inner, nonempty, listed, areTexts, rfl⟩ := others
  have follows : Follows texts (blanks ++ Ascii.comma :: (inner ++ close :: after))
      (close :: after) := ⟨blanks, blankAfter, Or.inr ⟨nonempty, inner, listed, rfl⟩⟩
  obtain ⟨inner, listed, whole⟩ := follows.listed blank text
  exact ⟨text :: texts, inner, List.cons_ne_nil _ _, listed,
    List.forall_mem_cons.mpr ⟨isText, areTexts⟩, whole⟩

/-- A quote, the rest of a name, a colon and a value are a member. -/
theorem Opens.member {quoted named valued : Bytes}
    (quote : skipBlanks s = Ascii.doubleQuote :: quoted)
    (name : Quoted.skim quoted = .ok ((), named)) (mark : colon named = .ok ((), valued))
    (opens : Opens .value valued rest) : Opens .member s rest := by
  obtain ⟨before, blank, rfl⟩ := exists_blank_of_skipBlanks quote
  obtain ⟨text, isName, whole⟩ := exists_string_of_skim name
  unfold colon at mark
  split at mark
  · cases mark
  · next b after found =>
      split at mark
      · next isColon =>
          subst isColon
          cases mark
          obtain ⟨between, blankBetween, rfl⟩ := exists_blank_of_skipBlanks found
          obtain ⟨blanks, value, blankAfter, isValue, rfl⟩ := opens
          refine ⟨before, _, blank, .member isName blankBetween blankAfter isValue, ?_⟩
          rw [whole]
          simp
      · cases mark

/-- What is shown of a part of a text: it is a value, or a list. -/
def Part.Opens : Part → Bytes → Bytes → Prop
  | .value => Json.Opens .value
  | .elements => OpensList .value Ascii.closeBracket
  | .members => OpensList .member Ascii.closeBrace

theorem Skims.opens {part : Part} (skims : Skims part s after) : part.Opens s after := by
  -- by the derivation; each part is put together of the parts within it
  induction skims with
  | scalar start _ _ scalar =>
      obtain ⟨before, blank, rfl⟩ := exists_blank_of_skipBlanks start
      obtain ⟨text, isText, whole⟩ := exists_text_of_skimScalar scalar
      exact ⟨before, text, blank, isText, by rw [whole]⟩
  | emptyArray start close =>
      obtain ⟨before, blank, rfl⟩ := exists_blank_of_skipBlanks start
      obtain ⟨inner, blankInner, rfl⟩ := exists_blank_of_skipBlanks close
      exact ⟨before, _, blank, .array (.empty blankInner) (fun _ member => nomatch member),
        by simp⟩
  | array start _ inductionHypothesis =>
      obtain ⟨before, blank, rfl⟩ := exists_blank_of_skipBlanks start
      obtain ⟨texts, inner, _, listed, areValues, rfl⟩ := inductionHypothesis
      exact ⟨before, _, blank, .array listed areValues, by simp⟩
  | emptyObject start close =>
      obtain ⟨before, blank, rfl⟩ := exists_blank_of_skipBlanks start
      obtain ⟨inner, blankInner, rfl⟩ := exists_blank_of_skipBlanks close
      exact ⟨before, _, blank, .object (.empty blankInner) (fun _ member => nomatch member),
        by simp⟩
  | object start _ inductionHypothesis =>
      obtain ⟨before, blank, rfl⟩ := exists_blank_of_skipBlanks start
      obtain ⟨texts, inner, _, listed, areMembers, rfl⟩ := inductionHypothesis
      exact ⟨before, _, blank, .object listed areMembers, by simp⟩
  | lastElement _ close inductionHypothesis => exact inductionHypothesis.last close
  | element _ comma _ valueOpens othersOpen => exact valueOpens.more comma othersOpen
  | lastMember quote name mark _ close inductionHypothesis =>
      exact (Opens.member quote name mark inductionHypothesis).last close
  | member quote name mark _ comma _ valueOpens othersOpen =>
      exact (Opens.member quote name mark valueOpens).more comma othersOpen

/-- The texts that are passed over as one value are the values of the grammar. -/
theorem isText_iff : IsText .value text ↔ IsValueText text := by
  constructor
  · exact fun isText => isText.isValueText
  · intro isValue
    obtain ⟨before, found, blank, isText, whole⟩ := isValue.value.opens
    have same : text = found := by
      have start := isText.isValueText.skipBlanks_append blank []
      rw [← whole, isValue.trimmed, List.append_nil] at start
      exact start
    exact same ▸ isText

end Values

end RpcTransport.Json
