import RpcTransport.Proofs.Json.Skimming

/-!
What a value is by itself. A value that is passed over in a text is passed over in the same way when
the text ends with it, so that the text of a value does not depend on what it was cut out of.
-/

namespace RpcTransport.Json

/-- A step that reads the same where some of what it has left is not there. -/
def Reader.Cuts {α : Type} (read : Reader α) : Prop :=
  ∀ s more x rest, read (s ++ more) = .ok (x, rest ++ more) → read s = .ok (x, rest)

/-- A step that reads at least one byte. -/
def Reader.Advances {α : Type} (read : Reader α) : Prop :=
  ∀ s x rest, read s = .ok (x, rest) → ∃ b t, s = b :: t ∧ rest <:+ t

/-- What is left once more has been read was left before. -/
theorem exists_append_of_suffix {rest more left : Bytes} (suffix : rest ++ more <:+ left) :
    ∃ s, left = s ++ more := by
  obtain ⟨before, whole⟩ := suffix
  exact ⟨before ++ rest, by rw [← whole, List.append_assoc]⟩

/-- Not all bytes are left after the first one. -/
theorem append_cons_not_suffix {rest more : Bytes} {b : UInt8} : ¬ rest ++ b :: more <:+ more := by
  intro suffix
  have short := suffix.length_le
  rw [List.length_append, List.length_cons] at short
  omega

/-- A byte that has been read stands before what is left. -/
theorem exists_cons_of_suffix {s more rest t : Bytes} {b : UInt8} (whole : s ++ more = b :: t)
    (suffix : rest ++ more <:+ t) : ∃ c left, s = c :: left := by
  cases s with
  | cons c s => exact ⟨c, s, rfl⟩
  | nil =>
      rw [List.nil_append] at whole
      rw [whole] at suffix
      exact (append_cons_not_suffix suffix).elim

theorem Reader.Advances.exists_cons {α : Type} {read : Reader α} (advances : read.Advances)
    {s more rest : Bytes} {x : α} (found : read (s ++ more) = .ok (x, rest ++ more)) :
    ∃ b left, s = b :: left := by
  obtain ⟨b, t, whole, suffix⟩ := advances _ _ _ found
  exact exists_cons_of_suffix whole suffix

/-! ### Bytes that are passed over -/

/-- Bytes that are passed over are the same without the end of what is left. -/
theorem dropWhile_of_append {s more rest : Bytes} {p : UInt8 → Bool}
    (left : (s ++ more).dropWhile p = rest ++ more) :
    s.dropWhile p = rest ∧ s.takeWhile p = (s ++ more).takeWhile p := by
  induction s with
  | nil =>
      cases more with
      | nil => exact ⟨(List.append_nil rest ▸ left), rfl⟩
      | cons b more =>
          cases passed : p b with
          | true =>
              rw [List.nil_append, List.dropWhile_cons_of_pos passed] at left
              exact (append_cons_not_suffix (left ▸ List.dropWhile_suffix p)).elim
          | false =>
              have stopped : ¬ p b = true := by simp [passed]
              rw [List.nil_append, List.dropWhile_cons_of_neg stopped] at left
              exact ⟨(List.append_left_eq_self.mp left.symm).symm, by simp [stopped]⟩
  | cons b s inductionHypothesis =>
      cases passed : p b with
      | true =>
          rw [List.cons_append, List.dropWhile_cons_of_pos passed] at left
          obtain ⟨dropped, taken⟩ := inductionHypothesis left
          rw [List.cons_append, List.dropWhile_cons_of_pos passed,
            List.takeWhile_cons_of_pos passed, List.takeWhile_cons_of_pos passed, taken]
          exact ⟨dropped, rfl⟩
      | false =>
          have stopped : ¬ p b = true := by simp [passed]
          rw [List.cons_append, List.dropWhile_cons_of_neg stopped, ← List.cons_append] at left
          rw [List.cons_append, List.dropWhile_cons_of_neg stopped,
            List.takeWhile_cons_of_neg stopped, List.takeWhile_cons_of_neg stopped]
          exact ⟨List.append_cancel_right left, rfl⟩

theorem skipBlanks_of_append {s more rest : Bytes} {b : UInt8}
    (found : skipBlanks (s ++ more) = b :: (rest ++ more)) : skipBlanks s = b :: rest := by
  have left : (s ++ more).dropWhile isBlank = (b :: rest) ++ more := found
  exact (dropWhile_of_append left).1

/-! ### Keywords, marks and strings -/

theorem keyword_cuts (letters : Bytes) : Reader.Cuts (keyword letters) := by
  intro s more x rest read
  rw [keyword_eq_ok, ← List.append_assoc] at read
  exact keyword_eq_ok.mpr (List.append_cancel_right read)

theorem colon_cuts : Reader.Cuts colon := by
  intro s more x rest read
  unfold colon at read
  split at read
  · cases read
  · next b after found =>
      split at read
      · next isColon =>
          cases read
          simp only [colon, skipBlanks_of_append found, isColon, if_true]
      · cases read

theorem fourDigits_cuts : Reader.Cuts Quoted.fourDigits := by
  intro s more x rest read
  unfold Quoted.fourDigits at read
  split at read
  · next a b c d after shape =>
      split at read
      · next first second third fourth =>
          cases read
          obtain rfl : s = a :: b :: c :: d :: rest := List.append_cancel_right shape
          simp only [Quoted.fourDigits, first, second, third, fourth]
      · cases read
  · cases read

/-- An escape has at least its letter. -/
theorem skimEscape_advances : Reader.Advances Quoted.skimEscape := by
  intro s x rest read
  cases s with
  | nil => cases read
  | cons letter s =>
      simp only [Quoted.skimEscape] at read
      refine ⟨letter, s, rfl, ?_⟩
      split at read
      · cases read
        exact List.suffix_rfl
      split at read
      · obtain ⟨⟨code, after⟩, digits, done⟩ := bind_eq_ok.mp read
        cases done
        exact (fourDigits_local s code after digits).1
      · cases read

theorem skimEscape_cuts : Reader.Cuts Quoted.skimEscape := by
  intro s more x rest read
  obtain ⟨letter, s, rfl⟩ := skimEscape_advances.exists_cons read
  simp only [Quoted.skimEscape, List.cons_append] at read ⊢
  split at read
  · obtain rfl : s = rest := List.append_cancel_right (congrArg Prod.snd (Except.ok.inj read))
    rfl
  split at read
  · next isUnicode =>
      obtain ⟨⟨code, after⟩, digits, done⟩ := bind_eq_ok.mp read
      cases done
      simp only [isUnicode, if_true]
      exact bind_eq_ok.mpr ⟨_, fourDigits_cuts _ _ _ _ digits, rfl⟩
  · cases read

/-- The content of a string has at least its closing quote. -/
theorem skimContent_advances (fuel : Nat) : Reader.Advances (Quoted.skimContent fuel) := by
  intro s x rest read
  cases s with
  | nil => cases fuel <;> cases read
  | cons b s => exact ⟨b, s, rfl, (skimContent_append read).1⟩

/-- The content of a string is passed over with fuel for its bytes. -/
theorem skimContent_of_append {fuel larger : Nat} {s more rest : Bytes} {x : Unit}
    (read : Quoted.skimContent fuel (s ++ more) = .ok (x, rest ++ more))
    (enough : s.length ≤ larger) : Quoted.skimContent larger s = .ok (x, rest) := by
  induction fuel generalizing s larger with
  | zero => cases read
  | succ fuel inductionHypothesis =>
      obtain ⟨b, s, rfl⟩ := (skimContent_advances (fuel + 1)).exists_cons read
      obtain ⟨larger, rfl⟩ : ∃ n, larger = n + 1 := ⟨larger - 1, by simp at enough; omega⟩
      have enough : s.length ≤ larger := Nat.le_of_succ_le_succ enough
      simp only [List.cons_append, Quoted.skimContent] at read ⊢
      split at read
      · next quote =>
          obtain ⟨-, left⟩ := Prod.mk.inj (Except.ok.inj read)
          obtain rfl := List.append_cancel_right left
          rw [if_pos quote]
      split at read
      · next notQuote backslash =>
          obtain ⟨⟨_, after⟩, escaped, content⟩ := bind_eq_ok.mp read
          obtain ⟨left, rfl⟩ := exists_append_of_suffix
            ((skimContent_append content).1.trans (List.tail_suffix after))
          have escape := skimEscape_cuts _ _ _ _ escaped
          have short := (skimEscape_local _ _ _ escape).1.length_le
          rw [if_neg notQuote, if_pos backslash]
          exact bind_eq_ok.mpr ⟨_, escape, inductionHypothesis content (short.trans enough)⟩
      split at read
      · cases read
      · next notQuote notBackslash notControl =>
          rw [if_neg notQuote, if_neg notBackslash, if_neg notControl]
          exact inductionHypothesis read enough

theorem skim_cuts : Reader.Cuts Quoted.skim :=
  fun _ _ _ _ read => skimContent_of_append read (Nat.le_refl _)

/-! ### Numbers -/

theorem readWhole_advances : Reader.Advances Numeral.readWhole := by
  intro s digits rest read
  cases s with
  | nil => cases read
  | cons b s => exact ⟨b, s, rfl, (readWhole_spec read).1⟩

theorem readWhole_cuts : Reader.Cuts Numeral.readWhole := by
  intro s more digits rest read
  obtain ⟨b, s, rfl⟩ := readWhole_advances.exists_cons read
  simp only [Numeral.readWhole, List.cons_append] at read ⊢
  split at read
  · next isZero =>
      rw [if_pos isZero]
      cases s with
      | nil =>
          have all : digits = [b] ∧ rest ++ more = more := by
            cases more with
            | nil =>
                obtain ⟨same, left⟩ := Prod.mk.inj (Except.ok.inj read)
                exact ⟨same.symm, left.symm⟩
            | cons c more =>
                simp only [List.nil_append] at read
                split at read
                · cases read
                · obtain ⟨same, left⟩ := Prod.mk.inj (Except.ok.inj read)
                  exact ⟨same.symm, left.symm⟩
          obtain ⟨rfl, left⟩ := all
          rw [List.append_left_eq_self.mp left]
      | cons c s =>
          simp only [List.cons_append] at read ⊢
          split at read
          · cases read
          · next notDigit =>
              obtain ⟨rfl, left⟩ := Prod.mk.inj (Except.ok.inj read)
              have all : c :: s = rest := List.append_cancel_right left
              rw [if_neg notDigit, all]
  split at read
  · next notZero isDigit =>
      obtain ⟨rfl, left⟩ := Prod.mk.inj (Except.ok.inj read)
      obtain ⟨dropped, taken⟩ := dropWhile_of_append left
      rw [if_neg notZero, if_pos isDigit, dropped, taken]
  · cases read

theorem readFraction_cuts : Reader.Cuts Numeral.readFraction := by
  intro s more digits rest read
  cases s with
  | nil =>
      -- a fraction that has been read would be part of what is left
      cases more with
      | nil => exact List.append_nil rest ▸ read
      | cons b more =>
          simp only [Numeral.readFraction, List.nil_append] at read
          split at read
          · split at read
            · cases read
            · cases read
            · obtain ⟨-, left⟩ := Prod.mk.inj (Except.ok.inj read)
              exact (append_cons_not_suffix (left ▸ List.dropWhile_suffix _)).elim
          · obtain ⟨rfl, left⟩ := Prod.mk.inj (Except.ok.inj read)
            rw [List.append_left_eq_self.mp left.symm]
            rfl
  | cons b s =>
      simp only [Numeral.readFraction, List.cons_append] at read ⊢
      split at read
      · next isPoint =>
          rw [if_pos isPoint]
          split at read
          · cases read
          · cases read
          · next noEnd noStop =>
              obtain ⟨same, left⟩ := Prod.mk.inj (Except.ok.inj read)
              have found : digits ≠ [] := by
                rintro rfl
                cases shape : rest ++ more with
                | nil => exact noEnd same (left.trans shape)
                | cons c after => exact noStop c after same (left.trans shape)
              obtain ⟨d, digits, rfl⟩ := List.exists_cons_of_ne_nil found
              obtain ⟨dropped, taken⟩ := dropWhile_of_append left
              rw [dropped, taken, same]
      · next notPoint =>
          obtain ⟨rfl, left⟩ := Prod.mk.inj (Except.ok.inj read)
          have all : b :: s = rest := List.append_cancel_right left
          rw [if_neg notPoint, all]

theorem readExponentDigits_advances (negative : Bool) :
    Reader.Advances (Numeral.readExponentDigits negative) := by
  intro s exponent rest read
  cases s with
  | nil => cases read
  | cons b s =>
      simp only [Numeral.readExponentDigits] at read
      split at read
      · cases read
        exact ⟨b, s, rfl, List.dropWhile_suffix _⟩
      · cases read

theorem readExponentDigits_cuts (negative : Bool) :
    Reader.Cuts (Numeral.readExponentDigits negative) := by
  intro s more exponent rest read
  obtain ⟨b, s, rfl⟩ := (readExponentDigits_advances negative).exists_cons read
  simp only [Numeral.readExponentDigits, List.cons_append] at read ⊢
  split at read
  · next isDigit =>
      obtain ⟨rfl, left⟩ := Prod.mk.inj (Except.ok.inj read)
      obtain ⟨dropped, taken⟩ := dropWhile_of_append left
      rw [if_pos isDigit, dropped, taken]
  · cases read

/-- After its mark an exponent has at least one digit. -/
theorem exists_cons_of_readExponent {b : UInt8} {s rest : Bytes} {exponent : Option (Bool × Bytes)}
    (mark : (decide (b = Ascii.byte 'e') || decide (b = Ascii.byte 'E')) = true)
    (read : Numeral.readExponent (b :: s) = .ok (exponent, rest)) :
    ∃ c t, s = c :: t ∧ rest <:+ t := by
  cases s with
  | nil =>
      simp only [Numeral.readExponent, mark, if_true] at read
      cases read
  | cons c s =>
      simp only [Numeral.readExponent, mark, if_true] at read
      refine ⟨c, s, rfl, ?_⟩
      have signed : ∀ {negative : Bool},
          Numeral.readExponentDigits negative s = .ok (exponent, rest) → rest <:+ s := by
        intro negative digits
        exact (readExponentDigits_settled negative _ _ _ digits).1
      split at read
      · exact signed read
      split at read
      · exact signed read
      · obtain ⟨d, t, whole, suffix⟩ := readExponentDigits_advances false _ _ _ read
        cases whole
        exact suffix

/-- Where no mark comes next, there is no exponent. -/
theorem readExponent_of_not_mark {b : UInt8} {s : Bytes}
    (noMark : ¬ (decide (b = Ascii.byte 'e') || decide (b = Ascii.byte 'E')) = true) :
    Numeral.readExponent (b :: s) = .ok (none, b :: s) :=
  if_neg noMark

theorem readExponent_cuts : Reader.Cuts Numeral.readExponent := by
  intro s more exponent rest read
  cases s with
  | nil =>
      cases more with
      | nil => exact List.append_nil rest ▸ read
      | cons b more =>
          by_cases mark : (decide (b = Ascii.byte 'e') || decide (b = Ascii.byte 'E')) = true
          · obtain ⟨c, t, rfl, suffix⟩ := exists_cons_of_readExponent mark read
            exact (append_cons_not_suffix (suffix.trans (List.suffix_cons c t))).elim
          · obtain ⟨rfl, left⟩ :=
              Prod.mk.inj (Except.ok.inj ((readExponent_of_not_mark mark).symm.trans read))
            rw [List.append_left_eq_self.mp left.symm]
            rfl
  | cons b s =>
      rw [List.cons_append] at read
      by_cases mark : (decide (b = Ascii.byte 'e') || decide (b = Ascii.byte 'E')) = true
      · obtain ⟨d, t, whole, suffix⟩ := exists_cons_of_readExponent mark read
        obtain ⟨c, s, rfl⟩ := exists_cons_of_suffix whole suffix
        simp only [Numeral.readExponent, mark, if_true, List.cons_append] at read ⊢
        split at read
        · next isPlus =>
            rw [if_pos isPlus]
            exact readExponentDigits_cuts false _ _ _ _ read
        split at read
        · next notPlus isMinus =>
            rw [if_neg notPlus, if_pos isMinus]
            exact readExponentDigits_cuts true _ _ _ _ read
        · next notPlus notMinus =>
            rw [if_neg notPlus, if_neg notMinus]
            exact readExponentDigits_cuts false (c :: s) _ _ _ read
      · obtain ⟨rfl, left⟩ :=
          Prod.mk.inj (Except.ok.inj ((readExponent_of_not_mark mark).symm.trans read))
        have all : b :: s = rest := List.append_cancel_right left
        rw [readExponent_of_not_mark mark, all]

theorem readUnsigned_cuts (negative : Bool) : Reader.Cuts (Numeral.readUnsigned negative) := by
  intro s more numeral rest read
  obtain ⟨⟨whole, afterWhole⟩, readWhole, read⟩ := bind_eq_ok.mp read
  obtain ⟨⟨fraction, afterFraction⟩, readFraction, read⟩ := bind_eq_ok.mp read
  obtain ⟨⟨exponent, afterExponent⟩, readExponent, done⟩ := bind_eq_ok.mp read
  cases done
  have suffix := (readExponent_settled _ _ _ readExponent).1
  obtain ⟨leftFraction, rfl⟩ := exists_append_of_suffix suffix
  obtain ⟨leftWhole, rfl⟩ :=
    exists_append_of_suffix (suffix.trans (readFraction_settled _ _ _ readFraction).1)
  exact bind_eq_ok.mpr ⟨_, readWhole_cuts _ _ _ _ readWhole,
    bind_eq_ok.mpr ⟨_, readFraction_cuts _ _ _ _ readFraction,
      bind_eq_ok.mpr ⟨_, readExponent_cuts _ _ _ _ readExponent, rfl⟩⟩⟩

theorem numeral_advances : Reader.Advances Numeral.read := by
  intro s numeral rest read
  cases s with
  | nil => cases read
  | cons b s => exact ⟨b, s, rfl, (numeral_spec read).1⟩

theorem numeral_cuts : Reader.Cuts Numeral.read := by
  intro s more numeral rest read
  obtain ⟨b, s, rfl⟩ := numeral_advances.exists_cons read
  simp only [Numeral.read, List.cons_append] at read ⊢
  split at read
  · next isMinus =>
      rw [if_pos isMinus]
      exact readUnsigned_cuts true _ _ _ _ read
  · next notMinus =>
      rw [if_neg notMinus]
      exact readUnsigned_cuts false (b :: s) _ _ _ read

/-! ### Values -/

theorem skimScalar_cuts (b : UInt8) : Reader.Cuts (skimScalar b) := by
  intro s more x rest read
  unfold skimScalar at read ⊢
  split at read
  · next isNull =>
      rw [if_pos isNull]
      exact keyword_cuts afterN _ _ _ _ read
  split at read
  · next notNull isTrue =>
      rw [if_neg notNull, if_pos isTrue]
      exact keyword_cuts afterT _ _ _ _ read
  split at read
  · next notNull notTrue isFalse =>
      rw [if_neg notNull, if_neg notTrue, if_pos isFalse]
      exact keyword_cuts afterF _ _ _ _ read
  split at read
  · next notNull notTrue notFalse isNumber =>
      obtain ⟨numeral, number⟩ := skimNumber_eq_ok.mp read
      rw [if_neg notNull, if_neg notTrue, if_neg notFalse, if_pos isNumber]
      exact skimNumber_eq_ok.mpr ⟨numeral, numeral_cuts (b :: s) _ _ _ number⟩
  split at read
  · next notNull notTrue notFalse notNumber isString =>
      rw [if_neg notNull, if_neg notTrue, if_neg notFalse, if_neg notNumber, if_pos isString]
      exact skim_cuts _ _ _ _ read
  · cases read

/-- A part is the same without the end of what comes after it. -/
theorem Skims.of_append {part : Part} {s more after : Bytes}
    (skims : Skims part (s ++ more) (after ++ more)) : Skims part s after := by
  -- what a part leaves to the next one ends with what is left in the end, so it ends with `more`
  generalize whole : s ++ more = t, left : after ++ more = u at skims
  induction skims generalizing s after with
  | scalar start noArray noObject scalar =>
      subst whole left
      obtain ⟨rest, rfl⟩ := exists_append_of_suffix (skimScalar_settled _ _ _ _ scalar).1
      exact .scalar (skipBlanks_of_append start) noArray noObject (skimScalar_cuts _ _ _ _ _ scalar)
  | emptyArray start close =>
      subst whole left
      obtain ⟨rest, rfl⟩ := exists_append_of_suffix (suffix_of_skipBlanks close)
      exact .emptyArray (skipBlanks_of_append start) (skipBlanks_of_append close)
  | array start elements inductionHypothesis =>
      subst whole left
      obtain ⟨rest, rfl⟩ := exists_append_of_suffix elements.suffix
      exact .array (skipBlanks_of_append start) (inductionHypothesis rfl rfl)
  | emptyObject start close =>
      subst whole left
      obtain ⟨rest, rfl⟩ := exists_append_of_suffix (suffix_of_skipBlanks close)
      exact .emptyObject (skipBlanks_of_append start) (skipBlanks_of_append close)
  | object start members inductionHypothesis =>
      subst whole left
      obtain ⟨rest, rfl⟩ := exists_append_of_suffix members.suffix
      exact .object (skipBlanks_of_append start) (inductionHypothesis rfl rfl)
  | lastElement value close inductionHypothesis =>
      subst whole left
      obtain ⟨rest, rfl⟩ := exists_append_of_suffix (suffix_of_skipBlanks close)
      exact .lastElement (inductionHypothesis rfl rfl) (skipBlanks_of_append close)
  | element value comma elements valueCut elementsCut =>
      subst whole left
      obtain ⟨next, rfl⟩ := exists_append_of_suffix elements.suffix
      obtain ⟨rest, rfl⟩ := exists_append_of_suffix (suffix_of_skipBlanks comma)
      exact .element (valueCut rfl rfl) (skipBlanks_of_append comma) (elementsCut rfl rfl)
  | lastMember quote name mark value close valueCut =>
      subst whole left
      obtain ⟨rest, rfl⟩ := exists_append_of_suffix (suffix_of_skipBlanks close)
      obtain ⟨valued, rfl⟩ := exists_append_of_suffix value.suffix
      obtain ⟨named, rfl⟩ := exists_append_of_suffix (colon_local _ _ _ mark).1
      obtain ⟨quoted, rfl⟩ := exists_append_of_suffix (skim_local _ _ _ name).1
      exact .lastMember (skipBlanks_of_append quote) (skim_cuts _ _ _ _ name)
        (colon_cuts _ _ _ _ mark) (valueCut rfl rfl) (skipBlanks_of_append close)
  | member quote name mark value comma members valueCut membersCut =>
      subst whole left
      obtain ⟨next, rfl⟩ := exists_append_of_suffix members.suffix
      obtain ⟨rest, rfl⟩ := exists_append_of_suffix (suffix_of_skipBlanks comma)
      obtain ⟨valued, rfl⟩ := exists_append_of_suffix value.suffix
      obtain ⟨named, rfl⟩ := exists_append_of_suffix (colon_local _ _ _ mark).1
      obtain ⟨quoted, rfl⟩ := exists_append_of_suffix (skim_local _ _ _ name).1
      exact .member (skipBlanks_of_append quote) (skim_cuts _ _ _ _ name)
        (colon_cuts _ _ _ _ mark) (valueCut rfl rfl) (skipBlanks_of_append comma)
        (membersCut rfl rfl)

end RpcTransport.Json
