import Mathlib.Data.List.DropRight
import RpcTransport.Json.Skim

/-!
What the smallest steps of reading depend on. A step consumes what it reads, and, unless it has read
a number up to the end of the text, what comes after it does not change what it reads.
-/

namespace RpcTransport

/-- Two steps succeed together when each of them does. -/
theorem bind_eq_ok {ε α β : Type} {x : Except ε α} {f : α → Except ε β} {b : β} :
    x >>= f = .ok b ↔ ∃ a, x = .ok a ∧ f a = .ok b := by
  cases x with
  | error e =>
      constructor
      · intro h
        cases h
      · rintro ⟨a, h, _⟩
        cases h
  | ok a =>
      constructor
      · intro h
        exact ⟨a, rfl, h⟩
      · rintro ⟨_, h, applied⟩
        cases h
        exact applied

theorem bind_of_ok {ε α β : Type} {x : Except ε α} {f : α → Except ε β} {a : α}
    (found : x = .ok a) : (x >>= f) = f a := by
  rw [found]
  rfl

/-- Two steps fail together when the first one does, or the second one after it. -/
theorem bind_eq_error {ε α β : Type} {x : Except ε α} {f : α → Except ε β} {e : ε} :
    x >>= f = .error e ↔ x = .error e ∨ ∃ a, x = .ok a ∧ f a = .error e := by
  cases x with
  | error other =>
      constructor
      · intro failed
        cases failed
        exact Or.inl rfl
      · rintro (failed | ⟨a, found, _⟩)
        · cases failed
          rfl
        · cases found
  | ok a =>
      constructor
      · intro failed
        exact Or.inr ⟨a, rfl, failed⟩
      · rintro (failed | ⟨_, found, applied⟩)
        · cases failed
        · cases found
          exact applied

theorem mapError_eq_error {ε ζ α : Type} {x : Except ε α} {f : ε → ζ} {e : ζ} :
    x.mapError f = .error e ↔ ∃ cause, x = .error cause ∧ f cause = e := by
  cases x <;> simp [Except.mapError]

theorem mapError_eq_ok {ε ζ α : Type} {x : Except ε α} {f : ε → ζ} {a : α} :
    x.mapError f = .ok a ↔ x = .ok a := by
  cases x <;> simp [Except.mapError]

theorem toOption_eq_some {ε α : Type} {x : Except ε α} {a : α} : x.toOption = some a ↔ x = .ok a := by
  cases x <;> simp [Except.toOption]

namespace Json

/-! ### Blanks -/

theorem skipBlanks_cons_of_not_blank {b : UInt8} (notBlank : isBlank b = false) (s : Bytes) :
    skipBlanks (b :: s) = b :: s := by
  simp [skipBlanks, notBlank]

/-- Blanks before a text are passed over. -/
theorem skipBlanks_append_of_blank {blanks : Bytes} (blank : ∀ b ∈ blanks, isBlank b = true)
    (s : Bytes) : skipBlanks (blanks ++ s) = skipBlanks s :=
  List.dropWhile_append_of_pos blank

/-- Blanks are passed over up to the first byte that is none. -/
theorem skipBlanks_of_blanks {blanks rest : Bytes} {b : UInt8}
    (blank : ∀ b ∈ blanks, isBlank b = true) (notBlank : isBlank b = false) :
    skipBlanks (blanks ++ b :: rest) = b :: rest := by
  rw [skipBlanks_append_of_blank blank]
  exact skipBlanks_cons_of_not_blank notBlank rest

/-- Bytes that are passed over up to some other byte are the same whatever comes after it. -/
theorem dropWhile_append_of_ne_nil {s : Bytes} {p : UInt8 → Bool} (stopped : s.dropWhile p ≠ [])
    (more : Bytes) :
    (s ++ more).dropWhile p = s.dropWhile p ++ more ∧ (s ++ more).takeWhile p = s.takeWhile p := by
  have notAll : (s.takeWhile p).length ≠ s.length := by
    intro all
    have whole := congrArg List.length (List.takeWhile_append_dropWhile (p := p) (l := s))
    rw [List.length_append, all] at whole
    exact stopped (List.eq_nil_of_length_eq_zero (by omega))
  constructor
  · rw [List.dropWhile_append, if_neg (by simpa using stopped)]
  · rw [List.takeWhile_append, if_neg notAll]

/-- Bytes that are passed over are the same if what comes after the text stops at once. -/
theorem dropWhile_append_of_stops {s more : Bytes} {p : UInt8 → Bool}
    (stops : s.dropWhile p = [] → ∀ b ∈ more.head?, p b = false) :
    (s ++ more).dropWhile p = s.dropWhile p ++ more ∧ (s ++ more).takeWhile p = s.takeWhile p := by
  by_cases all : s.dropWhile p = []
  · have passed : ∀ b ∈ s, p b = true := List.dropWhile_eq_nil_iff.mp all
    have stopped : more.dropWhile p = more ∧ more.takeWhile p = [] := by
      cases more with
      | nil => exact ⟨rfl, rfl⟩
      | cons b more => simp [stops all b rfl]
    rw [List.dropWhile_append_of_pos passed, List.takeWhile_append_of_pos passed, stopped.1,
      stopped.2, all, List.takeWhile_eq_self_iff.mpr passed, List.append_nil]
    exact ⟨rfl, rfl⟩
  · exact dropWhile_append_of_ne_nil all more

/-- What comes after the first byte that is not blank does not matter. -/
theorem skipBlanks_append {s rest : Bytes} {b : UInt8} (found : skipBlanks s = b :: rest)
    (more : Bytes) : skipBlanks (s ++ more) = b :: (rest ++ more) := by
  have stopped : s.dropWhile isBlank ≠ [] := by
    rw [show s.dropWhile isBlank = b :: rest from found]
    exact List.cons_ne_nil b rest
  rw [skipBlanks, (dropWhile_append_of_ne_nil stopped more).1]
  exact congrArg (· ++ more) found

@[simp]
theorem skipBlanks_skipBlanks (s : Bytes) : skipBlanks (skipBlanks s) = skipBlanks s :=
  List.dropWhile_idempotent isBlank s

/-- The first byte that is not passed over is not blank. -/
theorem not_blank_of_skipBlanks {s rest : Bytes} {b : UInt8} (found : skipBlanks s = b :: rest) :
    isBlank b = false := by
  have notBlank := List.head?_dropWhile_not isBlank s
  rw [show s.dropWhile isBlank = b :: rest from found] at notBlank
  exact notBlank

theorem length_skipBlanks_le (s : Bytes) : (skipBlanks s).length ≤ s.length :=
  (List.dropWhile_suffix isBlank).length_le

/-- What comes after the first byte that is not blank is the end of the text. -/
theorem suffix_of_skipBlanks {s rest : Bytes} {b : UInt8} (found : skipBlanks s = b :: rest) :
    rest <:+ s :=
  (List.suffix_cons b rest).trans (found ▸ List.dropWhile_suffix isBlank)

/-- After the first byte that is not blank there are fewer bytes. -/
theorem length_lt_of_skipBlanks {s rest : Bytes} {b : UInt8} (found : skipBlanks s = b :: rest) :
    rest.length < s.length := by
  have short := length_skipBlanks_le s
  rw [found] at short
  exact short

/-- A text holds one thing if blanks are all that is left after it. -/
theorem whole_eq_ok {α : Type} {read : Reader α} {s : Bytes} {x : α} :
    whole read s = .ok x ↔ ∃ rest, read s = .ok (x, rest) ∧ skipBlanks rest = [] := by
  constructor
  · intro found
    obtain ⟨⟨y, rest⟩, value, ended⟩ := bind_eq_ok.mp found
    dsimp only at ended
    split at ended
    · next blank =>
        cases ended
        exact ⟨rest, value, blank⟩
    · cases ended
  · rintro ⟨rest, value, blank⟩
    refine bind_eq_ok.mpr ⟨_, value, ?_⟩
    simp only [blank]
    rfl

/-! ### Steps that are not disturbed by what comes after them -/

/-- A step that leaves the end of the text, and reads the same whatever is put after the text. -/
def Reader.Local {α : Type} (read : Reader α) : Prop :=
  ∀ s x rest, read s = .ok (x, rest) →
    rest <:+ s ∧ ∀ more, read (s ++ more) = .ok (x, rest ++ more)

/-- No number goes on with what comes next. -/
def Numeral.Stops (rest : Bytes) : Prop :=
  ∀ b ∈ rest.head?, Ascii.isDigit b = false ∧ b ≠ Ascii.point ∧ b ≠ Ascii.byte 'e' ∧
    b ≠ Ascii.byte 'E'

theorem stops_mark {b : UInt8} {s : Bytes}
    (isMark : b = Ascii.comma ∨ b = Ascii.closeBracket ∨ b = Ascii.closeBrace) :
    Numeral.Stops (b :: s) := by
  intro c isFirst
  cases isFirst
  rcases isMark with rfl | rfl | rfl <;> decide

theorem stops_blank {b : UInt8} (blank : isBlank b = true) (s : Bytes) :
    Numeral.Stops (b :: s) := by
  intro c isNext
  cases isNext
  simp only [isBlank, Bool.or_eq_true, beq_iff_eq] at blank
  rcases blank with ((rfl | rfl) | rfl) | rfl <;> decide

/-- A step that leaves the end of the text, and reads the same whatever is put after the text,
unless it has read to the end and a number could go on with what is put there. -/
def Reader.Settled {α : Type} (read : Reader α) : Prop :=
  ∀ s x rest, read s = .ok (x, rest) →
    rest <:+ s ∧
      ∀ more, (rest = [] → Numeral.Stops more) → read (s ++ more) = .ok (x, rest ++ more)

/-- A keyword is read where it stands. -/
theorem keyword_eq_ok {letters s rest : Bytes} {x : Unit} :
    keyword letters s = .ok (x, rest) ↔ s = letters ++ rest := by
  induction letters generalizing s with
  | nil =>
      constructor
      · intro read
        cases read
        rfl
      · rintro rfl
        rfl
  | cons c letters inductionHypothesis =>
      cases s with
      | nil =>
          constructor
          · intro read
            cases read
          · intro shape
            cases shape
      | cons b s =>
          by_cases same : b = c
          · simp only [keyword, same, if_true, List.cons_append, List.cons.injEq, true_and]
            exact inductionHypothesis
          · simp [keyword, same]

theorem keyword_local (letters : Bytes) : Reader.Local (keyword letters) := by
  intro s x rest read
  obtain rfl := keyword_eq_ok.mp read
  refine ⟨List.suffix_append letters rest, ?_⟩
  intro more
  exact keyword_eq_ok.mpr (List.append_assoc letters rest more)

theorem colon_local : Reader.Local colon := by
  intro s x rest read
  unfold colon at read
  split at read
  · cases read
  · next b after found =>
      split at read
      · next isColon =>
          cases read
          refine ⟨suffix_of_skipBlanks found, ?_⟩
          intro more
          simp only [colon, skipBlanks_append found more, isColon, if_true]
      · cases read

/-! ### Strings that are passed over -/

theorem fourDigits_local : Reader.Local Quoted.fourDigits := by
  intro s x rest read
  unfold Quoted.fourDigits at read
  split at read
  · next a b c d after =>
      split at read
      · next first second third fourth =>
          cases read
          refine ⟨List.suffix_append [_, _, _, _] _, ?_⟩
          intro more
          simp only [List.cons_append, Quoted.fourDigits, first, second, third, fourth]
      · cases read
  · cases read

theorem skimEscape_local : Reader.Local Quoted.skimEscape := by
  intro s x rest read
  cases s with
  | nil => cases read
  | cons letter s =>
      simp only [Quoted.skimEscape, List.cons_append] at read ⊢
      split at read
      · cases read
        exact ⟨List.suffix_cons _ _, fun more => rfl⟩
      split at read
      · next isUnicode =>
          obtain ⟨⟨code, after⟩, digits, done⟩ := bind_eq_ok.mp read
          cases done
          obtain ⟨suffix, extended⟩ := fourDigits_local s code after digits
          refine ⟨suffix.trans (List.suffix_cons _ _), ?_⟩
          intro more
          simp only [isUnicode, if_true]
          exact bind_eq_ok.mpr ⟨_, extended more, rfl⟩
      · cases read

/-- The content of a string has at least its closing quote, and is passed over with more fuel, too.
-/
theorem skimContent_append {fuel : Nat} {s rest : Bytes}
    (read : Quoted.skimContent fuel s = .ok ((), rest)) :
    rest <:+ s.tail ∧ ∀ more larger, fuel ≤ larger →
      Quoted.skimContent larger (s ++ more) = .ok ((), rest ++ more) := by
  induction fuel generalizing s with
  | zero => cases read
  | succ fuel inductionHypothesis =>
      cases s with
      | nil => cases read
      | cons b s =>
          simp only [Quoted.skimContent] at read
          split at read
          · next quote =>
              cases read
              refine ⟨List.suffix_rfl, ?_⟩
              intro more larger enough
              obtain ⟨larger, rfl⟩ := Nat.exists_eq_add_of_lt enough
              simp only [List.cons_append, Quoted.skimContent, quote, if_true]
          split at read
          · next backslash =>
              obtain ⟨⟨_, after⟩, escaped, done⟩ := bind_eq_ok.mp read
              obtain ⟨suffixEscape, extendedEscape⟩ := skimEscape_local s () after escaped
              obtain ⟨suffix, extended⟩ := inductionHypothesis done
              refine ⟨(suffix.trans (List.tail_suffix after)).trans suffixEscape, ?_⟩
              intro more larger enough
              obtain ⟨larger, rfl⟩ := Nat.exists_eq_add_of_lt enough
              simp only [List.cons_append, Quoted.skimContent, backslash, if_true]
              exact bind_eq_ok.mpr ⟨_, extendedEscape more, extended more _ (by omega)⟩
          split at read
          · cases read
          · next notQuote notBackslash notControl =>
              obtain ⟨suffix, extended⟩ := inductionHypothesis read
              refine ⟨suffix.trans (List.tail_suffix s), ?_⟩
              intro more larger enough
              obtain ⟨larger, rfl⟩ := Nat.exists_eq_add_of_lt enough
              simp only [List.cons_append, Quoted.skimContent, notQuote, notBackslash, notControl,
                if_false]
              exact extended more _ (by omega)

theorem skim_local : Reader.Local Quoted.skim := by
  intro s x rest read
  obtain ⟨suffix, extended⟩ := skimContent_append read
  refine ⟨suffix.trans (List.tail_suffix s), ?_⟩
  intro more
  exact extended more _ (by simp)

/-! ### Numbers -/

theorem readFraction_of_stops {rest : Bytes} (stops : Numeral.Stops rest) :
    Numeral.readFraction rest = .ok ([], rest) := by
  cases rest with
  | nil => rfl
  | cons b rest =>
      rw [Numeral.readFraction, if_neg (stops b rfl).2.1]

theorem readExponent_of_stops {rest : Bytes} (stops : Numeral.Stops rest) :
    Numeral.readExponent rest = .ok (none, rest) := by
  cases rest with
  | nil => rfl
  | cons b rest =>
      obtain ⟨_, _, notLower, notUpper⟩ := stops b rfl
      have noMark : ¬ (decide (b = Ascii.byte 'e') || decide (b = Ascii.byte 'E')) = true := by
        rw [Bool.or_eq_true, decide_eq_true_iff, decide_eq_true_iff]
        exact fun mark => mark.elim notLower notUpper
      exact if_neg noMark

/-- The digits before a point: at least one. -/
theorem readWhole_spec {s digits rest : Bytes} (read : Numeral.readWhole s = .ok (digits, rest)) :
    rest <:+ s.tail ∧
      ∀ more, (rest = [] → Numeral.Stops more) →
        Numeral.readWhole (s ++ more) = .ok (digits, rest ++ more) := by
  cases s with
  | nil => cases read
  | cons b s =>
      simp only [Numeral.readWhole, List.cons_append] at read ⊢
      split at read
      · next isZero =>
          cases s with
          | nil =>
              cases read
              refine ⟨List.suffix_rfl, ?_⟩
              intro more stops
              cases more with
              | nil => simp only [isZero, if_true, List.append_nil]
              | cons c more =>
                  simp only [isZero, if_true, List.nil_append, (stops rfl c rfl).1]
                  rfl
          | cons c s =>
              simp only at read
              split at read
              · cases read
              · next notDigit =>
                  cases read
                  refine ⟨List.suffix_rfl, ?_⟩
                  intro more _
                  simp only [isZero, if_true, List.cons_append, notDigit]
                  rfl
      split at read
      · next notZero isDigit =>
          cases read
          refine ⟨List.dropWhile_suffix _, ?_⟩
          intro more stops
          obtain ⟨dropped, taken⟩ := dropWhile_append_of_stops fun all b isNext =>
            (stops all b isNext).1
          simp only [notZero, isDigit, if_true, if_false, dropped, taken]
      · cases read

theorem readFraction_settled : Reader.Settled Numeral.readFraction := by
  intro s digits rest read
  cases s with
  | nil =>
      cases read
      exact ⟨List.suffix_rfl, fun more stops => readFraction_of_stops (stops rfl)⟩
  | cons b s =>
      simp only [Numeral.readFraction, List.cons_append] at read ⊢
      split at read
      · next isPoint =>
          split at read
          · cases read
          · cases read
          · next found after noEnd noStop =>
              cases read
              refine ⟨(List.dropWhile_suffix _).trans (List.suffix_cons _ _), ?_⟩
              intro more stops
              obtain ⟨dropped, taken⟩ := dropWhile_append_of_stops fun all b isNext =>
                (stops all b isNext).1
              simp only [isPoint, if_true, dropped, taken]
              cases digits : s.takeWhile Ascii.isDigit with
              | cons d digits => rfl
              | nil =>
                  cases left : s.dropWhile Ascii.isDigit with
                  | nil => exact (noEnd digits left).elim
                  | cons c after => exact (noStop c after digits left).elim
      · next notPoint =>
          cases read
          refine ⟨List.suffix_rfl, ?_⟩
          intro more _
          simp only [notPoint, if_false, List.cons_append]

theorem readExponentDigits_settled (negative : Bool) :
    Reader.Settled (Numeral.readExponentDigits negative) := by
  intro s digits rest read
  cases s with
  | nil => cases read
  | cons b s =>
      simp only [Numeral.readExponentDigits, List.cons_append] at read ⊢
      split at read
      · next isDigit =>
          cases read
          refine ⟨(List.dropWhile_suffix _).trans (List.suffix_cons _ _), ?_⟩
          intro more stops
          obtain ⟨dropped, taken⟩ := dropWhile_append_of_stops fun all b isNext =>
            (stops all b isNext).1
          simp only [isDigit, if_true, dropped, taken]
      · cases read

theorem readExponent_settled : Reader.Settled Numeral.readExponent := by
  intro s exponent rest read
  cases s with
  | nil =>
      cases read
      exact ⟨List.suffix_rfl, fun more stops => readExponent_of_stops (stops rfl)⟩
  | cons b s =>
      simp only [Numeral.readExponent, List.cons_append] at read ⊢
      split at read
      · next isExponent =>
          cases s with
          | nil => cases read
          | cons c s =>
              simp only at read
              split at read
              · next isPlus =>
                  obtain ⟨suffix, extended⟩ :=
                    readExponentDigits_settled false s exponent rest read
                  refine ⟨suffix.trans (List.suffix_append [b, c] s), ?_⟩
                  intro more stops
                  simp only [isExponent, if_true, List.cons_append, isPlus]
                  exact extended more stops
              split at read
              · next isMinus =>
                  obtain ⟨suffix, extended⟩ :=
                    readExponentDigits_settled true s exponent rest read
                  refine ⟨suffix.trans (List.suffix_append [b, c] s), ?_⟩
                  intro more stops
                  simp only [isExponent, if_true, List.cons_append, isMinus]
                  exact extended more stops
              · next notPlus notMinus =>
                  obtain ⟨suffix, extended⟩ :=
                    readExponentDigits_settled false (c :: s) exponent rest read
                  refine ⟨suffix.trans (List.suffix_cons _ _), ?_⟩
                  intro more stops
                  simp only [isExponent, if_true, if_false, List.cons_append, notPlus, notMinus]
                  exact extended more stops
      · next notExponent =>
          cases read
          refine ⟨List.suffix_rfl, ?_⟩
          intro more _
          simp only [notExponent, List.cons_append]
          rfl

/-- A part of a number at the end of a text leaves nothing to the parts after it. -/
theorem Reader.Settled.eq_nil {α : Type} {read : Reader α} (settled : read.Settled)
    {s rest : Bytes} {x : α} (success : read s = .ok (x, rest)) (empty : s = []) :
    rest = [] := by
  have suffix := (settled s x rest success).1
  rw [empty] at suffix
  exact List.suffix_nil.mp suffix

theorem readUnsigned_spec {negative : Bool} {s rest : Bytes} {numeral : Numeral}
    (read : Numeral.readUnsigned negative s = .ok (numeral, rest)) :
    rest <:+ s.tail ∧
      ∀ more, (rest = [] → Numeral.Stops more) →
        Numeral.readUnsigned negative (s ++ more) = .ok (numeral, rest ++ more) := by
  obtain ⟨⟨whole, afterWhole⟩, readWhole, read⟩ := bind_eq_ok.mp read
  obtain ⟨⟨fraction, afterFraction⟩, readFraction, read⟩ := bind_eq_ok.mp read
  obtain ⟨⟨exponent, afterExponent⟩, readExponent, read⟩ := bind_eq_ok.mp read
  cases read
  obtain ⟨suffixWhole, extendedWhole⟩ := readWhole_spec readWhole
  obtain ⟨suffixFraction, extendedFraction⟩ := readFraction_settled _ _ _ readFraction
  obtain ⟨suffixExponent, extendedExponent⟩ := readExponent_settled _ _ _ readExponent
  refine ⟨(suffixExponent.trans suffixFraction).trans suffixWhole, ?_⟩
  intro more stops
  have stopsFraction := fun empty => stops (readExponent_settled.eq_nil readExponent empty)
  have stopsWhole := fun empty => stopsFraction (readFraction_settled.eq_nil readFraction empty)
  exact bind_eq_ok.mpr ⟨_, extendedWhole more stopsWhole,
    bind_eq_ok.mpr ⟨_, extendedFraction more stopsFraction,
      bind_eq_ok.mpr ⟨_, extendedExponent more stops, rfl⟩⟩⟩

/-- A number has at least one byte, and is the same whatever comes after it that does not go on with
it. -/
theorem numeral_spec {s rest : Bytes} {numeral : Numeral}
    (read : Numeral.read s = .ok (numeral, rest)) :
    rest <:+ s.tail ∧
      ∀ more, (rest = [] → Numeral.Stops more) →
        Numeral.read (s ++ more) = .ok (numeral, rest ++ more) := by
  cases s with
  | nil => cases read
  | cons b s =>
      simp only [Numeral.read, List.cons_append] at read ⊢
      split at read
      · next isMinus =>
          obtain ⟨suffix, extended⟩ := readUnsigned_spec read
          refine ⟨suffix.trans (List.tail_suffix s), ?_⟩
          intro more stops
          simp only [isMinus, if_true]
          exact extended more stops
      · next notMinus =>
          obtain ⟨suffix, extended⟩ := readUnsigned_spec read
          refine ⟨suffix, ?_⟩
          intro more stops
          simp only [notMinus, if_false]
          exact extended more stops

/-- Passing over a number is reading its numeral. -/
theorem skimNumber_eq_ok {s rest : Bytes} :
    skimNumber s = .ok ((), rest) ↔ ∃ numeral, Numeral.read s = .ok (numeral, rest) := by
  unfold skimNumber
  cases Numeral.read s with
  | error fault =>
      constructor
      · intro read
        cases read
      · rintro ⟨numeral, read⟩
        cases read
  | ok found =>
      constructor
      · intro read
        cases read
        exact ⟨_, rfl⟩
      · rintro ⟨numeral, read⟩
        cases read
        rfl

end Json

end RpcTransport
