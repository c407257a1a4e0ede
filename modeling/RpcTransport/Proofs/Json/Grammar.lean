import RpcTransport.Proofs.Json.Roundtrip

/-!
The grammar of JSON: which texts are values, without blanks around them. A text of the grammar is
passed over as one value, whatever its strings hold and however its arrays and objects are nested.
-/

namespace RpcTransport.Json

/-! ### Numbers -/

/-- Digits, at least one. -/
inductive IsDigits : Bytes → Prop
  | digits {b : UInt8} {others : Bytes} (first : Ascii.isDigit b = true)
    (areDigits : ∀ d ∈ others, Ascii.isDigit d = true) : IsDigits (b :: others)

/-- The digits before the point: a zero, or digits of which the first is no zero. -/
inductive IsWhole : Bytes → Prop
  | zero : IsWhole [Ascii.byte '0']
  | digits {b : UInt8} {others : Bytes} (first : Ascii.isDigit b = true)
    (notZero : b ≠ Ascii.byte '0') (areDigits : ∀ d ∈ others, Ascii.isDigit d = true) :
    IsWhole (b :: others)

/-- The digits after the point, with the point, if there is one. -/
inductive IsFraction : Bytes → Prop
  | none : IsFraction []
  | digits {digits : Bytes} (isDigits : IsDigits digits) : IsFraction (Ascii.point :: digits)

/-- The sign of an exponent, if there is one. -/
inductive IsSign : Bytes → Prop
  | none : IsSign []
  | plus : IsSign [Ascii.plus]
  | minus : IsSign [Ascii.minus]

/-- An exponent with its mark, if there is one. -/
inductive IsExponent : Bytes → Prop
  | none : IsExponent []
  | digits {mark : UInt8} {sign digits : Bytes}
    (isMark : mark = Ascii.byte 'e' ∨ mark = Ascii.byte 'E') (isSign : IsSign sign)
    (isDigits : IsDigits digits) : IsExponent (mark :: (sign ++ digits))

/-- A number. -/
inductive IsNumber : Bytes → Prop
  | positive {whole fraction exponent : Bytes} (isWhole : IsWhole whole)
    (isFraction : IsFraction fraction) (isExponent : IsExponent exponent) :
    IsNumber (whole ++ (fraction ++ exponent))
  | negative {whole fraction exponent : Bytes} (isWhole : IsWhole whole)
    (isFraction : IsFraction fraction) (isExponent : IsExponent exponent) :
    IsNumber (Ascii.minus :: (whole ++ (fraction ++ exponent)))

/-- No digit comes next. -/
def NoDigit (rest : Bytes) : Prop :=
  ∀ b ∈ rest.head?, Ascii.isDigit b = false

section Numbers

variable {digits whole fraction exponent rest text : Bytes}

/-- Digits are taken up to what is none. -/
theorem takeWhile_digits (areDigits : ∀ d ∈ digits, Ascii.isDigit d = true)
    (noDigit : NoDigit rest) :
    (digits ++ rest).takeWhile Ascii.isDigit = digits ∧
      (digits ++ rest).dropWhile Ascii.isDigit = rest := by
  have all : digits.dropWhile Ascii.isDigit = [] := List.dropWhile_eq_nil_iff.mpr areDigits
  obtain ⟨dropped, taken⟩ := dropWhile_append_of_stops (s := digits) fun _ => noDigit
  rw [dropped, taken, all, List.takeWhile_eq_self_iff.mpr areDigits]
  exact ⟨rfl, rfl⟩

theorem IsWhole.readWhole (isWhole : IsWhole whole) (noDigit : NoDigit rest) :
    Numeral.readWhole (whole ++ rest) = .ok (whole, rest) := by
  cases isWhole with
  | zero =>
      cases rest with
      | nil => rfl
      | cons b rest =>
          simp only [List.cons_append, List.nil_append, Numeral.readWhole, if_true,
            noDigit b rfl]
          rfl
  | digits first notZero areDigits =>
      obtain ⟨taken, dropped⟩ := takeWhile_digits areDigits noDigit
      simp only [List.cons_append, Numeral.readWhole, notZero, first, if_true, if_false, taken,
        dropped]

/-- A fraction is read up to what is no digit, and no point where there is no fraction. -/
theorem IsFraction.readFraction (isFraction : IsFraction fraction) (noDigit : NoDigit rest)
    (noPoint : rest.head? ≠ some Ascii.point) :
    ∃ digits, Numeral.readFraction (fraction ++ rest) = .ok (digits, rest) := by
  cases isFraction with
  | none =>
      cases rest with
      | nil => exact ⟨[], rfl⟩
      | cons b rest =>
          refine ⟨[], ?_⟩
          rw [List.nil_append, Numeral.readFraction, if_neg]
          rintro rfl
          exact noPoint rfl
  | digits isDigits =>
      cases isDigits with
      | @digits b others first areDigits =>
          have all : ∀ d ∈ b :: others, Ascii.isDigit d = true :=
            List.forall_mem_cons.mpr ⟨first, areDigits⟩
          obtain ⟨taken, dropped⟩ := takeWhile_digits all noDigit
          refine ⟨b :: others, ?_⟩
          rw [List.cons_append, Numeral.readFraction, if_pos rfl]
          simp only [taken, dropped]

theorem IsExponent.readExponent (isExponent : IsExponent exponent) :
    ∃ digits, Numeral.readExponent exponent = .ok (digits, []) := by
  cases isExponent with
  | none => exact ⟨Option.none, rfl⟩
  | @digits mark sign _ isMark isSign isDigits =>
      cases isDigits with
      | @digits b others first areDigits =>
          have read : ∀ negative, Numeral.readExponentDigits negative (b :: others) =
              .ok (some (negative, b :: others), []) := by
            intro negative
            have taken := List.takeWhile_eq_self_iff.mpr areDigits
            have dropped := List.dropWhile_eq_nil_iff.mpr areDigits
            rw [Numeral.readExponentDigits, if_pos first, taken, dropped]
          have marked : (decide (mark = Ascii.byte 'e') || decide (mark = Ascii.byte 'E')) = true := by
            simpa using isMark
          have noPlus : b ≠ Ascii.plus := ne_of_number (Or.inr first) (by decide) (by decide)
          have noMinus : b ≠ Ascii.minus := by
            rintro rfl
            cases first
          cases isSign with
          | none =>
              refine ⟨some (Bool.false, b :: others), (if_pos marked).trans ?_⟩
              simp only [noPlus, noMinus, if_false]
              exact read Bool.false
          | plus => exact ⟨_, (if_pos marked).trans (read false)⟩
          | minus => exact ⟨_, (if_pos marked).trans (read true)⟩

/-- An exponent is no digit and no point. -/
theorem IsExponent.head (isExponent : IsExponent exponent) :
    NoDigit exponent ∧ exponent.head? ≠ some Ascii.point := by
  cases isExponent with
  | none => exact ⟨nofun, nofun⟩
  | digits isMark =>
      rcases isMark with rfl | rfl
      · exact ⟨fun b first => by cases first; rfl, by simp⟩
      · exact ⟨fun b first => by cases first; rfl, by simp⟩

theorem IsFraction.noDigit (isFraction : IsFraction fraction) (noDigit : NoDigit rest) :
    NoDigit (fraction ++ rest) := by
  cases isFraction with
  | none => exact noDigit
  | digits =>
      intro b first
      cases first
      rfl

theorem readUnsigned_of_parts (negative : Bool) (isWhole : IsWhole whole)
    (isFraction : IsFraction fraction) (isExponent : IsExponent exponent) :
    ∃ numeral, Numeral.readUnsigned negative (whole ++ (fraction ++ exponent)) =
      .ok (numeral, []) := by
  obtain ⟨noDigit, noPoint⟩ := isExponent.head
  obtain ⟨_, readFraction⟩ := isFraction.readFraction noDigit noPoint
  obtain ⟨_, readExponent⟩ := isExponent.readExponent
  exact ⟨_, bind_eq_ok.mpr ⟨_, isWhole.readWhole (isFraction.noDigit noDigit),
    bind_eq_ok.mpr ⟨_, readFraction, bind_eq_ok.mpr ⟨_, readExponent, rfl⟩⟩⟩⟩

/-- A whole number starts with a digit. -/
theorem IsWhole.eq_cons (isWhole : IsWhole whole) :
    ∃ b others, whole = b :: others ∧ Ascii.isDigit b = true := by
  cases isWhole with
  | zero => exact ⟨_, _, rfl, rfl⟩
  | digits first => exact ⟨_, _, rfl, first⟩

/-- A number is read to its end. -/
theorem IsNumber.read (isNumber : IsNumber text) :
    ∃ b tail numeral, text = b :: tail ∧ (b = Ascii.minus ∨ Ascii.isDigit b = true) ∧
      Numeral.read (b :: tail) = .ok (numeral, []) := by
  cases isNumber with
  | positive isWhole isFraction isExponent =>
      obtain ⟨numeral, read⟩ := readUnsigned_of_parts false isWhole isFraction isExponent
      obtain ⟨b, others, rfl, first⟩ := isWhole.eq_cons
      have noMinus : b ≠ Ascii.minus := by
        rintro rfl
        cases first
      exact ⟨b, _, numeral, rfl, Or.inr first, (if_neg noMinus).trans read⟩
  | negative isWhole isFraction isExponent =>
      obtain ⟨numeral, read⟩ := readUnsigned_of_parts true isWhole isFraction isExponent
      exact ⟨_, _, numeral, rfl, Or.inl rfl, read⟩

end Numbers

/-! ### Strings -/

/-- The letters that may stand alone after a backslash. -/
def escapeLetters : Bytes :=
  [Ascii.doubleQuote, Ascii.backslash, Ascii.byte '/', Ascii.byte 'b', Ascii.byte 'f',
    Ascii.byte 'n', Ascii.byte 'r', Ascii.byte 't']

/-- A hexadecimal digit, in either case. -/
def IsHexDigit (b : UInt8) : Prop :=
  Ascii.isDigit b = true ∨ (Ascii.byte 'a' ≤ b ∧ b ≤ Ascii.byte 'f') ∨
    (Ascii.byte 'A' ≤ b ∧ b ≤ Ascii.byte 'F')

/-- What may stand between the quotes of a string. -/
inductive IsContent : Bytes → Prop
  | empty : IsContent []
  | plain {b : UInt8} {others : Bytes} (noQuote : b ≠ Ascii.doubleQuote)
    (noBackslash : b ≠ Ascii.backslash) (noControl : 0x20 ≤ b) (isContent : IsContent others) :
    IsContent (b :: others)
  | short {letter : UInt8} {others : Bytes} (isLetter : letter ∈ escapeLetters)
    (isContent : IsContent others) : IsContent (Ascii.backslash :: letter :: others)
  | unicode {first second third fourth : UInt8} {others : Bytes}
    (areHex : ∀ b ∈ [first, second, third, fourth], IsHexDigit b) (isContent : IsContent others) :
    IsContent (Ascii.backslash :: Ascii.byte 'u' :: first :: second :: third :: fourth :: others)

/-- A string with its quotes. -/
inductive IsString : Bytes → Prop
  | quoted {content : Bytes} (isContent : IsContent content) :
    IsString (Ascii.doubleQuote :: (content ++ [Ascii.doubleQuote]))

theorem IsHexDigit.hexValue? {b : UInt8} (isHex : IsHexDigit b) :
    ∃ n, Ascii.hexValue? b = some n := by
  unfold Ascii.hexValue?
  split
  · exact ⟨_, rfl⟩
  split
  · exact ⟨_, rfl⟩
  split
  · exact ⟨_, rfl⟩
  · next noDigit noLower noUpper =>
      simp only [Bool.and_eq_true, decide_eq_true_eq] at noLower noUpper
      rcases isHex with isDigit | isLower | isUpper
      · exact absurd isDigit noDigit
      · exact absurd isLower noLower
      · exact absurd isUpper noUpper

theorem fourDigits_of_isHexDigit {first second third fourth : UInt8}
    (areHex : ∀ b ∈ [first, second, third, fourth], IsHexDigit b) (rest : Bytes) :
    ∃ n, Quoted.fourDigits (first :: second :: third :: fourth :: rest) = .ok (n, rest) := by
  simp only [List.forall_mem_cons] at areHex
  obtain ⟨isFirst, isSecond, isThird, isFourth, _⟩ := areHex
  obtain ⟨a, hasFirst⟩ := isFirst.hexValue?
  obtain ⟨b, hasSecond⟩ := isSecond.hexValue?
  obtain ⟨c, hasThird⟩ := isThird.hexValue?
  obtain ⟨d, hasFourth⟩ := isFourth.hexValue?
  simp only [Quoted.fourDigits, hasFirst, hasSecond, hasThird, hasFourth]
  exact ⟨_, rfl⟩

theorem unescape?_of_mem : ∀ letter ∈ escapeLetters, ∃ b, Quoted.unescape? letter = some b := by
  intro letter isLetter
  simp only [escapeLetters, List.mem_cons, List.not_mem_nil, or_false] at isLetter
  rcases isLetter with rfl | rfl | rfl | rfl | rfl | rfl | rfl | rfl
  all_goals exact ⟨_, rfl⟩

/-- The content of a string is passed over up to the closing quote. -/
theorem IsContent.skimContent {content : Bytes} (isContent : IsContent content) (rest : Bytes)
    {fuel : Nat} (enough : content.length < fuel) :
    Quoted.skimContent fuel (content ++ Ascii.doubleQuote :: rest) = .ok ((), rest) := by
  induction isContent generalizing fuel with
  | empty =>
      obtain ⟨fuel, rfl⟩ := Nat.exists_eq_add_one_of_ne_zero (Nat.ne_of_gt enough)
      rfl
  | plain noQuote noBackslash noControl isContent inductionHypothesis =>
      obtain ⟨fuel, rfl⟩ := Nat.exists_eq_add_one_of_ne_zero (Nat.ne_zero_of_lt enough)
      simp only [List.cons_append, Quoted.skimContent, noQuote, noBackslash,
        UInt8.not_lt.mpr noControl, if_false]
      exact inductionHypothesis (Nat.lt_of_succ_lt_succ enough)
  | @short letter others isLetter isContent inductionHypothesis =>
      obtain ⟨fuel, rfl⟩ := Nat.exists_eq_add_one_of_ne_zero (Nat.ne_zero_of_lt enough)
      obtain ⟨b, unescaped⟩ := unescape?_of_mem _ isLetter
      have skimmed := inductionHypothesis (Nat.lt_of_succ_lt (Nat.lt_of_succ_lt_succ enough))
      have escaped : Quoted.skimEscape (letter :: (others ++ Ascii.doubleQuote :: rest)) =
          .ok ((), others ++ Ascii.doubleQuote :: rest) := by
        simp only [Quoted.skimEscape, unescaped]
      exact bind_eq_ok.mpr ⟨_, escaped, skimmed⟩
  | unicode areHex isContent inductionHypothesis =>
      obtain ⟨fuel, rfl⟩ := Nat.exists_eq_add_one_of_ne_zero (Nat.ne_zero_of_lt enough)
      obtain ⟨n, digits⟩ := fourDigits_of_isHexDigit areHex _
      simp only [List.length_cons] at enough
      have skimmed := inductionHypothesis (show _ < fuel by omega)
      exact bind_eq_ok.mpr ⟨((), _), bind_eq_ok.mpr ⟨_, digits, rfl⟩, skimmed⟩

/-- A string is passed over from its opening quote on. -/
theorem IsString.skim {text : Bytes} (isString : IsString text) :
    ∃ quoted, text = Ascii.doubleQuote :: quoted ∧
      ∀ rest, Quoted.skim (quoted ++ rest) = .ok ((), rest) := by
  cases isString with
  | @quoted content isContent =>
      refine ⟨_, rfl, ?_⟩
      intro rest
      have enough : content.length < (content ++ [Ascii.doubleQuote] ++ rest).length := by
        simp only [List.length_append, List.length_singleton]
        omega
      rw [Quoted.skim]
      simpa using isContent.skimContent rest enough

/-! ### Values -/

/-- What a text of the grammar stands for. -/
inductive Phrase
  | value
  /-- A member of an object. -/
  | member

/-- A text of the grammar, without blanks around it. -/
inductive IsText : Phrase → Bytes → Prop
  | null : IsText .value (bytesOf "null")
  | true : IsText .value (bytesOf "true")
  | false : IsText .value (bytesOf "false")
  | number {text : Bytes} (isNumber : IsNumber text) : IsText .value text
  | string {text : Bytes} (isString : IsString text) : IsText .value text
  | array {texts : List Bytes} {inner : Bytes} (listed : Listed texts inner)
    (areValues : ∀ text ∈ texts, IsText .value text) :
    IsText .value (Ascii.openBracket :: (inner ++ [Ascii.closeBracket]))
  | object {texts : List Bytes} {inner : Bytes} (listed : Listed texts inner)
    (areMembers : ∀ text ∈ texts, IsText .member text) :
    IsText .value (Ascii.openBrace :: (inner ++ [Ascii.closeBrace]))
  | member {name before after value : Bytes} (isName : IsString name) (blankBefore : Blank before)
    (blankAfter : Blank after) (isValue : IsText .value value) :
    IsText .member (name ++ (before ++ Ascii.colon :: (after ++ value)))

/-- A text starts a part: the last one of its list, or one before others. -/
structure StartsPart (part : Part) (close : UInt8) (text : Bytes) : Prop where
  trimmed : ∃ b tail, text = b :: tail ∧ isBlank b = false
  last : ∀ {s left after : Bytes}, skipBlanks s = text ++ left → Numeral.Stops left →
    skipBlanks left = close :: after → Skims part s after
  more : ∀ {s left more after : Bytes}, skipBlanks s = text ++ left → Numeral.Stops left →
    skipBlanks left = Ascii.comma :: more → Skims part more after → Skims part s after

section Parts

variable {part : Part} {close : UInt8} {text before inner rest : Bytes} {texts : List Bytes}

theorem StartsPart.skipBlanks_append (starts : StartsPart part close text) (blank : Blank before)
    (rest : Bytes) : skipBlanks (before ++ (text ++ rest)) = text ++ rest := by
  obtain ⟨b, tail, rfl, notBlank⟩ := starts.trimmed
  exact skipBlanks_of_blanks blank notBlank

/-- Texts in a list that each start a part make up the part, up to its end. -/
theorem Listed.skims (listed : Listed texts inner) (nonempty : texts ≠ [])
    (isMark : close = Ascii.closeBracket ∨ close = Ascii.closeBrace)
    (starts : ∀ text ∈ texts, StartsPart part close text) :
    Skims part (inner ++ close :: rest) rest := by
  have notBlank : isBlank close = false := by
    rcases isMark with rfl | rfl <;> rfl
  induction listed with
  | empty => exact absurd rfl nonempty
  | last padding =>
      obtain ⟨before, after, blankBefore, blankAfter, rfl⟩ := padding
      have isLast := starts _ List.mem_cons_self
      simp only [List.append_assoc]
      refine isLast.last (isLast.skipBlanks_append blankBefore _) ?_ ?_
      · exact stops_of_blank blankAfter (Or.inr isMark)
      · exact skipBlanks_of_blanks blankAfter notBlank
  | more padding others inductionHypothesis =>
      obtain ⟨before, after, blankBefore, blankAfter, rfl⟩ := padding
      obtain ⟨isFirst, areOthers⟩ := List.forall_mem_cons.mp starts
      simp only [List.append_assoc, List.cons_append]
      refine isFirst.more (isFirst.skipBlanks_append blankBefore _) ?_ ?_
        (inductionHypothesis (List.cons_ne_nil _ _) areOthers)
      · exact stops_of_blank blankAfter (Or.inl rfl)
      · exact skipBlanks_of_blanks blankAfter (by decide)

/-- A value starts the elements of an array. -/
theorem IsValueText.startsPart (isValue : IsValueText text) :
    StartsPart .elements Ascii.closeBracket text := by
  have value : ∀ {s left : Bytes}, skipBlanks s = text ++ left → Numeral.Stops left →
      Skims .value s left := by
    intro s left start stops
    refine (isValue.skims_append stops).congr ?_
    rw [start, ← start, skipBlanks_skipBlanks]
  obtain ⟨b, tail, first, notBlank, _⟩ := isValue.eq_cons
  refine ⟨⟨b, tail, first, notBlank⟩, ?_, ?_⟩
  · exact fun start stops closes => .lastElement (value start stops) closes
  · exact fun start stops comma elements => .element (value start stops) comma elements

/-- A name, a colon and a value start the members of an object. -/
theorem IsString.startsPart {name after value : Bytes} (isName : IsString name)
    (blankBefore : Blank before) (blankAfter : Blank after) (isValue : IsValueText value) :
    StartsPart .members Ascii.closeBrace
      (name ++ (before ++ Ascii.colon :: (after ++ value))) := by
  obtain ⟨quoted, rfl, skim⟩ := isName.skim
  have mark : ∀ left, colon (before ++ Ascii.colon :: (after ++ (value ++ left))) =
      .ok ((), after ++ (value ++ left)) := by
    intro left
    rw [colon, skipBlanks_of_blanks blankBefore (by decide)]
    rfl
  have valued : ∀ {left}, Numeral.Stops left → Skims .value (after ++ (value ++ left)) left :=
    fun stops => isValue.skims_of_blank blankAfter stops
  refine ⟨⟨_, _, rfl, by decide⟩, ?_, ?_⟩
  · intro s left rest start stops closes
    simp only [List.cons_append, List.append_assoc] at start
    exact .lastMember start (skim _) (mark left) (valued stops) closes
  · intro s left more rest start stops comma members
    simp only [List.cons_append, List.append_assoc] at start
    exact .member start (skim _) (mark left) (valued stops) comma members

theorem isValueText_of_scalar {b : UInt8} {tail : Bytes} (notBlank : isBlank b = false)
    (noArray : b ≠ Ascii.openBracket) (noObject : b ≠ Ascii.openBrace)
    (scalar : skimScalar b tail = .ok ((), [])) : IsValueText (b :: tail) :=
  have start := skipBlanks_cons_of_not_blank notBlank tail
  ⟨start, .scalar start noArray noObject scalar⟩

/-- A number starts with a sign or a digit, and is passed over. -/
theorem IsNumber.isValueText (isNumber : IsNumber text) : IsValueText text := by
  obtain ⟨b, tail, numeral, rfl, first, read⟩ := isNumber.read
  have other : ∀ {mark}, mark ≠ Ascii.minus → Ascii.isDigit mark = false → b ≠ mark :=
    ne_of_number first
  refine isValueText_of_scalar (isBlank_of_number first) (other (by decide) (by decide))
    (other (by decide) (by decide)) ?_
  rw [skimScalar, if_neg (other (by decide) (by decide)), if_neg (other (by decide) (by decide)),
    if_neg (other (by decide) (by decide)), if_pos first]
  exact skimNumber_eq_ok.mpr ⟨numeral, read⟩

theorem IsString.isValueText (isString : IsString text) : IsValueText text := by
  obtain ⟨quoted, rfl, skim⟩ := isString.skim
  have skimmed := skim []
  rw [List.append_nil] at skimmed
  exact isValueText_of_scalar rfl (by decide) (by decide) skimmed

/-- Nothing stands between brackets but blanks if there are no texts. -/
theorem Listed.blank (listed : Listed [] inner) : Blank inner := by
  cases listed with
  | empty blank => exact blank

/-- An array of values is passed over. -/
theorem isValueText_of_array (listed : Listed texts inner)
    (areValues : ∀ text ∈ texts, IsValueText text) :
    IsValueText (Ascii.openBracket :: (inner ++ [Ascii.closeBracket])) := by
  have start : skipBlanks (Ascii.openBracket :: (inner ++ [Ascii.closeBracket])) = _ :=
    skipBlanks_cons_of_not_blank (by decide) _
  refine ⟨start, ?_⟩
  by_cases empty : texts = []
  · subst empty
    refine .emptyArray start ?_
    rw [skipBlanks_append_of_blank listed.blank]
    exact skipBlanks_cons_of_not_blank (by decide) []
  · refine .array start (listed.skims empty (Or.inl rfl) ?_)
    exact fun text member => (areValues text member).startsPart

/-- An object is passed over if its members are. -/
theorem isValueText_of_object (listed : Listed texts inner)
    (areMembers : ∀ text ∈ texts, StartsPart .members Ascii.closeBrace text) :
    IsValueText (Ascii.openBrace :: (inner ++ [Ascii.closeBrace])) := by
  have start : skipBlanks (Ascii.openBrace :: (inner ++ [Ascii.closeBrace])) = _ :=
    skipBlanks_cons_of_not_blank (by decide) _
  refine ⟨start, ?_⟩
  by_cases empty : texts = []
  · subst empty
    refine .emptyObject start ?_
    rw [skipBlanks_append_of_blank listed.blank]
    exact skipBlanks_cons_of_not_blank (by decide) []
  · exact .object start (listed.skims empty (Or.inr rfl) areMembers)

/-- What is shown of a text of the grammar: a value is passed over, and a member starts the members
of an object. -/
def Phrase.Passed : Phrase → Bytes → Prop
  | .value => IsValueText
  | .member => StartsPart .members Ascii.closeBrace

theorem IsText.passed {phrase : Phrase} (isText : IsText phrase text) : phrase.Passed text := by
  -- by the derivation, a case for each form of value
  induction isText with
  | null | true | false =>
      exact isValueText_of_scalar (by decide) (by decide) (by decide) rfl
  | number isNumber => exact isNumber.isValueText
  | string isString => exact isString.isValueText
  | array listed _ inductionHypothesis => exact isValueText_of_array listed inductionHypothesis
  | object listed _ inductionHypothesis => exact isValueText_of_object listed inductionHypothesis
  | member isName blankBefore blankAfter _ inductionHypothesis =>
      exact isName.startsPart blankBefore blankAfter inductionHypothesis

/-- Every value of the grammar is passed over as one value. -/
theorem IsText.isValueText (isText : IsText .value text) : IsValueText text :=
  isText.passed

end Parts

end RpcTransport.Json
