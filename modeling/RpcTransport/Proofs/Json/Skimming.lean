import RpcTransport.Proofs.Json.Lexical
import RpcTransport.Proofs.Text.Utf8

/-!
The grammar of the values that are passed over, as a relation between a text and what is left of it.
Passing over accepts exactly this grammar, and a value in it ends where it ends whatever comes
after.
-/

namespace RpcTransport.Json

/-- The parts of a text that are passed over one after another. -/
inductive Part
  | value
  /-- The elements of an array from one element on, up to the bracket. -/
  | elements
  /-- The members of an object from one member on, up to the brace. -/
  | members

/-- A text starts with a part, and so much is left after it. -/
inductive Skims : Part → Bytes → Bytes → Prop
  | scalar {s rest after : Bytes} {b : UInt8} (start : skipBlanks s = b :: rest)
      (noArray : b ≠ Ascii.openBracket) (noObject : b ≠ Ascii.openBrace)
      (scalar : skimScalar b rest = .ok ((), after)) : Skims .value s after
  | emptyArray {s rest after : Bytes} (start : skipBlanks s = Ascii.openBracket :: rest)
      (close : skipBlanks rest = Ascii.closeBracket :: after) : Skims .value s after
  | array {s rest after : Bytes} (start : skipBlanks s = Ascii.openBracket :: rest)
      (elements : Skims .elements rest after) : Skims .value s after
  | emptyObject {s rest after : Bytes} (start : skipBlanks s = Ascii.openBrace :: rest)
      (close : skipBlanks rest = Ascii.closeBrace :: after) : Skims .value s after
  | object {s rest after : Bytes} (start : skipBlanks s = Ascii.openBrace :: rest)
      (members : Skims .members rest after) : Skims .value s after
  | lastElement {s rest after : Bytes} (value : Skims .value s rest)
      (close : skipBlanks rest = Ascii.closeBracket :: after) : Skims .elements s after
  | element {s rest more after : Bytes} (value : Skims .value s rest)
      (comma : skipBlanks rest = Ascii.comma :: more) (elements : Skims .elements more after) :
      Skims .elements s after
  | lastMember {s quoted named valued rest after : Bytes}
      (quote : skipBlanks s = Ascii.doubleQuote :: quoted)
      (name : Quoted.skim quoted = .ok ((), named)) (mark : colon named = .ok ((), valued))
      (value : Skims .value valued rest) (close : skipBlanks rest = Ascii.closeBrace :: after) :
      Skims .members s after
  | member {s quoted named valued rest more after : Bytes}
      (quote : skipBlanks s = Ascii.doubleQuote :: quoted)
      (name : Quoted.skim quoted = .ok ((), named)) (mark : colon named = .ok ((), valued))
      (value : Skims .value valued rest) (comma : skipBlanks rest = Ascii.comma :: more)
      (members : Skims .members more after) : Skims .members s after

/-! ### Scalars -/

/-- A scalar consumes what it reads, and only a number could go on after the text. -/
theorem skimScalar_settled (b : UInt8) : Reader.Settled (skimScalar b) := by
  intro s x rest read
  unfold skimScalar at read ⊢
  split at read
  · next isNull =>
      obtain ⟨suffix, extended⟩ := keyword_local afterN s x rest read
      refine ⟨suffix, fun more _ => ?_⟩
      rw [if_pos isNull]
      exact extended more
  split at read
  · next notNull isTrue =>
      obtain ⟨suffix, extended⟩ := keyword_local afterT s x rest read
      refine ⟨suffix, fun more _ => ?_⟩
      rw [if_neg notNull, if_pos isTrue]
      exact extended more
  split at read
  · next notNull notTrue isFalse =>
      obtain ⟨suffix, extended⟩ := keyword_local afterF s x rest read
      refine ⟨suffix, fun more _ => ?_⟩
      rw [if_neg notNull, if_neg notTrue, if_pos isFalse]
      exact extended more
  split at read
  · next notNull notTrue notFalse isNumber =>
      obtain ⟨numeral, number⟩ := skimNumber_eq_ok.mp read
      obtain ⟨suffix, extended⟩ := numeral_spec number
      refine ⟨suffix, fun more stops => ?_⟩
      rw [if_neg notNull, if_neg notTrue, if_neg notFalse, if_pos isNumber]
      exact skimNumber_eq_ok.mpr ⟨numeral, extended more stops⟩
  split at read
  · next notNull notTrue notFalse notNumber isString =>
      obtain ⟨suffix, extended⟩ := skim_local s x rest read
      refine ⟨suffix, fun more _ => ?_⟩
      rw [if_neg notNull, if_neg notTrue, if_neg notFalse, if_neg notNumber, if_pos isString]
      exact extended more
  · cases read

/-- A bracket that closes an array starts no scalar. -/
theorem ne_closeBracket_of_skimScalar {b : UInt8} {rest after : Bytes}
    (scalar : skimScalar b rest = .ok ((), after)) : b ≠ Ascii.closeBracket := by
  rintro rfl
  cases scalar

namespace Skims

variable {part : Part} {s after : Bytes}

/-- What comes after a part is the end of the text. -/
theorem suffix (skims : Skims part s after) : after <:+ s := by
  induction skims with
  | scalar start noArray noObject scalar =>
      exact (skimScalar_settled _ _ _ _ scalar).1.trans (suffix_of_skipBlanks start)
  | emptyArray start close | emptyObject start close =>
      exact (suffix_of_skipBlanks close).trans (suffix_of_skipBlanks start)
  | array start elements inductionHypothesis =>
      exact inductionHypothesis.trans (suffix_of_skipBlanks start)
  | object start members inductionHypothesis =>
      exact inductionHypothesis.trans (suffix_of_skipBlanks start)
  | lastElement value close inductionHypothesis =>
      exact (suffix_of_skipBlanks close).trans inductionHypothesis
  | element value comma elements valueSuffix elementsSuffix =>
      exact elementsSuffix.trans ((suffix_of_skipBlanks comma).trans valueSuffix)
  | lastMember quote name mark value close valueSuffix =>
      have suffixName := (skim_local _ _ _ name).1.trans (suffix_of_skipBlanks quote)
      have suffixMark := (colon_local _ _ _ mark).1.trans suffixName
      exact (suffix_of_skipBlanks close).trans (valueSuffix.trans suffixMark)
  | member quote name mark value comma members valueSuffix membersSuffix =>
      have suffixName := (skim_local _ _ _ name).1.trans (suffix_of_skipBlanks quote)
      have suffixMark := (colon_local _ _ _ mark).1.trans suffixName
      have suffixValue := valueSuffix.trans suffixMark
      exact membersSuffix.trans ((suffix_of_skipBlanks comma).trans suffixValue)

/-- Every part has at least one byte. -/
theorem length_lt (skims : Skims part s after) : after.length < s.length := by
  cases skims with
  | scalar start noArray noObject scalar =>
      have short := (skimScalar_settled _ _ _ _ scalar).1.length_le
      exact Nat.lt_of_le_of_lt short (length_lt_of_skipBlanks start)
  | emptyArray start close | emptyObject start close =>
      exact Nat.lt_trans (length_lt_of_skipBlanks close) (length_lt_of_skipBlanks start)
  | array start rest | object start rest =>
      exact Nat.lt_of_le_of_lt rest.suffix.length_le (length_lt_of_skipBlanks start)
  | lastElement value close =>
      exact Nat.lt_of_lt_of_le (length_lt_of_skipBlanks close) value.suffix.length_le
  | element value comma elements =>
      have short := Nat.lt_of_le_of_lt elements.suffix.length_le (length_lt_of_skipBlanks comma)
      exact Nat.lt_of_lt_of_le short value.suffix.length_le
  | lastMember quote name mark value close =>
      have suffix := value.suffix.trans ((colon_local _ _ _ mark).1.trans (skim_local _ _ _ name).1)
      have short := Nat.lt_of_lt_of_le (length_lt_of_skipBlanks close) suffix.length_le
      exact Nat.lt_trans short (length_lt_of_skipBlanks quote)
  | member quote name mark value comma members =>
      have suffix := value.suffix.trans ((colon_local _ _ _ mark).1.trans (skim_local _ _ _ name).1)
      have short := Nat.lt_of_lt_of_le (length_lt_of_skipBlanks comma) suffix.length_le
      exact Nat.lt_of_le_of_lt members.suffix.length_le
        (Nat.lt_trans short (length_lt_of_skipBlanks quote))

/-- An element of an array does not start with the bracket that closes the array. -/
theorem head_value (skims : Skims part s after) (isValue : part = .value) :
    ∃ b rest, skipBlanks s = b :: rest ∧ b ≠ Ascii.closeBracket := by
  cases skims with
  | scalar start noArray noObject scalar =>
      exact ⟨_, _, start, ne_closeBracket_of_skimScalar scalar⟩
  | emptyArray start | array start | emptyObject start | object start =>
      exact ⟨_, _, start, by decide⟩
  | lastElement | element | lastMember | member => cases isValue

/-- Elements do not start with the bracket that closes the array. -/
theorem head_elements (skims : Skims part s after) (areElements : part = .elements) :
    ∃ b rest, skipBlanks s = b :: rest ∧ b ≠ Ascii.closeBracket := by
  cases skims with
  | lastElement value close => exact value.head_value rfl
  | element value comma elements => exact value.head_value rfl
  | scalar | emptyArray | array | emptyObject | object | lastMember | member =>
      cases areElements

/-- Members start with a quote. -/
theorem head_members (skims : Skims part s after) (areMembers : part = .members) :
    ∃ rest, skipBlanks s = Ascii.doubleQuote :: rest := by
  cases skims with
  | lastMember quote => exact ⟨_, quote⟩
  | member quote => exact ⟨_, quote⟩
  | scalar | emptyArray | array | emptyObject | object | lastElement | element => cases areMembers

/-- The blanks before a part do not belong to it. -/
theorem congr (skims : Skims part s after) {t : Bytes} (same : skipBlanks t = skipBlanks s) :
    Skims part t after := by
  induction skims with
  | scalar start noArray noObject scalar =>
      exact .scalar (same.trans start) noArray noObject scalar
  | emptyArray start close => exact .emptyArray (same.trans start) close
  | array start elements => exact .array (same.trans start) elements
  | emptyObject start close => exact .emptyObject (same.trans start) close
  | object start members => exact .object (same.trans start) members
  | lastElement value close inductionHypothesis =>
      exact .lastElement (inductionHypothesis same) close
  | element value comma elements inductionHypothesis =>
      exact .element (inductionHypothesis same) comma elements
  | lastMember quote name mark value close =>
      exact .lastMember (same.trans quote) name mark value close
  | member quote name mark value comma members =>
      exact .member (same.trans quote) name mark value comma members

/-- What comes after a part does not change where it ends. Only a number could go on, where the text
ends with it. -/
theorem append (skims : Skims part s after) (more : Bytes)
    (settled : part = .value → ∀ b rest, skipBlanks s = b :: rest → b ≠ Ascii.openBracket →
      b ≠ Ascii.openBrace → after = [] → Numeral.Stops more) :
    Skims part (s ++ more) (after ++ more) := by
  -- a value in an array or object is not the end of the text
  have ended : ∀ {rest left : Bytes} {b : UInt8}, skipBlanks rest = b :: left → rest = [] →
      Numeral.Stops more := by
    rintro rest left b found rfl
    cases found
  induction skims with
  | scalar start noArray noObject scalar =>
      exact .scalar (skipBlanks_append start more) noArray noObject
        ((skimScalar_settled _ _ _ _ scalar).2 more (settled rfl _ _ start noArray noObject))
  | emptyArray start close =>
      exact .emptyArray (skipBlanks_append start more) (skipBlanks_append close more)
  | emptyObject start close =>
      exact .emptyObject (skipBlanks_append start more) (skipBlanks_append close more)
  | array start elements extended =>
      exact .array (skipBlanks_append start more) (extended (fun other => nomatch other))
  | object start members extended =>
      exact .object (skipBlanks_append start more) (extended (fun other => nomatch other))
  | lastElement value close extended =>
      exact .lastElement (extended fun _ _ _ _ _ _ => ended close)
        (skipBlanks_append close more)
  | element value comma elements extendedValue extendedElements =>
      exact .element (extendedValue fun _ _ _ _ _ _ => ended comma)
        (skipBlanks_append comma more) (extendedElements (fun other => nomatch other))
  | lastMember quote name mark value close extended =>
      exact .lastMember (skipBlanks_append quote more) ((skim_local _ _ _ name).2 more)
        ((colon_local _ _ _ mark).2 more) (extended fun _ _ _ _ _ _ => ended close)
        (skipBlanks_append close more)
  | member quote name mark value comma members extendedValue extendedMembers =>
      exact .member (skipBlanks_append quote more) ((skim_local _ _ _ name).2 more)
        ((colon_local _ _ _ mark).2 more) (extendedValue fun _ _ _ _ _ _ => ended comma)
        (skipBlanks_append comma more) (extendedMembers (fun other => nomatch other))

end Skims

/-! ### Passing over, step by step -/

section Steps

variable {s rest after : Bytes} {b : UInt8} {depth : Nat} {item : Reader Unit}

theorem skimWithin_of_scalar (start : skipBlanks s = b :: rest) (noArray : b ≠ Ascii.openBracket)
    (noObject : b ≠ Ascii.openBrace) : skimWithin depth s = skimScalar b rest := by
  rw [skimWithin, start]
  simp only [noArray, noObject, if_false]

theorem skimWithin_of_array (start : skipBlanks s = Ascii.openBracket :: rest) :
    skimWithin (depth + 1) s = skimArray (skimWithin depth) rest := by
  rw [skimWithin, start]
  rfl

theorem skimWithin_of_object (start : skipBlanks s = Ascii.openBrace :: rest) :
    skimWithin (depth + 1) s = skimObject (skimWithin depth) rest := by
  rw [skimWithin, start]
  rfl

theorem skimArray_of_empty (close : skipBlanks s = Ascii.closeBracket :: after) :
    skimArray item s = .ok ((), after) := by
  rw [skimArray, close]
  rfl

theorem skimArray_of_elements (start : skipBlanks s = b :: rest)
    (noClose : b ≠ Ascii.closeBracket) :
    skimArray item s = skimElements item s.length (skipBlanks s) := by
  rw [skimArray, start]
  simp only [noClose, if_false]

theorem skimObject_of_empty (close : skipBlanks s = Ascii.closeBrace :: after) :
    skimObject item s = .ok ((), after) := by
  rw [skimObject, close]
  rfl

theorem skimObject_of_members (start : skipBlanks s = Ascii.doubleQuote :: rest) :
    skimObject item s = skimMembers item s.length (skipBlanks s) := by
  rw [skimObject, start]
  rfl

theorem skimElements_of_last {fuel : Nat} (value : item s = .ok ((), rest))
    (close : skipBlanks rest = Ascii.closeBracket :: after) :
    skimElements item (fuel + 1) s = .ok ((), after) := by
  rw [skimElements, bind_of_ok value]
  simp only [close]
  rfl

theorem skimElements_of_more {fuel : Nat} (value : item s = .ok ((), rest))
    (comma : skipBlanks rest = Ascii.comma :: after) :
    skimElements item (fuel + 1) s = skimElements item fuel after := by
  rw [skimElements, bind_of_ok value]
  simp only [comma]
  rfl

theorem skimMember_eq {quoted named valued : Bytes}
    (quote : skipBlanks s = Ascii.doubleQuote :: quoted)
    (name : Quoted.skim quoted = .ok ((), named)) (mark : colon named = .ok ((), valued)) :
    skimMember item s = item valued := by
  rw [skimMember, quote]
  exact (bind_of_ok name).trans (bind_of_ok mark)

theorem skimMembers_of_last {fuel : Nat} (member : skimMember item s = .ok ((), rest))
    (close : skipBlanks rest = Ascii.closeBrace :: after) :
    skimMembers item (fuel + 1) s = .ok ((), after) := by
  rw [skimMembers, bind_of_ok member]
  simp only [close]
  rfl

theorem skimMembers_of_more {fuel : Nat} (member : skimMember item s = .ok ((), rest))
    (comma : skipBlanks rest = Ascii.comma :: after) :
    skimMembers item (fuel + 1) s = skimMembers item fuel after := by
  rw [skimMembers, bind_of_ok member]
  simp only [comma]
  rfl

end Steps

/-- How a part is passed over, with so much depth and so much fuel. -/
def Part.skim (depth fuel : Nat) : Part → Reader Unit
  | .value => skimWithin depth
  | .elements => skimElements (skimWithin depth) fuel
  | .members => skimMembers (skimWithin depth) fuel

/-- A part is passed over, if depth and fuel are at least its length. The blanks before it do not
matter: they may have been passed over already. -/
theorem Skims.skim_part {part : Part} {s after : Bytes} (skims : Skims part s after) :
    ∀ {t : Bytes} {depth fuel : Nat}, skipBlanks t = skipBlanks s → t.length ≤ depth →
      t.length ≤ fuel → part.skim depth fuel t = .ok ((), after) := by
  -- by the derivation; depth and fuel both shrink with the text, at the first byte of each part
  induction skims with
  | scalar start noArray noObject scalar =>
      intro t depth fuel same _ _
      exact (skimWithin_of_scalar (same.trans start) noArray noObject).trans scalar
  | emptyArray start close =>
      intro t depth fuel same deep _
      have short := length_lt_of_skipBlanks (same.trans start)
      obtain ⟨depth, rfl⟩ : ∃ d, depth = d + 1 := ⟨depth - 1, by omega⟩
      exact (skimWithin_of_array (same.trans start)).trans (skimArray_of_empty close)
  | @array _ rest _ start elements inductionHypothesis =>
      intro t depth fuel same deep _
      have short := length_lt_of_skipBlanks (same.trans start)
      have trimmed := length_skipBlanks_le rest
      obtain ⟨depth, rfl⟩ : ∃ d, depth = d + 1 := ⟨depth - 1, by omega⟩
      obtain ⟨b, more, first, noClose⟩ := elements.head_elements rfl
      refine (skimWithin_of_array (same.trans start)).trans
        ((skimArray_of_elements first noClose).trans ?_)
      exact inductionHypothesis (skipBlanks_skipBlanks rest) (by omega) trimmed
  | emptyObject start close =>
      intro t depth fuel same deep _
      have short := length_lt_of_skipBlanks (same.trans start)
      obtain ⟨depth, rfl⟩ : ∃ d, depth = d + 1 := ⟨depth - 1, by omega⟩
      exact (skimWithin_of_object (same.trans start)).trans (skimObject_of_empty close)
  | @object _ rest _ start members inductionHypothesis =>
      intro t depth fuel same deep _
      have short := length_lt_of_skipBlanks (same.trans start)
      have trimmed := length_skipBlanks_le rest
      obtain ⟨depth, rfl⟩ : ∃ d, depth = d + 1 := ⟨depth - 1, by omega⟩
      obtain ⟨more, first⟩ := members.head_members rfl
      refine (skimWithin_of_object (same.trans start)).trans
        ((skimObject_of_members first).trans ?_)
      exact inductionHypothesis (skipBlanks_skipBlanks rest) (by omega) trimmed
  | lastElement value close inductionHypothesis =>
      intro t depth fuel same deep enough
      have short := (value.congr same).length_lt
      obtain ⟨fuel, rfl⟩ : ∃ f, fuel = f + 1 := ⟨fuel - 1, by omega⟩
      exact skimElements_of_last (inductionHypothesis same deep enough) close
  | element value comma elements valueSkimmed elementsSkimmed =>
      intro t depth fuel same deep enough
      have short := (value.congr same).length_lt
      have shorter := length_lt_of_skipBlanks comma
      obtain ⟨fuel, rfl⟩ : ∃ f, fuel = f + 1 := ⟨fuel - 1, by omega⟩
      exact (skimElements_of_more (valueSkimmed same deep enough) comma).trans
        (elementsSkimmed rfl (by omega) (by omega))
  | lastMember quote name mark value close inductionHypothesis =>
      intro t depth fuel same deep enough
      have shortQuote := length_lt_of_skipBlanks (same.trans quote)
      have shortName := (skim_local _ _ _ name).1.length_le
      have shortMark := (colon_local _ _ _ mark).1.length_le
      obtain ⟨fuel, rfl⟩ : ∃ f, fuel = f + 1 := ⟨fuel - 1, by omega⟩
      have skimmed := inductionHypothesis rfl (show _ ≤ depth by omega) (Nat.le_refl _)
      exact skimMembers_of_last ((skimMember_eq (same.trans quote) name mark).trans skimmed) close
  | member quote name mark value comma members valueSkimmed membersSkimmed =>
      intro t depth fuel same deep enough
      have shortQuote := length_lt_of_skipBlanks (same.trans quote)
      have shortName := (skim_local _ _ _ name).1.length_le
      have shortMark := (colon_local _ _ _ mark).1.length_le
      have shortValue := value.length_lt
      have shortComma := length_lt_of_skipBlanks comma
      obtain ⟨fuel, rfl⟩ : ∃ f, fuel = f + 1 := ⟨fuel - 1, by omega⟩
      have skimmed := valueSkimmed rfl (show _ ≤ depth by omega) (Nat.le_refl _)
      exact (skimMembers_of_more
        ((skimMember_eq (same.trans quote) name mark).trans skimmed) comma).trans
        (membersSkimmed rfl (by omega) (by omega))

/-- A step that takes values of the grammar only, up to where they end. -/
def PassesValues {α : Type} (item : Reader α) : Prop :=
  ∀ s x after, item s = .ok (x, after) → Skims .value s after

theorem skims_of_skimElements {item : Reader Unit} (passes : PassesValues item) {fuel : Nat}
    {s after : Bytes} (skimmed : skimElements item fuel s = .ok ((), after)) :
    Skims .elements s after := by
  induction fuel generalizing s with
  | zero => cases skimmed
  | succ fuel inductionHypothesis =>
      obtain ⟨⟨_, rest⟩, value, skimmed⟩ := bind_eq_ok.mp skimmed
      have first := passes s () rest value
      simp only at skimmed
      split at skimmed
      · cases skimmed
      · next b more found =>
          split at skimmed
          · next isComma =>
              rw [isComma] at found
              exact .element first found (inductionHypothesis skimmed)
          split at skimmed
          · next isClose =>
              cases skimmed
              rw [isClose] at found
              exact .lastElement first found
          · cases skimmed

theorem skims_of_skimMembers {item : Reader Unit} (passes : PassesValues item) {fuel : Nat}
    {s after : Bytes} (skimmed : skimMembers item fuel s = .ok ((), after)) :
    Skims .members s after := by
  induction fuel generalizing s with
  | zero => cases skimmed
  | succ fuel inductionHypothesis =>
      obtain ⟨⟨_, rest⟩, member, skimmed⟩ := bind_eq_ok.mp skimmed
      unfold skimMember at member
      split at member
      · cases member
      · next c quoted start =>
          split at member
          · next isQuote =>
              rw [isQuote] at start
              obtain ⟨⟨_, named⟩, name, member⟩ := bind_eq_ok.mp member
              obtain ⟨⟨_, valued⟩, mark, value⟩ := bind_eq_ok.mp member
              have first := passes valued () rest value
              simp only at skimmed
              split at skimmed
              · cases skimmed
              · next b more found =>
                  split at skimmed
                  · next isComma =>
                      rw [isComma] at found
                      exact .member start name mark first found (inductionHypothesis skimmed)
                  split at skimmed
                  · next isClose =>
                      cases skimmed
                      rw [isClose] at found
                      exact .lastMember start name mark first found
                  · cases skimmed
          · cases member

theorem skims_of_skimArray {item : Reader Unit} (passes : PassesValues item) {s rest after : Bytes}
    (start : skipBlanks s = Ascii.openBracket :: rest)
    (skimmed : skimArray item rest = .ok ((), after)) : Skims .value s after := by
  unfold skimArray at skimmed
  split at skimmed
  · cases skimmed
  · next b more found =>
      split at skimmed
      · next isClose =>
          cases skimmed
          rw [isClose] at found
          exact .emptyArray start found
      · have elements := skims_of_skimElements passes skimmed
        rw [← found] at elements
        exact .array start (elements.congr (skipBlanks_skipBlanks rest).symm)

theorem skims_of_skimObject {item : Reader Unit} (passes : PassesValues item) {s rest after : Bytes}
    (start : skipBlanks s = Ascii.openBrace :: rest)
    (skimmed : skimObject item rest = .ok ((), after)) : Skims .value s after := by
  unfold skimObject at skimmed
  split at skimmed
  · cases skimmed
  · next b more found =>
      split at skimmed
      · next isClose =>
          cases skimmed
          rw [isClose] at found
          exact .emptyObject start found
      · have members := skims_of_skimMembers passes skimmed
        rw [← found] at members
        exact .object start (members.congr (skipBlanks_skipBlanks rest).symm)

theorem skimWithin_passesValues (depth : Nat) : PassesValues (skimWithin depth) := by
  induction depth with
  | zero =>
      intro s x after skimmed
      unfold skimWithin at skimmed
      split at skimmed
      · cases skimmed
      · next b rest found =>
          split at skimmed
          · cases skimmed
          split at skimmed
          · cases skimmed
          · next noArray noObject => exact .scalar found noArray noObject skimmed
  | succ depth inductionHypothesis =>
      intro s x after skimmed
      unfold skimWithin at skimmed
      split at skimmed
      · cases skimmed
      · next b rest found =>
          split at skimmed
          · next isArray =>
              rw [isArray] at found
              exact skims_of_skimArray inductionHypothesis found skimmed
          split at skimmed
          · next isObject =>
              rw [isObject] at found
              exact skims_of_skimObject inductionHypothesis found skimmed
          · next noArray noObject => exact .scalar found noArray noObject skimmed

/-- Passing over accepts exactly the values of the grammar. -/
theorem skim_eq_ok {s after : Bytes} : skim s = .ok ((), after) ↔ Skims .value s after := by
  constructor
  · intro skimmed
    exact skimWithin_passesValues s.length s () after skimmed
  · intro skims
    exact skims.skim_part rfl (Nat.le_refl _) (Nat.le_refl _)

/-! ### Slices -/

/-- A value whose text is a string's is cut out of the text around it. -/
theorem readSlice_of_skims {rest tail : Bytes} {text : String} {b : UInt8}
    (first : bytesOf text = b :: tail) (notBlank : isBlank b = false)
    (skims : Skims .value (bytesOf text ++ rest) rest) :
    readSlice (bytesOf text ++ rest) = .ok (bytesOf text, rest) := by
  have start : skipBlanks (bytesOf text ++ rest) = bytesOf text ++ rest := by
    rw [first]
    exact skipBlanks_cons_of_not_blank notBlank _
  have slice : (bytesOf text ++ rest).take ((bytesOf text ++ rest).length - rest.length) =
      bytesOf text := by
    rw [List.length_append, Nat.add_sub_cancel, List.take_left']
    rfl
  rw [readSlice]
  simp only [start]
  rw [skim_eq_ok.mpr skims]
  show (if Utf8.validPrefix (_ : Bytes) = _ then _ else _) = _
  rw [slice, if_pos (Utf8.validPrefix_bytesOf text)]
  rfl

end RpcTransport.Json
