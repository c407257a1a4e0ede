import RpcTransport.Proofs.Json.ArrayText
import RpcTransport.Proofs.Json.Truncation

/-!
The elements of an array. Each element that is read out of an array is a value by itself, and a text
is the array of no more than one list of values.
-/

namespace RpcTransport.Json

/-- What is passed over is a value by itself. -/
theorem IsValueText.of_skims {text rest : Bytes} (skims : Skims .value (text ++ rest) rest)
    (trimmed : skipBlanks (text ++ rest) = text ++ rest) : IsValueText text := by
  rw [← List.nil_append rest] at skims
  have value : Skims .value text [] := skims.of_append
  obtain ⟨b, tail, rfl⟩ := List.exists_cons_of_length_pos value.length_lt
  exact ⟨skipBlanks_cons_of_not_blank (not_blank_of_skipBlanks trimmed) tail, value⟩

/-- A text that holds one value and blanks is the text of that value with blanks around it. -/
theorem exists_padded_of_skims {text rest : Bytes} (skims : Skims .value text rest)
    (blankAfter : Blank rest) : ∃ value, IsValueText value ∧ Padded value text ∧
      skipBlanks text = value ++ rest := by
  have start : Skims .value (skipBlanks text) rest := skims.congr (skipBlanks_skipBlanks text)
  obtain ⟨value, whole⟩ := start.suffix
  rw [← whole] at start
  obtain ⟨before, blank, split⟩ := exists_blank_of_skipBlanks whole.symm
  refine ⟨value, .of_skims start ?_, ⟨before, rest, blank, blankAfter, ?_⟩, whole.symm⟩
  · rw [whole, skipBlanks_skipBlanks]
  · rw [List.append_assoc]
    exact split

/-! ### Elements that are read -/

/-- A slice is a value by itself. -/
theorem isValueText_of_readSlice {s text rest : Bytes} (read : readSlice s = .ok (text, rest)) :
    IsValueText text := by
  have start := readSlice_eq_append read
  obtain ⟨⟨_, after⟩, skimmed, kept⟩ := bind_eq_ok.mp read
  simp only at kept
  split at kept
  · cases kept
    rw [start] at skimmed
    exact .of_skims (skim_eq_ok.mp skimmed) (start ▸ skipBlanks_skipBlanks s)
  · cases kept

theorem isValueText_of_elements {fuel : Nat} {first : Bool} {s rest : Bytes} {texts : List Bytes}
    (read : elements readSlice fuel first s = .ok (texts, rest)) :
    ∀ text ∈ texts, IsValueText text := by
  induction fuel generalizing first s texts with
  | zero => cases read
  | succ fuel inductionHypothesis =>
      obtain ⟨⟨more, t⟩, next, read⟩ := bind_eq_ok.mp read
      cases more with
      | false =>
          cases read
          exact fun _ member => nomatch member
      | true =>
          obtain ⟨⟨text, u⟩, slice, read⟩ := bind_eq_ok.mp read
          obtain ⟨⟨others, _⟩, areOthers, done⟩ := bind_eq_ok.mp read
          cases done
          exact List.forall_mem_cons.mpr
            ⟨isValueText_of_readSlice slice, inductionHypothesis areOthers⟩

/-- The texts that are read out of an array are values. -/
theorem isValueText_of_slices {body : Bytes} {texts : List Bytes} (read : slices body = .ok texts) :
    ∀ text ∈ texts, IsValueText text := by
  obtain ⟨rest, array, _⟩ := whole_eq_ok.mp (mapError_eq_ok.mp read)
  unfold readSlices at array
  split at array
  · cases array
  · split at array
    · obtain ⟨⟨_, t⟩, elements, array⟩ := bind_eq_ok.mp array
      obtain ⟨_, _, done⟩ := bind_eq_ok.mp array
      cases done
      exact isValueText_of_elements elements
    · exact absurd array refuse_ne_ok

/-! ### One list of elements -/

theorem Listed.follows {text inner : Bytes} {texts : List Bytes}
    (listed : Listed (text :: texts) inner) (rest : Bytes) :
    ∃ before left, Blank before ∧ inner ++ rest = before ++ (text ++ left) ∧
      Follows texts left rest := by
  cases listed with
  | last padding =>
      obtain ⟨before, after, blank, blankAfter, rfl⟩ := padding
      exact ⟨before, after ++ rest, blank, by simp, after, blankAfter, Or.inl ⟨rfl, rfl⟩⟩
  | more padding others =>
      obtain ⟨before, after, blank, blankAfter, rfl⟩ := padding
      exact ⟨before, _, blank, by simp, after, blankAfter,
        Or.inr ⟨List.cons_ne_nil _ _, _, others, rfl⟩⟩

/-- No number goes on after an element. -/
theorem Follows.stops {texts : List Bytes} {left rest : Bytes}
    (follows : Follows texts left (Ascii.closeBracket :: rest)) : Numeral.Stops left := by
  obtain ⟨blanks, blank, ⟨_, rfl⟩ | ⟨_, inner, _, rfl⟩⟩ := follows
  · exact stops_of_blank blank (Or.inr (Or.inl rfl))
  · exact stops_of_blank blank (Or.inl rfl)

/-- The first byte after an element that is not blank tells whether there are more. -/
theorem Follows.skipBlanks_eq {texts : List Bytes} {left rest : Bytes}
    (follows : Follows texts left (Ascii.closeBracket :: rest)) :
    texts = [] ∧ skipBlanks left = Ascii.closeBracket :: rest ∨
      ∃ text others inner, texts = text :: others ∧ Listed texts inner ∧
        skipBlanks left = Ascii.comma :: (inner ++ Ascii.closeBracket :: rest) := by
  obtain ⟨blanks, blank, ⟨rfl, rfl⟩ | ⟨notLast, inner, listed, rfl⟩⟩ := follows
  · refine Or.inl ⟨rfl, ?_⟩
    exact skipBlanks_of_blanks blank (by decide)
  · obtain ⟨text, others, rfl⟩ := List.exists_cons_of_ne_nil notLast
    refine Or.inr ⟨text, others, inner, rfl, listed, ?_⟩
    exact skipBlanks_of_blanks blank (by decide)

/-- Two lists of values that are the same text have the same first value, and the same after it. -/
theorem Listed.first_unique {text found inner innerFound rest restFound : Bytes}
    {texts others : List Bytes} (listed : Listed (text :: texts) inner)
    (listedFound : Listed (found :: others) innerFound)
    (same : inner ++ Ascii.closeBracket :: rest = innerFound ++ Ascii.closeBracket :: restFound)
    (isValue : IsValueText text) (isValueFound : IsValueText found) :
    text = found ∧ ∃ left, Follows texts left (Ascii.closeBracket :: rest) ∧
      Follows others left (Ascii.closeBracket :: restFound) := by
  obtain ⟨before, left, blank, whole, follows⟩ := listed.follows (Ascii.closeBracket :: rest)
  obtain ⟨beforeFound, leftFound, blankFound, wholeFound, followsFound⟩ :=
    listedFound.follows (Ascii.closeBracket :: restFound)
  -- what is left after the blanks is the one value and the other one
  have start : text ++ left = found ++ leftFound := by
    rw [← isValue.skipBlanks_append blank left, ← whole, same, wholeFound]
    exact isValueFound.skipBlanks_append blankFound leftFound
  have skimmed := skim_eq_ok.mpr (isValue.skims_append follows.stops)
  have skimmedFound := skim_eq_ok.mpr (isValueFound.skims_append followsFound.stops)
  rw [start, skimmedFound] at skimmed
  cases skimmed
  exact ⟨List.append_cancel_right start, _, follows, followsFound⟩

theorem Follows.unique {texts found : List Bytes} {left rest restFound : Bytes}
    (follows : Follows texts left (Ascii.closeBracket :: rest))
    (followsFound : Follows found left (Ascii.closeBracket :: restFound))
    (values : ∀ text ∈ texts, IsValueText text) (valuesFound : ∀ text ∈ found, IsValueText text) :
    texts = found := by
  induction texts generalizing found left with
  | nil =>
      rcases follows.skipBlanks_eq with ⟨_, ends⟩ | ⟨_, _, _, other, _⟩
      · rcases followsFound.skipBlanks_eq with ⟨rfl, _⟩ | ⟨_, _, _, _, _, goesOn⟩
        · rfl
        · rw [ends] at goesOn
          cases goesOn
      · cases other
  | cons text texts inductionHypothesis =>
      rcases follows.skipBlanks_eq with ⟨other, _⟩ | ⟨_, _, inner, _, listed, goesOn⟩
      · cases other
      rcases followsFound.skipBlanks_eq with
        ⟨_, ends⟩ | ⟨first, others, innerFound, rfl, listedFound, goesOnFound⟩
      · rw [ends] at goesOn
        cases goesOn
      rw [goesOn] at goesOnFound
      obtain ⟨isValue, areValues⟩ := List.forall_mem_cons.mp values
      obtain ⟨isValueFound, areValuesFound⟩ := List.forall_mem_cons.mp valuesFound
      obtain ⟨rfl, left, follows, followsFound⟩ :=
        listed.first_unique listedFound (List.cons.inj goesOnFound).2 isValue isValueFound
      rw [inductionHypothesis follows followsFound areValues areValuesFound]

/-- Where a value stands between the brackets, they are not empty. -/
theorem Listed.ne_of_empty {text inner innerFound rest restFound : Bytes} {texts : List Bytes}
    (empty : Listed [] inner) (listed : Listed (text :: texts) innerFound)
    (isValue : IsValueText text) :
    inner ++ Ascii.closeBracket :: rest ≠ innerFound ++ Ascii.closeBracket :: restFound := by
  intro same
  cases empty with
  | empty blankInner =>
      obtain ⟨b, left, start, noClose⟩ :=
        listed.skipBlanks_eq isValue (Ascii.closeBracket :: restFound)
      have closes := skipBlanks_append_of_blank blankInner (Ascii.closeBracket :: rest)
      rw [same, start, skipBlanks_cons_of_not_blank (by decide)] at closes
      exact noClose (List.cons.inj closes).1

/-- What stands between brackets is one list of values only. -/
theorem Listed.unique {texts found : List Bytes} {inner innerFound rest restFound : Bytes}
    (listed : Listed texts inner) (listedFound : Listed found innerFound)
    (same : inner ++ Ascii.closeBracket :: rest = innerFound ++ Ascii.closeBracket :: restFound)
    (values : ∀ text ∈ texts, IsValueText text) (valuesFound : ∀ text ∈ found, IsValueText text) :
    texts = found := by
  cases texts with
  | nil =>
      cases found with
      | nil => rfl
      | cons first others =>
          exact (listed.ne_of_empty listedFound (valuesFound first List.mem_cons_self) same).elim
  | cons text texts =>
      cases found with
      | nil =>
          exact (listedFound.ne_of_empty listed (values text List.mem_cons_self) same.symm).elim
      | cons first others =>
          obtain ⟨isValue, areValues⟩ := List.forall_mem_cons.mp values
          obtain ⟨isValueFound, areValuesFound⟩ := List.forall_mem_cons.mp valuesFound
          obtain ⟨rfl, left, follows, followsFound⟩ :=
            listed.first_unique listedFound same isValue isValueFound
          rw [follows.unique followsFound areValues areValuesFound]

/-- A text is the array of one list of values only. -/
theorem IsArrayOf.unique {texts found : List Bytes} {body : Bytes} (isArray : IsArrayOf texts body)
    (isArrayFound : IsArrayOf found body) (values : ∀ text ∈ texts, IsValueText text)
    (valuesFound : ∀ text ∈ found, IsValueText text) : texts = found := by
  obtain ⟨inner, after, listed, _, start⟩ := isArray.skipBlanks_eq
  obtain ⟨innerFound, afterFound, listedFound, _, startFound⟩ := isArrayFound.skipBlanks_eq
  rw [start] at startFound
  exact listed.unique listedFound (List.cons.inj startFound).2 values valuesFound

end RpcTransport.Json
