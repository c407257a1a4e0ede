import RpcTransport.Proofs.Json.Shapes

/-!
Arrays as texts. The texts that were put between the brackets of an array, with any blanks around
them, are the texts that are read out of it; and whatever is read out of an array was put there.
-/

namespace RpcTransport.Json

/-- Nothing but blanks. -/
def Blank (s : Bytes) : Prop :=
  ∀ b ∈ s, isBlank b = true

instance (s : Bytes) : Decidable (Blank s) :=
  List.decidableBAll (fun b => isBlank b = true) s

/-- A text with blanks around it. -/
def Padded (text padded : Bytes) : Prop :=
  ∃ before after, Blank before ∧ Blank after ∧ padded = before ++ text ++ after

/-- What stands between the brackets of an array of some texts: each with blanks around it, and
commas between them. -/
inductive Listed : List Bytes → Bytes → Prop
  | empty {inner : Bytes} (blank : Blank inner) : Listed [] inner
  | last {text padded : Bytes} (padding : Padded text padded) : Listed [text] padded
  | more {text padded next inner : Bytes} {texts : List Bytes} (padding : Padded text padded)
      (others : Listed (next :: texts) inner) :
      Listed (text :: next :: texts) (padded ++ Ascii.comma :: inner)

/-- The text of an array of some texts. -/
def IsArrayOf (texts : List Bytes) (body : Bytes) : Prop :=
  ∃ inner, Listed texts inner ∧
    Padded (Ascii.openBracket :: inner ++ [Ascii.closeBracket]) body

/-- The text of an object, without blanks around it. -/
structure IsObjectText (text : Bytes) : Prop where
  utf8 : ∃ s : String, text = bytesOf s
  opens : text.head? = some Ascii.openBrace
  value : Skims .value text []

/-- The text of a value, without blanks around it. -/
structure IsValueText (text : Bytes) : Prop where
  trimmed : skipBlanks text = text
  value : Skims .value text []

theorem IsObjectText.isValueText {text : Bytes} (isObject : IsObjectText text) :
    IsValueText text := by
  obtain ⟨tail, rfl⟩ := List.head?_eq_some_iff.mp isObject.opens
  exact ⟨skipBlanks_cons_of_not_blank (by decide) tail, isObject.value⟩

namespace IsValueText

variable {text before rest : Bytes}

/-- A value has a first byte, which is not blank and does not close an array. -/
theorem eq_cons (isValue : IsValueText text) :
    ∃ b tail, text = b :: tail ∧ isBlank b = false ∧ b ≠ Ascii.closeBracket := by
  obtain ⟨b, tail, start, noClose⟩ := isValue.value.head_value rfl
  exact ⟨b, tail, isValue.trimmed.symm.trans start, not_blank_of_skipBlanks start, noClose⟩

/-- Blanks before a value are passed over, the value is not. -/
theorem skipBlanks_append (isValue : IsValueText text) (blank : Blank before) (rest : Bytes) :
    skipBlanks (before ++ (text ++ rest)) = text ++ rest := by
  obtain ⟨b, tail, rfl, notBlank, _⟩ := isValue.eq_cons
  exact skipBlanks_of_blanks blank notBlank

/-- A value ends where it ends, if no number could go on there. -/
theorem skims_append (isValue : IsValueText text) (stops : Numeral.Stops rest) :
    Skims .value (text ++ rest) rest :=
  isValue.value.append rest fun _ _ _ _ _ _ _ => stops

/-- A value ends where it ends with blanks before it, too. -/
theorem skims_of_blank (isValue : IsValueText text) (blank : Blank before)
    (stops : Numeral.Stops rest) : Skims .value (before ++ (text ++ rest)) rest := by
  refine (isValue.skims_append stops).congr ?_
  have start : skipBlanks ([] ++ (text ++ rest)) = text ++ rest :=
    isValue.skipBlanks_append (by decide) rest
  rw [isValue.skipBlanks_append blank]
  exact start.symm

/-- A value in UTF-8 is cut out of the text around it. -/
theorem readSlice_append (isValue : IsValueText text) (utf8 : ∃ s : String, text = bytesOf s)
    (stops : Numeral.Stops rest) : readSlice (text ++ rest) = .ok (text, rest) := by
  obtain ⟨b, tail, first, notBlank, _⟩ := isValue.eq_cons
  have skims := isValue.skims_append stops
  obtain ⟨s, rfl⟩ := utf8
  exact readSlice_of_skims first notBlank skims

end IsValueText

/-- No number goes on after an element. -/
theorem stops_of_blank {after s : Bytes} {b : UInt8} (blank : Blank after)
    (isMark : b = Ascii.comma ∨ b = Ascii.closeBracket ∨ b = Ascii.closeBrace) :
    Numeral.Stops (after ++ b :: s) := by
  cases after with
  | nil => exact stops_mark isMark
  | cons c after => exact stops_blank (blank c List.mem_cons_self) _

/-! ### Elements, step by step -/

section Steps

variable {α : Type} {item : Reader α} {fuel : Nat} {first : Bool} {s t u rest more : Bytes}
  {b : UInt8}

theorem nextElement_of_first (start : skipBlanks s = b :: rest) (noClose : b ≠ Ascii.closeBracket) :
    nextElement true s = .ok (true, b :: rest) := by
  rw [nextElement, start]
  simp only [noClose, if_true, if_false]

theorem nextElement_of_comma (comma : skipBlanks s = Ascii.comma :: more)
    (start : skipBlanks more = b :: rest) (noClose : b ≠ Ascii.closeBracket) :
    nextElement false s = .ok (true, b :: rest) := by
  rw [nextElement, comma]
  simp only [show Ascii.comma ≠ Ascii.closeBracket by decide, Bool.false_eq_true, if_true, if_false,
    start, noClose]

theorem nextElement_of_close (close : skipBlanks s = Ascii.closeBracket :: rest) :
    nextElement first s = .ok (false, Ascii.closeBracket :: rest) := by
  rw [nextElement, close]
  simp only [if_true]

theorem elements_of_close (close : skipBlanks s = Ascii.closeBracket :: rest) :
    elements item (fuel + 1) first s = .ok ([], Ascii.closeBracket :: rest) :=
  bind_eq_ok.mpr ⟨_, nextElement_of_close close, rfl⟩

theorem elements_of_next {x : α} {xs : List α} (next : nextElement first s = .ok (true, t))
    (value : item t = .ok (x, u)) (others : elements item fuel false u = .ok (xs, rest)) :
    elements item (fuel + 1) first s = .ok (x :: xs, rest) :=
  bind_eq_ok.mpr ⟨_, next, bind_eq_ok.mpr ⟨_, value, bind_eq_ok.mpr ⟨_, others, rfl⟩⟩⟩

/-- After a comma the elements go on as they begin after the bracket. -/
theorem elements_of_comma (comma : skipBlanks s = Ascii.comma :: more)
    (start : skipBlanks more = b :: rest) (noClose : b ≠ Ascii.closeBracket) :
    elements item (fuel + 1) false s = elements item (fuel + 1) true more := by
  rw [elements, elements, nextElement_of_comma comma start noClose,
    nextElement_of_first start noClose]

end Steps

/-! ### The texts of an array -/

/-- There is at most one element more than there are bytes between the brackets. -/
theorem Listed.length_le {texts : List Bytes} {inner : Bytes} (listed : Listed texts inner) :
    texts.length ≤ inner.length + 1 := by
  induction listed with
  | empty blank => exact Nat.zero_le _
  | last padding => exact Nat.le_add_left 1 _
  | more padding others inductionHypothesis =>
      simp only [List.length_cons, List.length_append] at inductionHypothesis ⊢
      omega

/-- The first element comes first. -/
theorem Listed.skipBlanks_eq {text inner : Bytes} {texts : List Bytes}
    (listed : Listed (text :: texts) inner) (isValue : IsValueText text) (rest : Bytes) :
    ∃ b left, skipBlanks (inner ++ rest) = b :: left ∧ b ≠ Ascii.closeBracket := by
  obtain ⟨b, tail, opens, _, noClose⟩ := isValue.eq_cons
  cases listed with
  | last padding =>
      obtain ⟨before, after, blank, _, rfl⟩ := padding
      simp only [List.append_assoc]
      rw [isValue.skipBlanks_append blank, opens]
      exact ⟨b, _, rfl, noClose⟩
  | more padding others =>
      obtain ⟨before, after, blank, _, rfl⟩ := padding
      simp only [List.append_assoc]
      rw [isValue.skipBlanks_append blank, opens]
      exact ⟨b, _, rfl, noClose⟩

/-- An element is the first thing between its blanks, and is read without them. -/
theorem elements_of_padded {before text after : Bytes} (blank : Blank before)
    (isValue : IsValueText text) (utf8 : ∃ s : String, text = bytesOf s) {left rest : Bytes}
    {texts : List Bytes} {fuel : Nat} (stops : Numeral.Stops (after ++ left))
    (others : elements readSlice fuel false (after ++ left) = .ok (texts, rest)) :
    elements readSlice (fuel + 1) true (before ++ text ++ after ++ left) =
      .ok (text :: texts, rest) := by
  have start : skipBlanks (before ++ text ++ after ++ left) = text ++ (after ++ left) := by
    simp only [List.append_assoc]
    exact isValue.skipBlanks_append blank _
  have next : nextElement true (before ++ text ++ after ++ left) =
      .ok (true, text ++ (after ++ left)) := by
    obtain ⟨b, tail, rfl, _, noClose⟩ := isValue.eq_cons
    exact nextElement_of_first start noClose
  exact elements_of_next next (isValue.readSlice_append utf8 stops) others

/-- What was put between the brackets is read, up to the bracket. -/
theorem Listed.elements_eq {texts : List Bytes} {inner : Bytes} (listed : Listed texts inner)
    (areValues : ∀ text ∈ texts, IsValueText text)
    (utf8 : ∀ text ∈ texts, ∃ s : String, text = bytesOf s) (rest : Bytes) {fuel : Nat}
    (enough : texts.length < fuel) :
    elements readSlice fuel true (inner ++ Ascii.closeBracket :: rest) =
      .ok (texts, Ascii.closeBracket :: rest) := by
  have closing : ∀ {after : Bytes}, Blank after →
      skipBlanks (after ++ Ascii.closeBracket :: rest) = Ascii.closeBracket :: rest :=
    fun blank => skipBlanks_of_blanks blank (by decide)
  induction listed generalizing fuel with
  | empty blank =>
      obtain ⟨fuel, rfl⟩ := Nat.exists_eq_add_one_of_ne_zero (Nat.ne_of_gt enough)
      exact elements_of_close (closing blank)
  | last padding =>
      obtain ⟨before, after, blankBefore, blankAfter, rfl⟩ := padding
      obtain ⟨fuel, rfl⟩ : ∃ n, fuel = n + 2 := ⟨fuel - 2, by simp at enough; omega⟩
      have isValue := areValues _ List.mem_cons_self
      have stops := stops_of_blank (s := rest) blankAfter (Or.inr (Or.inl rfl))
      exact elements_of_padded blankBefore isValue (utf8 _ List.mem_cons_self) stops
        (elements_of_close (closing blankAfter))
  | @more _ _ _ between _ padding others inductionHypothesis =>
      obtain ⟨before, after, blankBefore, blankAfter, rfl⟩ := padding
      simp only [List.length_cons] at enough
      obtain ⟨fuel, rfl⟩ : ∃ n, fuel = n + 2 := ⟨fuel - 2, by omega⟩
      obtain ⟨isValue, areValues⟩ := List.forall_mem_cons.mp areValues
      obtain ⟨isUtf8, utf8⟩ := List.forall_mem_cons.mp utf8
      obtain ⟨b, left, start, noClose⟩ := others.skipBlanks_eq (areValues _ List.mem_cons_self)
        (Ascii.closeBracket :: rest)
      have comma : skipBlanks (after ++ Ascii.comma :: (between ++ Ascii.closeBracket :: rest)) =
          Ascii.comma :: (between ++ Ascii.closeBracket :: rest) := by
        exact skipBlanks_of_blanks blankAfter (by decide)
      have stops := stops_of_blank (s := between ++ Ascii.closeBracket :: rest) blankAfter
        (Or.inl rfl)
      rw [List.append_assoc]
      refine elements_of_padded blankBefore isValue isUtf8 stops ?_
      rw [List.cons_append, elements_of_comma comma start noClose]
      exact inductionHypothesis areValues utf8 (by simp only [List.length_cons]; omega)

/-- The first byte of an array that is not blank is its bracket, and nothing but blanks stands after
the other one. -/
theorem IsArrayOf.skipBlanks_eq {texts : List Bytes} {body : Bytes}
    (isArray : IsArrayOf texts body) :
    ∃ inner after, Listed texts inner ∧ Blank after ∧
      skipBlanks body = Ascii.openBracket :: (inner ++ Ascii.closeBracket :: after) := by
  obtain ⟨inner, listed, before, after, blankBefore, blankAfter, rfl⟩ := isArray
  refine ⟨inner, after, listed, blankAfter, ?_⟩
  rw [List.append_assoc, skipBlanks_append_of_blank blankBefore]
  simp only [List.cons_append, List.append_assoc, List.nil_append]
  exact skipBlanks_cons_of_not_blank (by decide) _

/-- The texts of an array are read as they were put in. -/
theorem slices_of_isArrayOf {texts : List Bytes} {body : Bytes} (isArray : IsArrayOf texts body)
    (areValues : ∀ text ∈ texts, IsValueText text)
    (utf8 : ∀ text ∈ texts, ∃ s : String, text = bytesOf s) : slices body = .ok texts := by
  obtain ⟨inner, after, listed, blankAfter, start⟩ := isArray.skipBlanks_eq
  have between : elements readSlice ((inner ++ Ascii.closeBracket :: after).length + 1) true
      (inner ++ Ascii.closeBracket :: after) = .ok (texts, Ascii.closeBracket :: after) := by
    have few := listed.length_le
    refine listed.elements_eq areValues utf8 after ?_
    simp only [List.length_append, List.length_cons]
    omega
  have closed : closeArray (Ascii.closeBracket :: after) = .ok ((), after) := by
    rw [closeArray, skipBlanks_cons_of_not_blank (by decide)]
    rfl
  have array : arrayOf readSlice (inner ++ Ascii.closeBracket :: after) = .ok (texts, after) :=
    bind_eq_ok.mpr ⟨_, between, bind_eq_ok.mpr ⟨_, closed, rfl⟩⟩
  have ended : skipBlanks after = [] := List.dropWhile_eq_nil_iff.mpr blankAfter
  have read : whole readSlices body = .ok texts := by
    refine whole_eq_ok.mpr ⟨after, ?_, ended⟩
    rw [readSlices, start]
    exact array
  rw [slices, read]
  rfl

/-! ### The texts that are read -/

/-- What is passed over is blank, and what comes after it is the rest. -/
theorem exists_blank_of_skipBlanks {s t : Bytes} (found : skipBlanks s = t) :
    ∃ blanks, Blank blanks ∧ s = blanks ++ t := by
  refine ⟨s.takeWhile isBlank, fun b member => List.mem_takeWhile_imp member, ?_⟩
  rw [← found]
  exact (List.takeWhile_append_dropWhile).symm

/-- A slice is what stands between the blanks before it and the bytes after it. -/
theorem readSlice_eq_append {s text rest : Bytes} (read : readSlice s = .ok (text, rest)) :
    skipBlanks s = text ++ rest := by
  obtain ⟨⟨_, after⟩, skimmed, kept⟩ := bind_eq_ok.mp read
  have suffix := (skim_eq_ok.mp skimmed).suffix
  simp only at kept
  split at kept
  · cases kept
    obtain ⟨slice, whole⟩ := suffix
    rw [← whole, List.length_append, Nat.add_sub_cancel, List.take_left' rfl]
  · cases kept

/-- What may come after an element, up to the bracket: blanks, or a comma and more elements. -/
def Follows (texts : List Bytes) (s rest : Bytes) : Prop :=
  ∃ blanks, Blank blanks ∧
    (texts = [] ∧ s = blanks ++ rest ∨
      texts ≠ [] ∧ ∃ inner, Listed texts inner ∧ s = blanks ++ Ascii.comma :: (inner ++ rest))

/-- An element with blanks before it and what may follow it are a list of elements. -/
theorem Follows.listed {texts : List Bytes} {s rest before : Bytes} (follows : Follows texts s rest)
    (blank : Blank before) (text : Bytes) :
    ∃ inner, Listed (text :: texts) inner ∧ before ++ (text ++ s) = inner ++ rest := by
  obtain ⟨after, blankAfter, ⟨rfl, rfl⟩ | ⟨notLast, inner, others, rfl⟩⟩ := follows
  · exact ⟨before ++ text ++ after, .last ⟨before, after, blank, blankAfter, rfl⟩, by simp⟩
  · obtain ⟨next, more, rfl⟩ := List.exists_cons_of_ne_nil notLast
    exact ⟨before ++ text ++ after ++ Ascii.comma :: inner,
      .more ⟨before, after, blank, blankAfter, rfl⟩ others, by simp⟩

/-- Where an element comes next, blanks stand before it, and a comma unless it is the first. -/
theorem eq_append_of_nextElement {first : Bool} {s t : Bytes}
    (next : nextElement first s = .ok (true, t)) :
    skipBlanks t = t ∧ ∃ before, Blank before ∧
      (first = true ∧ s = before ++ t ∨
        first = false ∧ ∃ blanks, Blank blanks ∧ s = blanks ++ Ascii.comma :: (before ++ t)) := by
  unfold nextElement at next
  split at next
  · cases next
  · next b rest found =>
      obtain ⟨blanks, blank, split⟩ := exists_blank_of_skipBlanks found
      split at next
      · cases next
      split at next
      · next isFirst =>
          cases next
          exact ⟨found ▸ skipBlanks_skipBlanks s, blanks, blank, Or.inl ⟨isFirst, split⟩⟩
      split at next
      · next notFirst isComma =>
          split at next
          · cases next
          · next c more start =>
              split at next
              · cases next
              · cases next
                obtain ⟨before, blankBefore, rfl⟩ := exists_blank_of_skipBlanks start
                rw [isComma] at split
                exact ⟨start ▸ skipBlanks_skipBlanks _, before, blankBefore,
                  Or.inr ⟨(Bool.not_eq_true _).mp notFirst, blanks, blank, split⟩⟩
      · cases next

/-- Blanks before the bracket belong to what stands between the brackets. -/
theorem Listed.append_blank {texts : List Bytes} {inner blanks : Bytes}
    (listed : Listed texts inner) (blank : Blank blanks) : Listed texts (inner ++ blanks) := by
  have both : ∀ {after : Bytes}, Blank after → Blank (after ++ blanks) :=
    fun blankAfter => List.forall_mem_append.mpr ⟨blankAfter, blank⟩
  induction listed with
  | empty blankInner => exact .empty (both blankInner)
  | last padding =>
      obtain ⟨before, after, blankBefore, blankAfter, rfl⟩ := padding
      exact .last ⟨before, after ++ blanks, blankBefore, both blankAfter, by simp⟩
  | more padding others inductionHypothesis =>
      rw [List.append_assoc, List.cons_append]
      exact .more padding inductionHypothesis

/-- Some texts are the elements that come next in an array, up to what is left; `first` tells that
no element has come before. -/
def ListedNext (first : Bool) (texts : List Bytes) (s rest : Bytes) : Prop :=
  (first = true → ∃ inner, Listed texts inner ∧ s = inner ++ rest) ∧
    (first = false → Follows texts s rest)

theorem ListedNext.nil {first : Bool} {s rest : Bytes} (closes : skipBlanks s = rest) :
    ListedNext first [] s rest := by
  obtain ⟨blanks, blank, rfl⟩ := exists_blank_of_skipBlanks closes
  exact ⟨fun _ => ⟨blanks, .empty blank, rfl⟩, fun _ => ⟨blanks, blank, Or.inl ⟨rfl, rfl⟩⟩⟩

theorem ListedNext.cons {first : Bool} {text s u rest : Bytes} {texts : List Bytes}
    (next : nextElement first s = .ok (true, text ++ u)) (others : ListedNext false texts u rest) :
    ListedNext first (text :: texts) s rest := by
  obtain ⟨_, before, blank, start⟩ := eq_append_of_nextElement next
  obtain ⟨inner, listed, same⟩ := (others.2 rfl).listed blank text
  rw [same] at start
  rcases start with ⟨rfl, rfl⟩ | ⟨rfl, blanks, blanksBlank, rfl⟩
  · exact ⟨fun _ => ⟨inner, listed, rfl⟩, fun other => nomatch other⟩
  · exact ⟨fun other => (nomatch other), fun _ =>
      ⟨blanks, blanksBlank, Or.inr ⟨List.cons_ne_nil text texts, inner, listed, rfl⟩⟩⟩

/-- The elements that are read stand in the text as elements of an array, up to its bracket. -/
theorem listed_of_elements {fuel : Nat} {first : Bool} {s rest : Bytes} {texts : List Bytes}
    (read : elements readSlice fuel first s = .ok (texts, rest)) :
    ListedNext first texts s rest := by
  induction fuel generalizing first s texts with
  | zero => cases read
  | succ fuel inductionHypothesis =>
      obtain ⟨⟨more, t⟩, next, read⟩ := bind_eq_ok.mp read
      cases more with
      | false =>
          cases read
          exact .nil (skipBlanks_of_nextElement_false next)
      | true =>
          obtain ⟨⟨text, u⟩, slice, read⟩ := bind_eq_ok.mp read
          obtain ⟨⟨others, _⟩, more, done⟩ := bind_eq_ok.mp read
          cases done
          have here := readSlice_eq_append slice
          rw [(eq_append_of_nextElement next).1] at here
          rw [here] at next
          exact .cons next (inductionHypothesis more)

/-- The array that slices are read from, up to and with its bracket. -/
theorem listed_of_readSlices {s rest : Bytes} {texts : List Bytes}
    (read : readSlices s = .ok (texts, rest)) :
    ∃ before inner, Blank before ∧ Listed texts inner ∧
      s = before ++ (Ascii.openBracket :: inner ++ [Ascii.closeBracket]) ++ rest := by
  unfold readSlices at read
  split at read
  · cases read
  · next b inside start =>
      split at read
      · next isBracket =>
          obtain ⟨⟨_, t⟩, elements, read⟩ := bind_eq_ok.mp read
          obtain ⟨⟨_, after⟩, closed, done⟩ := bind_eq_ok.mp read
          cases done
          obtain ⟨inner, listed, rfl⟩ := (listed_of_elements elements).1 rfl
          obtain ⟨before, blankBefore, rfl⟩ := exists_blank_of_skipBlanks start
          obtain ⟨blanks, blank, rfl⟩ :=
            exists_blank_of_skipBlanks (skipBlanks_of_closeArray closed)
          exact ⟨before, inner ++ blanks, blankBefore, listed.append_blank blank,
            by simp [isBracket]⟩
      · exact absurd read refuse_ne_ok

/-- The texts that are read out of an array are those that it was made of. -/
theorem isArrayOf_of_slices {texts : List Bytes} {body : Bytes} (read : slices body = .ok texts) :
    IsArrayOf texts body := by
  obtain ⟨rest, array, ended⟩ := whole_eq_ok.mp (mapError_eq_ok.mp read)
  obtain ⟨before, inner, blankBefore, listed, rfl⟩ := listed_of_readSlices array
  have blankAfter : Blank rest := List.dropWhile_eq_nil_iff.mp ended
  exact ⟨inner, listed, before, rest, blankBefore, blankAfter, rfl⟩

end RpcTransport.Json
