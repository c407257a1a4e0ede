import RpcTransport.Proofs.Json.Embedding

/-!
What readers make of texts. A reader makes the same of a text of the grammar wherever the text
stands; and what it makes of an array or object follows from what it makes of the parts, however
many blanks stand between them.
-/

namespace RpcTransport.Json

theorem toOption_bind {ε α β : Type} (x : Except ε α) (f : α → Except ε β) :
    (x >>= f).toOption = x.toOption.bind fun a => (f a).toOption := by
  cases x <;> rfl

namespace Reader

variable {α β : Type} {read : Reader α} {text other : Bytes}

/-- What a reader makes of a text that stands alone: a thing, or nothing. -/
def outcome (read : Reader α) (text : Bytes) : Option α :=
  (read text).toOption.map Prod.fst

/-- A reader makes of a text what it makes of it alone, and stops where the text ends, whatever
blanks stand before it and whatever stops the reader after it. -/
def Regular (read : Reader α) (text : Bytes) : Prop :=
  ∀ before rest, Blank before → Numeral.Stops rest →
    (read (before ++ (text ++ rest))).toOption = (read.outcome text).map fun x => (x, rest)

/-- A reader makes the same of two texts, wherever they stand. -/
structure TreatsAlike (read : Reader α) (text other : Bytes) : Prop where
  regular : read.Regular text
  otherRegular : read.Regular other
  same : read.outcome text = read.outcome other

theorem stops_nil : Numeral.Stops [] :=
  nofun

/-- What a reader makes of a text everywhere is what it makes of the text alone. -/
theorem regular_of (made : Option α)
    (makes : ∀ before rest, Blank before → Numeral.Stops rest →
      (read (before ++ (text ++ rest))).toOption = made.map fun x => (x, rest)) :
    read.outcome text = made ∧ read.Regular text := by
  have alone := makes [] [] nofun stops_nil
  rw [List.nil_append, List.append_nil] at alone
  have outcome : read.outcome text = made := by
    rw [Reader.outcome, alone]
    cases made <;> rfl
  refine ⟨outcome, ?_⟩
  rw [Regular, outcome]
  exact makes

theorem Regular.read_eq (regular : read.Regular text) {rest : Bytes} (stops : Numeral.Stops rest) :
    (read (text ++ rest)).toOption = (read.outcome text).map fun x => (x, rest) :=
  regular [] rest nofun stops

/-- For a reader that starts after the blanks it is enough how it goes on from the first byte. -/
theorem regular_of_starts (skips : ∀ s, read (skipBlanks s) = read s) (made : Option α) {b : UInt8}
    {tail : Bytes} (notBlank : isBlank b = false)
    (makes : ∀ rest, Numeral.Stops rest →
      (read (b :: (tail ++ rest))).toOption = made.map fun x => (x, rest)) :
    read.outcome (b :: tail) = made ∧ read.Regular (b :: tail) := by
  refine regular_of made fun before rest blank stops => ?_
  rw [← skips, List.cons_append, skipBlanks_of_blanks blank notBlank]
  exact makes rest stops

/-- Texts of which a reader makes the same everywhere are treated alike. -/
theorem TreatsAlike.of {made : Option α} (first : read.outcome text = made ∧ read.Regular text)
    (second : read.outcome other = made ∧ read.Regular other) : read.TreatsAlike text other :=
  ⟨first.2, second.2, first.1.trans second.1.symm⟩

/-- A reader makes its things of those that another one reads, or nothing of them. -/
def MakesOf (read : Reader β) (base : Reader α) (make : α → Option β) : Prop :=
  ∀ s, (read s).toOption =
    (base s).toOption.bind fun found => (make found.1).map fun y => (y, found.2)

section MakesOf

variable {base : Reader β} {make : β → Option α}

theorem MakesOf.outcome_eq (makes : read.MakesOf base make) (text : Bytes) :
    read.outcome text = (base.outcome text).bind make := by
  rw [outcome, outcome, makes]
  cases (base text).toOption with
  | none => rfl
  | some found =>
      simp only [Option.bind_some, Option.map_some]
      cases make found.1 <;> rfl

theorem MakesOf.regular (makes : read.MakesOf base make) (regular : base.Regular text) :
    read.Regular text := by
  intro before rest blank stops
  rw [makes, makes.outcome_eq, regular before rest blank stops]
  cases base.outcome text <;> rfl

theorem MakesOf.treatsAlike (makes : read.MakesOf base make) (alike : base.TreatsAlike text other) :
    read.TreatsAlike text other := by
  refine ⟨makes.regular alike.regular, makes.regular alike.otherRegular, ?_⟩
  rw [makes.outcome_eq, makes.outcome_eq, alike.same]

end MakesOf

end Reader

/-! ### Scalars -/

/-- The text of a value that is neither array nor object. -/
inductive IsScalar : Bytes → Prop
  | null : IsScalar (bytesOf "null")
  | true : IsScalar (bytesOf "true")
  | false : IsScalar (bytesOf "false")
  | number {text : Bytes} (isNumber : IsNumber text) : IsScalar text
  | string {text : Bytes} (isString : IsString text) : IsScalar text

/-- What a scalar's text is read as, given its first byte and the bytes after it. -/
structure StartsScalar (b : UInt8) (tail : Bytes) : Prop where
  notBlank : isBlank b = false
  noArray : b ≠ Ascii.openBracket
  noObject : b ≠ Ascii.openBrace
  read : ∃ made : Option Json, ∀ rest, Numeral.Stops rest →
    (readScalar b (tail ++ rest)).toOption = made.map fun x => (x, rest)

section Scalars

variable {text : Bytes} {b : UInt8} {tail : Bytes}

/-- A number is in the range of doubles or not, wherever it stands. -/
theorem IsNumber.starts (isNumber : IsNumber text) :
    ∃ b tail, text = b :: tail ∧ StartsScalar b tail := by
  obtain ⟨b, tail, numeral, rfl, first, read⟩ := isNumber.read
  have other : ∀ {mark}, mark ≠ Ascii.minus → Ascii.isDigit mark = false → b ≠ mark :=
    ne_of_number first
  refine ⟨b, tail, rfl, isBlank_of_number first, other (by decide) (by decide),
    other (by decide) (by decide), numeral.value.toOption.map .number, ?_⟩
  intro rest stops
  have extended := (numeral_spec read).2 rest fun _ => stops
  rw [readScalar_of_number first, ← List.cons_append, readNumber, bind_of_ok extended]
  dsimp only
  cases numeral.value <;> rfl

theorem IsString.starts (isString : IsString text) :
    ∃ tail, text = Ascii.doubleQuote :: tail ∧ ∀ rest,
      (readScalar Ascii.doubleQuote (tail ++ rest)).toOption =
        ((saying? text).map .string).map fun x => (x, rest) := by
  obtain ⟨quoted, rfl, read⟩ := isString.read
  refine ⟨quoted, rfl, fun rest => ?_⟩
  have scalar : readScalar Ascii.doubleQuote (quoted ++ rest) =
      Quoted.read (quoted ++ rest) >>= fun found => .ok (.string found.1, found.2) := rfl
  rw [scalar, toOption_bind, read rest]
  cases saying? (Ascii.doubleQuote :: quoted) <;> rfl

theorem IsScalar.starts (isScalar : IsScalar text) :
    ∃ b tail, text = b :: tail ∧ StartsScalar b tail := by
  cases isScalar with
  | null => exact ⟨_, _, rfl, by decide, by decide, by decide, some .null, fun _ _ => rfl⟩
  | true =>
      exact ⟨_, _, rfl, by decide, by decide, by decide, some (.bool Bool.true), fun _ _ => rfl⟩
  | false =>
      exact ⟨_, _, rfl, by decide, by decide, by decide, some (.bool Bool.false), fun _ _ => rfl⟩
  | number isNumber => exact isNumber.starts
  | string isString =>
      obtain ⟨tail, rfl, read⟩ := isString.starts
      exact ⟨_, tail, rfl, by decide, by decide, by decide, _, fun rest _ => read rest⟩

theorem IsScalar.regular (isScalar : IsScalar text) (inner : Bytes → Except Fault Json)
    (depth : Nat) : (valueWith inner depth).Regular text := by
  obtain ⟨b, tail, rfl, starts⟩ := isScalar.starts
  obtain ⟨made, read⟩ := starts.read
  refine (Reader.regular_of made ?_).2
  intro before rest blank stops
  unfold valueWith
  rw [List.cons_append, skipBlanks_of_blanks blank starts.notBlank]
  simp only [starts.noArray, starts.noObject, if_false]
  exact read rest stops

end Scalars

/-! ### Arrays -/

/-- These texts are the elements that come next in an array, up to its end; `first` tells that no
element has come before. -/
inductive ElementsFrom : Bool → List Bytes → Bytes → Bytes → Prop
  | close {first : Bool} {s rest : Bytes} (closes : skipBlanks s = Ascii.closeBracket :: rest) :
      ElementsFrom first [] s rest
  | element {first : Bool} {s text left rest : Bytes} {texts : List Bytes}
      (next : nextElement first s = .ok (true, text ++ left)) (stops : Numeral.Stops left)
      (others : ElementsFrom false texts left rest) : ElementsFrom first (text :: texts) s rest

section Arrays

variable {α : Type} {item : Reader α} {texts : List Bytes} {inner rest s : Bytes} {first : Bool}

/-- The elements that stand between brackets come up to the closing one. -/
theorem Listed.elementsFrom (listed : Listed texts inner)
    (areValues : ∀ text ∈ texts, IsValueText text) (rest : Bytes) :
    ElementsFrom true texts (inner ++ Ascii.closeBracket :: rest) rest := by
  have closing : ∀ {after : Bytes}, Blank after →
      skipBlanks (after ++ Ascii.closeBracket :: rest) = Ascii.closeBracket :: rest :=
    fun blank => skipBlanks_of_blanks blank (by decide)
  have opening : ∀ {before text left : Bytes}, Blank before → IsValueText text →
      nextElement true (before ++ (text ++ left)) = .ok (true, text ++ left) := by
    intro before text left blank isValue
    have start := isValue.skipBlanks_append blank left
    obtain ⟨b, tail, rfl, _, noClose⟩ := isValue.eq_cons
    exact nextElement_of_first start noClose
  induction listed with
  | empty blank => exact .close (closing blank)
  | last padding =>
      obtain ⟨before, after, blankBefore, blankAfter, rfl⟩ := padding
      simp only [List.append_assoc]
      exact .element (opening blankBefore (areValues _ List.mem_cons_self))
        (stops_of_blank blankAfter (Or.inr (Or.inl rfl))) (.close (closing blankAfter))
  | @more _ _ _ between _ padding others inductionHypothesis =>
      obtain ⟨before, after, blankBefore, blankAfter, rfl⟩ := padding
      obtain ⟨isValue, areValues⟩ := List.forall_mem_cons.mp areValues
      simp only [List.append_assoc, List.cons_append]
      refine .element (opening blankBefore isValue) (stops_of_blank blankAfter (Or.inl rfl)) ?_
      -- after the comma the elements go on as they begin
      obtain ⟨b, left, start, noClose⟩ := others.skipBlanks_eq (areValues _ List.mem_cons_self)
        (Ascii.closeBracket :: rest)
      have comma : skipBlanks (after ++ Ascii.comma :: (between ++ Ascii.closeBracket :: rest)) =
          Ascii.comma :: (between ++ Ascii.closeBracket :: rest) := by
        exact skipBlanks_of_blanks blankAfter (by decide)
      have same := (nextElement_of_comma comma start noClose).trans
        (nextElement_of_first start noClose).symm
      cases inductionHypothesis areValues with
      | element next stops others => exact .element (same.trans next) stops others

/-- What is made of the elements that come next is made of each. -/
theorem ElementsFrom.elements_outcome (coming : ElementsFrom first texts s rest)
    (regular : ∀ text ∈ texts, item.Regular text) {fuel : Nat} (enough : texts.length < fuel) :
    (elements item fuel first s).toOption =
      (texts.mapM item.outcome).map fun xs => (xs, Ascii.closeBracket :: rest) := by
  induction coming generalizing fuel with
  | close closes =>
      obtain ⟨fuel, rfl⟩ := Nat.exists_eq_add_one_of_ne_zero (Nat.ne_of_gt enough)
      rw [elements_of_close closes]
      rfl
  | @element _ _ text left _ texts next stops others inductionHypothesis =>
      obtain ⟨fuel, rfl⟩ := Nat.exists_eq_add_one_of_ne_zero (Nat.ne_zero_of_lt enough)
      obtain ⟨isRegular, regular⟩ := List.forall_mem_cons.mp regular
      have value := isRegular.read_eq stops
      have more := inductionHypothesis regular (Nat.lt_of_succ_lt_succ enough)
      rw [elements, bind_of_ok next]
      simp only [if_true]
      rw [toOption_bind, value, List.mapM_cons]
      cases item.outcome text with
      | none => rfl
      | some x =>
          simp only [Option.map_some, Option.bind_some]
          rw [toOption_bind, more]
          cases texts.mapM item.outcome <;> rfl

theorem arrayOf_outcome (listed : Listed texts inner)
    (areValues : ∀ text ∈ texts, IsValueText text)
    (regular : ∀ text ∈ texts, item.Regular text) (rest : Bytes) :
    (arrayOf item (inner ++ Ascii.closeBracket :: rest)).toOption =
      (texts.mapM item.outcome).map fun xs => (xs, rest) := by
  have few := listed.length_le
  have enough : texts.length < (inner ++ Ascii.closeBracket :: rest).length + 1 := by
    simp only [List.length_append, List.length_cons]
    omega
  have outcome := (listed.elementsFrom areValues rest).elements_outcome regular enough
  rw [arrayOf, toOption_bind, outcome]
  cases texts.mapM item.outcome <;> rfl

end Arrays

/-! ### Objects -/

/-- The text of a member of this name and value, each as it is written. -/
def IsMember (name value text : Bytes) : Prop :=
  ∃ before after, Blank before ∧ Blank after ∧
    text = name ++ (before ++ Ascii.colon :: (after ++ value))

/-- What stands between the braces of an object of these members, each given by its name and its
value as they are written. -/
def Lists (members : List (Bytes × Bytes)) (inner : Bytes) : Prop :=
  ∃ texts, Listed texts inner ∧
    List.Forall₂ (fun member text => IsMember member.1 member.2 text) members texts

/-- These are the members that come next in an object, up to its end; `first` tells that no member
has come before. -/
inductive MembersFrom : Bool → List (Bytes × Bytes) → Bytes → Bytes → Prop
  | close {first : Bool} {s rest : Bytes} (closes : skipBlanks s = Ascii.closeBrace :: rest) :
      MembersFrom first [] s rest
  | member {first : Bool} {s name named before value left rest : Bytes}
      {members : List (Bytes × Bytes)} (isName : IsString name)
      (next : nextMember first s = .ok (true, name.tail ++ named))
      (mark : colon named = .ok ((), before ++ (value ++ left))) (blank : Blank before)
      (stops : Numeral.Stops left) (others : MembersFrom false members left rest) :
      MembersFrom first ((name, value) :: members) s rest

section Objects

variable {item : Reader Json} {ms : List (Bytes × Bytes)} {inner rest s : Bytes} {first : Bool}

theorem nextMember_of_first (start : skipBlanks s = Ascii.doubleQuote :: rest) :
    nextMember true s = .ok (true, rest) := by
  rw [nextMember, start]
  rfl

theorem nextMember_of_comma {more : Bytes} (comma : skipBlanks s = Ascii.comma :: more)
    (start : skipBlanks more = Ascii.doubleQuote :: rest) :
    nextMember false s = .ok (true, rest) := by
  rw [nextMember, comma]
  simp only [start]
  rfl

theorem nextMember_of_close (close : skipBlanks s = Ascii.closeBrace :: rest) :
    nextMember first s = .ok (false, Ascii.closeBrace :: rest) := by
  rw [nextMember, close]
  rfl

/-- Where an object's first member comes, it comes after a comma, too. -/
theorem MembersFrom.after_comma {m : Bytes × Bytes} {more : Bytes}
    (coming : MembersFrom true (m :: ms) more rest) (comma : skipBlanks s = Ascii.comma :: more) :
    MembersFrom false (m :: ms) s rest := by
  cases coming with
  | member isName next mark blank stops others =>
      refine .member isName ?_ mark blank stops others
      rw [nextMember] at next
      split at next
      · cases next
      · next b left start =>
          split at next
          · cases next
          · simp only [if_true] at next
            split at next
            · next isQuote =>
                cases next
                rw [isQuote] at start
                exact nextMember_of_comma comma start
            · cases next

/-- A member opens with its name, and its value comes after a colon. -/
theorem IsMember.membersFrom {m : Bytes × Bytes} {before text left : Bytes} (blank : Blank before)
    (isName : IsString m.1) (isMember : IsMember m.1 m.2 text) (stops : Numeral.Stops left)
    (coming : MembersFrom false ms left rest) :
    MembersFrom true (m :: ms) (before ++ (text ++ left)) rest := by
  obtain ⟨name, value⟩ := m
  obtain ⟨beforeMark, afterMark, blankMark, blankValue, rfl⟩ := isMember
  obtain ⟨quoted, rfl, _⟩ := isName.skim
  refine @MembersFrom.member _ _ _ (beforeMark ++ Ascii.colon :: (afterMark ++ (value ++ left)))
    _ _ _ _ _ isName (nextMember_of_first ?_) ?_ blankValue stops coming
  · refine (skipBlanks_of_blanks blank (by decide)).trans ?_
    simp
  · rw [colon, skipBlanks_of_blanks blankMark (by decide)]
    rfl

/-- The members that stand between braces come up to the closing one. -/
theorem Lists.membersFrom (lists : Lists ms inner) (names : ∀ m ∈ ms, IsString m.1)
    (rest : Bytes) :
    MembersFrom true ms (inner ++ Ascii.closeBrace :: rest) rest := by
  obtain ⟨texts, listed, written⟩ := lists
  have closing : ∀ {after : Bytes}, Blank after →
      skipBlanks (after ++ Ascii.closeBrace :: rest) = Ascii.closeBrace :: rest :=
    fun blank => skipBlanks_of_blanks blank (by decide)
  induction listed generalizing ms with
  | empty blank =>
      cases written
      exact .close (closing blank)
  | last padding =>
      obtain ⟨before, after, blankBefore, blankAfter, rfl⟩ := padding
      obtain _ | ⟨isMember, none⟩ := written
      cases none
      simp only [List.append_assoc]
      exact isMember.membersFrom blankBefore (names _ List.mem_cons_self)
        (stops_of_blank blankAfter (Or.inr (Or.inr rfl))) (.close (closing blankAfter))
  | @more _ _ _ between _ padding others inductionHypothesis =>
      obtain ⟨before, after, blankBefore, blankAfter, rfl⟩ := padding
      obtain _ | ⟨isMember, written⟩ := written
      obtain ⟨isName, names⟩ := List.forall_mem_cons.mp names
      have comma : skipBlanks (after ++ Ascii.comma :: (between ++ Ascii.closeBrace :: rest)) =
          Ascii.comma :: (between ++ Ascii.closeBrace :: rest) := by
        exact skipBlanks_of_blanks blankAfter (by decide)
      have coming := inductionHypothesis names written
      simp only [List.append_assoc, List.cons_append]
      refine isMember.membersFrom blankBefore isName (stops_of_blank blankAfter (Or.inl rfl)) ?_
      cases written with
      | cons first more => exact coming.after_comma comma

/-- There are fewer members than bytes. -/
theorem MembersFrom.length_lt (coming : MembersFrom first ms s rest) : ms.length < s.length := by
  induction coming with
  | close closes => exact Nat.lt_of_le_of_lt (Nat.zero_le _) (length_lt_of_skipBlanks closes)
  | @member _ _ name named before value left _ _ isName next mark _ _ _ inductionHypothesis =>
      obtain ⟨content⟩ := isName
      have afterNext := length_le_of_nextMember next
      have afterMark := length_le_of_colon mark
      simp only [List.tail_cons, List.length_append, List.length_singleton] at afterNext afterMark
      simp only [List.length_cons]
      omega

/-- What a reader makes of a member: its name and its value. -/
def memberOutcome (item : Reader Json) (m : Bytes × Bytes) : Option (String × Json) :=
  (saying? m.1).bind fun name => (item.outcome m.2).map fun x => (name, x)

/-- What is made of the members that come next is made of each. -/
theorem MembersFrom.members_outcome (coming : MembersFrom first ms s rest)
    (regular : ∀ m ∈ ms, item.Regular m.2) {fuel : Nat} (enough : ms.length < fuel) :
    (members (fun _ => item) fuel first s).toOption =
      (ms.mapM (memberOutcome item)).map fun xs => (xs, Ascii.closeBrace :: rest) := by
  induction coming generalizing fuel with
  | close closes =>
      obtain ⟨fuel, rfl⟩ := Nat.exists_eq_add_one_of_ne_zero (Nat.ne_of_gt enough)
      rw [members, bind_of_ok (nextMember_of_close closes)]
      rfl
  | @member _ _ name named before value left _ others isName next mark blank stops coming
      inductionHypothesis =>
      obtain ⟨fuel, rfl⟩ := Nat.exists_eq_add_one_of_ne_zero (Nat.ne_zero_of_lt enough)
      obtain ⟨quoted, rfl, read⟩ := isName.read
      obtain ⟨isRegular, areRegular⟩ := List.forall_mem_cons.mp regular
      have more := inductionHypothesis areRegular (Nat.lt_of_succ_lt_succ enough)
      have one : (Json.member (fun _ => item) (quoted ++ named)).toOption =
          (memberOutcome item (Ascii.doubleQuote :: quoted, value)).map fun m => (m, left) := by
        rw [Json.member, toOption_bind, read named, memberOutcome]
        cases saying? (Ascii.doubleQuote :: quoted) with
        | none => rfl
        | some name =>
            simp only [Option.map_some, Option.bind_some]
            rw [bind_of_ok mark, toOption_bind, isRegular before left blank stops]
            cases item.outcome value <;> rfl
      rw [members, bind_of_ok next]
      simp only [if_true, List.tail_cons]
      rw [toOption_bind, one, List.mapM_cons]
      cases memberOutcome item (Ascii.doubleQuote :: quoted, value) with
      | none => rfl
      | some m =>
          simp only [Option.map_some, Option.bind_some]
          rw [toOption_bind, more]
          cases others.mapM (memberOutcome item) <;> rfl

/-- What is made of an object: one that keeps its members, or, if the first one has the name for it,
the value that stands in the only member's string. -/
def objectOutcome (item : Reader Json) (inner : Bytes → Except Fault Json) :
    List (Bytes × Bytes) → Option Json
  | [] => some (.object [])
  | first :: others =>
    if saying? first.1 = some embeddedName then
      ((readString "raw value").outcome first.2).bind fun text =>
        if others.isEmpty then (inner (bytesOf text)).toOption else none
    else ((first :: others).mapM (memberOutcome item)).map .ofMembers

theorem closeObject_of_close (close : skipBlanks s = Ascii.closeBrace :: rest) :
    closeObject s = .ok ((), rest) := by
  rw [closeObject, close]
  rfl

/-- Where another member comes, the object is not closed. -/
theorem MembersFrom.closeObject_outcome (coming : MembersFrom false ms s rest) :
    (closeObject s).toOption = if ms.isEmpty then some ((), rest) else none := by
  cases coming with
  | close closes =>
      rw [closeObject_of_close closes]
      rfl
  | member _ next =>
      rw [nextMember] at next
      split at next
      · cases next
      · next b left start =>
          split at next
          · cases next
          · next notClose =>
              simp only [Bool.false_eq_true, if_false] at next
              split at next
              · next isComma =>
                  rw [closeObject, start]
                  simp only [isComma]
                  rfl
              · cases next

theorem objectOf_outcome {enclosing : Bytes → Except Fault Json} (lists : Lists ms inner)
    (names : ∀ m ∈ ms, IsString m.1) (regular : ∀ m ∈ ms, item.Regular m.2)
    (regularString : ∀ m ∈ ms, (readString "raw value").Regular m.2) (rest : Bytes) :
    (objectOf item enclosing (inner ++ Ascii.closeBrace :: rest)).toOption =
      (objectOutcome item enclosing ms).map fun x => (x, rest) := by
  have coming := lists.membersFrom names rest
  cases coming with
  | close closes =>
      rw [objectOf, bind_of_ok (nextMember_of_close closes)]
      rfl
  | @member _ _ name named before value left _ others isName next mark blank stops coming =>
      obtain ⟨quoted, rfl, read⟩ := isName.read
      obtain ⟨isRegular, areRegular⟩ := List.forall_mem_cons.mp regular
      have isRegularString := regularString _ List.mem_cons_self
      rw [objectOf, bind_of_ok next]
      simp only [Bool.not_true, Bool.false_eq_true, if_false, List.tail_cons]
      rw [toOption_bind, read named, objectOutcome, List.mapM_cons]
      simp only [memberOutcome]
      cases saying? (Ascii.doubleQuote :: quoted) with
      | none => rfl
      | some said =>
          simp only [Option.map_some, Option.bind_some, Option.some.injEq]
          rw [bind_of_ok mark]
          split
          · rw [toOption_bind, isRegularString before left blank stops]
            cases (readString "raw value").outcome value with
            | none => rfl
            | some text =>
                simp only [Option.map_some, Option.bind_some]
                rw [toOption_bind]
                have closed := coming.closeObject_outcome
                cases enclosing (bytesOf text) with
                | error fault => cases others.isEmpty <;> rfl
                | ok x =>
                    show (closeObject left >>= _).toOption = _
                    rw [toOption_bind, closed]
                    cases others.isEmpty <;> rfl
          · rw [toOption_bind, isRegular before left blank stops]
            cases item.outcome value with
            | none => rfl
            | some x =>
                have enough : others.length < left.length + 1 :=
                  Nat.lt_succ_of_lt coming.length_lt
                simp only [Option.map_some, Option.bind_some]
                rw [toOption_bind, coming.members_outcome areRegular enough]
                cases others.mapM (memberOutcome item) <;> rfl

end Objects

end RpcTransport.Json
