import RpcTransport.Proofs.Json.ArrayText
import RpcTransport.Proofs.Json.Writing

/-!
Values as they are written are read as they were. This holds of values without doubles, whose
objects list their members by increasing name, and which are not taken for a value written in a
string; and as far as the reader goes into nested arrays and objects.
-/

namespace RpcTransport.Json

/-! ### Values that are read as they were -/

/-- A value that is read as it was written: its numbers are integers of 64 bits, and its objects
have their members by increasing name, none of the name that stands for a value in a string. -/
inductive IsPlain : Json → Prop
  | null : IsPlain .null
  | bool (b : Bool) : IsPlain (.bool b)
  | integer (n : Int) (fits : Fits64 n) : IsPlain (.number (.integer n fits))
  | string (s : String) : IsPlain (.string s)
  | array {items : List Json} (plain : ∀ x ∈ items, IsPlain x) : IsPlain (.array items)
  | object {members : List (String × Json)}
      (sorted : members.Pairwise fun first second => first.1 < second.1)
      (named : ∀ m ∈ members, m.1 ≠ embeddedName) (plain : ∀ m ∈ members, IsPlain m.2) :
      IsPlain (.object members)

mutual

/-- How deep arrays and objects are nested in a value. -/
def nesting : Json → Nat
  | .array items => nestingItems items + 1
  | .object members => nestingMembers members + 1
  | _ => 0

/-- How deep arrays and objects are nested in the elements of an array. -/
def nestingItems : List Json → Nat
  | [] => 0
  | x :: xs => max x.nesting (nestingItems xs)

/-- How deep arrays and objects are nested in the members of an object. -/
def nestingMembers : List (String × Json) → Nat
  | [] => 0
  | (_, x) :: rest => max x.nesting (nestingMembers rest)

end

theorem nesting_le_items {items : List Json} : ∀ x ∈ items, x.nesting ≤ nestingItems items := by
  induction items with
  | nil => simp
  | cons first rest inductionHypothesis =>
      intro x member
      rw [nestingItems]
      rcases List.mem_cons.mp member with rfl | member
      · exact Nat.le_max_left _ _
      · exact Nat.le_trans (inductionHypothesis x member) (Nat.le_max_right _ _)

theorem nesting_le_members {members : List (String × Json)} :
    ∀ m ∈ members, m.2.nesting ≤ nestingMembers members := by
  induction members with
  | nil => simp
  | cons first rest inductionHypothesis =>
      intro m member
      rw [nestingMembers]
      rcases List.mem_cons.mp member with rfl | member
      · exact Nat.le_max_left _ _
      · exact Nat.le_trans (inductionHypothesis m member) (Nat.le_max_right _ _)

theorem renderItems_eq_map (items : List Json) : renderItems items = items.map render := by
  induction items with
  | nil => rfl
  | cons x items inductionHypothesis => rw [renderItems, inductionHypothesis, List.map_cons]

theorem renderMembers_eq_map (members : List (String × Json)) :
    renderMembers members = members.map fun m => (m.1, m.2.render) := by
  induction members with
  | nil => rfl
  | cons m members inductionHypothesis => rw [renderMembers, inductionHypothesis, List.map_cons]

/-! ### Members in order -/

/-- A member of a later name is put in last. -/
theorem insertMember_of_last {α : Type} {name : String} {value : α} {members : List (String × α)}
    (last : ∀ m ∈ members, m.1 < name) :
    insertMember name value members = members ++ [(name, value)] := by
  induction members with
  | nil => rfl
  | cons m members inductionHypothesis =>
      have before := last m List.mem_cons_self
      have others := inductionHypothesis fun m member => last m (List.mem_cons_of_mem _ member)
      have notBefore : ¬ name < m.1 := String.lt_asymm before
      have notSame : ¬ name = m.1 := fun same => String.lt_irrefl _ (same ▸ before)
      rw [insertMember, if_neg notBefore, if_neg notSame, others, List.cons_append]

theorem foldl_insertMember {α : Type} {taken members : List (String × α)}
    (sorted : (taken ++ members).Pairwise fun first second => first.1 < second.1) :
    members.foldl (fun acc m => insertMember m.1 m.2 acc) taken = taken ++ members := by
  induction members generalizing taken with
  | nil => simp
  | cons m members inductionHypothesis =>
      have last : ∀ earlier ∈ taken, earlier.1 < m.1 := fun earlier member =>
        (List.pairwise_append.mp sorted).2.2 earlier member m List.mem_cons_self
      rw [List.append_cons] at sorted
      rw [List.foldl_cons, insertMember_of_last last, inductionHypothesis sorted,
        List.append_assoc, List.singleton_append]

/-- Members that are in order are kept as they are. -/
theorem ofMembers_of_sorted {members : List (String × Json)}
    (sorted : members.Pairwise fun first second => first.1 < second.1) :
    ofMembers members = .object members := by
  rw [ofMembers, foldl_insertMember (by simpa using sorted), List.nil_append]

/-! ### Marks -/

section Marks

variable {first : Bool} {b : UInt8} {name : String} {value rest s : Bytes}

/-- What stands before an element or member: a comma, unless it is the first. -/
def separator (first : Bool) : Bytes :=
  if first then [] else [Ascii.comma]

/-- Texts with a comma before each, or, from the first one on, between them. -/
def separated : Bool → List Bytes → Bytes
  | _, [] => []
  | first, x :: xs => separator first ++ x ++ separated false xs

theorem commaSeparated_eq (texts : List Bytes) : commaSeparated texts = separated true texts := by
  match texts with
  | [] => rfl
  | [x] => simp [commaSeparated, separated, separator]
  | x :: y :: rest =>
      have others := commaSeparated_eq (y :: rest)
      rw [commaSeparated, others]
      simp [separated, separator]

/-- No text is so short that there are fewer bytes than texts. -/
theorem length_le_separated {texts : List Bytes} (nonempty : ∀ text ∈ texts, text ≠ [])
    (first : Bool) : texts.length ≤ (separated first texts).length := by
  induction texts generalizing first with
  | nil => exact Nat.le_refl 0
  | cons x xs inductionHypothesis =>
      have one := List.length_pos_of_ne_nil (nonempty x List.mem_cons_self)
      have others := inductionHypothesis
        (fun text member => nonempty text (List.mem_cons_of_mem _ member)) false
      simp only [separated, List.length_append, List.length_cons]
      omega

/-- What comes after an element or member stops a number. -/
theorem stops_separated (texts : List Bytes) (s : Bytes)
    (isMark : b = Ascii.comma ∨ b = Ascii.closeBracket ∨ b = Ascii.closeBrace) :
    Numeral.Stops (separated false texts ++ b :: s) := by
  cases texts with
  | nil => exact stops_mark isMark
  | cons x xs => exact stops_mark (Or.inl rfl)

theorem nextElement_separator (notBlank : isBlank b = false) (noClose : b ≠ Ascii.closeBracket) :
    nextElement first (separator first ++ b :: s) = .ok (true, b :: s) := by
  have start : skipBlanks (b :: s) = b :: s := skipBlanks_cons_of_not_blank notBlank s
  cases first with
  | true => exact nextElement_of_first start noClose
  | false =>
      have comma : skipBlanks (Ascii.comma :: b :: s) = Ascii.comma :: b :: s :=
        skipBlanks_cons_of_not_blank (by decide) _
      exact nextElement_of_comma comma start noClose

theorem nextMember_separator :
    nextMember first (separator first ++ Ascii.doubleQuote :: s) = .ok (true, s) := by
  cases first <;> rfl

theorem nextMember_close :
    nextMember first (Ascii.closeBrace :: s) = .ok (false, Ascii.closeBrace :: s) := by
  cases first <;> rfl

theorem closeObject_close : closeObject (Ascii.closeBrace :: s) = .ok ((), s) :=
  rfl

theorem closeArray_close : closeArray (Ascii.closeBracket :: s) = .ok ((), s) :=
  rfl

theorem colon_mark : colon (Ascii.colon :: s) = .ok ((), s) :=
  rfl

/-- A member's text: its name between quotes, a colon and its value. -/
theorem renderMember_append :
    renderMember name value ++ rest =
      Ascii.doubleQuote :: (Quoted.encode (bytesOf name) ++
        Ascii.doubleQuote :: Ascii.colon :: (value ++ rest)) := by
  simp [renderMember, Quoted.render]

end Marks

/-! ### Elements and members that are read as they were -/

/-- A reader takes a text for a thing, whatever stops it after that. The text is none that an
element of an array can not start with. -/
structure Reads {α : Type} (item : Reader α) (text : Bytes) (x : α) : Prop where
  starts : ∃ b tail, text = b :: tail ∧ isBlank b = false ∧ b ≠ Ascii.closeBracket
  read : ∀ rest, Numeral.Stops rest → item (text ++ rest) = .ok (x, rest)

section Lists

variable {α : Type} {item : Reader α} {write : α → Bytes}

theorem Reads.ne_nil {text : Bytes} {x : α} (reads : Reads item text x) : text ≠ [] := by
  obtain ⟨b, tail, rfl, _⟩ := reads.starts
  exact List.cons_ne_nil b tail

/-- Elements are read as they were written, up to the bracket. -/
theorem elements_separated {xs : List α} (each : ∀ x ∈ xs, Reads item (write x) x) (rest : Bytes)
    {fuel : Nat} (first : Bool) (enough : xs.length < fuel) :
    elements item fuel first (separated first (xs.map write) ++ Ascii.closeBracket :: rest) =
      .ok (xs, Ascii.closeBracket :: rest) := by
  induction xs generalizing fuel first with
  | nil =>
      obtain ⟨fuel, rfl⟩ := Nat.exists_eq_add_one_of_ne_zero (Nat.ne_of_gt enough)
      exact elements_of_close (skipBlanks_cons_of_not_blank (by decide) rest)
  | cons x xs inductionHypothesis =>
      obtain ⟨fuel, rfl⟩ := Nat.exists_eq_add_one_of_ne_zero (Nat.ne_zero_of_lt enough)
      have reads := each x List.mem_cons_self
      have value := reads.read _ (stops_separated (xs.map write) rest (Or.inr (Or.inl rfl)))
      have others := inductionHypothesis
        (fun y member => each y (List.mem_cons_of_mem _ member)) false
        (Nat.lt_of_succ_lt_succ enough)
      obtain ⟨b, tail, starts, notBlank, noClose⟩ := reads.starts
      simp only [List.map_cons, separated, List.append_assoc]
      refine elements_of_next ?_ value others
      rw [starts]
      exact nextElement_separator notBlank noClose

/-- An array is read as it was written. -/
theorem arrayOf_commaSeparated {xs : List α} (each : ∀ x ∈ xs, Reads item (write x) x)
    (rest : Bytes) :
    arrayOf item (commaSeparated (xs.map write) ++ Ascii.closeBracket :: rest) =
      .ok (xs, rest) := by
  have nonempty : ∀ text ∈ xs.map write, text ≠ [] := by
    intro text member
    obtain ⟨x, isElement, rfl⟩ := List.mem_map.mp member
    exact (each x isElement).ne_nil
  have short := length_le_separated nonempty true
  rw [List.length_map] at short
  rw [commaSeparated_eq]
  refine bind_eq_ok.mpr ⟨_, elements_separated each rest true ?_,
    bind_eq_ok.mpr ⟨_, closeArray_close, rfl⟩⟩
  simp only [List.length_append, List.length_cons]
  omega

/-- The texts of members. -/
def memberTexts (write : α → Bytes) (ms : List (String × α)) : List Bytes :=
  ms.map fun m => renderMember m.1 (write m.2)

theorem length_le_memberTexts (write : α → Bytes) (ms : List (String × α)) (first : Bool) :
    ms.length ≤ (separated first (memberTexts write ms)).length := by
  have nonempty : ∀ text ∈ memberTexts write ms, text ≠ [] := by
    intro text member
    obtain ⟨m, _, rfl⟩ := List.mem_map.mp member
    exact List.cons_ne_nil _ _
  simpa [memberTexts] using length_le_separated nonempty first

/-- Members are read as they were written, up to the brace. -/
theorem members_separated {ms : List (String × α)}
    (each : ∀ m ∈ ms, Reads item (write m.2) m.2) (rest : Bytes) {fuel : Nat} (first : Bool)
    (enough : ms.length < fuel) :
    members (fun _ => item) fuel first
        (separated first (memberTexts write ms) ++ Ascii.closeBrace :: rest) =
      .ok (ms, Ascii.closeBrace :: rest) := by
  induction ms generalizing fuel first with
  | nil =>
      obtain ⟨fuel, rfl⟩ := Nat.exists_eq_add_one_of_ne_zero (Nat.ne_of_gt enough)
      exact bind_eq_ok.mpr ⟨_, nextMember_close, rfl⟩
  | cons m ms inductionHypothesis =>
      obtain ⟨fuel, rfl⟩ := Nat.exists_eq_add_one_of_ne_zero (Nat.ne_zero_of_lt enough)
      have value := (each m List.mem_cons_self).read _
        (stops_separated (memberTexts write ms) rest (Or.inr (Or.inr rfl)))
      have others := inductionHypothesis
        (fun y member => each y (List.mem_cons_of_mem _ member)) false
        (Nat.lt_of_succ_lt_succ enough)
      have one : member (fun _ => item) (Quoted.encode (bytesOf m.1) ++ Ascii.doubleQuote ::
          Ascii.colon :: (write m.2 ++ (separated false (memberTexts write ms) ++
            Ascii.closeBrace :: rest))) = .ok (m, _) :=
        bind_eq_ok.mpr ⟨_, Quoted.read_encode m.1 _, bind_eq_ok.mpr ⟨_, colon_mark,
          bind_eq_ok.mpr ⟨_, value, rfl⟩⟩⟩
      simp only [memberTexts, List.map_cons, separated, List.append_assoc]
      rw [renderMember_append]
      exact bind_eq_ok.mpr ⟨_, nextMember_separator, bind_eq_ok.mpr ⟨_, one,
        bind_eq_ok.mpr ⟨_, others, rfl⟩⟩⟩

end Lists

/-! ### Values -/

section Values

variable {inner : Bytes → Except Fault Json} {item : Reader Json} {depth : Nat} {b : UInt8}
  {s rest : Bytes}

/-- An object is read as it was written, whatever the order of its members, if it does not stand for
a value in a string. -/
theorem objectOf_commaSeparated {members : List (String × Json)}
    (named : ∀ m ∈ members, m.1 ≠ embeddedName)
    (each : ∀ m ∈ members, Reads item m.2.render m.2) (rest : Bytes) :
    objectOf item inner
        (commaSeparated (memberTexts render members) ++ Ascii.closeBrace :: rest) =
      .ok (.ofMembers members, rest) := by
  rw [commaSeparated_eq]
  cases members with
  | nil =>
      exact bind_eq_ok.mpr ⟨_, nextMember_close, bind_eq_ok.mpr ⟨_, closeObject_close, rfl⟩⟩
  | cons m members =>
      have value := (each m List.mem_cons_self).read _
        (stops_separated (memberTexts render members) rest (Or.inr (Or.inr rfl)))
      have enough : members.length <
          (separated false (memberTexts render members) ++
            Ascii.closeBrace :: rest).length + 1 := by
        have short := length_le_memberTexts render members false
        simp only [List.length_append, List.length_cons]
        omega
      have others := members_separated (fun y member => each y (List.mem_cons_of_mem _ member)) rest
        false enough
      simp only [memberTexts, List.map_cons, separated, List.append_assoc]
      rw [renderMember_append]
      refine bind_eq_ok.mpr ⟨_, nextMember_separator, ?_⟩
      refine bind_eq_ok.mpr ⟨_, Quoted.read_encode m.1 _, bind_eq_ok.mpr ⟨_, colon_mark, ?_⟩⟩
      dsimp only
      rw [if_neg (named m List.mem_cons_self)]
      refine bind_eq_ok.mpr ⟨_, value, bind_eq_ok.mpr ⟨_, others, ?_⟩⟩
      exact bind_eq_ok.mpr ⟨_, closeObject_close, rfl⟩

theorem valueWith_of_array :
    valueWith inner (depth + 1) (Ascii.openBracket :: s) =
      arrayOf (valueWith inner depth) s >>= fun read => .ok (.array read.1, read.2) := by
  rfl

theorem valueWith_of_object :
    valueWith inner (depth + 1) (Ascii.openBrace :: s) =
      objectOf (valueWith inner depth) inner s := by
  rfl

/-- A value that is neither array nor object is read by its first byte. -/
theorem reads_of_scalar {value : Json} {tail : Bytes} (starts : value.render = b :: tail)
    (notBlank : isBlank b = false) (noArray : b ≠ Ascii.openBracket)
    (noObject : b ≠ Ascii.openBrace) (noClose : b ≠ Ascii.closeBracket)
    (read : ∀ rest, Numeral.Stops rest → readScalar b (tail ++ rest) = .ok (value, rest)) :
    Reads (valueWith inner depth) value.render value := by
  refine ⟨⟨b, tail, starts, notBlank, noClose⟩, ?_⟩
  intro rest stops
  rw [starts, List.cons_append]
  unfold valueWith
  rw [skipBlanks_cons_of_not_blank notBlank]
  simp only [noArray, noObject, if_false]
  exact read rest stops

/-- A byte that starts a number is no other mark. -/
theorem ne_of_number {mark : UInt8} (isNumber : b = Ascii.minus ∨ Ascii.isDigit b = true)
    (noSign : mark ≠ Ascii.minus) (noDigit : Ascii.isDigit mark = false) : b ≠ mark := by
  rintro rfl
  rcases isNumber with isSign | isDigit
  · exact noSign isSign
  · rw [noDigit] at isDigit
    cases isDigit

/-- The byte of a digit or sign starts a number, and nothing else. -/
theorem readScalar_of_number (isNumber : b = Ascii.minus ∨ Ascii.isDigit b = true) :
    readScalar b s = readNumber (b :: s) >>= fun read => .ok (.number read.1, read.2) := by
  rw [readScalar, if_neg (ne_of_number isNumber (by decide) (by decide)),
    if_neg (ne_of_number isNumber (by decide) (by decide)),
    if_neg (ne_of_number isNumber (by decide) (by decide)), if_pos isNumber]
  rfl

theorem isBlank_of_number (isNumber : b = Ascii.minus ∨ Ascii.isDigit b = true) :
    isBlank b = false := by
  have other := @ne_of_number b
  simp only [isBlank, Bool.or_eq_false_iff, beq_eq_false_iff_ne]
  exact ⟨⟨⟨other isNumber (by decide) (by decide), other isNumber (by decide) (by decide)⟩,
    other isNumber (by decide) (by decide)⟩, other isNumber (by decide) (by decide)⟩

/-- An integer of 64 bits is read as it was written. -/
theorem reads_integer (n : Int) (fits : Fits64 n) :
    Reads (valueWith inner depth) (Json.number (.integer n fits)).render
      (.number (.integer n fits)) := by
  obtain ⟨b, tail, starts, isNumber⟩ := render_eq_cons n fits
  replace starts : (Json.number (.integer n fits)).render = b :: tail := starts
  apply reads_of_scalar starts (isBlank_of_number isNumber)
    (ne_of_number isNumber (by decide) (by decide))
    (ne_of_number isNumber (by decide) (by decide))
    (ne_of_number isNumber (by decide) (by decide))
  intro rest stops
  rw [readScalar_of_number isNumber, ← List.cons_append, ← starts]
  exact bind_eq_ok.mpr ⟨_, readNumber_render stops fits, rfl⟩

/-- An array is read as it was written if its elements are. -/
theorem reads_array {items : List Json}
    (each : ∀ x ∈ items, Reads (valueWith inner depth) x.render x) :
    Reads (valueWith inner (depth + 1)) (Json.array items).render (.array items) := by
  refine ⟨⟨_, _, rfl, by decide, by decide⟩, ?_⟩
  intro rest _
  rw [render, bracketed, renderItems_eq_map]
  simp only [List.cons_append, List.append_assoc, List.nil_append]
  rw [valueWith_of_array]
  exact bind_eq_ok.mpr ⟨_, arrayOf_commaSeparated each rest, rfl⟩

/-- The text of members is read as the object of these members, if their values are read. -/
theorem reads_braced {members : List (String × Json)}
    (named : ∀ m ∈ members, m.1 ≠ embeddedName)
    (each : ∀ m ∈ members, Reads (valueWith inner depth) m.2.render m.2) :
    Reads (valueWith inner (depth + 1)) (braced (renderMembers members)) (.ofMembers members) := by
  have texts : (renderMembers members).map (fun m => renderMember m.1 m.2) =
      memberTexts render members := by
    rw [renderMembers_eq_map, List.map_map]
    rfl
  refine ⟨⟨_, _, rfl, by decide, by decide⟩, ?_⟩
  intro rest _
  rw [braced, texts]
  simp only [List.cons_append, List.append_assoc, List.nil_append]
  rw [valueWith_of_object]
  exact objectOf_commaSeparated named each rest

/-- An object whose members are in order is read as it was written if their values are. -/
theorem reads_object {members : List (String × Json)}
    (sorted : members.Pairwise fun first second => first.1 < second.1)
    (named : ∀ m ∈ members, m.1 ≠ embeddedName)
    (each : ∀ m ∈ members, Reads (valueWith inner depth) m.2.render m.2) :
    Reads (valueWith inner (depth + 1)) (Json.object members).render (.object members) := by
  have reads := reads_braced named each
  rwa [ofMembers_of_sorted sorted] at reads

/-- A plain value is read as it was written, as far as arrays and objects may be nested. -/
theorem IsPlain.reads {value : Json} (plain : value.IsPlain) (inner : Bytes → Except Fault Json)
    {depth : Nat} (shallow : value.nesting ≤ depth) :
    Reads (valueWith inner depth) value.render value := by
  induction plain generalizing depth with
  | null =>
      apply reads_of_scalar rfl (by decide) (by decide) (by decide) (by decide)
      exact fun rest _ => bind_eq_ok.mpr ⟨((), rest), keyword_eq_ok.mpr rfl, rfl⟩
  | bool b =>
      cases b with
      | true =>
          apply reads_of_scalar rfl (by decide) (by decide) (by decide) (by decide)
          exact fun rest _ => bind_eq_ok.mpr ⟨((), rest), keyword_eq_ok.mpr rfl, rfl⟩
      | false =>
          apply reads_of_scalar rfl (by decide) (by decide) (by decide) (by decide)
          exact fun rest _ => bind_eq_ok.mpr ⟨((), rest), keyword_eq_ok.mpr rfl, rfl⟩
  | integer n fits => exact reads_integer n fits
  | string s =>
      have starts : (Json.string s).render =
          Ascii.doubleQuote :: (Quoted.encode (bytesOf s) ++ [Ascii.doubleQuote]) := rfl
      apply reads_of_scalar starts (by decide) (by decide) (by decide) (by decide)
      intro rest _
      rw [List.append_assoc]
      exact bind_eq_ok.mpr ⟨_, Quoted.read_encode s rest, rfl⟩
  | @array items plain inductionHypothesis =>
      obtain ⟨depth, rfl⟩ := Nat.exists_eq_add_of_le' (Nat.le_trans (Nat.le_add_left 1 _) shallow)
      apply reads_array
      intro x member
      apply inductionHypothesis x member
      exact Nat.le_trans (nesting_le_items x member) (Nat.le_of_succ_le_succ shallow)
  | @object members sorted named plain inductionHypothesis =>
      obtain ⟨depth, rfl⟩ := Nat.exists_eq_add_of_le' (Nat.le_trans (Nat.le_add_left 1 _) shallow)
      apply reads_object sorted named
      intro m member
      apply inductionHypothesis m member
      exact Nat.le_trans (nesting_le_members m member) (Nat.le_of_succ_le_succ shallow)

end Values

end RpcTransport.Json
