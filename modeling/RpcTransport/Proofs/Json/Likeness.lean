import RpcTransport.Proofs.Json.Outcomes

/-!
Texts for the same value. Blanks, the spelling of numbers and strings, and the order of members of
different names make no difference to what a value is read as.
-/

namespace RpcTransport.Json

/-! ### Members that change places -/

/-- Members that may change places: their names are different, and neither says that its object
stands for another value. -/
structure Exchangeable (first second : Bytes × Bytes) : Prop where
  different : saying? first.1 ≠ saying? second.1
  kept : saying? first.1 ≠ some embeddedName
  keptToo : saying? second.1 ≠ some embeddedName

/-- The same members, of which neighbours may have changed places. -/
inductive Rearranged : List (Bytes × Bytes) → List (Bytes × Bytes) → Prop
  | same (ms : List (Bytes × Bytes)) : Rearranged ms ms
  | swap {before after ms : List (Bytes × Bytes)} {first second : Bytes × Bytes}
    (exchangeable : Exchangeable first second)
    (others : Rearranged (before ++ second :: first :: after) ms) :
    Rearranged (before ++ first :: second :: after) ms

theorem Rearranged.perm {ms others : List (Bytes × Bytes)} (rearranged : Rearranged ms others) :
    ms.Perm others := by
  induction rearranged with
  | same => exact .refl _
  | swap _ _ inductionHypothesis =>
      exact ((List.Perm.swap _ _ _).append_left _).trans inductionHypothesis

/-- Putting in members of different names commutes. -/
theorem insertMember_comm {α : Type} {name other : String} (different : name ≠ other)
    (value otherValue : α) (ms : List (String × α)) :
    insertMember name value (insertMember other otherValue ms) =
      insertMember other otherValue (insertMember name value ms) := by
  have asymm := fun a b : String => @String.lt_asymm a b
  have trichotomy : ∀ a b : String, a < b ∨ a = b ∨ b < a := fun a b => Std.lt_trichotomy a b
  induction ms with
  | nil => grind [insertMember]
  | cons m ms inductionHypothesis => grind [insertMember]

theorem ofMembers_swap {before after : List (String × Json)} {first second : String × Json}
    (different : first.1 ≠ second.1) :
    ofMembers (before ++ first :: second :: after) =
      ofMembers (before ++ second :: first :: after) := by
  simp only [ofMembers, List.foldl_append, List.foldl_cons]
  rw [insertMember_comm different]

section Members

variable {item : Reader Json} {first second : Bytes × Bytes}

theorem saying?_of_memberOutcome {m : Bytes × Bytes} {x : String × Json}
    (made : memberOutcome item m = some x) : saying? m.1 = some x.1 := by
  obtain ⟨name, said, valued⟩ := Option.bind_eq_some_iff.mp made
  obtain ⟨value, _, rfl⟩ := Option.map_eq_some_iff.mp valued
  exact said

/-- The object of members is the same if two of them change places. -/
theorem ofMembers_outcome_swap (exchangeable : Exchangeable first second)
    (before after : List (Bytes × Bytes)) :
    ((before ++ first :: second :: after).mapM (memberOutcome item)).map Json.ofMembers =
      ((before ++ second :: first :: after).mapM (memberOutcome item)).map Json.ofMembers := by
  simp only [List.mapM_append, List.mapM_cons]
  cases before.mapM (memberOutcome item) with
  | none => rfl
  | some xs =>
      cases made : memberOutcome item first <;> cases madeToo : memberOutcome item second <;>
        cases after.mapM (memberOutcome item) <;> try rfl
      next x y zs =>
        refine congrArg some (ofMembers_swap ?_)
        intro same
        apply exchangeable.different
        rw [saying?_of_memberOutcome made, saying?_of_memberOutcome madeToo, same]

/-- What is made of an object is the same if its members are rearranged. -/
theorem Rearranged.objectOutcome_eq {ms others : List (Bytes × Bytes)}
    (rearranged : Rearranged ms others) (enclosing : Bytes → Except Fault Json) :
    objectOutcome item enclosing ms = objectOutcome item enclosing others := by
  induction rearranged with
  | same => rfl
  | @swap before after _ first second exchangeable _ inductionHypothesis =>
      rw [← inductionHypothesis]
      have swapped := @ofMembers_outcome_swap item _ _ exchangeable before after
      -- the member that comes first may say what the object stands for
      cases before with
      | nil =>
          simp only [List.nil_append, objectOutcome, exchangeable.kept, exchangeable.keptToo,
            if_false]
          exact swapped
      | cons m before =>
          simp only [List.cons_append, objectOutcome]
          split
          · simp
          · exact swapped

end Members

/-! ### Texts for the same value -/

/-- Texts for the same value: a number or string that is read alike, an array of such elements, or
an object of such members in some order. -/
inductive Alike : Bytes → Bytes → Prop
  | null : Alike (bytesOf "null") (bytesOf "null")
  | true : Alike (bytesOf "true") (bytesOf "true")
  | false : Alike (bytesOf "false") (bytesOf "false")
  | number {text other : Bytes} (isNumber : IsNumber text) (isOther : IsNumber other)
    (same : readNumber.outcome text = readNumber.outcome other) : Alike text other
  | string {text other : Bytes} (isString : IsString text) (isOther : IsString other)
    (same : saying? text = saying? other) : Alike text other
  | array {pairs : List (Bytes × Bytes)} {inner other : Bytes}
    (listed : Listed (pairs.map Prod.fst) inner) (listedOther : Listed (pairs.map Prod.snd) other)
    (alike : ∀ pair ∈ pairs, Alike pair.1 pair.2) :
    Alike (Ascii.openBracket :: (inner ++ [Ascii.closeBracket]))
      (Ascii.openBracket :: (other ++ [Ascii.closeBracket]))
  | object {pairs : List ((Bytes × Bytes) × (Bytes × Bytes))} {ms : List (Bytes × Bytes)}
    {inner other : Bytes} (lists : Lists (pairs.map Prod.fst) inner) (listsOther : Lists ms other)
    (rearranged : Rearranged (pairs.map Prod.snd) ms)
    (areNames : ∀ pair ∈ pairs, IsString pair.1.1 ∧ IsString pair.2.1)
    (names : ∀ pair ∈ pairs, saying? pair.1.1 = saying? pair.2.1)
    (values : ∀ pair ∈ pairs, Alike pair.1.2 pair.2.2) :
    Alike (Ascii.openBrace :: (inner ++ [Ascii.closeBrace]))
      (Ascii.openBrace :: (other ++ [Ascii.closeBrace]))

/-- An object of these members is a text. -/
theorem Lists.isText {ms : List (Bytes × Bytes)} {inner : Bytes} (lists : Lists ms inner)
    (areMembers : ∀ m ∈ ms, IsString m.1 ∧ IsText .value m.2) :
    IsText .value (Ascii.openBrace :: (inner ++ [Ascii.closeBrace])) := by
  obtain ⟨texts, listed, written⟩ := lists
  refine .object listed ?_
  clear listed
  induction written with
  | nil => exact nofun
  | cons isMember _ inductionHypothesis =>
      obtain ⟨isFirst, areOthers⟩ := List.forall_mem_cons.mp areMembers
      obtain ⟨before, after, blankBefore, blankAfter, rfl⟩ := isMember
      refine List.forall_mem_cons.mpr ⟨?_, inductionHypothesis areOthers⟩
      exact .member isFirst.1 blankBefore blankAfter isFirst.2

/-- Texts for the same value are texts. -/
theorem Alike.isText {text other : Bytes} (alike : Alike text other) :
    IsText .value text ∧ IsText .value other := by
  induction alike with
  | null => exact ⟨.null, .null⟩
  | true => exact ⟨.true, .true⟩
  | false => exact ⟨.false, .false⟩
  | number isNumber isOther => exact ⟨.number isNumber, .number isOther⟩
  | string isString isOther => exact ⟨.string isString, .string isOther⟩
  | array listed listedOther _ inductionHypothesis =>
      refine ⟨.array listed ?_, .array listedOther ?_⟩
      · exact List.forall_mem_map.mpr fun pair member => (inductionHypothesis pair member).1
      · exact List.forall_mem_map.mpr fun pair member => (inductionHypothesis pair member).2
  | object lists listsOther rearranged areNames _ _ inductionHypothesis =>
      refine ⟨lists.isText ?_, listsOther.isText ?_⟩
      · exact List.forall_mem_map.mpr fun pair member =>
          ⟨(areNames pair member).1, (inductionHypothesis pair member).1⟩
      · intro m member
        obtain ⟨pair, isPair, rfl⟩ := List.mem_map.mp (rearranged.perm.mem_iff.mpr member)
        exact ⟨(areNames pair isPair).2, (inductionHypothesis pair isPair).2⟩

/-- What is shown of a text of the grammar: a value is alike to itself, and so is a member's. -/
def Phrase.AlikeToItself : Phrase → Bytes → Prop
  | .value, text => Alike text text
  | .member, text => ∃ m : Bytes × Bytes, IsMember m.1 m.2 text ∧ IsString m.1 ∧ Alike m.2 m.2

theorem map_diagonal {α : Type} (xs : List α) :
    (xs.map fun x => (x, x)).map Prod.fst = xs ∧ (xs.map fun x => (x, x)).map Prod.snd = xs := by
  simp [Function.comp_def]

theorem exists_members {texts : List Bytes} {p : Bytes × Bytes → Prop}
    (each : ∀ text ∈ texts, ∃ m : Bytes × Bytes, IsMember m.1 m.2 text ∧ p m) :
    ∃ ms : List (Bytes × Bytes),
      List.Forall₂ (fun m text => IsMember m.1 m.2 text) ms texts ∧ ∀ m ∈ ms, p m := by
  induction texts with
  | nil => exact ⟨[], .nil, nofun⟩
  | cons text texts inductionHypothesis =>
      obtain ⟨first, others⟩ := List.forall_mem_cons.mp each
      obtain ⟨m, isMember, holds⟩ := first
      obtain ⟨ms, areMembers, hold⟩ := inductionHypothesis others
      exact ⟨m :: ms, .cons isMember areMembers, List.forall_mem_cons.mpr ⟨holds, hold⟩⟩

theorem IsText.alikeToItself {phrase : Phrase} {text : Bytes} (isText : IsText phrase text) :
    phrase.AlikeToItself text := by
  induction isText with
  | null => exact Alike.null
  | true => exact Alike.true
  | false => exact Alike.false
  | number isNumber => exact Alike.number isNumber isNumber rfl
  | string isString => exact Alike.string isString isString rfl
  | @array texts _ listed _ inductionHypothesis =>
      obtain ⟨firsts, seconds⟩ := map_diagonal texts
      exact Alike.array (firsts.symm ▸ listed) (seconds.symm ▸ listed)
        (List.forall_mem_map.mpr inductionHypothesis)
  | object listed _ inductionHypothesis =>
      obtain ⟨ms, written, areMembers⟩ := exists_members inductionHypothesis
      obtain ⟨firsts, seconds⟩ := map_diagonal ms
      have lists : Lists ms _ := ⟨_, listed, written⟩
      have names : ∀ m ∈ ms, IsString m.1 := fun m member => (areMembers m member).1
      have values : ∀ m ∈ ms, Alike m.2 m.2 := fun m member => (areMembers m member).2
      refine Alike.object (firsts.symm ▸ lists) lists (seconds.symm ▸ .same ms) ?_ ?_ ?_
      · exact List.forall_mem_map.mpr fun m member => ⟨names m member, names m member⟩
      · exact List.forall_mem_map.mpr fun _ _ => rfl
      · exact List.forall_mem_map.mpr values
  | @member name before after value isName blankBefore blankAfter _ inductionHypothesis =>
      exact ⟨(name, value), ⟨before, after, blankBefore, blankAfter, rfl⟩, isName,
        inductionHypothesis⟩

/-- Every text of a value is alike to itself. -/
theorem IsText.alike {text : Bytes} (isText : IsText .value text) : Alike text text :=
  isText.alikeToItself

end RpcTransport.Json
