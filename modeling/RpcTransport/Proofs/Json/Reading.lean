import RpcTransport.Json.Record
import RpcTransport.Proofs.Json.Skimming

/-!
What is read as a value of some type is a value of the grammar that is passed over: reading and
passing over agree on where a value ends.
-/

namespace RpcTransport.Json

/-! ### Strings -/

theorem pairMark_eq_ok {mark : UInt8} {s rest : Bytes}
    (read : Quoted.pairMark mark s = .ok ((), rest)) : s = mark :: rest := by
  cases s with
  | nil => cases read
  | cons b s =>
      simp only [Quoted.pairMark] at read
      split at read
      · next same =>
          cases read
          rw [same]
      · cases read

/-- The escape of a code point is one escape, or two if it stands for a surrogate pair. -/
theorem codePoint_digits {s rest : Bytes} {n : Nat} (read : Quoted.codePoint s = .ok (n, rest)) :
    (∃ code, Quoted.fourDigits s = .ok (code, rest)) ∨
      ∃ high low second,
        Quoted.fourDigits s = .ok (high, Ascii.backslash :: Ascii.byte 'u' :: second) ∧
          Quoted.fourDigits second = .ok (low, rest) := by
  obtain ⟨⟨high, afterHigh⟩, first, read⟩ := bind_eq_ok.mp read
  dsimp only at read
  split at read
  · cases read
  split at read
  · cases read
    exact Or.inl ⟨_, first⟩
  · obtain ⟨⟨_, afterSlash⟩, slash, read⟩ := bind_eq_ok.mp read
    obtain ⟨⟨_, afterU⟩, letter, read⟩ := bind_eq_ok.mp read
    obtain ⟨⟨low, afterLow⟩, second, read⟩ := bind_eq_ok.mp read
    dsimp only at read
    split at read
    · cases read
    · obtain ⟨-, rfl⟩ := Prod.mk.inj (Except.ok.inj read)
      obtain rfl : afterHigh = Ascii.backslash :: afterSlash := pairMark_eq_ok slash
      obtain rfl : afterSlash = Ascii.byte 'u' :: afterU := pairMark_eq_ok letter
      exact Or.inr ⟨high, low, afterU, first, second⟩

/-- An escape that is read is passed over as one escape or as two. -/
theorem skimEscape_of_escape {s rest bytes : Bytes} (read : Quoted.escape s = .ok (bytes, rest)) :
    Quoted.skimEscape s = .ok ((), rest) ∨
      ∃ second, Quoted.skimEscape s = .ok ((), Ascii.backslash :: second) ∧
        Quoted.skimEscape second = .ok ((), rest) := by
  cases s with
  | nil => cases read
  | cons letter s =>
      simp only [Quoted.escape, Quoted.skimEscape] at read ⊢
      split at read
      · cases read
        exact Or.inl rfl
      split at read
      · next isUnicode =>
          obtain ⟨⟨n, after⟩, point, done⟩ := bind_eq_ok.mp read
          cases done
          simp only [isUnicode, if_true]
          rcases codePoint_digits point with ⟨code, digits⟩ | ⟨high, low, second, first, last⟩
          · exact Or.inl (bind_eq_ok.mpr ⟨_, digits, rfl⟩)
          · exact Or.inr ⟨_, bind_eq_ok.mpr ⟨_, first, rfl⟩, bind_eq_ok.mpr ⟨_, last, rfl⟩⟩
      · cases read

theorem skimContent_of_content {fuel : Nat} {s rest bytes : Bytes}
    (read : Quoted.content fuel s = .ok (bytes, rest)) :
    ∀ {larger : Nat}, s.length ≤ larger → Quoted.skimContent larger s = .ok ((), rest) := by
  induction fuel generalizing s bytes with
  | zero => cases read
  | succ fuel inductionHypothesis =>
      cases s with
      | nil => cases read
      | cons b s =>
          intro larger enough
          obtain ⟨larger, rfl⟩ : ∃ n, larger = n + 1 := ⟨larger - 1, by simp at enough; omega⟩
          have enough : s.length ≤ larger := Nat.le_of_succ_le_succ enough
          simp only [Quoted.content] at read
          simp only [Quoted.skimContent]
          split at read
          · next quote =>
              cases read
              rw [if_pos quote]
          split at read
          · next notQuote backslash =>
              obtain ⟨⟨head, afterEscape⟩, escaped, read⟩ := bind_eq_ok.mp read
              obtain ⟨⟨tail, afterTail⟩, content, done⟩ := bind_eq_ok.mp read
              cases done
              rw [if_neg notQuote, if_pos backslash]
              rcases skimEscape_of_escape escaped with one | ⟨second, first, last⟩
              · have short := (skimEscape_local _ _ _ one).1.length_le
                exact bind_eq_ok.mpr
                  ⟨_, one, inductionHypothesis content (Nat.le_trans short enough)⟩
              · -- the second escape of a pair takes a step of its own
                have shortFirst := (skimEscape_local _ _ _ first).1.length_le
                have shortLast := (skimEscape_local _ _ _ last).1.length_le
                rw [List.length_cons] at shortFirst
                obtain ⟨larger, rfl⟩ : ∃ n, larger = n + 1 := ⟨larger - 1, by omega⟩
                have enough : afterEscape.length ≤ larger := by omega
                have skimmed := inductionHypothesis content enough
                refine bind_eq_ok.mpr ⟨_, first, ?_⟩
                rw [Quoted.skimContent, if_neg (by decide), if_pos rfl]
                exact bind_eq_ok.mpr ⟨_, last, skimmed⟩
          split at read
          · cases read
          · next notQuote notBackslash notControl =>
              obtain ⟨⟨tail, afterTail⟩, content, done⟩ := bind_eq_ok.mp read
              cases done
              rw [if_neg notQuote, if_neg notBackslash, if_neg notControl]
              exact inductionHypothesis content enough

/-- A string that is read is passed over. -/
theorem skimQuoted_of_read {s rest : Bytes} {text : String}
    (read : Quoted.read s = .ok (text, rest)) : Quoted.skim s = .ok ((), rest) := by
  obtain ⟨⟨bytes, after⟩, content, read⟩ := bind_eq_ok.mp read
  simp only at read
  split at read
  · cases read
    exact skimContent_of_content content (Nat.le_refl _)
  · cases read

/-! ### Scalars -/

/-- A scalar that is read is passed over. -/
theorem skimScalar_of_read {b : UInt8} {s rest : Bytes} {value : Json}
    (read : readScalar b s = .ok (value, rest)) : skimScalar b s = .ok ((), rest) := by
  unfold readScalar at read
  unfold skimScalar
  split at read
  · next isNull =>
      obtain ⟨⟨_, after⟩, letters, done⟩ := bind_eq_ok.mp read
      cases done
      rw [if_pos isNull]
      exact letters
  split at read
  · next notNull isTrue =>
      obtain ⟨⟨_, after⟩, letters, done⟩ := bind_eq_ok.mp read
      cases done
      rw [if_neg notNull, if_pos isTrue]
      exact letters
  split at read
  · next notNull notTrue isFalse =>
      obtain ⟨⟨_, after⟩, letters, done⟩ := bind_eq_ok.mp read
      cases done
      rw [if_neg notNull, if_neg notTrue, if_pos isFalse]
      exact letters
  split at read
  · next notNull notTrue notFalse isNumber =>
      obtain ⟨⟨n, after⟩, number, done⟩ := bind_eq_ok.mp read
      obtain ⟨⟨numeral, afterNumeral⟩, numeralRead, number⟩ := bind_eq_ok.mp number
      cases done
      rw [if_neg notNull, if_neg notTrue, if_neg notFalse, if_pos isNumber]
      simp only at number
      split at number
      · cases number
        exact skimNumber_eq_ok.mpr ⟨numeral, numeralRead⟩
      · cases number
  split at read
  · next notNull notTrue notFalse notNumber isString =>
      obtain ⟨⟨text, after⟩, string, done⟩ := bind_eq_ok.mp read
      cases done
      rw [if_neg notNull, if_neg notTrue, if_neg notFalse, if_neg notNumber, if_pos isString]
      exact skimQuoted_of_read string
  · cases read

theorem refuse_ne_ok {α : Type} {expected : String} {s rest : Bytes} {x : α} :
    refuse expected s ≠ .ok (x, rest) := by
  intro read
  obtain ⟨_, _, refused⟩ := bind_eq_ok.mp read
  cases refused

/-- A string that is read as a value is a value. -/
theorem readString_passesValues (expected : String) : PassesValues (readString expected) := by
  intro s text rest read
  unfold readString at read
  split at read
  · cases read
  · next b more found =>
      split at read
      · next isQuote =>
          refine .scalar found (isQuote ▸ by decide) (isQuote ▸ by decide) ?_
          rw [isQuote]
          exact skimQuoted_of_read read
      · exact absurd read refuse_ne_ok

/-- What is found next, if it is no array and no object, is a value. -/
theorem skims_of_readFound {s rest : Bytes} {found : Found} (read : readFound s = .ok (found, rest))
    (noArray : found ≠ .sequence) (noObject : found ≠ .map) : Skims .value s rest := by
  unfold readFound at read
  split at read
  · cases read
  · next b more start =>
      split at read
      · cases read
        exact absurd rfl noArray
      split at read
      · cases read
        exact absurd rfl noObject
      · next notArray notObject =>
          obtain ⟨⟨value, after⟩, scalar, done⟩ := bind_eq_ok.mp read
          cases done
          exact .scalar start notArray notObject (skimScalar_of_read scalar)

/-! ### Arrays and objects -/

/-- The rest of an array or object: its end, or a part up to the end, after a comma unless the part
is the first one. -/
def Remaining (part : Part) (close : UInt8) : Bool → Bytes → Bytes → Prop
  | true, s, after => skipBlanks s = close :: after ∨ Skims part s after
  | false, s, after =>
    skipBlanks s = close :: after ∨
      ∃ more, skipBlanks s = Ascii.comma :: more ∧ Skims part more after

section Remaining

variable {part : Part} {close : UInt8} {first : Bool} {s t rest after : Bytes}

theorem Remaining.of_close (closed : skipBlanks s = close :: after) :
    Remaining part close first s after := by
  cases first with
  | true => exact Or.inl closed
  | false => exact Or.inl closed

theorem Remaining.array (start : skipBlanks s = Ascii.openBracket :: rest)
    (remaining : Remaining .elements Ascii.closeBracket true rest after) :
    Skims .value s after := by
  rcases remaining with close | elements
  · exact .emptyArray start close
  · exact .array start elements

theorem Remaining.object (start : skipBlanks s = Ascii.openBrace :: rest)
    (remaining : Remaining .members Ascii.closeBrace true rest after) :
    Skims .value s after := by
  rcases remaining with close | members
  · exact .emptyObject start close
  · exact .object start members

/-- An element and what comes after it are elements. -/
theorem Remaining.element (value : Skims .value s rest)
    (remaining : Remaining .elements Ascii.closeBracket false rest after) :
    Skims .elements s after := by
  rcases remaining with close | ⟨more, comma, elements⟩
  · exact .lastElement value close
  · exact .element value comma elements

theorem skipBlanks_of_closeArray (closed : closeArray s = .ok ((), after)) :
    skipBlanks s = Ascii.closeBracket :: after := by
  unfold closeArray at closed
  split at closed
  · cases closed
  · next b rest found =>
      split at closed
      · next isClose =>
          cases closed
          rw [found, isClose]
      split at closed
      · split at closed
        · cases closed
        · split at closed <;> cases closed
      · cases closed

theorem skipBlanks_of_closeObject (closed : closeObject s = .ok ((), after)) :
    skipBlanks s = Ascii.closeBrace :: after := by
  unfold closeObject at closed
  split at closed
  · cases closed
  · next b rest found =>
      split at closed
      · next isClose =>
          cases closed
          rw [found, isClose]
      split at closed <;> cases closed

/-- Where no element comes next, the text is left at the bracket. -/
theorem skipBlanks_of_nextElement_false (next : nextElement first s = .ok (false, t)) :
    skipBlanks s = t := by
  unfold nextElement at next
  split at next
  · cases next
  · next b rest found =>
      split at next
      · cases next
        exact found
      split at next
      · cases next
      split at next
      · split at next
        · cases next
        · split at next <;> cases next
      · cases next

/-- Where no element comes next, the bracket is the rest of the array. -/
theorem Remaining.of_noElement (next : nextElement first s = .ok (false, t))
    (closed : closeArray t = .ok ((), after)) :
    Remaining .elements Ascii.closeBracket first s after := by
  have closing := skipBlanks_of_closeArray closed
  rw [← skipBlanks_of_nextElement_false next, skipBlanks_skipBlanks] at closing
  exact .of_close closing

/-- Where an element comes next, it and what comes after it are the rest of the array. -/
theorem Remaining.of_nextElement (next : nextElement first s = .ok (true, t))
    (elements : Skims .elements t after) :
    Remaining .elements Ascii.closeBracket first s after := by
  unfold nextElement at next
  split at next
  · cases next
  · next b rest found =>
      split at next
      · cases next
      split at next
      · next isFirst =>
          cases next
          rw [← found] at elements
          rw [isFirst]
          exact Or.inr (elements.congr (skipBlanks_skipBlanks s).symm)
      split at next
      · next notFirst isComma =>
          split at next
          · cases next
          · next c more start =>
              split at next
              · cases next
              · cases next
                rw [← start] at elements
                rw [isComma] at found
                rw [(Bool.not_eq_true _).mp notFirst]
                exact Or.inr ⟨rest, found, elements.congr (skipBlanks_skipBlanks rest).symm⟩
      · cases next

/-- A member from the quote on and what comes after it are the rest of an object. -/
theorem Remaining.member {quoted named valued : Bytes}
    (quote : skipBlanks s = Ascii.doubleQuote :: quoted)
    (name : Quoted.skim quoted = .ok ((), named)) (mark : colon named = .ok ((), valued))
    (value : Skims .value valued rest)
    (remaining : Remaining .members Ascii.closeBrace false rest after) :
    Skims .members s after := by
  rcases remaining with close | ⟨more, comma, members⟩
  · exact .lastMember quote name mark value close
  · exact .member quote name mark value comma members

/-- Where no member comes next, the text is left at the brace. -/
theorem skipBlanks_of_nextMember_false (next : nextMember first s = .ok (false, t)) :
    skipBlanks s = t := by
  unfold nextMember at next
  split at next
  · cases next
  · next b rest found =>
      split at next
      · cases next
        exact found
      split at next
      · split at next <;> cases next
      split at next
      · split at next
        · cases next
        split at next
        · cases next
        split at next <;> cases next
      · cases next

/-- Where no member comes next, the brace is the rest of the object. -/
theorem Remaining.of_noMember (next : nextMember first s = .ok (false, t))
    (closed : closeObject t = .ok ((), after)) :
    Remaining .members Ascii.closeBrace first s after := by
  have closing := skipBlanks_of_closeObject closed
  rw [← skipBlanks_of_nextMember_false next, skipBlanks_skipBlanks] at closing
  exact .of_close closing

/-- Where a member comes next, it and what comes after it are the rest of the object. -/
theorem Remaining.of_nextMember {name : String} {named valued : Bytes}
    (next : nextMember first s = .ok (true, t)) (string : Quoted.read t = .ok (name, named))
    (mark : colon named = .ok ((), valued)) (value : Skims .value valued rest)
    (remaining : Remaining .members Ascii.closeBrace false rest after) :
    Remaining .members Ascii.closeBrace first s after := by
  have skimmed := skimQuoted_of_read string
  unfold nextMember at next
  split at next
  · cases next
  · next b more found =>
      split at next
      · cases next
      split at next
      · next isFirst =>
          split at next
          · next isQuote =>
              cases next
              rw [isQuote] at found
              rw [isFirst]
              exact Or.inr (Remaining.member found skimmed mark value remaining)
          · cases next
      split at next
      · next notFirst isComma =>
          split at next
          · cases next
          · next c quoted start =>
              split at next
              · next isQuote =>
                  cases next
                  rw [isQuote] at start
                  rw [isComma] at found
                  rw [(Bool.not_eq_true _).mp notFirst]
                  exact Or.inr
                    ⟨more, found, Remaining.member start skimmed mark value remaining⟩
              split at next <;> cases next
      · cases next

end Remaining

/-! ### Values that are kept -/

theorem remaining_of_elements {α : Type} {item : Reader α} (passes : PassesValues item) {fuel : Nat}
    {first : Bool} {s rest after : Bytes} {xs : List α}
    (read : elements item fuel first s = .ok (xs, rest))
    (closed : closeArray rest = .ok ((), after)) :
    Remaining .elements Ascii.closeBracket first s after := by
  induction fuel generalizing first s xs with
  | zero => cases read
  | succ fuel inductionHypothesis =>
      obtain ⟨⟨more, t⟩, next, read⟩ := bind_eq_ok.mp read
      cases more with
      | false =>
          cases read
          exact .of_noElement next closed
      | true =>
          obtain ⟨⟨x, afterItem⟩, value, read⟩ := bind_eq_ok.mp read
          obtain ⟨⟨xs, afterItems⟩, others, done⟩ := bind_eq_ok.mp read
          cases done
          have skims : Skims .value t afterItem := passes t x afterItem value
          exact .of_nextElement next (Remaining.element skims (inductionHypothesis others))

/-- An array that is read ends where it ends when it is passed over. -/
theorem skims_of_arrayOf {α : Type} {item : Reader α} (passes : PassesValues item)
    {s rest after : Bytes} {xs : List α} (start : skipBlanks s = Ascii.openBracket :: rest)
    (read : arrayOf item rest = .ok (xs, after)) : Skims .value s after := by
  obtain ⟨⟨items, afterItems⟩, listed, read⟩ := bind_eq_ok.mp read
  obtain ⟨⟨_, afterClose⟩, closed, done⟩ := bind_eq_ok.mp read
  cases done
  exact Remaining.array start (remaining_of_elements passes listed closed)

theorem remaining_of_members {α : Type} {item : String → Reader α}
    (passes : ∀ name, PassesValues (item name)) {fuel : Nat} {first : Bool} {s rest after : Bytes}
    {ms : List (String × α)} (read : members item fuel first s = .ok (ms, rest))
    (closed : closeObject rest = .ok ((), after)) :
    Remaining .members Ascii.closeBrace first s after := by
  induction fuel generalizing first s ms with
  | zero => cases read
  | succ fuel inductionHypothesis =>
      obtain ⟨⟨more, t⟩, next, read⟩ := bind_eq_ok.mp read
      cases more with
      | false =>
          cases read
          exact .of_noMember next closed
      | true =>
          obtain ⟨⟨m, afterMember⟩, one, read⟩ := bind_eq_ok.mp read
          obtain ⟨⟨ms, afterMembers⟩, others, done⟩ := bind_eq_ok.mp read
          obtain ⟨⟨name, named⟩, string, one⟩ := bind_eq_ok.mp one
          obtain ⟨⟨_, valued⟩, mark, one⟩ := bind_eq_ok.mp one
          obtain ⟨⟨x, afterItem⟩, value, kept⟩ := bind_eq_ok.mp one
          cases kept
          cases done
          have skims : Skims .value valued afterMember := passes name valued x afterMember value
          exact .of_nextMember next string mark skims (inductionHypothesis others)

/-- An object that is read ends where it ends when it is passed over. -/
theorem skims_of_objectOf {item : Reader Json} (passes : PassesValues item)
    {inner : Bytes → Except Fault Json} {s rest after : Bytes} {value : Json}
    (start : skipBlanks s = Ascii.openBrace :: rest)
    (read : objectOf item inner rest = .ok (value, after)) : Skims .value s after := by
  obtain ⟨⟨more, t⟩, next, read⟩ := bind_eq_ok.mp read
  cases more with
  | false =>
      obtain ⟨⟨_, afterClose⟩, closed, done⟩ := bind_eq_ok.mp read
      cases done
      exact Remaining.object start (.of_noMember next closed)
  | true =>
      obtain ⟨⟨name, named⟩, string, read⟩ := bind_eq_ok.mp read
      obtain ⟨⟨_, valued⟩, mark, read⟩ := bind_eq_ok.mp read
      dsimp only at read
      split at read
      · obtain ⟨⟨text, afterText⟩, embeddedText, read⟩ := bind_eq_ok.mp read
        obtain ⟨x, _, read⟩ := bind_eq_ok.mp read
        obtain ⟨⟨_, afterClose⟩, closed, done⟩ := bind_eq_ok.mp read
        cases done
        have skims : Skims .value valued afterText :=
          readString_passesValues _ valued text afterText embeddedText
        exact Remaining.object start
          (.of_nextMember next string mark skims (.of_close (skipBlanks_of_closeObject closed)))
      · obtain ⟨⟨x, afterItem⟩, item, read⟩ := bind_eq_ok.mp read
        obtain ⟨⟨ms, afterMembers⟩, others, read⟩ := bind_eq_ok.mp read
        obtain ⟨⟨_, afterClose⟩, closed, done⟩ := bind_eq_ok.mp read
        cases done
        have skims : Skims .value valued afterItem := passes valued x afterItem item
        have remaining := remaining_of_members (fun _ => passes) others closed
        exact Remaining.object start (.of_nextMember next string mark skims remaining)

theorem valueWith_passesValues (inner : Bytes → Except Fault Json) (depth : Nat) :
    PassesValues (valueWith inner depth) := by
  induction depth with
  | zero =>
      intro s value after read
      unfold valueWith at read
      split at read
      · cases read
      · next b rest found =>
          split at read
          · cases read
          split at read
          · cases read
          · next noArray noObject => exact .scalar found noArray noObject (skimScalar_of_read read)
  | succ depth inductionHypothesis =>
      intro s value after read
      unfold valueWith at read
      split at read
      · cases read
      · next b rest found =>
          split at read
          · next isArray =>
              rw [isArray] at found
              obtain ⟨⟨items, afterItems⟩, listed, done⟩ := bind_eq_ok.mp read
              cases done
              exact skims_of_arrayOf inductionHypothesis found listed
          split at read
          · next isObject =>
              rw [isObject] at found
              exact skims_of_objectOf inductionHypothesis found read
          · next noArray noObject => exact .scalar found noArray noObject (skimScalar_of_read read)

/-- A value that is read ends where it ends when it is passed over. -/
theorem readValue_passesValues (depth : Nat) : PassesValues (readValue depth) := by
  intro s value after read
  exact valueWith_passesValues _ depth s value after read

end RpcTransport.Json
