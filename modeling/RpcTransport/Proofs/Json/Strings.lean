import RpcTransport.Proofs.Json.Recognition

/-!
Strings that are read. What a string says depends on nothing but the bytes between its quotes, and
takes fewer bytes than the string.
-/

namespace RpcTransport.Json

/-- The bytes of what a text says are that text. -/
theorem bytesOf_of_stringOf? {bytes : Bytes} {s : String} (found : stringOf? bytes = some s) :
    bytesOf s = bytes := by
  unfold stringOf? String.fromUTF8? at found
  split at found
  · cases found
    rfl
  · cases found

/-- A reader that takes these bytes for a thing, whatever comes after them. -/
def Reader.Takes {α : Type} (read : Reader α) (taken : Bytes) (x : α) : Prop :=
  ∀ more, read (taken ++ more) = .ok (x, more)

namespace Quoted

variable {s rest : Bytes}

theorem fourDigits_takes {n : Nat} (read : fourDigits s = .ok (n, rest)) :
    ∃ taken, s = taken ++ rest ∧ taken.length = 4 ∧ Reader.Takes fourDigits taken n := by
  unfold fourDigits at read
  split at read
  · next a b c d after =>
      split at read
      · next first second third fourth =>
          cases read
          refine ⟨[a, b, c, d], rfl, rfl, fun more => ?_⟩
          simp only [List.cons_append, List.nil_append, fourDigits, first, second, third, fourth]
      · cases read
  · cases read

/-- The escape of a code point has at least four bytes after its mark. -/
theorem codePoint_takes {n : Nat} (read : codePoint s = .ok (n, rest)) :
    ∃ taken, s = taken ++ rest ∧ 4 ≤ taken.length ∧ Reader.Takes codePoint taken n := by
  obtain ⟨⟨high, afterHigh⟩, first, read⟩ := bind_eq_ok.mp read
  obtain ⟨taken, whole, four, takes⟩ := fourDigits_takes first
  dsimp only at read
  split at read
  · cases read
  next notLow =>
    split at read
    · next single =>
        cases read
        refine ⟨taken, whole, Nat.le_of_eq four.symm, fun more => ?_⟩
        refine bind_eq_ok.mpr ⟨_, takes more, ?_⟩
        dsimp only
        rw [if_neg notLow, if_pos single]
        rfl
    · next pair =>
        obtain ⟨⟨_, afterSlash⟩, slash, read⟩ := bind_eq_ok.mp read
        obtain ⟨⟨_, afterU⟩, letter, read⟩ := bind_eq_ok.mp read
        obtain ⟨⟨low, afterLow⟩, second, read⟩ := bind_eq_ok.mp read
        dsimp only at read
        split at read
        · cases read
        · next isLow =>
            obtain ⟨rfl, rfl⟩ := Prod.mk.inj (Except.ok.inj read)
            obtain ⟨others, rfl, _, takesOthers⟩ := fourDigits_takes second
            obtain rfl := pairMark_eq_ok letter
            obtain rfl := pairMark_eq_ok slash
            refine ⟨taken ++ Ascii.backslash :: Ascii.byte 'u' :: others, by simp [whole], ?_, ?_⟩
            · rw [List.length_append, four]
              exact Nat.le_add_right 4 _
            · intro more
              rw [List.append_assoc]
              refine bind_eq_ok.mpr ⟨_, takes _, ?_⟩
              dsimp only
              rw [if_neg notLow, if_neg pair]
              refine bind_eq_ok.mpr ⟨_, rfl, bind_eq_ok.mpr ⟨_, rfl, ?_⟩⟩
              refine bind_eq_ok.mpr ⟨_, takesOthers more, ?_⟩
              dsimp only
              rw [if_neg isLow]
              rfl

/-- An escape stands for no more bytes than it has. -/
theorem escape_takes {head : Bytes} (read : escape s = .ok (head, rest)) :
    ∃ taken, s = taken ++ rest ∧ head.length ≤ taken.length ∧ Reader.Takes escape taken head := by
  cases s with
  | nil => cases read
  | cons letter s =>
      simp only [escape] at read
      split at read
      · next b isLetter =>
          cases read
          refine ⟨[letter], rfl, Nat.le_refl 1, fun more => ?_⟩
          simp only [List.singleton_append, escape, isLetter]
      · next notShort =>
          split at read
          · next isUnicode =>
              obtain ⟨⟨n, after⟩, point, done⟩ := bind_eq_ok.mp read
              cases done
              obtain ⟨taken, rfl, four, takes⟩ := codePoint_takes point
              refine ⟨letter :: taken, rfl, ?_, fun more => ?_⟩
              · have short := Char.utf8Size_le_four (Char.ofNat n)
                rw [← String.length_utf8EncodeChar] at short
                exact Nat.le_trans short (Nat.le_trans four (Nat.le_add_right _ 1))
              · simp only [List.cons_append, escape, isUnicode, if_true]
                exact bind_eq_ok.mpr ⟨_, takes more, rfl⟩
          · cases read

/-- The content of a string stands for fewer bytes than it has with its closing quote. -/
theorem content_takes {fuel : Nat} {bytes : Bytes} (read : content fuel s = .ok (bytes, rest)) :
    ∃ taken, s = taken ++ rest ∧ bytes.length < taken.length ∧
      ∀ larger, taken.length ≤ larger → Reader.Takes (content larger) taken bytes := by
  induction fuel generalizing s bytes with
  | zero => cases read
  | succ fuel inductionHypothesis =>
      cases s with
      | nil => cases read
      | cons b s =>
          simp only [content] at read
          split at read
          · next isQuote =>
              cases read
              refine ⟨[b], rfl, Nat.zero_lt_one, fun larger enough more => ?_⟩
              obtain ⟨larger, rfl⟩ : ∃ n, larger = n + 1 := Nat.exists_eq_add_of_le' enough
              simp only [List.singleton_append, content, isQuote, if_true]
          next notQuote =>
            split at read
            · next isBackslash =>
                obtain ⟨⟨head, afterEscape⟩, escaped, read⟩ := bind_eq_ok.mp read
                obtain ⟨⟨tail, afterTail⟩, others, done⟩ := bind_eq_ok.mp read
                cases done
                obtain ⟨first, rfl, shortHead, takesHead⟩ := escape_takes escaped
                obtain ⟨second, rfl, shortTail, takesTail⟩ := inductionHypothesis others
                refine ⟨b :: (first ++ second), by simp, ?_, fun larger enough more => ?_⟩
                · simp only [List.length_cons, List.length_append]
                  omega
                · simp only [List.length_cons, List.length_append] at enough
                  obtain ⟨larger, rfl⟩ : ∃ n, larger = n + 1 := ⟨larger - 1, by omega⟩
                  simp only [List.cons_append, List.append_assoc, content, isBackslash, if_true]
                  exact bind_eq_ok.mpr ⟨_, takesHead _, bind_eq_ok.mpr
                    ⟨_, takesTail larger (by omega) more, rfl⟩⟩
            next notBackslash =>
              split at read
              · cases read
              · next notControl =>
                  obtain ⟨⟨tail, afterTail⟩, others, done⟩ := bind_eq_ok.mp read
                  cases done
                  obtain ⟨second, rfl, shortTail, takesTail⟩ := inductionHypothesis others
                  refine ⟨b :: second, rfl, Nat.succ_lt_succ shortTail,
                    fun larger enough more => ?_⟩
                  obtain ⟨larger, rfl⟩ : ∃ n, larger = n + 1 :=
                    ⟨larger - 1, by simp at enough; omega⟩
                  simp only [List.cons_append, content, notQuote, notBackslash, notControl,
                    if_false]
                  exact bind_eq_ok.mpr
                    ⟨_, takesTail larger (Nat.le_of_succ_le_succ enough) more, rfl⟩

/-- A string that is read says something shorter than it, whatever comes after it. -/
theorem read_takes {text : String} (read : Quoted.read s = .ok (text, rest)) :
    ∃ taken, s = taken ++ rest ∧ (bytesOf text).length < taken.length ∧
      Reader.Takes Quoted.read taken text := by
  obtain ⟨⟨bytes, after⟩, inside, read⟩ := bind_eq_ok.mp read
  simp only at read
  split at read
  · next isText =>
      cases read
      obtain ⟨taken, rfl, short, takes⟩ := content_takes inside
      refine ⟨taken, rfl, ?_, fun more => ?_⟩
      · rw [bytesOf_of_stringOf? isText]
        exact short
      · have enough : taken.length ≤ (taken ++ more).length := by simp
        refine bind_eq_ok.mpr ⟨_, takes _ enough more, ?_⟩
        simp only [isText]
        rfl
  · cases read

end Quoted

/-- What a string says, given with its quotes. It says nothing if it is not UTF-8, or if a surrogate
has no other one. -/
def saying? (text : Bytes) : Option String :=
  (Quoted.read text.tail).toOption.map Prod.fst

/-- A string that is written is a string, and says what was written. -/
theorem render_quoted (s : String) :
    IsString (Quoted.render s) ∧ saying? (Quoted.render s) = some s := by
  have read := Quoted.read_encode s []
  obtain ⟨text, isString, whole⟩ := exists_string_of_skim (skimQuoted_of_read read)
  have same : Quoted.render s = text := whole.trans (List.append_nil text)
  refine ⟨same ▸ isString, ?_⟩
  show (Quoted.read (Quoted.encode (bytesOf s) ++ [Ascii.doubleQuote])).toOption.map Prod.fst = _
  rw [read]
  rfl

/-- A string says what it says wherever it stands. -/
theorem IsString.read {text : Bytes} (isString : IsString text) :
    ∃ quoted, text = Ascii.doubleQuote :: quoted ∧ ∀ rest,
      (Quoted.read (quoted ++ rest)).toOption = (saying? text).map fun said => (said, rest) := by
  obtain ⟨quoted, rfl, skim⟩ := isString.skim
  -- what is read ends where the string ends
  have ends : ∀ {rest left said}, Quoted.read (quoted ++ rest) = .ok (said, left) →
      Reader.Takes Quoted.read quoted said := by
    intro rest left said read
    have same := skimQuoted_of_read read
    rw [skim] at same
    cases same
    obtain ⟨taken, split, _, takes⟩ := Quoted.read_takes read
    rwa [List.append_cancel_right split]
  refine ⟨quoted, rfl, fun rest => ?_⟩
  rw [saying?, List.tail_cons]
  cases read : Quoted.read (quoted ++ rest) with
  | ok found =>
      obtain ⟨said, left⟩ := found
      have takes := ends read
      have alone := takes []
      rw [List.append_nil] at alone
      rw [← read, takes rest, alone]
      rfl
  | error fault =>
      cases alone : Quoted.read quoted with
      | error other => rfl
      | ok found =>
          obtain ⟨said, left⟩ := found
          rw [← List.append_nil quoted] at alone
          rw [ends alone rest] at read
          cases read

end RpcTransport.Json
