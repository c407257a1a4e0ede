import RpcTransport.Proofs.Json.Strings

/-!
Values that are written in strings. However often texts stand in texts, each is shorter than the one
around it, so the bound on that is never reached: a value is read as it would be without one.
-/

namespace RpcTransport.Json

/-- Steps that go on alike after what the first one has read are alike. -/
theorem bind_congr_of_ok {ε α β : Type} {x : Except ε α} {f g : α → Except ε β}
    (same : ∀ a, x = .ok a → f a = g a) : x >>= f = x >>= g := by
  cases x with
  | error e => rfl
  | ok a => exact same a rfl

theorem PassesValues.length_le {α : Type} {item : Reader α} (passes : PassesValues item)
    {s rest : Bytes} {x : α} (read : item s = .ok (x, rest)) : rest.length ≤ s.length :=
  (passes s x rest read).suffix.length_le

section Lengths

variable {first more : Bool} {s t : Bytes}

/-- Looking for the next element reads on. -/
theorem length_le_of_nextElement (next : nextElement first s = .ok (more, t)) :
    t.length ≤ s.length := by
  cases more with
  | false =>
      rw [← skipBlanks_of_nextElement_false next]
      exact length_skipBlanks_le s
  | true =>
      obtain ⟨_, before, _, ⟨_, rfl⟩ | ⟨_, blanks, _, rfl⟩⟩ := eq_append_of_nextElement next
      · simp
      · simp only [List.length_append, List.length_cons]
        omega

/-- Looking for the next member reads on. -/
theorem length_le_of_nextMember (next : nextMember first s = .ok (more, t)) :
    t.length ≤ s.length := by
  unfold nextMember at next
  split at next
  · cases next
  · next b rest found =>
      have short := length_lt_of_skipBlanks found
      split at next
      · cases next
        exact short
      split at next
      · split at next
        · cases next
          exact Nat.le_of_lt short
        · cases next
      split at next
      · split at next
        · cases next
        · next c left start =>
            have shorter := length_lt_of_skipBlanks start
            split at next
            · cases next
              omega
            · split at next <;> cases next
      · cases next

theorem length_le_of_read {said : String} (read : Quoted.read s = .ok (said, t)) :
    t.length + (bytesOf said).length < s.length := by
  obtain ⟨taken, rfl, short, _⟩ := Quoted.read_takes read
  rw [List.length_append]
  omega

theorem length_le_of_colon (mark : colon s = .ok ((), t)) : t.length ≤ s.length :=
  (colon_local s () t mark).1.length_le

/-- A string that is read as a value says something shorter than what it was read from. -/
theorem length_lt_of_readString {expected said : String}
    (read : readString expected s = .ok (said, t)) : (bytesOf said).length < s.length := by
  unfold readString at read
  split at read
  · cases read
  · next b rest found =>
      have short := length_lt_of_skipBlanks found
      split at read
      · have shorter := length_le_of_read read
        omega
      · exact absurd read refuse_ne_ok

end Lengths

section Congruence

variable {α : Type} {item other : Reader α} {limit : Nat}

/-- Elements are read alike if each is. -/
theorem elements_congr (passes : PassesValues item)
    (same : ∀ s, s.length ≤ limit → item s = other s) (fuel : Nat) (first : Bool) {s : Bytes}
    (short : s.length ≤ limit) : elements item fuel first s = elements other fuel first s := by
  induction fuel generalizing first s with
  | zero => rfl
  | succ fuel inductionHypothesis =>
      refine bind_congr_of_ok fun ⟨more, t⟩ next => ?_
      have shorter := Nat.le_trans (length_le_of_nextElement next) short
      cases more with
      | false => rfl
      | true =>
          show item t >>= _ = other t >>= _
          rw [← same t shorter]
          refine bind_congr_of_ok fun ⟨x, u⟩ value => ?_
          dsimp only
          rw [inductionHypothesis false (Nat.le_trans (passes.length_le value) shorter)]

/-- Members are read alike if their values are. -/
theorem members_congr (passes : PassesValues item)
    (same : ∀ s, s.length ≤ limit → item s = other s) (fuel : Nat) (first : Bool) {s : Bytes}
    (short : s.length ≤ limit) :
    members (fun _ => item) fuel first s = members (fun _ => other) fuel first s := by
  induction fuel generalizing first s with
  | zero => rfl
  | succ fuel inductionHypothesis =>
      refine bind_congr_of_ok fun ⟨more, t⟩ next => ?_
      have shorter := Nat.le_trans (length_le_of_nextMember next) short
      cases more with
      | false => rfl
      | true =>
          have one : member (fun _ => item) t = member (fun _ => other) t := by
            refine bind_congr_of_ok fun ⟨name, named⟩ string => ?_
            refine bind_congr_of_ok fun ⟨_, valued⟩ mark => ?_
            have afterName := length_le_of_read string
            have afterColon := length_le_of_colon mark
            dsimp only
            rw [same valued (by omega)]
          show member (fun _ => item) t >>= _ = member (fun _ => other) t >>= _
          rw [← one]
          refine bind_congr_of_ok fun ⟨m, u⟩ read => ?_
          obtain ⟨⟨name, named⟩, string, read⟩ := bind_eq_ok.mp read
          obtain ⟨⟨_, valued⟩, mark, read⟩ := bind_eq_ok.mp read
          obtain ⟨⟨x, left⟩, value, done⟩ := bind_eq_ok.mp read
          cases done
          have afterName := length_le_of_read string
          have afterColon := length_le_of_colon mark
          have afterValue := passes.length_le value
          dsimp only
          rw [inductionHypothesis false (by omega)]

end Congruence

section Values

variable {inner other : Bytes → Except Fault Json} {limit : Nat}

/-- Objects are read alike if the values in them are, and the values in strings. -/
theorem objectOf_congr {item itemOther : Reader Json} (passes : PassesValues item)
    (same : ∀ s, s.length ≤ limit → item s = itemOther s)
    (inside : ∀ text, text.length < limit → inner text = other text) {s : Bytes}
    (short : s.length ≤ limit) : objectOf item inner s = objectOf itemOther other s := by
  refine bind_congr_of_ok fun ⟨more, t⟩ next => ?_
  have shorter := Nat.le_trans (length_le_of_nextMember next) short
  cases more with
  | false => rfl
  | true =>
      refine bind_congr_of_ok fun ⟨name, named⟩ string => ?_
      refine bind_congr_of_ok fun ⟨_, valued⟩ mark => ?_
      have afterName := length_le_of_read string
      have afterColon := length_le_of_colon mark
      dsimp only
      split
      · refine bind_congr_of_ok fun ⟨text, left⟩ value => ?_
        have within := length_lt_of_readString value
        dsimp only
        rw [inside _ (by omega)]
      · rw [← same valued (by omega)]
        refine bind_congr_of_ok fun ⟨x, left⟩ value => ?_
        have afterValue := passes.length_le value
        dsimp only
        rw [members_congr passes same _ false (by omega)]

/-- A value is read alike if the values in its strings are. -/
theorem valueWith_congr (inside : ∀ text, text.length < limit → inner text = other text)
    (depth : Nat) {s : Bytes} (short : s.length ≤ limit) :
    valueWith inner depth s = valueWith other depth s := by
  induction depth generalizing s with
  | zero =>
      unfold valueWith
      cases skipBlanks s <;> rfl
  | succ depth inductionHypothesis =>
      have passes := valueWith_passesValues inner depth
      have same : ∀ s : Bytes, s.length ≤ limit →
          valueWith inner depth s = valueWith other depth s := fun _ => inductionHypothesis
      unfold valueWith
      cases start : skipBlanks s with
      | nil => rfl
      | cons b rest =>
          have shorter : rest.length ≤ limit :=
            Nat.le_of_lt (Nat.lt_of_lt_of_le (length_lt_of_skipBlanks start) short)
          dsimp only
          have arrays : arrayOf (valueWith inner depth) rest =
              arrayOf (valueWith other depth) rest := by
            rw [arrayOf, arrayOf, elements_congr passes same _ true shorter]
          rw [arrays, objectOf_congr passes same inside shorter]

/-- A bound on texts that stand in texts does not matter if it is above the length of the text. -/
theorem embedded_eq {text : Bytes} {nesting deeper : Nat} (enough : text.length < nesting)
    (enoughToo : text.length < deeper) : embedded nesting text = embedded deeper text := by
  induction length : text.length using Nat.strongRecOn generalizing text nesting deeper with
  | ind size inductionHypothesis =>
      subst length
      obtain ⟨nesting, rfl⟩ := Nat.exists_eq_add_one_of_ne_zero (Nat.ne_zero_of_lt enough)
      obtain ⟨deeper, rfl⟩ := Nat.exists_eq_add_one_of_ne_zero (Nat.ne_zero_of_lt enoughToo)
      have inside : ∀ other : Bytes, other.length < text.length →
          embedded nesting other = embedded deeper other := fun other short =>
        inductionHypothesis other.length short (by omega) (by omega) rfl
      rw [embedded, embedded, whole, whole, valueWith_congr inside depthLimit (Nat.le_refl _)]

/-- The value in a text that stands in a string, without a bound. -/
def enclosed (text : Bytes) : Except Fault Json :=
  embedded (text.length + 1) text

/-- A value is read without a bound on texts that stand in texts. -/
theorem readValue_eq (depth : Nat) : readValue depth = valueWith enclosed depth := by
  funext s
  apply valueWith_congr _ depth (Nat.le_refl s.length)
  intro text short
  exact embedded_eq short (Nat.lt_succ_self _)

end Values

end RpcTransport.Json
