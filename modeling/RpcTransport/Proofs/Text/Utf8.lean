import Mathlib.Data.List.Basic
import Mathlib.Data.List.TakeWhile
import RpcTransport.Text.Utf8

/-!
The bytes of a string are well formed by the table of UTF-8.
-/

namespace RpcTransport.Utf8

/-- The bytes of a string are those of its characters. -/
theorem bytesOf_eq_flatMap (s : String) : bytesOf s = s.toList.flatMap String.utf8EncodeChar := by
  have encoded : s.toByteArray = s.toList.utf8Encode := by simp
  rw [bytesOf, encoded, List.utf8Encode]
  simp

/-- The table for a byte that is given as a number. -/
theorem lead?_ofNat {n : Nat} (byte : n < 256) :
    lead? (UInt8.ofNat n) =
      if n < 0x80 then some (1, 0, 0)
      else if 0xC2 ≤ n ∧ n ≤ 0xDF then some (2, 0x80, 0xBF)
      else if n = 0xE0 then some (3, 0xA0, 0xBF)
      else if n = 0xED then some (3, 0x80, 0x9F)
      else if 0xE1 ≤ n ∧ n ≤ 0xEF then some (3, 0x80, 0xBF)
      else if n = 0xF0 then some (4, 0x90, 0xBF)
      else if 0xF1 ≤ n ∧ n ≤ 0xF3 then some (4, 0x80, 0xBF)
      else if n = 0xF4 then some (4, 0x80, 0x8F)
      else none := by
  have small : n % 256 = n := Nat.mod_eq_of_lt byte
  simp [lead?, UInt8.le_iff_toNat_le, UInt8.lt_iff_toNat_lt, ← UInt8.toNat_inj, small]

/-- A number in a range is a byte in that range. -/
theorem between_ofNat {low high n : Nat} (above : low ≤ n) (below : n ≤ high) (byte : high < 256) :
    (UInt8.ofNat low ≤ UInt8.ofNat n) ∧ UInt8.ofNat n ≤ UInt8.ofNat high := by
  simp only [UInt8.le_iff_toNat_le, UInt8.toNat_ofNat']
  omega

theorem isTail_ofNat (n : Nat) : isTail (UInt8.ofNat (n % 64 + 0x80)) = true := by
  have between : UInt8.ofNat 0x80 ≤ UInt8.ofNat (n % 64 + 0x80) ∧
      UInt8.ofNat (n % 64 + 0x80) ≤ UInt8.ofNat 0xBF :=
    between_ofNat (by omega) (by omega) (by omega)
  exact Bool.and_eq_true_iff.mpr
    ⟨decide_eq_true between.1, decide_eq_true between.2⟩

/-- A character of several bytes: a first byte of the table, a second one in the range that the
table says, and tails. -/
theorem firstChunk_of_lead (low high : Nat) {first : UInt8} {second length : Nat}
    {tails rest : Bytes} (lead : lead? first = some (length, UInt8.ofNat low, UInt8.ofNat high))
    (several : length = tails.length + 2) (above : low ≤ second) (below : second ≤ high)
    (byte : high < 256) (tail : ∀ b ∈ tails, isTail b = true) :
    firstChunk first (UInt8.ofNat second :: tails ++ rest) = .char length := by
  have notOne : length ≠ 1 := by omega
  have between := between_ofNat above below byte
  have taken : (tails ++ rest).take (length - 2) = tails := by
    rw [several, Nat.add_sub_cancel, List.take_left']
    rfl
  have all : tails.takeWhile isTail = tails := List.takeWhile_eq_self_iff.mpr tail
  have counted : tails.length = length - 2 := by omega
  simp only [firstChunk, lead, notOne, if_false, List.cons_append, between, decide_true,
    Bool.and_self, if_true, taken, all, counted]

/-- A character's bytes are a character of as many bytes, whatever comes after them. -/
theorem firstChunk_utf8EncodeChar (c : Char) (rest : Bytes) :
    ∃ first tail, String.utf8EncodeChar c = first :: tail ∧
      firstChunk first (tail ++ rest) = .char (tail.length + 1) := by
  have valid : c.val.toNat < 0xD800 ∨ 0xDFFF < c.val.toNat ∧ c.val.toNat < 0x110000 := c.valid
  unfold String.utf8EncodeChar
  generalize c.val.toNat = v at valid
  dsimp only
  split
  · -- one byte
    refine ⟨_, _, rfl, ?_⟩
    simp only [firstChunk, lead?_ofNat (n := v) (by omega)]
    rw [if_pos (by omega)]
    rfl
  split
  · -- two bytes
    refine ⟨_, _, rfl, ?_⟩
    have lead : lead? (UInt8.ofNat (v / 64 % 0x20 + 0xc0)) = some (2, 0x80, 0xBF) := by
      rw [lead?_ofNat (by omega), if_neg (by omega), if_pos (by omega)]
    exact firstChunk_of_lead 0x80 0xBF lead rfl (by omega) (by omega) (by omega) (by simp)
  split
  · -- three bytes: neither an overlong form nor a surrogate
    refine ⟨_, _, rfl, ?_⟩
    have tails : ∀ b ∈ [UInt8.ofNat (v % 0x40 + 0x80)], isTail b = true := by
      intro b member
      rw [List.mem_singleton.mp member]
      exact isTail_ofNat v
    by_cases lowest : v / 4096 = 0
    · have lead : lead? (UInt8.ofNat (v / 4096 % 0x10 + 0xe0)) = some (3, 0xA0, 0xBF) := by
        rw [lead?_ofNat (by omega), if_neg (by omega), if_neg (by omega), if_pos (by omega)]
      exact firstChunk_of_lead 0xA0 0xBF lead rfl (by omega) (by omega) (by omega) tails
    by_cases surrogates : v / 4096 = 13
    · have lead : lead? (UInt8.ofNat (v / 4096 % 0x10 + 0xe0)) = some (3, 0x80, 0x9F) := by
        rw [lead?_ofNat (by omega), if_neg (by omega), if_neg (by omega), if_neg (by omega),
          if_pos (by omega)]
      exact firstChunk_of_lead 0x80 0x9F lead rfl (by omega) (by omega) (by omega) tails
    · have lead : lead? (UInt8.ofNat (v / 4096 % 0x10 + 0xe0)) = some (3, 0x80, 0xBF) := by
        rw [lead?_ofNat (by omega), if_neg (by omega), if_neg (by omega), if_neg (by omega),
          if_neg (by omega), if_pos (by omega)]
      exact firstChunk_of_lead 0x80 0xBF lead rfl (by omega) (by omega) (by omega) tails
  · -- four bytes: neither an overlong form nor a number above the last code point
    refine ⟨_, _, rfl, ?_⟩
    have tails : ∀ b ∈ [UInt8.ofNat (v / 64 % 0x40 + 0x80), UInt8.ofNat (v % 0x40 + 0x80)],
        isTail b = true := by
      intro b member
      rcases List.mem_cons.mp member with first | second
      · rw [first]
        exact isTail_ofNat (v / 64)
      · rw [List.mem_singleton.mp second]
        exact isTail_ofNat v
    by_cases lowest : v / 262144 = 0
    · have lead : lead? (UInt8.ofNat (v / 262144 % 0x08 + 0xf0)) = some (4, 0x90, 0xBF) := by
        rw [lead?_ofNat (by omega), if_neg (by omega), if_neg (by omega), if_neg (by omega),
          if_neg (by omega), if_neg (by omega), if_pos (by omega)]
      exact firstChunk_of_lead 0x90 0xBF lead rfl (by omega) (by omega) (by omega) tails
    by_cases highest : v / 262144 = 4
    · have lead : lead? (UInt8.ofNat (v / 262144 % 0x08 + 0xf0)) = some (4, 0x80, 0x8F) := by
        rw [lead?_ofNat (by omega), if_neg (by omega), if_neg (by omega), if_neg (by omega),
          if_neg (by omega), if_neg (by omega), if_neg (by omega), if_neg (by omega),
          if_pos (by omega)]
      exact firstChunk_of_lead 0x80 0x8F lead rfl (by omega) (by omega) (by omega) tails
    · have lead : lead? (UInt8.ofNat (v / 262144 % 0x08 + 0xf0)) = some (4, 0x80, 0xBF) := by
        rw [lead?_ofNat (by omega), if_neg (by omega), if_neg (by omega), if_neg (by omega),
          if_neg (by omega), if_neg (by omega), if_neg (by omega), if_pos (by omega)]
      exact firstChunk_of_lead 0x80 0xBF lead rfl (by omega) (by omega) (by omega) tails

/-- There are no more characters than bytes. -/
theorem length_le_flatMap (chars : List Char) :
    chars.length ≤ (chars.flatMap String.utf8EncodeChar).length := by
  induction chars with
  | nil => exact Nat.le_refl _
  | cons c rest inductionHypothesis =>
      have nonempty := c.utf8Size_pos
      rw [List.flatMap_cons, List.length_append, String.length_utf8EncodeChar, List.length_cons]
      omega

/-- Characters are well formed to their end, if there is fuel for all of them. -/
theorem validPrefixWithin_flatMap (chars : List Char) :
    ∀ fuel, chars.length ≤ fuel →
      validPrefixWithin fuel (chars.flatMap String.utf8EncodeChar) =
        (chars.flatMap String.utf8EncodeChar).length := by
  induction chars with
  | nil =>
      intro fuel _
      cases fuel <;> rfl
  | cons c rest inductionHypothesis =>
      intro fuel enough
      cases fuel with
      | zero => simp at enough
      | succ fuel =>
          obtain ⟨first, tail, encoded, chunk⟩ :=
            firstChunk_utf8EncodeChar c (rest.flatMap String.utf8EncodeChar)
          have restValid := inductionHypothesis fuel (by simpa using enough)
          rw [List.flatMap_cons, encoded, List.cons_append, validPrefixWithin, chunk]
          simp only [Nat.add_sub_cancel, List.drop_left', restValid, List.length_cons,
            List.length_append]
          omega

/-- A string has no malformed piece. -/
theorem validPrefix_bytesOf (s : String) : validPrefix (bytesOf s) = (bytesOf s).length := by
  rw [validPrefix, bytesOf_eq_flatMap]
  apply validPrefixWithin_flatMap
  exact length_le_flatMap s.toList

/-- The bytes of a string are read as that string. -/
theorem stringOf?_bytesOf (s : String) : stringOf? (bytesOf s) = some s :=
  dif_pos s.isValidUTF8

theorem bytesOf_append (s t : String) : bytesOf (s ++ t) = bytesOf s ++ bytesOf t := by
  simp [bytesOf_eq_flatMap]

/-- An ASCII character has one byte. -/
theorem utf8EncodeChar_ofNat {n : Nat} (ascii : n < 0x80) :
    String.utf8EncodeChar (Char.ofNat n) = [UInt8.ofNat n] := by
  have valid : n.isValidChar := Or.inl (by omega)
  have code : (Char.ofNat n).val.toNat = n := by
    rw [Char.ofNat, dif_pos valid]
    rfl
  rw [String.utf8EncodeChar, code]
  exact if_pos (by omega)

/-- An ASCII text has a byte for each character. -/
theorem bytesOf_ofList {codes : List Nat} (ascii : ∀ n ∈ codes, n < 0x80) :
    bytesOf (String.ofList (codes.map Char.ofNat)) = codes.map UInt8.ofNat := by
  rw [bytesOf_eq_flatMap, String.toList_ofList, List.flatMap_map, List.map_eq_flatMap]
  exact List.flatMap_congr fun n member => utf8EncodeChar_ofNat (ascii n member)

end RpcTransport.Utf8
