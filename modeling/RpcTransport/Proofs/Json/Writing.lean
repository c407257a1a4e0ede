import RpcTransport.Json.Printer
import RpcTransport.Proofs.Json.Lexical
import RpcTransport.Proofs.Text.Utf8

/-!
Strings and integers as they are written are read as they were.
-/

namespace RpcTransport.Json

/-! ### Strings -/

namespace Quoted

/-- A letter that stands for a byte after a backslash is read as that byte. -/
theorem unescape?_of_shortEscape? {b letter : UInt8} (short : shortEscape? b = some letter) :
    unescape? letter = some b := by
  unfold shortEscape? at short
  split at short
  · next isQuote =>
      cases short
      rw [isQuote]
      rfl
  split at short
  · next isBackslash =>
      cases short
      rw [isBackslash]
      rfl
  iterate 5
    split at short
    · next isControl =>
        cases short
        rw [isControl]
        rfl
  cases short

/-- A byte without a short escape is neither a quote nor a backslash. -/
theorem ne_of_shortEscape?_eq_none {b : UInt8} (noShort : shortEscape? b = none) :
    b ≠ Ascii.doubleQuote ∧ b ≠ Ascii.backslash := by
  constructor
  · rintro rfl
    cases noShort
  · rintro rfl
    cases noShort

/-- A hexadecimal digit is read as it was written. -/
theorem hexValue?_hexDigit : ∀ n : Fin 16, Ascii.hexValue? (Ascii.hexDigit n) = some n.val := by
  decide

theorem fourDigits_of_control {b : UInt8} (control : b < 0x20) (rest : Bytes) :
    fourDigits (Ascii.byte '0' :: Ascii.byte '0' :: Ascii.hexDigit (b.toNat / 16) ::
      Ascii.hexDigit (b.toNat % 16) :: rest) = .ok (b.toNat, rest) := by
  have bound : b.toNat < 0x20 := control
  have zero : Ascii.hexValue? (Ascii.byte '0') = some 0 := by decide
  have high : Ascii.hexValue? (Ascii.hexDigit (b.toNat / 16)) = some (b.toNat / 16) :=
    hexValue?_hexDigit ⟨b.toNat / 16, by omega⟩
  have low : Ascii.hexValue? (Ascii.hexDigit (b.toNat % 16)) = some (b.toNat % 16) :=
    hexValue?_hexDigit ⟨b.toNat % 16, by omega⟩
  have sum : ((0 * 16 + 0) * 16 + b.toNat / 16) * 16 + b.toNat % 16 = b.toNat := by omega
  simp only [fourDigits, zero, high, low, sum]

/-- A control character is read as it was written. -/
theorem escape_of_control {b : UInt8} (control : b < 0x20) (rest : Bytes) :
    escape (Ascii.byte 'u' :: Ascii.byte '0' :: Ascii.byte '0' :: Ascii.hexDigit (b.toNat / 16) ::
      Ascii.hexDigit (b.toNat % 16) :: rest) = .ok ([b], rest) := by
  have bound : b.toNat < 0x20 := control
  have code : codePoint (Ascii.byte '0' :: Ascii.byte '0' :: Ascii.hexDigit (b.toNat / 16) ::
      Ascii.hexDigit (b.toNat % 16) :: rest) = .ok (b.toNat, rest) := by
    refine bind_eq_ok.mpr ⟨_, fourDigits_of_control control rest, ?_⟩
    dsimp only
    rw [if_neg (by omega), if_pos (by omega)]
    rfl
  have one : String.utf8EncodeChar (Char.ofNat b.toNat) = [b] := by
    rw [Utf8.utf8EncodeChar_ofNat (by omega), UInt8.ofNat_toNat]
  have noLetter : unescape? (Ascii.byte 'u') = none := by decide
  simp only [escape, noLetter, if_true]
  refine bind_eq_ok.mpr ⟨_, code, ?_⟩
  rw [one]
  rfl

/-- A byte is read as it was written, and what comes after it goes on. -/
theorem content_encodeByte (b : UInt8) {fuel : Nat} {s rest content : Bytes}
    (others : Quoted.content fuel s = .ok (content, rest)) :
    Quoted.content (fuel + 1) (encodeByte b ++ s) = .ok (b :: content, rest) := by
  have escaped : ∀ {letters : Bytes}, escape (letters ++ s) = .ok ([b], s) →
      Quoted.content (fuel + 1) (Ascii.backslash :: letters ++ s) = .ok (b :: content, rest) := by
    intro letters read
    have noQuote : Ascii.backslash ≠ Ascii.doubleQuote := by decide
    simp only [List.cons_append, Quoted.content, noQuote, if_true, if_false]
    exact bind_eq_ok.mpr ⟨_, read, bind_eq_ok.mpr ⟨_, others, rfl⟩⟩
  unfold encodeByte
  cases short : shortEscape? b with
  | some letter =>
      apply escaped
      simp only [List.cons_append, List.nil_append, escape, unescape?_of_shortEscape? short]
  | none =>
      by_cases control : b < 0x20
      · simp only [control, if_true]
        exact escaped (escape_of_control control s)
      · obtain ⟨noQuote, noBackslash⟩ := ne_of_shortEscape?_eq_none short
        simp only [control, if_false, List.cons_append, List.nil_append, Quoted.content, noQuote,
          noBackslash]
        exact bind_eq_ok.mpr ⟨_, others, rfl⟩

theorem content_encode (bytes rest : Bytes) {fuel : Nat} (enough : bytes.length < fuel) :
    content fuel (encode bytes ++ Ascii.doubleQuote :: rest) = .ok (bytes, rest) := by
  induction bytes generalizing fuel with
  | nil =>
      obtain ⟨fuel, rfl⟩ := Nat.exists_eq_add_one_of_ne_zero (Nat.ne_of_gt enough)
      simp only [encode, List.flatMap_nil, List.nil_append, content, if_true]
  | cons b bytes inductionHypothesis =>
      obtain ⟨fuel, rfl⟩ := Nat.exists_eq_add_one_of_ne_zero (Nat.ne_zero_of_lt enough)
      rw [encode, List.flatMap_cons, List.append_assoc]
      exact content_encodeByte b (inductionHypothesis (Nat.lt_of_succ_lt_succ enough))

theorem length_le_encode (bytes : Bytes) : bytes.length ≤ (encode bytes).length := by
  induction bytes with
  | nil => exact Nat.le_refl _
  | cons b bytes inductionHypothesis =>
      have nonempty : 1 ≤ (encodeByte b).length := by
        unfold encodeByte
        split
        · exact Nat.le_add_left 1 _
        · split <;> exact Nat.le_add_left 1 _
      rw [encode, List.flatMap_cons, List.length_append, List.length_cons, Nat.add_comm]
      exact Nat.add_le_add nonempty inductionHypothesis

/-- A string is read as it was written, whatever comes after its closing quote. -/
theorem read_encode (s : String) (rest : Bytes) :
    read (encode (bytesOf s) ++ Ascii.doubleQuote :: rest) = .ok (s, rest) := by
  have enough : (bytesOf s).length <
      (encode (bytesOf s) ++ Ascii.doubleQuote :: rest).length := by
    have short := length_le_encode (bytesOf s)
    rw [List.length_append, List.length_cons]
    omega
  refine bind_eq_ok.mpr ⟨_, content_encode (bytesOf s) rest enough, ?_⟩
  simp only [Utf8.stringOf?_bytesOf]
  rfl

end Quoted

/-! ### Integers -/

/-- The byte of a decimal digit. -/
def digitByte (d : Nat) : UInt8 :=
  UInt8.ofNat (48 + d)

/-- A digit's byte is a digit and stands for it; only zero's is that of zero. -/
theorem digitByte_spec : ∀ d : Fin 10, Ascii.isDigit (digitByte d) = true ∧
    Ascii.digitValue (digitByte d) = d.val ∧ (digitByte d = Ascii.byte '0' → d.val = 0) := by
  decide

theorem decimalDigits_lt (n : Nat) : ∀ d ∈ decimalDigits n, d < 10 := by
  induction n using decimalDigits.induct with
  | case1 n small =>
      rw [decimalDigits, if_pos small]
      simpa using small
  | case2 n large inductionHypothesis =>
      rw [decimalDigits, if_neg large]
      intro d member
      rcases List.mem_append.mp member with member | member
      · exact inductionHypothesis d member
      · rw [List.mem_singleton.mp member]
        exact Nat.mod_lt n (by decide)

/-- The first digit of a number that is not zero is not zero. -/
theorem decimalDigits_eq_cons {n : Nat} (positive : n ≠ 0) :
    ∃ d ds, decimalDigits n = d :: ds ∧ d ≠ 0 := by
  induction n using decimalDigits.induct with
  | case1 n small =>
      rw [decimalDigits, if_pos small]
      exact ⟨n, [], rfl, positive⟩
  | case2 n large inductionHypothesis =>
      obtain ⟨d, ds, digits, notZero⟩ := inductionHypothesis (by omega)
      rw [decimalDigits, if_neg large, digits]
      exact ⟨d, ds ++ [n % 10], rfl, notZero⟩

/-- The digits of a natural number, as they are written. -/
def digitBytes (n : Nat) : Bytes :=
  (decimalDigits n).map digitByte

theorem digitBytes_of_small {n : Nat} (small : n < 10) : digitBytes n = [digitByte n] := by
  rw [digitBytes, decimalDigits, if_pos small, List.map_singleton]

theorem digitBytes_of_large {n : Nat} (large : ¬ n < 10) :
    digitBytes n = digitBytes (n / 10) ++ [digitByte (n % 10)] := by
  rw [digitBytes, decimalDigits, if_neg large, List.map_append, List.map_singleton]
  rfl

theorem bytesOf_decimalOfNat (n : Nat) : bytesOf (decimalOfNat n) = digitBytes n := by
  have codes : (decimalDigits n).map (fun d => Char.ofNat (48 + d)) =
      ((decimalDigits n).map (48 + ·)).map Char.ofNat := by simp
  have ascii : ∀ code ∈ (decimalDigits n).map (48 + ·), code < 0x80 := by
    intro code member
    obtain ⟨d, isDigit, rfl⟩ := List.mem_map.mp member
    have small := decimalDigits_lt n d isDigit
    omega
  rw [decimalOfNat, codes, Utf8.bytesOf_ofList ascii, List.map_map]
  rfl

theorem isDigit_of_mem_digitBytes {n : Nat} :
    ∀ b ∈ digitBytes n, Ascii.isDigit b = true := by
  intro b member
  obtain ⟨d, isDigit, rfl⟩ := List.mem_map.mp member
  exact (digitByte_spec ⟨d, decimalDigits_lt n d isDigit⟩).1

namespace Numeral

/-- Digits that have all been taken do not keep those after them from being taken. -/
theorem accumulate_append {m n : Nat} {digits : Bytes} (taken : accumulate m digits = (n, 0))
    (more : Bytes) : accumulate m (digits ++ more) = accumulate n more := by
  induction digits generalizing m with
  | nil =>
      cases taken
      rfl
  | cons d digits inductionHypothesis =>
      rw [accumulate] at taken
      rw [List.cons_append, accumulate]
      split at taken
      · next fits =>
          rw [if_pos fits]
          exact inductionHypothesis taken
      · cases taken

/-- The digits of a number of 64 bits add up to it. -/
theorem accumulate_digitBytes {n : Nat} (fits : n < 0x10000000000000000) :
    accumulate 0 (digitBytes n) = (n, 0) := by
  have last : ∀ m d : Nat, d < 10 → m * 10 + d < 0x10000000000000000 →
      accumulate m [digitByte d] = (m * 10 + d, 0) := by
    intro m d small fits
    have value : Ascii.digitValue (digitByte d) = d := (digitByte_spec ⟨d, small⟩).2.1
    simp only [accumulate, value, fits, if_true]
  induction n using decimalDigits.induct with
  | case1 n small =>
      rw [digitBytes_of_small small]
      simpa using last 0 n small (by omega)
  | case2 n large inductionHypothesis =>
      have taken := inductionHypothesis (by omega)
      have whole : n / 10 * 10 + n % 10 = n := Nat.div_add_mod' n 10
      rw [digitBytes_of_large large, accumulate_append taken,
        last _ _ (Nat.mod_lt n (by decide)) (by omega), whole]

section Reading

variable {rest : Bytes}

/-- All digits of a number are read. -/
theorem readWhole_digitBytes (stops : Stops rest) (n : Nat) :
    readWhole (digitBytes n ++ rest) = .ok (digitBytes n, rest) := by
  by_cases zero : n = 0
  · subst zero
    have digits : digitBytes 0 = [Ascii.byte '0'] := digitBytes_of_small (by decide)
    rw [digits]
    cases rest with
    | nil => rfl
    | cons b rest =>
        have noDigit := (stops b rfl).1
        simp only [List.cons_append, List.nil_append, readWhole, if_true, noDigit]
        rfl
  · obtain ⟨d, ds, digits, notZero⟩ := decimalDigits_eq_cons zero
    have isFirst : d ∈ decimalDigits n := digits ▸ List.mem_cons_self
    obtain ⟨isDigit, _, onlyZero⟩ := digitByte_spec ⟨d, decimalDigits_lt n d isFirst⟩
    have notZeroByte : digitByte d ≠ Ascii.byte '0' := fun same => notZero (onlyZero same)
    have areDigits : ∀ b ∈ ds.map digitByte, Ascii.isDigit b = true := by
      intro b member
      apply isDigit_of_mem_digitBytes (n := n)
      rw [digitBytes, digits]
      exact List.mem_cons_of_mem _ member
    have noMore : rest.takeWhile Ascii.isDigit = [] ∧ rest.dropWhile Ascii.isDigit = rest := by
      cases rest with
      | nil => exact ⟨rfl, rfl⟩
      | cons b rest => simp [(stops b rfl).1]
    rw [digitBytes, digits, List.map_cons, List.cons_append]
    simp only [readWhole, notZeroByte, isDigit, if_true, if_false]
    rw [List.takeWhile_append_of_pos areDigits, List.dropWhile_append_of_pos areDigits, noMore.1,
      noMore.2, List.append_nil]

theorem readUnsigned_digitBytes (stops : Stops rest) (negative : Bool) (n : Nat) :
    readUnsigned negative (digitBytes n ++ rest) = .ok (⟨negative, digitBytes n, [], none⟩, rest) :=
  bind_eq_ok.mpr ⟨_, readWhole_digitBytes stops n, bind_eq_ok.mpr ⟨_, readFraction_of_stops stops,
    bind_eq_ok.mpr ⟨_, readExponent_of_stops stops, rfl⟩⟩⟩

end Reading

/-- Digits alone stand for the integer whose digits they are. -/
theorem value_digitBytes (negative : Bool) {n : Nat} (fits : n < 0x10000000000000000) :
    value ⟨negative, digitBytes n, [], none⟩ = .ok (ofInteger negative n fits) := by
  simp only [value, accumulate_digitBytes fits, accumulate]
  exact dif_pos ⟨trivial, trivial, fits⟩

end Numeral

theorem bytesOf_render_negative (n : Nat) (fits : Fits64 (.negSucc n)) :
    bytesOf (Number.integer (.negSucc n) fits).render = Ascii.minus :: digitBytes (n + 1) := by
  rw [Number.render, decimalOfInt, Utf8.bytesOf_append, bytesOf_decimalOfNat]
  rfl

/-- A number's digits start with a digit, and with no sign. -/
theorem digitBytes_eq_cons (n : Nat) :
    ∃ b tail, digitBytes n = b :: tail ∧ Ascii.isDigit b = true ∧ b ≠ Ascii.minus := by
  cases digits : digitBytes n with
  | nil =>
      have none : decimalDigits n = [] := List.map_eq_nil_iff.mp digits
      rw [decimalDigits] at none
      split at none <;> simp at none
  | cons b tail =>
      have isDigit := isDigit_of_mem_digitBytes b (digits ▸ List.mem_cons_self)
      refine ⟨b, tail, rfl, isDigit, ?_⟩
      rintro rfl
      cases isDigit

/-- Numbers start with a sign or a digit. -/
theorem render_eq_cons (n : Int) (fits : Fits64 n) :
    ∃ b tail, bytesOf (Number.integer n fits).render = b :: tail ∧
      (b = Ascii.minus ∨ Ascii.isDigit b = true) := by
  cases n with
  | ofNat n =>
      obtain ⟨b, tail, digits, isDigit, _⟩ := digitBytes_eq_cons n
      exact ⟨b, tail, (bytesOf_decimalOfNat n).trans digits, Or.inr isDigit⟩
  | negSucc n => exact ⟨_, _, bytesOf_render_negative n fits, Or.inl rfl⟩

/-- An integer is read as it was written, if what comes after it does not go on with it. -/
theorem readNumber_render {rest : Bytes} (stops : Numeral.Stops rest) {n : Int} (fits : Fits64 n) :
    readNumber (bytesOf (Number.integer n fits).render ++ rest) = .ok (.integer n fits, rest) := by
  cases n with
  | ofNat n =>
      have small : n < 0x10000000000000000 := by
        have bound : (n : Int) < 0x10000000000000000 := fits.2
        omega
      obtain ⟨b, tail, digits, _, noSign⟩ := digitBytes_eq_cons n
      have read := Numeral.readUnsigned_digitBytes stops false n
      have written : bytesOf (Number.integer (.ofNat n) fits).render = digitBytes n :=
        bytesOf_decimalOfNat n
      refine bind_eq_ok.mpr ⟨(⟨false, digitBytes n, [], none⟩, rest), ?_, ?_⟩
      · rw [written]
        rw [digits, List.cons_append] at read ⊢
        rw [Numeral.read, if_neg noSign]
        exact read
      · simp only [Numeral.value_digitBytes false small]
        rfl
  | negSucc n =>
      have bound : n + 1 ≤ 0x8000000000000000 := by
        have bound := fits.1
        omega
      have small : n + 1 < 0x10000000000000000 := by omega
      refine bind_eq_ok.mpr ⟨(⟨true, digitBytes (n + 1), [], none⟩, rest), ?_, ?_⟩
      · rw [bytesOf_render_negative, List.cons_append, Numeral.read, if_pos rfl]
        exact Numeral.readUnsigned_digitBytes stops true (n + 1)
      · have signed : Numeral.ofInteger true (n + 1) small = .integer (.negSucc n) fits := by
          rw [Numeral.ofInteger, if_pos rfl, dif_pos ⟨Nat.succ_pos n, bound⟩]
          rfl
        simp only [Numeral.value_digitBytes true small, signed]
        rfl

end RpcTransport.Json
