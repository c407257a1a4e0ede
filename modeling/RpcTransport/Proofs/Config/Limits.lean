import Mathlib.Algebra.Group.Nat.Defs
import RpcTransport.Endpoint.Http
import RpcTransport.Proofs.Json.Lexical

/-!
Limits as they are given. Whoever asks for batches names a size and a span of time, and should have
just these limits, or be told that they can not work. But a configuration holds the span in 64 bits.
One of 2^64 milliseconds or more is taken for what these bits have room for, and so for a shorter
one, or for none at all.
-/

namespace RpcTransport

/-! ### Spans -/

namespace Duration

/-- A span in nanoseconds. -/
def nanoseconds (d : Duration) : Nat :=
  d.seconds.toNat * 1000000000 + d.nanos.toNat

/-- The span of so many milliseconds. -/
def ofMillis (ms : UInt64) : Duration :=
  ⟨ms / 1000, (ms % 1000 * 1000000).toUInt32⟩

/-- What is left of a span when its milliseconds are put into 64 bits. -/
def narrowed (d : Duration) : Duration :=
  ofMillis (.ofNat d.millis)

/-- Whole milliseconds are a span rounded down. -/
theorem millis_eq (d : Duration) : d.millis = d.nanoseconds / 1000000 := by
  unfold millis nanoseconds
  omega

theorem nanoseconds_ofMillis (ms : UInt64) : (ofMillis ms).nanoseconds = ms.toNat * 1000000 := by
  have seconds : (ms / 1000).toNat = ms.toNat / 1000 := UInt64.toNat_div ms 1000
  have remainder : (ms % 1000).toNat = ms.toNat % 1000 := UInt64.toNat_mod ms 1000
  have million : (1000000 : UInt64).toNat = 1000000 := rfl
  -- A remainder of milliseconds is less than a second, so that 32 bits hold its nanoseconds.
  have nanos : (ms % 1000 * 1000000).toUInt32.toNat = ms.toNat % 1000 * 1000000 := by
    rw [UInt64.toNat_toUInt32, UInt64.toNat_mul, remainder, million]
    omega
  unfold nanoseconds ofMillis
  rw [seconds, nanos]
  omega

/-- Whole multiples of 2^64 milliseconds get lost, and what is less than a millisecond. -/
theorem nanoseconds_narrowed (d : Duration) :
    d.narrowed.nanoseconds = d.nanoseconds / 1000000 % 2 ^ 64 * 1000000 := by
  rw [narrowed, nanoseconds_ofMillis, UInt64.toNat_ofNat', millis_eq]

theorem millis_narrowed (d : Duration) : d.narrowed.millis = d.millis % 2 ^ 64 := by
  rw [millis_eq, nanoseconds_narrowed, Nat.mul_div_cancel _ (by decide), millis_eq]

end Duration

/-! ### Configurations -/

namespace BatchConfig

variable {config : BatchConfig} {maxSize : Int64} {d : Duration}

/-- A size of zero is no limit. -/
theorem sizeLimit_of_notNegative (notNegative : 0 ≤ config.maxBatchSize) :
    config.sizeLimit =
      if config.maxBatchSize = 0 then none else some config.maxBatchSize.toInt.toNat := by
  have zero : config.maxBatchSize ≤ 0 ↔ config.maxBatchSize = 0 :=
    ⟨fun notPositive => Int64.le_antisymm notPositive notNegative, fun isZero => by simp [isZero]⟩
  simp only [sizeLimit, zero]

theorem wait_make_of_lt (fits : d.millis < 2 ^ 64) : (make maxSize d).wait = d.millis :=
  UInt64.toNat_ofNat'.trans (Nat.mod_eq_of_lt fits)

/-- A configuration does not tell a span from what 64 bits leave of it. -/
theorem make_narrowed (maxSize : Int64) (d : Duration) :
    make maxSize d.narrowed = make maxSize d := by
  have same : UInt64.ofNat d.narrowed.millis = UInt64.ofNat d.millis := by
    rw [← UInt64.toNat_inj, Duration.millis_narrowed, UInt64.toNat_ofNat', UInt64.toNat_ofNat',
      Nat.mod_mod]
  exact congrArg (BatchConfig.mk maxSize) same

end BatchConfig

/-! ### Limits -/

namespace Gathering

variable {config : BatchConfig} {limits : Limits} {maxSize : Int64} {d : Duration}

theorem Limits.ofConfig_of_negative (negative : config.maxBatchSize < 0) :
    ofConfig config = .error (.config .negativeBatchSize) := by
  rw [ofConfig, BatchConfig.validate, if_pos negative]
  rfl

theorem Limits.ofConfig_of_short (notNegative : 0 ≤ config.maxBatchSize) (short : config.wait < 1) :
    ofConfig config = .error (.config .waitTooShort) := by
  rw [ofConfig, BatchConfig.validate, if_neg (Int64.not_lt.mpr notNegative), if_pos short]
  rfl

theorem Limits.ofConfig_of_usable (notNegative : 0 ≤ config.maxBatchSize)
    (long : 1 ≤ config.wait) : ofConfig config = .ok ⟨config.wait, config.sizeLimit⟩ := by
  rw [ofConfig, BatchConfig.validate, if_neg (Int64.not_lt.mpr notNegative),
    if_neg (Nat.not_lt.mpr long)]
  rfl

/-- No window waits for longer than 64 bits can say. -/
theorem Limits.wait_lt (built : ofConfig config = .ok limits) : limits.wait < 2 ^ 64 := by
  obtain ⟨_, _, made⟩ := bind_eq_ok.mp built
  cases made
  exact config.waitMs.toNat_lt

/-- The limits built for a size and a span are just these. They are refused exactly if the size is
negative or the span is less than a millisecond, and the error says which of the two. Otherwise
windows wait for the span, in whole milliseconds, and have the size, where zero sets no limit. -/
structure Honours (maxSize : Int64) (d : Duration) (built : Outcome Limits) : Prop where
  succeeds_iff : (∃ limits, built = .ok limits) ↔ 0 ≤ maxSize ∧ 1000000 ≤ d.nanoseconds
  refusal : ∀ error, built = .error error →
    error = .config (if maxSize < 0 then .negativeBatchSize else .waitTooShort)
  wait : ∀ limits, built = .ok limits → limits.wait = d.nanoseconds / 1000000
  size : ∀ limits, built = .ok limits →
    limits.maxSize = if maxSize = 0 then none else some maxSize.toInt.toNat

theorem honours_error {fault : ConfigFault}
    (unusable : ¬ (0 ≤ maxSize ∧ 1000000 ≤ d.nanoseconds))
    (tells : fault = if maxSize < 0 then .negativeBatchSize else .waitTooShort) :
    Honours maxSize d (.error (.config fault)) where
  succeeds_iff := ⟨fun ⟨_, built⟩ => (nomatch built), fun usable => absurd usable unusable⟩
  refusal _ built := Except.error.inj built ▸ congrArg TransportError.config tells
  wait _ built := nomatch built
  size _ built := nomatch built

theorem honours_ok (usable : 0 ≤ maxSize ∧ 1000000 ≤ d.nanoseconds)
    (wait : limits.wait = d.nanoseconds / 1000000)
    (size : limits.maxSize = if maxSize = 0 then none else some maxSize.toInt.toNat) :
    Honours maxSize d (.ok limits) where
  succeeds_iff := ⟨fun _ => usable, fun _ => ⟨limits, rfl⟩⟩
  refusal _ built := nomatch built
  wait _ built := Except.ok.inj built ▸ wait
  size _ built := Except.ok.inj built ▸ size

theorem honours_of_negative (negative : maxSize < 0) (d : Duration) :
    Honours maxSize d (Limits.ofConfig (.make maxSize d)) := by
  have refused : Limits.ofConfig (.make maxSize d) = .error (.config .negativeBatchSize) :=
    Limits.ofConfig_of_negative negative
  rw [refused]
  exact honours_error (fun usable => Int64.not_le.mpr negative usable.1) (if_pos negative).symm

/-- Spans whose milliseconds have room in 64 bits are taken as they are. -/
theorem honours_of_lt (maxSize : Int64) (fits : d.millis < 2 ^ 64) :
    Honours maxSize d (Limits.ofConfig (.make maxSize d)) := by
  rcases Int64.lt_or_le maxSize 0 with negative | notNegative
  · exact honours_of_negative negative d
  have wait : (BatchConfig.make maxSize d).wait = d.nanoseconds / 1000000 :=
    (BatchConfig.wait_make_of_lt fits).trans d.millis_eq
  rcases Nat.lt_or_ge d.nanoseconds 1000000 with short | long
  · have refused : Limits.ofConfig (.make maxSize d) = .error (.config .waitTooShort) :=
      Limits.ofConfig_of_short notNegative (by omega)
    rw [refused]
    exact honours_error (fun usable => Nat.not_le.mpr short usable.2)
      (if_neg (Int64.not_lt.mpr notNegative)).symm
  · have taken : Limits.ofConfig (.make maxSize d) = .ok ⟨_, _⟩ :=
      Limits.ofConfig_of_usable notNegative (by omega)
    rw [taken]
    exact honours_ok ⟨notNegative, long⟩ wait (BatchConfig.sizeLimit_of_notNegative notNegative)

/-- What always is taken is what 64 bits leave of a span. -/
theorem honours_narrowed (maxSize : Int64) (d : Duration) :
    Honours maxSize d.narrowed (Limits.ofConfig (.make maxSize d)) := by
  have fits : d.narrowed.millis < 2 ^ 64 :=
    d.millis_narrowed ▸ Nat.mod_lt _ (Nat.two_pow_pos 64)
  exact BatchConfig.make_narrowed maxSize d ▸ honours_of_lt maxSize fits

theorem lt_of_honours (notNegative : 0 ≤ maxSize)
    (honours : Honours maxSize d (Limits.ofConfig (.make maxSize d))) :
    d.nanoseconds / 1000000 < 2 ^ 64 := by
  rcases Nat.lt_or_ge d.nanoseconds 1000000 with short | long
  · omega
  · obtain ⟨limits, built⟩ := honours.succeeds_iff.mpr ⟨notNegative, long⟩
    exact honours.wait limits built ▸ Limits.wait_lt built

end Gathering

/-! ### Endpoints -/

section Endpoints

variable {config : HttpConfig} {batch : BatchConfig}

theorem Loading.ofConfig_of_batch (asked : config.batch = some batch) :
    ofConfig config = (Gathering.Limits.ofConfig batch).map .gathered := by
  simp only [ofConfig, asked]
  cases Gathering.Limits.ofConfig batch <;> rfl

/-- Whether an endpoint with a target can be built is up to the limits. -/
theorem HttpEndpoint.make_of_batch {url : String} {target : Url}
    (named : targetOf url = .ok target) (asked : config.batch = some batch) :
    make url config =
      (Gathering.Limits.ofConfig batch).map fun limits => ⟨url, target, .gathered limits⟩ := by
  rw [make, named, Loading.ofConfig_of_batch asked]
  cases Gathering.Limits.ofConfig batch <;> rfl

end Endpoints

namespace Gathering

/-- Limits are honoured as they are given exactly if the size is negative, which is refused whatever
the span is, or the span has less than 2^64 milliseconds. Of a longer span just so much is honoured
as 64 bits leave. An endpoint with a target has the limits that are built, or is refused for their
error. -/
theorem limits_honoured_iff (maxSize : Int64) (d : Duration) :
    (Honours maxSize d (Limits.ofConfig (.make maxSize d)) ↔
        maxSize < 0 ∨ d.nanoseconds / 1000000 < 2 ^ 64) ∧
      Honours maxSize d.narrowed (Limits.ofConfig (.make maxSize d)) ∧
      d.narrowed.nanoseconds = d.nanoseconds / 1000000 % 2 ^ 64 * 1000000 ∧
      ∀ {url : String} {target : Url} {config : HttpConfig},
        HttpEndpoint.targetOf url = .ok target → config.batch = some (.make maxSize d) →
        HttpEndpoint.make url config =
          (Limits.ofConfig (.make maxSize d)).map fun limits => ⟨url, target, .gathered limits⟩ := by
  refine ⟨⟨?_, ?_⟩, honours_narrowed maxSize d, d.nanoseconds_narrowed, HttpEndpoint.make_of_batch⟩
  · intro honours
    rcases Int64.lt_or_le maxSize 0 with negative | notNegative
    · exact Or.inl negative
    · exact Or.inr (lt_of_honours notNegative honours)
  · rintro (negative | fits)
    · exact honours_of_negative negative d
    · exact honours_of_lt maxSize (d.millis_eq ▸ fits)

/-- The longest span that has room in 64 bits. -/
def longestSpan : Duration :=
  ⟨18446744073709551, 615999999⟩

/-- It is honoured, but for what is less than a millisecond. -/
theorem limits_honoured_iff_of_longest :
    ∃ target, HttpEndpoint.targetOf "http://127.0.0.1:8545" = .ok target ∧
      longestSpan.nanoseconds = 18446744073709551615999999 ∧
      Honours 50 longestSpan (Limits.ofConfig (.make 50 longestSpan)) ∧
      HttpEndpoint.make "http://127.0.0.1:8545" { batch := some (.make 50 longestSpan) } =
        .ok ⟨"http://127.0.0.1:8545", target, .gathered ⟨18446744073709551615, some 50⟩⟩ := by
  obtain ⟨honoured, _, _, endpoint⟩ := limits_honoured_iff 50 longestSpan
  exact ⟨_, rfl, rfl, honoured.mpr (Or.inr (by decide)), endpoint rfl rfl⟩

/-- A span that is a nanosecond longer: 2^64 milliseconds. -/
def firstLostSpan : Duration :=
  ⟨18446744073709551, 616000000⟩

/-- It is refused as if it were less than a millisecond, and the span of 384 milliseconds more is
taken for these 384. -/
theorem long_spans_are_not_honoured :
    (firstLostSpan.nanos.toNat < 1000000000 ∧ firstLostSpan.nanoseconds / 1000000 = 2 ^ 64 ∧
      Limits.ofConfig (.make 7 firstLostSpan) = .error (.config .waitTooShort) ∧
      ¬ Honours 7 firstLostSpan (Limits.ofConfig (.make 7 firstLostSpan))) ∧
    Duration.nanoseconds ⟨18446744073709552, 0⟩ / 1000000 = 2 ^ 64 + 384 ∧
      Limits.ofConfig (.make 7 ⟨18446744073709552, 0⟩) = .ok ⟨384, some 7⟩ := by
  refine ⟨⟨by decide, by decide, rfl, ?_⟩, by decide, rfl⟩
  intro honours
  obtain ⟨limits, built⟩ := honours.succeeds_iff.mpr ⟨by decide, by decide⟩
  cases (rfl : Limits.ofConfig (.make 7 firstLostSpan) = .error (.config .waitTooShort)).symm.trans
    built

end Gathering

end RpcTransport
