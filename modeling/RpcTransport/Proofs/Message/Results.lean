import RpcTransport.Message.Envelope
import RpcTransport.Proofs.Json.Lexical

/-!
What a caller learns from an answer. An error that the node reports should reach the caller whatever
else the answer holds. It does, unless the answer holds null for a result, too.
-/

namespace RpcTransport.Envelope

variable {e : Envelope} {error : RpcError} {α : Type}

/-- An error is the caller's, whatever type it wants. -/
theorem decodeResult_of_intoResult_error {failure : TransportError}
    (failed : e.intoResult = .error failure) (shape : Json.Shape α) :
    e.decodeResult shape = .error failure := by
  rw [decodeResult, failed]
  rfl

theorem errorOf_of_vmExecution (isVm : error.code = -32015) :
    errorOf error = .vmExecution (-32015) error.details := by
  rw [errorOf, if_pos (show error.code = RpcError.vmExecutionCode from isVm), isVm]

theorem errorOf_of_other (notVm : error.code ≠ -32015) : errorOf error = .rpc error :=
  if_neg notVm

theorem errorOf_eq (error : RpcError) :
    errorOf error = .vmExecution (-32015) error.details ∨ errorOf error = .rpc error := by
  by_cases isVm : error.code = -32015
  · exact Or.inl (errorOf_of_vmExecution isVm)
  · exact Or.inr (errorOf_of_other isVm)

/-- A null result comes before everything else. -/
theorem intoResult_of_null (isNull : e.result = some .null) : e.intoResult = .error .nilResult := by
  rw [intoResult, isNull]

/-- Without a null result an error is the caller's error. -/
theorem intoResult_of_error (reports : e.error = some error) (notNull : e.result ≠ some .null) :
    e.intoResult = .error (errorOf error) := by
  unfold intoResult
  split
  · next isNull => exact absurd isNull notNull
  · next reported _ =>
      cases reports.symm.trans reported
      rfl
  · next noError => cases reports.symm.trans noError
  · next noError => cases reports.symm.trans noError

/-- Without an error the result decides. -/
theorem intoResult_of_noError (noError : e.error = none) :
    e.intoResult =
      match e.result with
      | some .null => .error .nilResult
      | some value => .ok value
      | none => .error (.protocol .emptyResponse) := by
  unfold intoResult
  rw [noError]
  cases e.result with
  | none => rfl
  | some value => cases value <;> rfl

/-- What can fail in an answer: its result is null, it has neither a result nor an error, or the node
reports an error. -/
theorem failure_of_intoResult {failure : TransportError}
    (failed : e.intoResult = .error failure) :
    failure = .nilResult ∨ failure = .protocol .emptyResponse ∨
      ∃ error, e.error = some error ∧
        (failure = .vmExecution (-32015) error.details ∨ failure = .rpc error) := by
  by_cases isNull : e.result = some .null
  · exact Or.inl (Except.error.inj (failed.symm.trans (intoResult_of_null isNull)))
  · cases reports : e.error with
    | some error =>
        cases failed.symm.trans (intoResult_of_error reports isNull)
        exact Or.inr (Or.inr ⟨error, rfl, errorOf_eq error⟩)
    | none =>
        rw [intoResult_of_noError reports] at failed
        split at failed
        · next isNull' => exact absurd isNull' isNull
        · cases failed
        · exact Or.inr (Or.inl (Except.error.inj failed).symm)

/-- No error is taken for a success. -/
theorem error_eq_none_of_intoResult {value : Json} (succeeded : e.intoResult = .ok value) :
    e.error = none := by
  cases reports : e.error with
  | none => rfl
  | some error =>
      by_cases isNull : e.result = some .null
      · cases (intoResult_of_null isNull).symm.trans succeeded
      · cases (intoResult_of_error reports isNull).symm.trans succeeded

/-- What an answer says reaches the caller: an error, if the node reports one, whatever the result
is, and whatever type the caller wants; else the result, or that it is null, or that there is none.
-/
structure Surfaces (e : Envelope) : Prop where
  vmExecution : ∀ {error : RpcError}, e.error = some error → error.code = -32015 →
    e.intoResult = .error (.vmExecution (-32015) error.details) ∧
      ∀ {α : Type} (shape : Json.Shape α),
        e.decodeResult shape = .error (.vmExecution (-32015) error.details)
  rpc : ∀ {error : RpcError}, e.error = some error → error.code ≠ -32015 →
    e.intoResult = .error (.rpc error) ∧
      ∀ {α : Type} (shape : Json.Shape α), e.decodeResult shape = .error (.rpc error)
  nilResult : e.error = none → (e.intoResult = .error .nilResult ↔ e.result = some .null)
  success : e.error = none → ∀ value, e.intoResult = .ok value ↔
    e.result = some value ∧ value ≠ .null
  protocol : e.error = none →
    ((∃ fault, e.intoResult = .error (.protocol fault)) ↔ e.result = none)

theorem surfaces_of_error (reports : e.error = some error) (notNull : e.result ≠ some .null) :
    e.Surfaces where
  vmExecution := by
    intro other isOther isVm
    cases reports.symm.trans isOther
    have surfaced := intoResult_of_error reports notNull
    rw [errorOf_of_vmExecution isVm] at surfaced
    exact ⟨surfaced, fun shape => decodeResult_of_intoResult_error surfaced shape⟩
  rpc := by
    intro other isOther notVm
    cases reports.symm.trans isOther
    have surfaced := intoResult_of_error reports notNull
    rw [errorOf_of_other notVm] at surfaced
    exact ⟨surfaced, fun shape => decodeResult_of_intoResult_error surfaced shape⟩
  nilResult noError := nomatch reports.symm.trans noError
  success noError := nomatch reports.symm.trans noError
  protocol noError := nomatch reports.symm.trans noError

theorem surfaces_of_noError (noError : e.error = none) : e.Surfaces where
  vmExecution reports := nomatch noError.symm.trans reports
  rpc reports := nomatch noError.symm.trans reports
  nilResult _ := by
    rw [intoResult_of_noError noError]
    cases e.result with
    | none => simp
    | some value => cases value <;> simp
  success _ value := by
    rw [intoResult_of_noError noError]
    cases e.result with
    | none => simp
    | some found => cases found <;> simp <;> rintro rfl <;> simp
  protocol _ := by
    rw [intoResult_of_noError noError]
    cases e.result with
    | none => simp
    | some value => cases value <;> simp

/-- What an answer says reaches the caller, unless it reports an error and holds null for a result.
Then the caller learns only that the result is null. An error is never taken for a success. -/
theorem surfaces_iff (e : Envelope) :
    (e.Surfaces ↔ e.error = none ∨ e.result ≠ some .null) ∧
      (e.error ≠ none → e.result = some .null → e.intoResult = .error .nilResult) ∧
      ∀ {α : Type} (shape : Json.Shape α) (x : α), e.decodeResult shape = .ok x →
        e.error = none := by
  refine ⟨⟨?_, ?_⟩, fun _ isNull => intoResult_of_null isNull, ?_⟩
  · intro surfaces
    cases reports : e.error with
    | none => exact Or.inl rfl
    | some error =>
        refine Or.inr fun isNull => ?_
        have hidden := intoResult_of_null isNull
        by_cases isVm : error.code = -32015
        · cases hidden.symm.trans (surfaces.vmExecution reports isVm).1
        · cases hidden.symm.trans (surfaces.rpc reports isVm).1
  · intro visible
    cases reports : e.error with
    | none => exact surfaces_of_noError reports
    | some error =>
        rw [reports] at visible
        exact surfaces_of_error reports (visible.resolve_left (Option.some_ne_none error))
  · intro α shape x read
    obtain ⟨value, succeeded, _⟩ := bind_eq_ok.mp read
    exact error_eq_none_of_intoResult succeeded

/-- An answer as old protocols have it: an error, and null for a result. -/
def failedWithNull : Bytes :=
  bytesOf "\x7b\"id\":\"1\",\"result\":null,\"error\":\x7b\"code\":-32000,\"message\":\"reverted\"\x7d\x7d"

/-- Its error does not reach the caller. -/
theorem null_hides_error :
    ∃ e error, decode failedWithNull = .ok e ∧ e.error = some error ∧ error.message = "reverted" ∧
      e.intoResult = .error .nilResult ∧ ¬ e.Surfaces := by
  refine ⟨_, _, rfl, rfl, rfl, rfl, ?_⟩
  intro surfaces
  exact ((surfaces_iff _).1.mp surfaces).elim (fun noError => nomatch noError)
    fun notNull => notNull rfl

end RpcTransport.Envelope
