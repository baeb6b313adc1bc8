/-!
Inversion of computations that may fail: if one succeeds, each of its parts did; if it fails, one of them did.
-/
namespace Gatehouse
variable {ε δ α β : Type}

theorem bind_ok {x : Except ε α} {f : α → Except ε β} {y : β} (bound : (x >>= f) = .ok y) :
    ∃ z, x = .ok z ∧ f z = .ok y := by
  cases x with
  | error e => cases bound
  | ok z => exact ⟨z, rfl, bound⟩

theorem bind_error {x : Except ε α} {f : α → Except ε β} {e : ε} (bound : (x >>= f) = .error e) :
    x = .error e ∨ ∃ z, x = .ok z ∧ f z = .error e := by
  cases x with
  | error d => exact .inl (congrArg _ (Except.error.inj bound))
  | ok z => exact .inr ⟨z, rfl, bound⟩

theorem mapError_error {x : Except ε α} {f : ε → δ} {e : δ} (mapped : x.mapError f = .error e) :
    ∃ d, x = .error d ∧ f d = e := by
  cases x with
  | error d => exact ⟨d, rfl, Except.error.inj mapped⟩
  | ok z => cases mapped

theorem map_ok {x : Except ε α} {f : α → β} {y : β} (mapped : x.map f = .ok y) :
    ∃ z, x = .ok z ∧ f z = y := by
  cases x with
  | error e => cases mapped
  | ok z => exact ⟨z, rfl, Except.ok.inj mapped⟩

theorem mapError_ok {x : Except ε α} {f : ε → δ} {y : α} (mapped : x.mapError f = .ok y) :
    x = .ok y := by
  cases x with
  | error e => cases mapped
  | ok z => exact congrArg _ (Except.ok.inj mapped)

theorem ok_of_toOption {x : Except ε α} {y : α} (succeeds : x.toOption = some y) : x = .ok y := by
  cases x with
  | error e => cases succeeds
  | ok z => exact congrArg _ (Option.some.inj succeeds)

end Gatehouse
