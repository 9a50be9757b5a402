import Mathlib.Data.List.Basic

/-!
# The public error contract

`AppError` as the services raise it.  A `Failure` is anything that leaves a
service call and rolls its transaction back: an `AppError`, or an error of the
database, of a request schema, of decimal arithmetic or of the interpreter.
-/

namespace BlogOps

abbrev Uuid := Nat

structure FieldError where
  path : String
  reason : String
deriving DecidableEq, Repr

inductive RemediationValue where
  | text (value : String)
  | amount (value : Int)
deriving DecidableEq, Repr

structure AppError where
  code : String
  message : String
  statusCode : Nat
  fields : List FieldError := []
  remediation : Option (List (String × RemediationValue)) := none
deriving DecidableEq, Repr

inductive Failure where
  | app (error : AppError)
  | integrity (constraint : String)
  | keyError
  | assertionError
  | validationError
  | decimalError
  | valueError
deriving DecidableEq, Repr

/-- A guard clause: raise unless `holds`. -/
def require (holds : Prop) [Decidable holds] (failure : Failure) : Except Failure Unit :=
  if holds then .ok () else .error failure

theorem require_ok {holds : Prop} [Decidable holds] {failure : Failure} {u : Unit}
    (h : require holds failure = .ok u) : holds := by
  unfold require at h
  split at h
  · assumption
  · cases h

theorem require_of {holds : Prop} [Decidable holds] (h : holds) (failure : Failure) :
    require holds failure = .ok () :=
  if_pos h

variable {α β ε : Type}

section

variable {x : Except ε α}

theorem bind_ok {f : α → Except ε β} {r : β} (h : (x >>= f) = .ok r) : ∃ a, x = .ok a ∧ f a = .ok r := by
  cases x with
  | error e => cases h
  | ok a => exact ⟨a, rfl, h⟩

/-- A call that answers is passed through. -/
theorem bind_of_ok {a : α} (h : x = .ok a) (f : α → Except ε β) : (x >>= f) = f a := by
  rw [h]
  rfl

theorem map_ok {f : α → β} {r : β} (h : x.map f = .ok r) : ∃ a, x = .ok a ∧ f a = r := by
  cases x with
  | error e => cases h
  | ok a => exact ⟨a, rfl, Except.ok.inj h⟩

/-- A call whose answer passes a test answers. -/
theorem ok_of_test (test : α → Bool) (h : x.toOption.any test = true) : ∃ a, x = .ok a ∧ test a = true := by
  cases x with
  | error e => cases h
  | ok a => exact ⟨a, rfl, h⟩

theorem map_error {f : α → β} {e : ε} (h : x.map f = .error e) : x = .error e := by
  cases x with
  | error other => exact congrArg Except.error (Except.error.inj h)
  | ok a => cases h

end

end BlogOps
