import EditorSession.Registration.Attempt
import EditorSession.Table

/-! # The registry of registration attempts

The registry keeps for every method the attempts to register it, in the order of their requests. A
method that never had an attempt is told apart from one whose attempts are all gone. The public view
is `Registry.attemptsFor`, which shows the stand-in `Attempt.never` in both cases. -/

namespace EditorSession

/-- The attempts of every method. -/
structure Registry where
  table : Table String (List Attempt)

namespace Registry

/-- No attempts. -/
def empty : Registry := ⟨.empty⟩

instance : Inhabited Registry := ⟨empty⟩

/-! ### Views -/

/-- The attempts of a method, if it ever had one. -/
def attempts? (r : Registry) (method : String) : Option (List Attempt) := r.table.find? method

/-- The attempts of a method that are still recorded. -/
def recorded (r : Registry) (method : String) : List Attempt := (r.attempts? method).getD []

/-- The attempts of a method, or the stand-in for none. -/
def attemptsFor (r : Registry) (method : String) : List Attempt :=
  match r.recorded method with
  | [] => [.never]
  | attempts => attempts

/-- Some attempt of the method waits for an answer. -/
def hasPending (r : Registry) (method : String) : Bool :=
  (r.recorded method).any Attempt.isPending

/-! ### Changes -/

/-- Changes the attempts of a method that ever had one. -/
def modify (r : Registry) (method : String) (change : List Attempt → List Attempt) : Registry :=
  match r.attempts? method with
  | none => r
  | some attempts => ⟨r.table.set method (change attempts)⟩

/-- Adds an attempt whose request is on its way. -/
def recordAttempt (r : Registry) (method : String) (id : RegistrationId) : Registry :=
  ⟨r.table.set method (r.recorded method ++ [.start id])⟩

/-- Settles the first attempt with the identifier by the answer to its registration. -/
def markComplete (r : Registry) (method : String) (id : RegistrationId) (succeeded : Bool) :
    Registry :=
  r.modify method (Attempts.update id (Attempt.settle succeeded))

/-- Removes the attempts with the identifier. -/
def remove (r : Registry) (method : String) (id : RegistrationId) : Registry :=
  r.modify method (Attempts.drop id)

/-- Settles the attempts with the identifier after the client refused to unregister them. -/
def settleFailedUnregistration (r : Registry) (method : String) (id : RegistrationId) : Registry :=
  r.modify method (Attempts.restore id)

/-- Gives the first attempt with the identifier a state. -/
def setState (r : Registry) (method : String) (id : RegistrationId) (state : AttemptState) :
    Registry :=
  r.modify method (Attempts.update id (Attempt.withState state))

/-! ### What a change shows in the view -/

@[simp] theorem recorded_empty (method : String) : empty.recorded method = [] := rfl

theorem recorded_recordAttempt (r : Registry) (method other : String) (id : RegistrationId) :
    (r.recordAttempt method id).recorded other
      = if other = method then r.recorded method ++ [.start id] else r.recorded other := by
  unfold recordAttempt
  by_cases h : other = method <;> simp [recorded, attempts?, Table.find?_set, h]

/-- A change that keeps the empty list acts on the recorded attempts. -/
theorem recorded_modify (r : Registry) (method other : String)
    {change : List Attempt → List Attempt}
    (h : change [] = []) :
    (r.modify method change).recorded other
      = if other = method then change (r.recorded method) else r.recorded other := by
  unfold modify
  split
  · next hnone =>
    by_cases ho : other = method
    · subst ho
      simp [recorded, hnone, h]
    · simp [ho]
  · next attempts hsome =>
    have hr : r.recorded method = attempts := by simp [recorded, hsome]
    by_cases ho : other = method
    · simp only [recorded, attempts?, Table.find?_set, ho, if_true, Option.getD_some]
      rw [← hr]
      rfl
    · simp [recorded, attempts?, Table.find?_set, ho]

theorem recorded_markComplete (r : Registry) (method other : String) (id : RegistrationId)
    (succeeded : Bool) :
    (r.markComplete method id succeeded).recorded other
      = if other = method then Attempts.update id (Attempt.settle succeeded) (r.recorded method)
        else r.recorded other :=
  r.recorded_modify method other rfl

theorem recorded_remove (r : Registry) (method other : String) (id : RegistrationId) :
    (r.remove method id).recorded other
      = if other = method then Attempts.drop id (r.recorded method) else r.recorded other :=
  r.recorded_modify method other rfl

theorem recorded_settleFailedUnregistration (r : Registry) (method other : String)
    (id : RegistrationId) :
    (r.settleFailedUnregistration method id).recorded other
      = if other = method then Attempts.restore id (r.recorded method) else r.recorded other :=
  r.recorded_modify method other rfl

theorem recorded_setState (r : Registry) (method other : String) (id : RegistrationId)
    (state : AttemptState) :
    (r.setState method id state).recorded other
      = if other = method then Attempts.update id (Attempt.withState state) (r.recorded method)
        else r.recorded other :=
  r.recorded_modify method other rfl

theorem attemptsFor_eq_never_of_recorded_eq_nil {r : Registry} {method : String}
    (h : r.recorded method = []) : r.attemptsFor method = [.never] := by
  simp [attemptsFor, h]

theorem attemptsFor_of_recorded_ne_nil {r : Registry} {method : String}
    (h : r.recorded method ≠ []) : r.attemptsFor method = r.recorded method := by
  unfold attemptsFor
  split
  · next hnil => exact absurd hnil h
  · rfl

end Registry

end EditorSession
