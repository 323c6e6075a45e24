import EditorSession.Registration.Id

/-! # Registration attempts

An attempt is one try to register a capability. It is pending while a request about it waits for its
answer, and the client holds it registered once it accepted. The functions on lists of attempts
address them by identifier: `Attempts.update` changes the first one, `Attempts.drop` removes all. -/

namespace EditorSession

/-- Whether an answer is still to come. -/
inductive AttemptState where
  | pending
  | complete
deriving DecidableEq, Repr

/-- One try to register a capability. Only the stand-in for no attempt at all has no identifier. -/
structure Attempt where
  id : Option RegistrationId
  registered : Bool
  state : AttemptState
deriving DecidableEq, Repr

namespace Attempt

/-- An attempt whose request is on its way. -/
def start (id : RegistrationId) : Attempt := ⟨some id, false, .pending⟩

/-- The stand-in for no attempt at all. -/
def never : Attempt := ⟨none, false, .complete⟩

/-- An answer is still to come. -/
def isPending (a : Attempt) : Bool := a.state = .pending

/-- The client answered and does not hold the registration. -/
def isRejected (a : Attempt) : Bool := a.state = .complete && !a.registered

/-- The attempt bears the identifier. -/
def hasId (a : Attempt) (id : RegistrationId) : Bool := a.id = some id

/-- The attempt with another state. -/
def withState (state : AttemptState) (a : Attempt) : Attempt := { a with state }

/-- The attempt after the answer to its registration. -/
def settle (registered : Bool) (a : Attempt) : Attempt := { a with registered, state := .complete }

theorem isPending_eq_true_iff {a : Attempt} : a.isPending = true ↔ a.state = .pending := by
  simp [isPending]

theorem isRejected_eq_true_iff {a : Attempt} :
    a.isRejected = true ↔ a.state = .complete ∧ a.registered = false := by
  simp [isRejected]

theorem hasId_eq_true_iff {a : Attempt} {id : RegistrationId} :
    a.hasId id = true ↔ a.id = some id := by
  simp [hasId]

@[simp] theorem id_withState (state : AttemptState) (a : Attempt) :
    (a.withState state).id = a.id := rfl

@[simp] theorem id_settle (registered : Bool) (a : Attempt) : (a.settle registered).id = a.id := rfl

end Attempt

/-! ### Lists of attempts -/

namespace Attempts

/-- Changes the first attempt with the identifier. -/
def update (id : RegistrationId) (change : Attempt → Attempt) : List Attempt → List Attempt
  | [] => []
  | a :: rest => if a.hasId id then change a :: rest else a :: update id change rest

/-- Removes every attempt with the identifier. -/
def drop (id : RegistrationId) (attempts : List Attempt) : List Attempt :=
  attempts.filter fun a => !a.hasId id

/-- Removes every attempt with the identifier that is not registered. -/
def dropUnregistered (id : RegistrationId) (attempts : List Attempt) : List Attempt :=
  attempts.filter fun a => !(a.hasId id && !a.registered)

/-- After a refused unregistration the registered attempt stays and the others with its identifier
are gone. -/
def restore (id : RegistrationId) (attempts : List Attempt) : List Attempt :=
  update id (Attempt.withState .complete) (dropUnregistered id attempts)

theorem ids_update {id : RegistrationId} {change : Attempt → Attempt}
    (h : ∀ a, (change a).id = a.id) (attempts : List Attempt) :
    (update id change attempts).map Attempt.id = attempts.map Attempt.id := by
  induction attempts with
  | nil => rfl
  | cons a rest ih => by_cases ha : a.hasId id <;> simp [update, ha, h, ih]

theorem update_of_forall_not {id : RegistrationId} {change : Attempt → Attempt}
    {attempts : List Attempt} (h : ∀ a ∈ attempts, a.hasId id = false) :
    update id change attempts = attempts := by
  induction attempts with
  | nil => rfl
  | cons a rest ih =>
    simp only [List.mem_cons, forall_eq_or_imp] at h
    simp [update, h.1, ih h.2]

end Attempts

end EditorSession
