import EditorSession.Session.Basic

/-! # Registering and unregistering capabilities

A register request carries one registration, so that a refusal concerns one attempt. An unregister
request carries every attempt of a method that the client has not refused. A request that cannot be
sent leaves the recorded attempts as they were. -/

namespace EditorSession.Session

/-- The message about a request that overtakes another one about the same method. -/
def alreadyInProgress : String := "a dynamic registration or deregistration is already in progress"

/-! ### Registering -/

/-- The next fresh identifier, and the session that has used it up. -/
def drawId (s : Session) : RegistrationId × Session :=
  (s.supply s.drawn, { s with drawn := s.drawn + 1 })

/-- Asks the client to register a method; the result is the identifier of the attempt. -/
def registerCapability (s : Session) (method : String) (options : Option Json) :
    Outcome RegistrationId :=
  let (id, s) := s.drawId
  let s := s.note .info registrationTarget "attempting to dynamically register capability"
    [("method", .quoted method), ("id", .bare id.text)]
  let s := if s.registry.hasPending method then
      s.note .warn registrationTarget alreadyInProgress [("method", .quoted method)]
    else s
  let s := { s with registry := s.registry.recordAttempt method id }
  match s.send (.register [⟨id, method, options⟩]) with
  | (.ok _, s) => (.ok id, s)
  | (.error e, s) => (.error e, { s with registry := s.registry.remove method id })

/-! ### Unregistering -/

/-- The identifier of an attempt that the client holds or may come to hold. -/
def liveId? (a : Attempt) : Option RegistrationId := if a.isRejected then none else a.id

/-- The attempt as it is while its unregistration is under way. -/
def markLive (a : Attempt) : Attempt := if (liveId? a).isSome then a.withState .pending else a

/-- The identifiers and states of the attempts that are to be unregistered. -/
def liveStates (attempts : List Attempt) : List (RegistrationId × AttemptState) :=
  attempts.filterMap fun a => (liveId? a).map fun id => (id, a.state)

/-- Notes every attempt that a request about it is already under way for. -/
def notePending (s : Session) (method : String) : List Attempt → Session
  | [] => s
  | a :: rest =>
    match a.id with
    | some id =>
      if a.isPending then
        (s.note .warn registrationTarget alreadyInProgress
          [("method", .quoted method), ("id", .bare id.text)]).notePending method rest
      else s.notePending method rest
    | none => s.notePending method rest

/-- Gives attempts of a method their states back. -/
def restoreStates (r : Registry) (method : String) :
    List (RegistrationId × AttemptState) → Registry
  | [] => r
  | (id, state) :: rest => restoreStates (r.setState method id state) method rest

/-- Asks the client to unregister every attempt of a method that it has not refused. -/
def unregisterCapability (s : Session) (method : String) : Outcome Unit :=
  match s.registry.attempts? method with
  | none =>
    (.ok (), s.note .debug registrationTarget "no registrations to deregister"
      [("method", .quoted method)])
  | some attempts =>
    let s := s.notePending method attempts
    match liveStates attempts with
    | [] =>
      (.ok (),
        s.note .debug registrationTarget "nothing to deregister" [("method", .quoted method)])
    | live =>
      let s := { s with registry := s.registry.modify method (List.map markLive) }
      match s.send (.unregister (live.map fun (id, _) => ⟨id, method⟩)) with
      | (.ok _, s) => (.ok (), s)
      | (.error e, s) => (.error e, { s with registry := restoreStates s.registry method live })

end EditorSession.Session
