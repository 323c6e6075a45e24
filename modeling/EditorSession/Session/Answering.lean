import EditorSession.Session.Following

/-! # Handling the client's answers

A response is matched with the request of its number and handed to the handler of that kind of
request. A response without a number, or with one that nobody waits for, is dropped. Whether the
client accepted is read off the presence of a result. -/

namespace EditorSession.Session

/-! ### Answers to registrations -/

/-- Settles refused registrations. -/
def refuseRegistrations (s : Session) : List Registration → Session
  | [] => s
  | r :: rest =>
    let s := s.note .warn registrationTarget "client rejected dynamic registration"
      [("method", .bare r.method), ("id", .bare r.id.text)]
    refuseRegistrations { s with registry := s.registry.markComplete r.method r.id false } rest

/-- Settles accepted registrations. Once changes of the configuration are announced, the current
settings are pulled; if that fails, the registrations after it are left as they are. -/
def acceptRegistrations (s : Session) : List Registration → Outcome Unit
  | [] => (.ok (), s)
  | r :: rest =>
    let s := s.note .info registrationTarget "successfully dynamically registered capability"
      [("method", .bare r.method), ("id", .bare r.id.text)]
    let s := { s with registry := s.registry.markComplete r.method r.id true }
    if r.method = Method.didChangeConfiguration then
      match s.pullConfiguration with
      | (.ok _, s) => s.acceptRegistrations rest
      | (.error e, s) => (.error e, s)
    else s.acceptRegistrations rest

/-- Handles the answer to a register request. -/
def onRegisterResponse (s : Session) (response : Response) (asked : ClientRequest) :
    Outcome Unit :=
  match asked with
  | .register registrations =>
    if response.hasResult then s.acceptRegistrations registrations
    else (.ok (), s.refuseRegistrations registrations)
  | other => (.error (.unexpectedResponse Method.registerCapability other.method), s)

/-! ### Answers to unregistrations -/

/-- Settles refused unregistrations. -/
def refuseUnregistrations (s : Session) : List Unregistration → Session
  | [] => s
  | u :: rest =>
    let s := s.note .warn registrationTarget "client rejected dynamic deregistration"
      [("method", .bare u.method), ("id", .bare u.id.text)]
    refuseUnregistrations
      { s with registry := s.registry.settleFailedUnregistration u.method u.id } rest

/-- Settles accepted unregistrations. -/
def acceptUnregistrations (s : Session) : List Unregistration → Session
  | [] => s
  | u :: rest =>
    let s := s.note .info registrationTarget "successfully dynamically unregistered capability"
      [("method", .bare u.method), ("id", .bare u.id.text)]
    acceptUnregistrations { s with registry := s.registry.remove u.method u.id } rest

/-- Handles the answer to an unregister request. -/
def onUnregisterResponse (s : Session) (response : Response) (asked : ClientRequest) :
    Outcome Unit :=
  match asked with
  | .unregister entries =>
    if response.hasResult then (.ok (), s.acceptUnregistrations entries)
    else (.ok (), s.refuseUnregistrations entries)
  | other => (.error (.unexpectedResponse Method.unregisterCapability other.method), s)

/-! ### Any answer -/

/-- Hands a response to the handler of the request that it answers. -/
def handleResponse (s : Session) (response : Response) : Outcome Unit :=
  match response.id with
  | none => (.ok (), s.note .warn clientTarget "dropping response without an id" [])
  | some id =>
    match s.outstanding.find? id with
    | none =>
      (.ok (), s.note .warn clientTarget "dropping response for unknown request"
        [("request_id", .integer id)])
    | some asked =>
      let s := { s with outstanding := s.outstanding.erase id }
      let s := s.note .debug clientTarget "routing response"
        [("request_id", .integer id), ("method", .quoted asked.method)]
      match asked with
      | .register _ => s.onRegisterResponse response asked
      | .unregister _ => s.onUnregisterResponse response asked
      | .configuration _ => s.onConfigurationResponse response

end EditorSession.Session
