import EditorSession.Capability
import EditorSession.Config.Basic
import EditorSession.Log.Event
import EditorSession.Message.ClientRequest
import EditorSession.Registration.Registry
import EditorSession.Session.Connection

/-! # The session with a client

A session holds what the server knows of one client: its capabilities, the registration attempts,
the requests that wait for an answer, and the settings that were taken over. It also holds what the
outside world contributes, the connection and the supply of fresh registration identifiers, and the
log of its events.

An operation of a session has an outcome: its result, or why it failed, and the session afterwards.
What an operation did before it failed stays done unless the operation says otherwise. -/

namespace EditorSession

/-- The client's settings that the session follows. -/
structure Settings where
  formatOnType : Bool := false
deriving DecidableEq, Repr

/-- A session with one client. -/
structure Session where
  connection : Connection
  /-- The fresh identifiers, of which the first `drawn` are in use. -/
  supply : Nat → RegistrationId
  drawn : Nat
  capabilities : Capabilities
  registry : Registry
  settings : Settings
  /-- The section of the client's configuration that belongs to the server. -/
  sectionName : String
  /-- The requests that wait for an answer, by their numbers. -/
  outstanding : Table Int ClientRequest
  nextRequestId : Int
  log : List Log.Event

/-- The result of an operation and the session after it. -/
abbrev Outcome (α : Type) := Except ClientError α × Session

namespace Session

/-! ### Start -/

/-- The session before anything happened. -/
def start (connection : Connection) (supply : Nat → RegistrationId) (config : Config) :
    Session where
  connection
  supply
  drawn := 0
  capabilities := .none
  registry := .empty
  settings := ⟨config.formatOnType⟩
  sectionName := config.configurationSection
  outstanding := .empty
  nextRequestId := 1
  log := []

/-! ### Log -/

/-- The target of events about the session. -/
def clientTarget : String := "puppet-lsp-client::client"

/-- The target of events about registrations. -/
def registrationTarget : String := "puppet-lsp-client::registration"

/-- Adds an event to the log. -/
def note (s : Session) (level : Log.Level) (target message : String)
    (fields : List (String × Log.Value)) : Session :=
  { s with log := s.log ++ [⟨level, target, message, fields⟩] }

/-! ### Views -/

/-- The attempts to register a method. -/
def attemptsFor (s : Session) (method : String) : List Attempt := s.registry.attemptsFor method

/-- The value of a capability that the client declared. -/
def capability (s : Session) (path : List String) : Option Json := s.capabilities.capability path

/-- Formatting while typing is switched on. -/
def formatOnType (s : Session) : Bool := s.settings.formatOnType

/-- The request with that number, if it waits for an answer. -/
def outstandingRequest (s : Session) (id : Int) : Option ClientRequest := s.outstanding.find? id

/-- The number of requests that wait for an answer. -/
def outstandingCount (s : Session) : Nat := s.outstanding.size

/-! ### Sending -/

/-- Sends a request under the next number. A refused request takes no number and is not waited for.
-/
def send (s : Session) (request : ClientRequest) : Outcome Int :=
  let id := s.nextRequestId
  match s.connection.give (request.toRequest id) with
  | (.error cause, connection) => (.error (.transport request.method cause), { s with connection })
  | (.ok (), connection) =>
    let s := { s with connection }
    let s := s.note .debug clientTarget "sent client request"
      [("method", .quoted request.method), ("request_id", .integer id)]
    (.ok id, { s with
      nextRequestId := id + 1
      outstanding := s.outstanding.set id request })

/-- Asks the client for the settings in the session's section. -/
def pullConfiguration (s : Session) : Outcome Int :=
  s.send (.configuration [⟨none, some s.sectionName⟩])

end Session

end EditorSession
