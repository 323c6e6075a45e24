import EditorSession.Message.Request
import EditorSession.Session.Error

/-! # The connection to the client

A connection accepts or refuses each request that it is given, and remembers all of them. How it
answers is a schedule, fixed in advance: the answer to the first request, to the second, and so on.
-/

namespace EditorSession

/-- A request that was given to a connection. -/
structure Dispatch where
  request : Request
  accepted : Bool
deriving DecidableEq, Repr

/-- A connection, with the requests it was given in their order. -/
structure Connection where
  /-- Why the request of that index is refused, if it is. -/
  refusal : Nat → Option TransportError
  dispatched : List Dispatch

namespace Connection

/-- The connection that accepts everything. -/
def accepting : Connection := ⟨fun _ => none, []⟩

/-- The connection that accepts so many more requests and refuses those after them. -/
def refuseAfter (c : Connection) (allowed : Nat) (cause : TransportError) : Connection :=
  let limit := c.dispatched.length + allowed
  { c with refusal := fun index => if index < limit then none else some cause }

/-- The connection that accepts everything from now on. -/
def acceptAll (c : Connection) : Connection := { c with refusal := fun _ => none }

/-- Gives a request to the connection. -/
def give (c : Connection) (request : Request) : Except TransportError Unit × Connection :=
  match c.refusal c.dispatched.length with
  | none => (.ok (), { c with dispatched := c.dispatched ++ [⟨request, true⟩] })
  | some cause => (.error cause, { c with dispatched := c.dispatched ++ [⟨request, false⟩] })

/-- The requests that were accepted, in their order. -/
def sent (c : Connection) : List Request := (c.dispatched.filter (·.accepted)).map (·.request)

end Connection

end EditorSession
