import EditorSession.Session.Answering

/-! # Operations of a session

`Operation` lists what a session can be asked to do, `Session.perform` does it, and `Session.run`
does one thing after another. -/

namespace EditorSession

/-- What a session can be asked to do. -/
inductive Operation where
  /-- The client declares its capabilities. -/
  | declare (capabilities : Json)
  /-- The client is ready. -/
  | initialised
  /-- The client's settings changed; null says that they have to be pulled. -/
  | change (settings : Json)
  | register (method : String) (options : Option Json)
  | unregister (method : String)
  | pull
  | apply (settings : Json)
  /-- A response arrived. -/
  | handle (response : Response)
  | onRegister (response : Response) (asked : ClientRequest)
  | onUnregister (response : Response) (asked : ClientRequest)
  | onConfiguration (response : Response)
deriving DecidableEq, Repr

/-- What an operation returns. -/
inductive Reply where
  | done
  | requestId (id : Int)
  | registrationId (id : RegistrationId)
deriving DecidableEq, Repr

namespace Session

/-! ### Start of the conversation -/

/-- Takes over the capabilities that the client declares. -/
def declareCapabilities (s : Session) (capabilities : Json) : Session :=
  ({ s with capabilities := ⟨capabilities⟩ } : Session).note .debug clientTarget
    "client capabilities replaced" []

/-- The client is ready: asks to be told about changes of the configuration, if the client can. -/
def initialised (s : Session) : Outcome Unit :=
  let s := s.note .info clientTarget "client has received initialisation" []
  if s.capabilities.supportsDynamicRegistration Method.didChangeConfiguration then
    match s.registerCapability Method.didChangeConfiguration (some (.object [])) with
    | (.ok _, s) => (.ok (), s)
    | (.error e, s) => (.error e, s)
  else
    (.ok (), s.note .debug clientTarget
      ("client does not support didChangeConfiguration dynamic registration; "
        ++ "relying on pushed configuration") [])

/-! ### All operations -/

/-- The outcome with the result turned into a reply. -/
def replying {α : Type} (reply : α → Reply) (outcome : Outcome α) : Outcome Reply :=
  (outcome.1.map reply, outcome.2)

/-- Does what it is asked to do. -/
def perform (s : Session) : Operation → Outcome Reply
  | .declare capabilities => (.ok .done, s.declareCapabilities capabilities)
  | .initialised => replying (fun _ => .done) s.initialised
  | .change settings => replying (fun _ => .done) (s.changeConfiguration settings)
  | .register method options => replying .registrationId (s.registerCapability method options)
  | .unregister method => replying (fun _ => .done) (s.unregisterCapability method)
  | .pull => replying .requestId s.pullConfiguration
  | .apply settings => replying (fun _ => .done) (s.applySettings settings)
  | .handle response => replying (fun _ => .done) (s.handleResponse response)
  | .onRegister response asked =>
    replying (fun _ => .done) (s.onRegisterResponse response asked)
  | .onUnregister response asked =>
    replying (fun _ => .done) (s.onUnregisterResponse response asked)
  | .onConfiguration response => replying (fun _ => .done) (s.onConfigurationResponse response)

/-- The session after operations, one after the other. -/
def run (s : Session) (operations : List Operation) : Session :=
  operations.foldl (fun s operation => (s.perform operation).2) s

@[simp] theorem run_cons (s : Session) (operation : Operation) (rest : List Operation) :
    s.run (operation :: rest) = (s.perform operation).2.run rest := rfl

theorem run_append (s : Session) (first second : List Operation) :
    s.run (first ++ second) = (s.run first).run second := List.foldl_append

end Session

end EditorSession
