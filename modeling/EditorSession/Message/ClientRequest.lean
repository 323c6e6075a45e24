import EditorSession.Json.Decoder
import EditorSession.Message.Method
import EditorSession.Message.Request
import EditorSession.Message.Uri
import EditorSession.Registration.Id

/-! # Requests to the client

The server asks the client for three things: to register capabilities, to unregister them, and to
tell sections of its configuration. -/

namespace EditorSession

open Json (Decoder Record Field DecodeError decodeValue)

/-- One capability to register. Options that are null are told apart from no options. -/
structure Registration where
  id : RegistrationId
  method : String
  options : Option Json
deriving DecidableEq, Repr

/-- One registration to take back. -/
structure Unregistration where
  id : RegistrationId
  method : String
deriving DecidableEq, Repr

/-- One section of the configuration, of the whole workspace or of one resource. -/
structure ConfigurationItem where
  scope : Option Uri
  sectionName : Option String
deriving DecidableEq, Repr

/-- What the server asks the client for. -/
inductive ClientRequest where
  | register (registrations : List Registration)
  | unregister (unregistrations : List Unregistration)
  | configuration (items : List ConfigurationItem)
deriving DecidableEq, Repr

/-! ### Values -/

/-- The member, if there is something to write. -/
def optionalMember {α : Type} (name : String) (write : α → Json) (content : Option α) :
    List (String × Json) :=
  (content.map fun a => (name, write a)).toList

/-- The registration as a parameter. -/
def Registration.toJson (r : Registration) : Json :=
  .object ([("id", .string r.id.text), ("method", .string r.method)]
    ++ optionalMember "registerOptions" (fun o => o) r.options)

/-- The unregistration as a parameter. -/
def Unregistration.toJson (u : Unregistration) : Json :=
  .object [("id", .string u.id.text), ("method", .string u.method)]

/-- The item as a parameter. -/
def ConfigurationItem.toJson (i : ConfigurationItem) : Json :=
  .object (optionalMember "scopeUri" (fun uri => .string uri.text) i.scope
    ++ optionalMember "section" .string i.sectionName)

namespace ClientRequest

/-- The method of a request. -/
def method : ClientRequest → String
  | register _ => Method.registerCapability
  | unregister _ => Method.unregisterCapability
  | configuration _ => Method.configuration

/-- The parameters of a request. The protocol spells the list of unregistrations in its own way. -/
def params : ClientRequest → Json
  | register registrations => .object [("registrations", .array (registrations.map (·.toJson)))]
  | unregister entries => .object [("unregisterations", .array (entries.map (·.toJson)))]
  | configuration items => .object [("items", .array (items.map (·.toJson)))]

/-- The message with that number. -/
def toRequest (r : ClientRequest) (id : Int) : Request := ⟨id, r.method, some r.params⟩

end ClientRequest

/-! ### Decoders -/

/-- Reads one registration. -/
def Registration.decoder : Decoder Registration := fun source outline => do
  let shape : Record := ⟨"Registration", [
    .of "id" .string false false,
    .of "method" .string false false,
    .of "registerOptions" (.optional .value) true false]⟩
  let found ← shape.select source outline
  let id ← found.field "id" .string
  let method ← found.field "method" .string
  let options ← found.field? "registerOptions" (.optional .value)
  return ⟨⟨id⟩, method, options.join⟩

/-- Reads one unregistration. -/
def Unregistration.decoder : Decoder Unregistration := fun source outline => do
  let shape : Record := ⟨"Unregistration", [
    .of "id" .string false false,
    .of "method" .string false false]⟩
  let found ← shape.select source outline
  let id ← found.field "id" .string
  let method ← found.field "method" .string
  return ⟨⟨id⟩, method⟩

/-- Reads a reference to a resource. -/
def Uri.decoder : Decoder Uri := fun source outline => do
  let text ← Decoder.string source outline
  match Uri.ofText text with
  | .ok uri => return uri
  | .error defect => (Json.Fault.unreadable defect.message).raise

/-- Reads one item. -/
def ConfigurationItem.decoder : Decoder ConfigurationItem := fun source outline => do
  let shape : Record := ⟨"ConfigurationItem", [
    .of "scopeUri" (.optional Uri.decoder) true false,
    .of "section" (.optional .string) true false]⟩
  let found ← shape.select source outline
  let scope ← found.field? "scopeUri" (.optional Uri.decoder)
  let sectionName ← found.field? "section" (.optional .string)
  return ⟨scope.join, sectionName.join⟩

/-- Reads a record with one field, which it cannot do without. -/
def soleField {α : Type} (record name : String) (d : Decoder α) : Decoder α :=
  fun source outline => do
    let shape : Record := ⟨record, [.of name d false false]⟩
    let found ← shape.select source outline
    found.field name d

namespace ClientRequest

/-- Reads the parameters of a registration. -/
def registerOfValue (value : Json) : Except DecodeError ClientRequest :=
  (decodeValue (soleField "RegistrationParams" "registrations" (.list Registration.decoder))
    value).map register

/-- Reads the parameters of an unregistration. -/
def unregisterOfValue (value : Json) : Except DecodeError ClientRequest :=
  (decodeValue (soleField "UnregistrationParams" "unregisterations" (.list Unregistration.decoder))
    value).map unregister

/-- Reads the parameters of a configuration request. -/
def configurationOfValue (value : Json) : Except DecodeError ClientRequest :=
  (decodeValue (soleField "ConfigurationParams" "items" (.list ConfigurationItem.decoder))
    value).map configuration

end ClientRequest

/-- Reads the settings out of the parameters of a notification that they changed. -/
def changedSettingsOfValue (value : Json) : Except DecodeError Json :=
  decodeValue (soleField "DidChangeConfigurationParams" "settings" .value) value

end EditorSession
