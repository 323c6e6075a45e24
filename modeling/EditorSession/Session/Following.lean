import EditorSession.Message.Response
import EditorSession.Session.Registering

/-! # Following the client's settings

The client's settings say whether to format while typing. When that changes and the client allows
it, the method is registered or unregistered. The new value is kept whether the request could be
sent or not, so that the same settings are not acted upon twice. -/

namespace EditorSession.Session

/-- The keys below the session's section that lead to the switch. -/
def formatOnTypeKeys : List String := ["editorService", "formatOnType", "enable"]

/-- The character that makes the client ask for formatting. -/
def onTypeFormattingOptions : Json := .object [("firstTriggerCharacter", .string ">")]

/-- Registers formatting while typing, or unregisters it. -/
def toggleOnTypeFormatting (s : Session) (enable : Bool) : Outcome Unit :=
  if enable then
    match s.registerCapability Method.onTypeFormatting (some onTypeFormattingOptions) with
    | (.ok _, s) => (.ok (), s)
    | (.error e, s) => (.error e, s)
  else s.unregisterCapability Method.onTypeFormatting

/-- The value of the switch in the settings, if they hold one. -/
def requestedFormatOnType (s : Session) (settings : Json) : Option Bool :=
  settings.lookupBool (s.sectionName :: formatOnTypeKeys)

/-- Takes over the client's settings. -/
def applySettings (s : Session) (settings : Json) : Outcome Unit :=
  match s.requestedFormatOnType settings with
  | none => (.ok (), s.note .debug clientTarget "settings do not set formatOnType" [])
  | some enable =>
    if enable = s.formatOnType then (.ok (), s)
    else
      let (result, s) :=
        if s.capabilities.supportsDynamicRegistration Method.onTypeFormatting then
          s.toggleOnTypeFormatting enable
        else (.ok (), s)
      let s := s.note .debug clientTarget "settings applied" [("format_on_type", .flag enable)]
      (result, { s with settings := ⟨enable⟩ })

/-- Takes over settings that the client sent on its own. Null says that the settings have to be
pulled. -/
def changeConfiguration (s : Session) (settings : Json) : Outcome Unit :=
  if settings = .null then
    match s.pullConfiguration with
    | (.ok _, s) => (.ok (), s)
    | (.error e, s) => (.error e, s)
  else s.applySettings settings

/-- Takes over the settings that answer a pull: the first item is the content of the section. -/
def onConfigurationResponse (s : Session) (response : Response) : Outcome Unit :=
  match response.error with
  | some error =>
    (.ok (), s.note .warn clientTarget "configuration request failed"
      [("code", .integer error.code), (Log.messageField, .bare error.message)])
  | none =>
    match response.result with
    | some (.array (content :: _)) => s.applySettings (.object [(s.sectionName, content)])
    | _ => (.ok (), s.note .debug clientTarget "configuration response carried no settings" [])

end EditorSession.Session
