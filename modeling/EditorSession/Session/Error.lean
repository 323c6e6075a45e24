import EditorSession.Json.EncodeError

/-! # Why a session operation fails

An operation fails when a request cannot be encoded or sent, or when a response is handed to the
handler of another kind of request. -/

namespace EditorSession

/-- Why the connection refused a request. -/
inductive TransportError where
  | disconnected
  | io (text : String)
  | encode (error : Json.EncodeError)
deriving DecidableEq, Repr

/-- Why a session operation failed. -/
inductive ClientError where
  /-- The response answers a request of the method `actual`, and the handler is for `expected`. -/
  | unexpectedResponse (expected actual : String)
  /-- A request of the method was refused by the connection. -/
  | transport (method : String) (cause : TransportError)
  /-- The parameters of a request of the method could not be encoded. -/
  | encode (method : String) (error : Json.EncodeError)
deriving DecidableEq, Repr

/-- The text of a refusal. -/
def TransportError.message : TransportError → String
  | disconnected => "client connection is closed"
  | io text => "I/O error: " ++ text
  | encode error => "failed to encode message: " ++ error.message

namespace ClientError

/-- The text of the failure that caused this one, if one did. -/
def cause? : ClientError → Option String
  | unexpectedResponse .. => none
  | transport _ cause => some cause.message
  | encode _ error => some error.message

/-- The text of a failure. -/
def message : ClientError → String
  | unexpectedResponse expected actual =>
    "response to a '" ++ actual ++ "' request was routed to the '" ++ expected ++ "' handler"
  | transport method cause => "failed to send '" ++ method ++ "' request: " ++ cause.message
  | encode method error =>
    "failed to encode '" ++ method ++ "' parameters: " ++ error.message

end ClientError

end EditorSession
