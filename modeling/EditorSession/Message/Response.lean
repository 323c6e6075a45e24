import EditorSession.Json.Decoder
import EditorSession.Message.Request

/-! # Responses

A response bears the number of the request it answers and a result or an error. Whether a result is
there is what tells acceptance from refusal, and a null counts as a result. -/

namespace EditorSession

open Json (Decoder Record Field DecodeError decodeText decodeValue)

/-- Why the client could not answer a request. -/
structure ResponseError where
  code : Int
  message : String
  data : Option Json
deriving DecidableEq, Repr

/-- An answer to a request. -/
structure Response where
  version : String
  id : Option Int
  result : Option Json
  error : Option ResponseError
deriving DecidableEq, Repr

namespace ResponseError

/-- The fields of an error; the data may be left out. -/
def shape : Record where
  name := "JsonRpcError"
  fields := [
    .of "code" .int64 false false,
    .of "message" .string false false,
    .of "data" (.optional .value) true true]

/-- Reads an error. Data that is null is no data. -/
def decoder : Decoder ResponseError := fun source outline => do
  let found ← shape.select source outline
  let code ← found.field "code" .int64
  let message ← found.field "message" .string
  let data ← found.field? "data" (.optional .value)
  return ⟨code, message, data.join⟩

end ResponseError

namespace Response

/-- The answer with a result. -/
def success (id : Int) (result : Json) : Response := ⟨Request.version, some id, some result, none⟩

/-- The answer with an error. -/
def failure (id : Int) (code : Int) (message : String) : Response :=
  ⟨Request.version, some id, none, some ⟨code, message, none⟩⟩

/-- The response has a result, possibly null. -/
def hasResult (r : Response) : Bool := r.result.isSome

/-- The fields of a response. Each may be left out of an object; a sequence has to reach the number.
-/
def shape : Record where
  name := "JsonRpcResponse"
  fields := [
    .of "jsonrpc" .string true true,
    .of "id" (.optional .int64) true false,
    .of "result" .value true true,
    .of "error" (.optional ResponseError.decoder) true true]

/-- Reads a response. A result that is null is there, a number or an error that is null is not. -/
def decoder : Decoder Response := fun source outline => do
  let found ← shape.select source outline
  let version ← found.field? "jsonrpc" .string
  let id ← found.field? "id" (.optional .int64)
  let result ← found.field? "result" .value
  let error ← found.field? "error" (.optional ResponseError.decoder)
  return ⟨version.getD "", id.join, result, error.join⟩

/-- Reads a response from a text. -/
def ofText (text : String) : Except DecodeError Response := decodeText decoder text

/-- Reads a response from a value. -/
def ofValue (value : Json) : Except DecodeError Response := decodeValue decoder value

end Response

end EditorSession
