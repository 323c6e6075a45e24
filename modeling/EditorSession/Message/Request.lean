import EditorSession.Json.Printer

/-! # Requests

A request carries a number, by which its answer is recognised, a method and parameters. A request
without parameters is told apart from one whose parameters are null. -/

namespace EditorSession

/-- A request as it goes over the wire. -/
structure Request where
  id : Int
  method : String
  params : Option Json
deriving DecidableEq, Repr

namespace Request

/-- The version of the message format. -/
def version : String := "2.0"

/-- The members of the message in the order in which they are written. -/
def members (r : Request) : List (String × Json) :=
  [("jsonrpc", .string version), ("id", .int r.id), ("method", .string r.method)]
    ++ (r.params.map fun p => ("params", p)).toList

/-- The message as a value. -/
def toJson (r : Request) : Json := .object r.members

/-- The message as a text. -/
def text (r : Request) : String := r.toJson.render

end Request

end EditorSession
