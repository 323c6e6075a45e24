import EditorSession.Text.Pieces

/-! # Method names

A method name is a text of segments between slashes. The names that the session itself uses are the
requests it sends and the two methods that it registers. -/

namespace EditorSession.Method

/-- The request that registers capabilities with the client. -/
def registerCapability : String := "client/registerCapability"

/-- The request that unregisters capabilities. -/
def unregisterCapability : String := "client/unregisterCapability"

/-- The request that pulls sections of the client's configuration. -/
def configuration : String := "workspace/configuration"

/-- The notification of a changed configuration. -/
def didChangeConfiguration : String := "workspace/didChangeConfiguration"

/-- The request to format while the user types. -/
def onTypeFormatting : String := "textDocument/onTypeFormatting"

/-! ### Segments -/

/-- The segments of a method name, between its slashes. -/
def segments (method : String) : List String := (Text.pieces '/' method.toList).map String.ofList

theorem segments_ne_nil (method : String) : segments method ≠ [] := by
  simp [segments, Text.pieces_ne_nil]

end EditorSession.Method
