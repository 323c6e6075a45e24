import EditorSession.Config.Load
import EditorSession.Log.Telemetry
import EditorSession.Session.Operation
import EditorSession.Proofs.Attempts
import EditorSession.Proofs.Messages
import EditorSession.Proofs.Mail
import EditorSession.Proofs.Ledger
import EditorSession.Proofs.Bookkeeping
import EditorSession.Proofs.Moves
import EditorSession.Proofs.Settling
import EditorSession.Proofs.Performing
import EditorSession.Proofs.Correspondence
import EditorSession.Proofs.Runs
import EditorSession.Proofs.Agreement
import EditorSession.Proofs.AnswerOrder
import EditorSession.Proofs.Convergence
import EditorSession.Proofs.LifeCycle
import EditorSession.Proofs.Posted
import EditorSession.Proofs.Grounds
import EditorSession.Proofs.Unregistrations
import EditorSession.Proofs.Changes
import EditorSession.Proofs.Switch
import EditorSession.Proofs.Refusals
import EditorSession.Proofs.Calls
import EditorSession.Proofs.Overlap
import EditorSession.Proofs.Alike
import EditorSession.Proofs.PushPull
import EditorSession.Proofs.Filling
import EditorSession.Proofs.Interruptions
import EditorSession.Proofs.Layers
import EditorSession.Proofs.Documents
import EditorSession.Proofs.Chains
import EditorSession.Proofs.Merging
import EditorSession.Proofs.Sources
import EditorSession.Proofs.Precedence
import EditorSession.Proofs.Unregistering
import EditorSession.Proofs.Undisturbed
import EditorSession.Proofs.Pulls
import EditorSession.Proofs.Selecting
import EditorSession.Proofs.Numerals
import EditorSession.Proofs.Readings
import EditorSession.Proofs.Responses
import EditorSession.Proofs.Installing
import EditorSession.Proofs.LastWins
import EditorSession.Proofs.Lossless
import EditorSession.Proofs.Spelling
import EditorSession.Proofs.Paths
import EditorSession.Proofs.Renaming
import EditorSession.Proofs.Settlements
