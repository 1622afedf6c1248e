import KeySheet.Desk.Keys
import KeySheet.Desk.Update
import KeySheet.Main
import KeySheet.Screen.Render
import KeySheet.Proofs.Conversion.Coherence
import KeySheet.Proofs.Conversion.EffectOrder
import KeySheet.Proofs.Conversion.Script
import KeySheet.Proofs.Conversion.SessionTurn
import KeySheet.Proofs.Conversion.Verdict
import KeySheet.Proofs.Desk.Calls
import KeySheet.Proofs.Desk.Owed
import KeySheet.Proofs.Desk.Ledger
import KeySheet.Proofs.Desk.Outstanding
import KeySheet.Proofs.Conversion.Stopping
import KeySheet.Proofs.Conversion.Isolation
import KeySheet.Proofs.Conversion.Relevance
import KeySheet.Proofs.Conversion.Polling
import KeySheet.Proofs.Conversion.Deadline
import KeySheet.Proofs.Conversion.Progress
import KeySheet.Proofs.Conversion.Shown
import KeySheet.Proofs.Conversion.Moments
import KeySheet.Proofs.Conversion.Leftover
import KeySheet.Proofs.Json.Sound
import KeySheet.Proofs.Json.NumberRuns
import KeySheet.Proofs.Json.Numbers
import KeySheet.Proofs.Json.Texts
import KeySheet.Proofs.Json.Grammar
import KeySheet.Proofs.Json.Lookup
import KeySheet.Proofs.Documents.SettingsCodec
import KeySheet.Proofs.Documents.MediaCodec
import KeySheet.Proofs.Documents.RoundTrip
import KeySheet.Proofs.Desk.SavedSettings
import KeySheet.Proofs.Desk.SheetCalls
import KeySheet.Proofs.Desk.SheetAnswers
import KeySheet.Proofs.Sheet.ReadBack
import KeySheet.Proofs.Json.Canonical
import KeySheet.Proofs.Desk.CarriedFields
import KeySheet.Proofs.Desk.Conversation
import KeySheet.Proofs.Desk.Telling
import KeySheet.Proofs.Desk.Agreement
import KeySheet.Proofs.Files.Joined
import KeySheet.Proofs.Desk.SavedSheets
import KeySheet.Proofs.Desk.Overlays
import KeySheet.Proofs.Desk.Panels
import KeySheet.Proofs.Desk.Archive
import KeySheet.Proofs.Sheet.Tokenization
import KeySheet.Proofs.Sheet.Coloring
import KeySheet.Proofs.Sheet.Headers
import KeySheet.Proofs.Sheet.Views
import KeySheet.Proofs.History.Recording
import KeySheet.Proofs.History.Window
import KeySheet.Proofs.Sheet.Page
import KeySheet.Proofs.Desk.Exports
import KeySheet.Proofs.History.Highlight
import KeySheet.Proofs.Desk.ControlKeys
import KeySheet.Proofs.Backend.Uploads
import KeySheet.Proofs.Media.Links
import KeySheet.Proofs.Sheet.DotRuns
import KeySheet.Proofs.Settings.Steps
import KeySheet.Proofs.CommandLine.Groups
import KeySheet.Proofs.Midi.Checked
