import TaskConsole.Main
import TaskConsole.Proofs.Correspondence.Order
import TaskConsole.Proofs.Correspondence.Refusal
import TaskConsole.Proofs.Session.Binding
import TaskConsole.Proofs.Session.Echo
import TaskConsole.Proofs.Session.Retelling
import TaskConsole.Proofs.Session.Provenance
import TaskConsole.Proofs.Session.Staff
import TaskConsole.Proofs.Session.Model
import TaskConsole.Proofs.Session.Dispatch
import TaskConsole.Proofs.Session.Failure
import TaskConsole.Proofs.Session.Gesture
import TaskConsole.Proofs.Session.Watching
import TaskConsole.Proofs.Session.Waiting
import TaskConsole.Proofs.Session.Quitting
import TaskConsole.Proofs.Session.Scrolling
import TaskConsole.Proofs.Conversation.Collision
import TaskConsole.Proofs.Session.FirstSnapshot
import TaskConsole.Proofs.Picker.Run
import TaskConsole.Proofs.Styled.Wrap
import TaskConsole.Proofs.Conversation.Feed
import TaskConsole.Proofs.Session.Transcript
import TaskConsole.Proofs.Json.Written
import TaskConsole.Proofs.Text.Utf8
import TaskConsole.Proofs.Service.EventStream
import TaskConsole.Proofs.Address.Path
import TaskConsole.Proofs.Address.Reading
import TaskConsole.Proofs.Service.Listener
import TaskConsole.Proofs.Styled.BlankRows
import TaskConsole.Proofs.Session.Parts
import TaskConsole.Proofs.Styled.LineFeeds
import TaskConsole.Proofs.Text.Truncate
import TaskConsole.Proofs.Tool.Summary
import TaskConsole.Proofs.Conversation.Columns
import TaskConsole.Proofs.Session.Editing
import TaskConsole.Proofs.Session.Turning
import TaskConsole.Proofs.Styled.Trim
import TaskConsole.Proofs.Session.Paging
import TaskConsole.Proofs.Screen.Feed
import TaskConsole.Proofs.Task.Usage
import TaskConsole.Proofs.Failure.Signatures
import TaskConsole.Proofs.Service.TaskAddress
import TaskConsole.Proofs.Screen.Picker
import TaskConsole.Proofs.Screen.Prompt
import TaskConsole.Proofs.Number.Compact
import TaskConsole.Proofs.Text.HomePath
