import LanguageClient.Loose.Arguments
import LanguageClient.Loose.Completion
import LanguageClient.Loose.Schedule
import LanguageClient.Loose.Session
import LanguageClient.Loose.Settings
import LanguageClient.Main
import LanguageClient.Loose.Document
import LanguageClient.Server.Process
import LanguageClient.Proofs.Frame.Chunks
import LanguageClient.Proofs.Json.Token
import LanguageClient.Proofs.Text.Utf8
import LanguageClient.Proofs.Frame.RoundTrip
import LanguageClient.Proofs.Session.Run
import LanguageClient.Proofs.Session.Sending
import LanguageClient.Proofs.Document.Mirror
import LanguageClient.Proofs.Session.InStep
import LanguageClient.Proofs.Session.Inbox
import LanguageClient.Proofs.Session.Pieces
import LanguageClient.Proofs.Session.Journal
import LanguageClient.Proofs.Session.Servers
import LanguageClient.Proofs.Session.Children
import LanguageClient.Proofs.Message.Grammar
import LanguageClient.Proofs.Session.Spoken
import LanguageClient.Proofs.Session.Answers
import LanguageClient.Proofs.Document.Openness
import LanguageClient.Proofs.Session.Failures
import LanguageClient.Proofs.Session.Openness
import LanguageClient.Proofs.Workspace.Run
import LanguageClient.Proofs.Text.Blank
import LanguageClient.Proofs.Workspace.Sound
import LanguageClient.Proofs.Workspace.Attach
import LanguageClient.Proofs.Frame.Outcome
import LanguageClient.Proofs.Frame.Noise
import LanguageClient.Proofs.Session.Idle
import LanguageClient.Proofs.Session.Steady
import LanguageClient.Proofs.Workspace.Steady
import LanguageClient.Proofs.Document.Revision
import LanguageClient.Proofs.Session.Revision
import LanguageClient.Proofs.Document.Replay
import LanguageClient.Proofs.Session.Lateness
import LanguageClient.Proofs.Session.News
import LanguageClient.Proofs.Session.Registry
import LanguageClient.Proofs.Session.Takings
import LanguageClient.Proofs.Session.Following
import LanguageClient.Proofs.Session.Launches
import LanguageClient.Proofs.Workspace.Retraction
import LanguageClient.Proofs.Path
import LanguageClient.Proofs.Workspace.Routing
import LanguageClient.Proofs.Transport.Sends
import LanguageClient.Proofs.Transport.Polls
import LanguageClient.Proofs.Session.Signals
import LanguageClient.Proofs.Session.Beats
import LanguageClient.Proofs.Session.Freshness
import LanguageClient.Proofs.Session.Popup
import LanguageClient.Proofs.Session.Success
import LanguageClient.Proofs.Workspace.Refusal
import LanguageClient.Proofs.Workspace.Handover
import LanguageClient.Proofs.Document.Lookup
import LanguageClient.Proofs.Diagnostics
import LanguageClient.Proofs.Session.Sorting
import LanguageClient.Proofs.Settings.Merge
import LanguageClient.Proofs.Settings.Timings
import LanguageClient.Proofs.Settings.Unfit
import LanguageClient.Proofs.Text.Parts
import LanguageClient.Proofs.Path.Names
import LanguageClient.Proofs.Settings.Loading
import LanguageClient.Proofs.CommandLine.Run
import LanguageClient.Proofs.Message.Requests
import LanguageClient.Proofs.Schedule.Hover
import LanguageClient.Proofs.Schedule.TokenRefresh
import LanguageClient.Proofs.SemanticTokens
import LanguageClient.Proofs.Settings.Bounds
import LanguageClient.Proofs.Frame.Fields
import LanguageClient.Proofs.Json.Paths
import LanguageClient.Proofs.Settings.Paths
import LanguageClient.Proofs.Text.Case
import LanguageClient.Proofs.Settings.Languages
import LanguageClient.Proofs.Frame.Rest
import LanguageClient.Proofs.Completion
import LanguageClient.Proofs.CommandLine.Arguments
import LanguageClient.Proofs.Server.Process
