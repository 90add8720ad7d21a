import SyntaxServer.CommandLine
import SyntaxServer.Diagnostic
import SyntaxServer.Disk.Basic
import SyntaxServer.Disk.Create
import SyntaxServer.Disk.Discover
import SyntaxServer.Disk.Path
import SyntaxServer.Error
import SyntaxServer.Frame
import SyntaxServer.Json.Basic
import SyntaxServer.Json.Codec
import SyntaxServer.Json.Decode
import SyntaxServer.Json.Number
import SyntaxServer.Json.Parse
import SyntaxServer.Json.Render
import SyntaxServer.Language
import SyntaxServer.Main
import SyntaxServer.Product
import SyntaxServer.Server
import SyntaxServer.Session.Basic
import SyntaxServer.Session.Lifecycle
import SyntaxServer.Session.Message
import SyntaxServer.Session.Notice
import SyntaxServer.Session.Params
import SyntaxServer.Session.Reply
import SyntaxServer.Session.Settings
import SyntaxServer.Session.Step
import SyntaxServer.Session.Workspace
import SyntaxServer.Store.Basic
import SyntaxServer.Store.Document
import SyntaxServer.Syntax.Cursor
import SyntaxServer.Syntax.Engine
import SyntaxServer.Syntax.Fold
import SyntaxServer.Syntax.Tree
import SyntaxServer.Text.Basic
import SyntaxServer.Text.Blank
import SyntaxServer.Text.Combining
import SyntaxServer.Text.Decimal
import SyntaxServer.Text.Edit
import SyntaxServer.Text.LineTable
import SyntaxServer.Text.Quoted
import SyntaxServer.Text.Unprintable
import SyntaxServer.Text.Utf8
import SyntaxServer.Uri.Basic
import SyntaxServer.Uri.Escape
import SyntaxServer.Uri.FilePath
import SyntaxServer.Uri.Host
import SyntaxServer.Uri.Parse
import SyntaxServer.Uri.Punycode
import SyntaxServer.Proofs.Text.Beginning
import SyntaxServer.Proofs.Text.Lines
import SyntaxServer.Proofs.Text.Change
import SyntaxServer.Proofs.Text.Points
import SyntaxServer.Proofs.Text.Truthful
import SyntaxServer.Proofs.Editor.Buffer
import SyntaxServer.Proofs.Store.FromScratch
import SyntaxServer.Proofs.Store.Agreement
import SyntaxServer.Proofs.Store.Batch
import SyntaxServer.Proofs.Store.Refusal
import SyntaxServer.Proofs.Store.Hints
import SyntaxServer.Proofs.Store.InPlace
import SyntaxServer.Proofs.Store.Interleaving
import SyntaxServer.Proofs.Store.Sample
import SyntaxServer.Proofs.Store.Versions
import SyntaxServer.Proofs.Separator
import SyntaxServer.Proofs.Frame.RoundTrip
import SyntaxServer.Proofs.Frame.Stream
import SyntaxServer.Proofs.Frame.Grammar
import SyntaxServer.Proofs.Json.RoundTrip
import SyntaxServer.Proofs.Server.Answers
import SyntaxServer.Proofs.Server.ExitCode
import SyntaxServer.Proofs.Server.Progress
import SyntaxServer.Proofs.Server.Responses
import SyntaxServer.Proofs.Session.Diagnostics
import SyntaxServer.Proofs.Session.InPlace
import SyntaxServer.Proofs.Session.Lifecycle
import SyntaxServer.Proofs.Session.Isolation
import SyntaxServer.Proofs.Session.Run
import SyntaxServer.Proofs.Session.Tracking
import SyntaxServer.Proofs.Disk.Discover
import SyntaxServer.Proofs.Disk.Endings
import SyntaxServer.Proofs.Session.Workspace
import SyntaxServer.Proofs.Session.Errors
import SyntaxServer.Proofs.Text.Places
import SyntaxServer.Proofs.Text.Positions
import SyntaxServer.Proofs.Syntax.Address
import SyntaxServer.Proofs.Text.Order
import SyntaxServer.Proofs.Syntax.Innermost
import SyntaxServer.Proofs.Session.Documents
import SyntaxServer.Proofs.Session.Hover
import SyntaxServer.Proofs.Text.Monotone
import SyntaxServer.Proofs.Text.Partition
import SyntaxServer.Proofs.Session.Folding
import SyntaxServer.Proofs.Syntax.Faults
