import ClassroomClient.Calendar
import ClassroomClient.Channel
import ClassroomClient.Client.Basic
import ClassroomClient.Client.Step
import ClassroomClient.CommandLine.Launch
import ClassroomClient.CommandLine.Options
import ClassroomClient.CommandLine.Reading
import ClassroomClient.Config
import ClassroomClient.Dictionary
import ClassroomClient.Disk
import ClassroomClient.Display
import ClassroomClient.Download
import ClassroomClient.Exchange.Notification
import ClassroomClient.Exchange.Record
import ClassroomClient.Fragment
import ClassroomClient.Html.Builder.Basic
import ClassroomClient.Html.Builder.Body
import ClassroomClient.Html.Builder.Formatting
import ClassroomClient.Html.Builder.Head
import ClassroomClient.Html.Builder.Run
import ClassroomClient.Html.Builder.Table
import ClassroomClient.Html.Document
import ClassroomClient.Html.Foreign
import ClassroomClient.Html.Layout
import ClassroomClient.Html.Lexer
import ClassroomClient.Html.NamedCharacters
import ClassroomClient.Html.Reference
import ClassroomClient.Html.Render
import ClassroomClient.Html.Token
import ClassroomClient.Json.Fault
import ClassroomClient.Json.Number
import ClassroomClient.Json.Reader
import ClassroomClient.Json.Record
import ClassroomClient.Json.Skip
import ClassroomClient.Json.Value
import ClassroomClient.LogFilter
import ClassroomClient.Main
import ClassroomClient.Page.Basic
import ClassroomClient.Page.Editor
import ClassroomClient.Page.Render
import ClassroomClient.Prompt
import ClassroomClient.Proofs.Calendar.Date
import ClassroomClient.Proofs.Calendar.Timestamp
import ClassroomClient.Proofs.Client.Accounts
import ClassroomClient.Proofs.Client.Bodies
import ClassroomClient.Proofs.Client.Causes
import ClassroomClient.Proofs.Client.Change
import ClassroomClient.Proofs.Client.Confinement
import ClassroomClient.Proofs.Client.Downloads
import ClassroomClient.Proofs.Client.Effect
import ClassroomClient.Proofs.Client.Lines
import ClassroomClient.Proofs.Client.Lock
import ClassroomClient.Proofs.Client.Losses
import ClassroomClient.Proofs.Client.Noise
import ClassroomClient.Proofs.Client.Page
import ClassroomClient.Proofs.Client.Printing
import ClassroomClient.Proofs.Client.Prompts
import ClassroomClient.Proofs.Client.Queue
import ClassroomClient.Proofs.Client.Rankings
import ClassroomClient.Proofs.Client.Requests
import ClassroomClient.Proofs.Client.Rereading
import ClassroomClient.Proofs.Client.Results
import ClassroomClient.Proofs.Client.Run
import ClassroomClient.Proofs.Client.Secrecy
import ClassroomClient.Proofs.Client.Selection
import ClassroomClient.Proofs.Client.View
import ClassroomClient.Proofs.Config
import ClassroomClient.Proofs.Dispatch
import ClassroomClient.Proofs.Exchange.Canonical
import ClassroomClient.Proofs.Exchange.Members
import ClassroomClient.Proofs.Exchange.Notification
import ClassroomClient.Proofs.Exchange.Positions
import ClassroomClient.Proofs.Exchange.Request
import ClassroomClient.Proofs.Fragment
import ClassroomClient.Proofs.Json.Grammar
import ClassroomClient.Proofs.Json.Members
import ClassroomClient.Proofs.Json.Number
import ClassroomClient.Proofs.Json.Places
import ClassroomClient.Proofs.Json.Positions
import ClassroomClient.Proofs.Json.Record
import ClassroomClient.Proofs.Json.Settled
import ClassroomClient.Proofs.Json.Spelling
import ClassroomClient.Proofs.Json.Strings
import ClassroomClient.Proofs.Json.Value
import ClassroomClient.Proofs.Json.Written
import ClassroomClient.Proofs.Page.Channel
import ClassroomClient.Proofs.Page.Files
import ClassroomClient.Proofs.Page.History
import ClassroomClient.Proofs.Page.Lock
import ClassroomClient.Proofs.Page.Panel
import ClassroomClient.Proofs.Page.Reload
import ClassroomClient.Proofs.Page.Responses
import ClassroomClient.Proofs.Page.Run
import ClassroomClient.Proofs.Page.Shared
import ClassroomClient.Proofs.Page.Times
import ClassroomClient.Proofs.Page.Withheld
import ClassroomClient.Proofs.Selector
import ClassroomClient.Proofs.Session.Call
import ClassroomClient.Proofs.Session.Confinement
import ClassroomClient.Proofs.Session.Ending
import ClassroomClient.Proofs.Session.Handshake
import ClassroomClient.Proofs.Session.Lent
import ClassroomClient.Proofs.Session.Manager
import ClassroomClient.Proofs.Session.Noise
import ClassroomClient.Proofs.Session.Opening
import ClassroomClient.Proofs.Session.Ownership
import ClassroomClient.Proofs.Session.Routing
import ClassroomClient.Proofs.Session.Run
import ClassroomClient.Proofs.Session.Subscriptions
import ClassroomClient.Proofs.Session.Tasks
import ClassroomClient.Proofs.Session.Told
import ClassroomClient.Proofs.Session.Traffic
import ClassroomClient.Proofs.Session.Wire
import ClassroomClient.Proofs.Stomp.Continuation
import ClassroomClient.Proofs.Stomp.Escape
import ClassroomClient.Proofs.Stomp.Head
import ClassroomClient.Proofs.Stomp.Header
import ClassroomClient.Proofs.Stomp.LineEnds
import ClassroomClient.Proofs.Stomp.NormalForm
import ClassroomClient.Proofs.Stomp.RoundTrip
import ClassroomClient.Proofs.Submission
import ClassroomClient.Proofs.Text
import ClassroomClient.Proofs.Url
import ClassroomClient.Route
import ClassroomClient.Selector.Basic
import ClassroomClient.Selector.Match
import ClassroomClient.Selector.Reader
import ClassroomClient.Selector.Token
import ClassroomClient.Session.Basic
import ClassroomClient.Session.Handshake
import ClassroomClient.Session.Manager
import ClassroomClient.Session.Opening
import ClassroomClient.Session.Subscriptions
import ClassroomClient.Stomp.Frame
import ClassroomClient.Stomp.Header
import ClassroomClient.Submission
import ClassroomClient.Text.Alphanumeric
import ClassroomClient.Text.Blank
import ClassroomClient.Text.CodeTable
import ClassroomClient.Text.Composition
import ClassroomClient.Text.Decimal
import ClassroomClient.Text.Decomposition
import ClassroomClient.Text.Plain
import ClassroomClient.Text.Printable
import ClassroomClient.Text.Quoted
import ClassroomClient.Text.RangeTable
import ClassroomClient.Text.Shortest
import ClassroomClient.Text.Similarity
import ClassroomClient.Text.Utf8
import ClassroomClient.Url.Basic
import ClassroomClient.Url.Host
import ClassroomClient.Url.Idna.Label
import ClassroomClient.Url.Idna.Mapping
import ClassroomClient.Url.Idna.Properties
import ClassroomClient.Url.Idna.Punycode
import ClassroomClient.Url.Parser
import ClassroomClient.Url.Path
import ClassroomClient.Url.Percent
