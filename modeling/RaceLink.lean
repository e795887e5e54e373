import RaceLink.Decimal.Shortest
import RaceLink.Delivery.Audience
import RaceLink.Delivery.Feed
import RaceLink.Delivery.Hub
import RaceLink.Delivery.Latest
import RaceLink.Delivery.Notice
import RaceLink.Delivery.Ring
import RaceLink.Delivery.Throttle
import RaceLink.Endpoint.Domain
import RaceLink.Endpoint.Host
import RaceLink.Endpoint.Percent
import RaceLink.Endpoint.Punycode
import RaceLink.Endpoint.Url
import RaceLink.Fault
import RaceLink.Json.Basic
import RaceLink.Json.Choice
import RaceLink.Json.Lexeme
import RaceLink.Json.Printer
import RaceLink.Json.Record
import RaceLink.Json.Refusal
import RaceLink.Json.Skip
import RaceLink.Json.Tree
import RaceLink.Link.Basic
import RaceLink.Link.Counters
import RaceLink.Link.Handle
import RaceLink.Link.Peer
import RaceLink.Link.Run
import RaceLink.Link.Script
import RaceLink.Link.Stream
import RaceLink.Link.Turn
import RaceLink.Race.Command
import RaceLink.Race.Flag
import RaceLink.Race.Frame
import RaceLink.Race.Lap
import RaceLink.Race.Model
import RaceLink.Race.Rate
import RaceLink.Race.Session
import RaceLink.Race.Status
import RaceLink.Record.Layout
import RaceLink.Record.Mismatch
import RaceLink.Settings.Basic
import RaceLink.Settings.File
import RaceLink.Settings.Valid
import RaceLink.Socket.Message
import RaceLink.Socket.Network
import RaceLink.Socket.Session
import RaceLink.Text.Compose
import RaceLink.Text.Direction
import RaceLink.Text.Fold
import RaceLink.Text.Joiner
import RaceLink.Text.Place
import RaceLink.Text.Printable
import RaceLink.Text.Quoted
import RaceLink.Text.Table
import RaceLink.Word
import RaceLink.Yaml.Document
import RaceLink.Yaml.Event
import RaceLink.Yaml.Glyph
import RaceLink.Yaml.Meaning
import RaceLink.Yaml.Record
import RaceLink.Yaml.Refusal
import RaceLink.Yaml.Scalar
import RaceLink.Yaml.Token
import RaceLink.Yaml.Tokens
import RaceLink.Proofs.Link.Lifecycle
import RaceLink.Proofs.Link.Replies
import RaceLink.Proofs.Link.Runs
import RaceLink.Proofs.Link.Refinement
import RaceLink.Proofs.Link.View
import RaceLink.Proofs.Link.Settle
import RaceLink.Proofs.Link.Clock
import RaceLink.Proofs.Race.Resync
import RaceLink.Proofs.Link.Reconnect
import RaceLink.Proofs.Link.Vitals
import RaceLink.Proofs.Link.Window
import RaceLink.Proofs.Link.Watchdog
import RaceLink.Proofs.Link.Shutdown
import RaceLink.Proofs.Race.Redelivery
import RaceLink.Proofs.Race.CommandText
import RaceLink.Proofs.Link.Frequency
import RaceLink.Proofs.Json.Reading
import RaceLink.Proofs.Json.Records
import RaceLink.Proofs.Race.Decoding
import RaceLink.Proofs.Delivery.Ring
import RaceLink.Proofs.Delivery.Audience
import RaceLink.Proofs.Delivery.Feed
import RaceLink.Proofs.Json.Writing
import RaceLink.Proofs.Race.Wire
import RaceLink.Proofs.Race.Telling
import RaceLink.Proofs.Link.Sights
import RaceLink.Proofs.Link.Cells
import RaceLink.Proofs.Link.Streams
import RaceLink.Proofs.Link.Noninterference
import RaceLink.Proofs.Text.Names
import RaceLink.Proofs.Endpoint.Punycode
import RaceLink.Proofs.Endpoint.Domain
import RaceLink.Proofs.Endpoint.Address
import RaceLink.Proofs.Endpoint.Host
import RaceLink.Proofs.Endpoint.Url
import RaceLink.Proofs.Settings.Origin
import RaceLink.Proofs.Delivery.Pace
import RaceLink.Proofs.Link.Rates
import RaceLink.Proofs.Link.Resets
import RaceLink.Proofs.Race.Reports
import RaceLink.Proofs.Race.Standings
import RaceLink.Proofs.Link.Attempts
import RaceLink.Proofs.Socket.Tale
import RaceLink.Proofs.Socket.Texts
import RaceLink.Proofs.Socket.Closing
import RaceLink.Proofs.Race.Clock
import RaceLink.Proofs.Link.Counters
