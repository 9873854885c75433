import BuildHerald.Build
import BuildHerald.Build.Shape
import BuildHerald.Chat.Command
import BuildHerald.Chat.Console
import BuildHerald.Chat.Relay
import BuildHerald.Chat.Verb
import BuildHerald.Dialogue
import BuildHerald.EventStream.Event
import BuildHerald.EventStream.Frame
import BuildHerald.EventStream.Items
import BuildHerald.Fault
import BuildHerald.Feed.Bookmark
import BuildHerald.Feed.Intake
import BuildHerald.Feed.Watch
import BuildHerald.Herald.Basic
import BuildHerald.Herald.Change
import BuildHerald.Herald.Desk
import BuildHerald.Herald.Mutes
import BuildHerald.Http.Arrival
import BuildHerald.Http.Escape
import BuildHerald.Http.Exchange
import BuildHerald.Http.Host
import BuildHerald.Http.Url
import BuildHerald.Http.Written
import BuildHerald.Json.Printer
import BuildHerald.Json.Reader
import BuildHerald.Json.Shape
import BuildHerald.Live.Fetch
import BuildHerald.Main
import BuildHerald.Notification
import BuildHerald.Number.Layout
import BuildHerald.Proofs.Announcements
import BuildHerald.Proofs.Performances
import BuildHerald.Proofs.RepeatedDelivery
import BuildHerald.Rehearsal.Clock
import BuildHerald.Rehearsal.FeedRun
import BuildHerald.Rehearsal.Network
import BuildHerald.Rehearsal.Performance
import BuildHerald.Rehearsal.Scene
import BuildHerald.Rehearsal.Served
import BuildHerald.Rehearsal.Session
import BuildHerald.Server.Client
import BuildHerald.Server.Link
import BuildHerald.Settings
import BuildHerald.Station.Act
import BuildHerald.Station.Duty
import BuildHerald.Telegram.Bot
import BuildHerald.Telegram.Listener
import BuildHerald.Text.Base64
import BuildHerald.Text.Blank
import BuildHerald.Text.Lowercase
import BuildHerald.Text.Numeral
import BuildHerald.Text.Quoted
import BuildHerald.Text.Utf8
import BuildHerald.Time.Instant
import BuildHerald.Time.SpanText
import BuildHerald.Transcript
import BuildHerald.Proofs.Footprints
import BuildHerald.Proofs.Replies
import BuildHerald.Proofs.Waiting
import BuildHerald.Proofs.SideBySide
import BuildHerald.Proofs.Separation
import BuildHerald.Proofs.Framing
import BuildHerald.Proofs.DecodedStream
import BuildHerald.Proofs.Listening
import BuildHerald.Proofs.MuteWindows
import BuildHerald.Proofs.StreamNoise
import BuildHerald.Proofs.TakenListings
import BuildHerald.Proofs.FeedRuns
import BuildHerald.Proofs.Cancellation
import BuildHerald.Proofs.DeliveryOrder
import BuildHerald.Proofs.Portioning
import BuildHerald.Proofs.Sending
import BuildHerald.Proofs.NotifiedMessages
import BuildHerald.Proofs.InheritedJobs
import BuildHerald.Proofs.Senders
import BuildHerald.Proofs.WrittenFrames
import BuildHerald.Proofs.JobRequests
import BuildHerald.Proofs.EventEnvelopes
import BuildHerald.Proofs.TimedTranscripts
import BuildHerald.Proofs.FencedBlocks
import BuildHerald.Proofs.MessageSizes
import BuildHerald.Proofs.NewestMessages
import BuildHerald.Proofs.OwnEntries
import BuildHerald.Proofs.SpokenCommands
import BuildHerald.Proofs.LinkEntries
import BuildHerald.Proofs.MuteTables
import BuildHerald.Proofs.Patterns
import BuildHerald.Proofs.RoundedNumbers
import BuildHerald.Proofs.SpanParts
import BuildHerald.Proofs.SpanReadings
import BuildHerald.Proofs.AcknowledgedMutes
import BuildHerald.Proofs.PauseRequests
import BuildHerald.Proofs.PausedFlags
