import MediaMux.Bytes
import MediaMux.Classifier
import MediaMux.Clock
import MediaMux.Console
import MediaMux.Demuxer
import MediaMux.Error
import MediaMux.Feedback.Backlog
import MediaMux.Feedback.Meter
import MediaMux.Feedback.Options
import MediaMux.Feedback.Outcome
import MediaMux.Feedback.Report
import MediaMux.Feedback.Reporter
import MediaMux.Feedback.Reporter.Loop
import MediaMux.Feedback.RoundTrip
import MediaMux.Feedback.Sink
import MediaMux.Flow
import MediaMux.Flow.Table
import MediaMux.Journal
import MediaMux.Keyed
import MediaMux.Notifier
import MediaMux.Notifier.Desk
import MediaMux.Packet
import MediaMux.Priority
import MediaMux.Proofs.Demuxer.Routing
import MediaMux.Proofs.Demuxer.Subscriptions
import MediaMux.Proofs.Feedback.AckOrder
import MediaMux.Proofs.Feedback.Arrival
import MediaMux.Proofs.Feedback.Batch
import MediaMux.Proofs.Feedback.Contents
import MediaMux.Proofs.Feedback.Counting
import MediaMux.Proofs.Feedback.Course
import MediaMux.Proofs.Feedback.Deadline
import MediaMux.Proofs.Feedback.History
import MediaMux.Proofs.Feedback.Interleaving
import MediaMux.Proofs.Feedback.Ledger
import MediaMux.Proofs.Feedback.Lifecycle
import MediaMux.Proofs.Feedback.Reported
import MediaMux.Proofs.Feedback.Round
import MediaMux.Proofs.Feedback.Sampling
import MediaMux.Proofs.Feedback.SendOrder
import MediaMux.Proofs.Feedback.Settling
import MediaMux.Proofs.Feedback.Smoothing
import MediaMux.Proofs.Feedback.StreamOrder
import MediaMux.Proofs.Feedback.Unreported
import MediaMux.Proofs.Keyed.Sorted
import MediaMux.Proofs.Keyed.Values
import MediaMux.Proofs.Notifier.Cascade
import MediaMux.Proofs.Notifier.Programs
import MediaMux.Proofs.Notifier.Shelf
import MediaMux.Proofs.Session.Balance
import MediaMux.Proofs.Session.Bare
import MediaMux.Proofs.Session.Batches
import MediaMux.Proofs.Session.Compounds
import MediaMux.Proofs.Session.Crew
import MediaMux.Proofs.Session.Deadline
import MediaMux.Proofs.Session.Deaf
import MediaMux.Proofs.Session.Effect
import MediaMux.Proofs.Session.Handovers
import MediaMux.Proofs.Session.Joining
import MediaMux.Proofs.Session.Lifecycle
import MediaMux.Proofs.Session.Offers
import MediaMux.Proofs.Session.Outcomes
import MediaMux.Proofs.Session.Projection
import MediaMux.Proofs.Session.Provenance
import MediaMux.Proofs.Session.Recordings
import MediaMux.Proofs.Session.Refusals
import MediaMux.Proofs.Session.Replacement
import MediaMux.Proofs.Session.Resolutions
import MediaMux.Proofs.Session.Retries
import MediaMux.Proofs.Session.RoutingTable
import MediaMux.Proofs.Session.Run
import MediaMux.Proofs.Session.Sampling
import MediaMux.Proofs.Session.Slots
import MediaMux.Proofs.Session.Tables
import MediaMux.Proofs.Session.Timers
import MediaMux.Proofs.Session.Transparency
import MediaMux.Proofs.Session.Trunk
import MediaMux.Proofs.Session.Undisturbed
import MediaMux.Proofs.Session.Writing
import MediaMux.Proofs.VarInt.Pieces
import MediaMux.Proofs.VarInt.RoundTrip
import MediaMux.Proofs.VarInt.Streams
import MediaMux.Rehearsal
import MediaMux.Selector
import MediaMux.SequenceNumber
import MediaMux.Session
import MediaMux.Session.Feedback
import MediaMux.Session.Time
import MediaMux.Task
import MediaMux.Text.Field
import MediaMux.Text.GraphemeExtend
import MediaMux.Text.Outline
import MediaMux.Text.Quoted
import MediaMux.Text.Unprintable
import MediaMux.Total
import MediaMux.Transport
import MediaMux.VarInt
