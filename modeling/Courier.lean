import Courier.Backoff
import Courier.Binary64
import Courier.Binary64.Shortest
import Courier.Circuit.Breaker
import Courier.Circuit.Overlap
import Courier.Config
import Courier.Config.Wire
import Courier.Duration
import Courier.Health
import Courier.Idna
import Courier.Idna.Direction
import Courier.Idna.Joining
import Courier.Idna.Mapping
import Courier.Idna.Punycode
import Courier.Ip
import Courier.Jitter
import Courier.Json
import Courier.Json.Decoder
import Courier.Json.Document
import Courier.Json.Reader
import Courier.Limiter
import Courier.Limiter.Sweeper
import Courier.Limiter.Task
import Courier.Log
import Courier.Log.Directive
import Courier.Log.Filter
import Courier.Mail.Address
import Courier.Mail.Mailbox
import Courier.Mail.Transport
import Courier.Main
import Courier.Metric
import Courier.Metric.Exposition
import Courier.Metric.Query
import Courier.Notification
import Courier.Notification.Wire
import Courier.Pipeline
import Courier.Pipeline.Session
import Courier.Proofs.Binary64.Accuracy
import Courier.Proofs.Binary64.Rounding
import Courier.Proofs.Circuit.Accounts
import Courier.Proofs.Circuit.Bounds
import Courier.Proofs.Circuit.Cooldown
import Courier.Proofs.Circuit.Outcomes
import Courier.Proofs.Circuit.Probes
import Courier.Proofs.Circuit.Recovery
import Courier.Proofs.Circuit.Slots
import Courier.Proofs.Circuit.Step
import Courier.Proofs.Config.Settings
import Courier.Proofs.Config.Variables
import Courier.Proofs.Duration.Seconds
import Courier.Proofs.Duration.Text
import Courier.Proofs.Idna.Ascii
import Courier.Proofs.Idna.Punycode
import Courier.Proofs.Limiter.Answers
import Courier.Proofs.Limiter.Disorder
import Courier.Proofs.Limiter.Polls
import Courier.Proofs.Limiter.Sweep
import Courier.Proofs.Limiter.Tending
import Courier.Proofs.Limiter.Ticks
import Courier.Proofs.Limiter.Window
import Courier.Proofs.Mail.Domain
import Courier.Proofs.Pipeline.Elapsed
import Courier.Proofs.Pipeline.Ledger
import Courier.Proofs.Pipeline.OneCall
import Courier.Proofs.Pipeline.Run
import Courier.Proofs.Pipeline.Separation
import Courier.Proofs.Pipeline.Timeouts
import Courier.Proofs.Pipeline.Turn
import Courier.Proofs.Retry.Attempts
import Courier.Proofs.Retry.Backoff
import Courier.Proofs.Retry.Cancellation
import Courier.Proofs.Retry.Run
import Courier.Proofs.Retry.Timeline
import Courier.Proofs.Sanitize.Accepted
import Courier.Proofs.Sanitize.Canonical
import Courier.Proofs.Sanitize.Lossless
import Courier.Proofs.Service.Answered
import Courier.Proofs.Service.Contents
import Courier.Proofs.Service.Counted
import Courier.Proofs.Service.Outcome
import Courier.Proofs.Service.Quota
import Courier.Proofs.Store.Agreement
import Courier.Proofs.Store.Codec
import Courier.Proofs.Store.Faults
import Courier.Proofs.Store.Records
import Courier.Proofs.Text.Entity
import Courier.Proofs.Text.Lowercase
import Courier.Proofs.Text.Normal
import Courier.Proofs.Text.Scan
import Courier.Proofs.Text.Tables
import Courier.Proofs.Transient
import Courier.Retry
import Courier.Sanitize
import Courier.Service
import Courier.Service.Session
import Courier.ServiceError
import Courier.Store
import Courier.Store.Connection
import Courier.Store.Database
import Courier.Store.Fault
import Courier.Store.Query
import Courier.Store.Server
import Courier.Store.Statement
import Courier.Text.Alphanumeric
import Courier.Text.Composition
import Courier.Text.Escape
import Courier.Text.Lowercase
import Courier.Text.Normal
import Courier.Text.Pattern
import Courier.Text.Scan
import Courier.Text.Table
import Courier.Text.Utf8
import Courier.Timeout
import Courier.Timestamp
import Courier.Timestamp.Rfc3339
import Courier.Transient
import Courier.Url
import Courier.Url.Parts
import Courier.Validation
import Courier.Worker
