import OfferService.Api.Error
import OfferService.Api.Handlers
import OfferService.Api.Input
import OfferService.Api.Job
import OfferService.Api.Router
import OfferService.Api.Violation
import OfferService.Batch.Flush
import OfferService.Batch.Session
import OfferService.Batch.Split
import OfferService.Command
import OfferService.Consumer.Basic
import OfferService.Consumer.Lines
import OfferService.Crew
import OfferService.Decimal.Binary
import OfferService.Decimal.Shortest
import OfferService.Event.Basic
import OfferService.Event.Calendar
import OfferService.Http.Basic
import OfferService.Http.MediaType
import OfferService.Http.Target
import OfferService.Json.Fault
import OfferService.Json.Lexer
import OfferService.Json.Printer
import OfferService.Json.Reader
import OfferService.Json.Record
import OfferService.Json.Tagged
import OfferService.Json.Token
import OfferService.Json.Walk
import OfferService.Log
import OfferService.Log.Filter
import OfferService.Log.Line
import OfferService.Mailbox
import OfferService.Main
import OfferService.Metrics
import OfferService.Offer.Basic
import OfferService.Offer.Json
import OfferService.Outage
import OfferService.Page
import OfferService.Program
import OfferService.Proofs.Api.Blame
import OfferService.Proofs.Api.Buffering
import OfferService.Proofs.Api.Bulk
import OfferService.Proofs.Api.Debts
import OfferService.Proofs.Api.Heedless
import OfferService.Proofs.Api.News
import OfferService.Proofs.Api.Requests
import OfferService.Proofs.Api.Vouched
import OfferService.Proofs.Batch.Chunks
import OfferService.Proofs.Batch.Even
import OfferService.Proofs.Batch.Flush
import OfferService.Proofs.Batch.Length
import OfferService.Proofs.Batch.Retries
import OfferService.Proofs.Batch.Transcript
import OfferService.Proofs.Command.Tagged
import OfferService.Proofs.Consumer.Fold
import OfferService.Proofs.Consumer.Lines
import OfferService.Proofs.Fallible
import OfferService.Proofs.Json.Choices
import OfferService.Proofs.Json.Grammar
import OfferService.Proofs.Json.Lexing
import OfferService.Proofs.Json.Numbers
import OfferService.Proofs.Json.Printing
import OfferService.Proofs.Json.Reading
import OfferService.Proofs.Json.Records
import OfferService.Proofs.Json.Strings
import OfferService.Proofs.Json.Walking
import OfferService.Proofs.Lookup
import OfferService.Proofs.Mailbox
import OfferService.Proofs.Offer.RoundTrip
import OfferService.Proofs.Page
import OfferService.Proofs.Page.Exact
import OfferService.Proofs.Path
import OfferService.Proofs.Publisher.Blocks
import OfferService.Proofs.Publisher.Closing
import OfferService.Proofs.Publisher.Delivery
import OfferService.Proofs.Publisher.Line
import OfferService.Proofs.Publisher.Moves
import OfferService.Proofs.Publisher.Senders
import OfferService.Proofs.Saver.Accounts
import OfferService.Proofs.Saver.Barrier
import OfferService.Proofs.Saver.Blockage
import OfferService.Proofs.Saver.Bounds
import OfferService.Proofs.Saver.Capacity
import OfferService.Proofs.Saver.Chunks
import OfferService.Proofs.Saver.Conservation
import OfferService.Proofs.Saver.Core
import OfferService.Proofs.Saver.Counters
import OfferService.Proofs.Saver.Desk
import OfferService.Proofs.Saver.Door
import OfferService.Proofs.Saver.Gate
import OfferService.Proofs.Saver.History
import OfferService.Proofs.Saver.Lifecycle
import OfferService.Proofs.Saver.Moves
import OfferService.Proofs.Saver.Origins
import OfferService.Proofs.Saver.Replies
import OfferService.Proofs.Saver.Tally
import OfferService.Proofs.Saver.Undisturbed
import OfferService.Proofs.Saver.Verdicts
import OfferService.Proofs.Saver.Visit
import OfferService.Proofs.Schedule
import OfferService.Proofs.Service.Balance
import OfferService.Proofs.Service.Books
import OfferService.Proofs.Service.Bulk
import OfferService.Proofs.Service.Callers
import OfferService.Proofs.Service.Contents
import OfferService.Proofs.Service.Faults
import OfferService.Proofs.Service.Foresight
import OfferService.Proofs.Service.Handlers
import OfferService.Proofs.Service.History
import OfferService.Proofs.Service.Independence
import OfferService.Proofs.Service.Mirror
import OfferService.Proofs.Service.Moves
import OfferService.Proofs.Service.Outline
import OfferService.Proofs.Service.Patience
import OfferService.Proofs.Service.Prospects
import OfferService.Proofs.Service.Readings
import OfferService.Proofs.Service.Refusals
import OfferService.Proofs.Service.Seats
import OfferService.Proofs.Service.Startup
import OfferService.Proofs.Service.Strides
import OfferService.Proofs.Service.Turns
import OfferService.Proofs.Service.Vouched
import OfferService.Proofs.Storage.Arguments
import OfferService.Proofs.Storage.Batches
import OfferService.Proofs.Storage.Blame
import OfferService.Proofs.Storage.Flags
import OfferService.Proofs.Storage.Fresh
import OfferService.Proofs.Storage.LastWrite
import OfferService.Proofs.Storage.Later
import OfferService.Proofs.Storage.Live
import OfferService.Proofs.Storage.Onward
import OfferService.Proofs.Storage.Order
import OfferService.Proofs.Storage.Outcome
import OfferService.Proofs.Storage.Pages
import OfferService.Proofs.Storage.Paging
import OfferService.Proofs.Storage.Query
import OfferService.Proofs.Storage.Range
import OfferService.Proofs.Storage.Rollback
import OfferService.Proofs.Storage.Success
import OfferService.Proofs.Storage.Table
import OfferService.Proofs.Text.Trim
import OfferService.Proofs.Text.Utf8
import OfferService.Proofs.Ticker.Lifecycle
import OfferService.Proofs.Ticker.Moves
import OfferService.Proofs.Ticker.Rest
import OfferService.Proofs.Ticker.Schedule
import OfferService.Proofs.Ticker.Session
import OfferService.Proofs.Ticker.Streams
import OfferService.Publisher.Basic
import OfferService.Publisher.Session
import OfferService.Publisher.Step
import OfferService.Release
import OfferService.Saver.Basic
import OfferService.Saver.Pipeline
import OfferService.Saver.Session
import OfferService.Saver.Step
import OfferService.Schedule
import OfferService.Service.Basic
import OfferService.Service.Session
import OfferService.Service.StartError
import OfferService.Service.Startup
import OfferService.Service.Status
import OfferService.Service.Step
import OfferService.Settings.Basic
import OfferService.Settings.CommandLine
import OfferService.Settings.Dotenv
import OfferService.Settings.Setting
import OfferService.Station
import OfferService.Storage.Disk
import OfferService.Storage.Error
import OfferService.Storage.Outage
import OfferService.Storage.Store
import OfferService.Storage.Table
import OfferService.Text.Blank
import OfferService.Text.Cut
import OfferService.Text.Hidden
import OfferService.Text.Letter
import OfferService.Text.Number
import OfferService.Text.Percent
import OfferService.Text.Quoted
import OfferService.Text.Utf8
import OfferService.Ticker.Basic
import OfferService.Ticker.Session
import OfferService.Ticker.Step
