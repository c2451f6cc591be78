import DoubleEntry.Amount
import DoubleEntry.AppError
import DoubleEntry.Binary64
import DoubleEntry.Binary64.Reader
import DoubleEntry.Config.Decode
import DoubleEntry.Config.Dotenv
import DoubleEntry.Config.Environment
import DoubleEntry.Config.Error
import DoubleEntry.Config.Settings
import DoubleEntry.Config.Toml.Date
import DoubleEntry.Config.Toml.Document
import DoubleEntry.Config.Toml.Error
import DoubleEntry.Config.Toml.Syntax
import DoubleEntry.Config.Value
import DoubleEntry.Decimal.Arithmetic
import DoubleEntry.Decimal.Basic
import DoubleEntry.Decimal.Printer
import DoubleEntry.Decimal.Reader
import DoubleEntry.Decimal.Rounding
import DoubleEntry.Http.Line
import DoubleEntry.Http.MediaType
import DoubleEntry.Http.Message
import DoubleEntry.Http.Path
import DoubleEntry.Http.Response
import DoubleEntry.Http.Router
import DoubleEntry.Json.Cursor
import DoubleEntry.Json.Error
import DoubleEntry.Json.Number
import DoubleEntry.Json.Reader
import DoubleEntry.Json.Skip
import DoubleEntry.Json.Text
import DoubleEntry.Json.Writer
import DoubleEntry.Ledger.Account
import DoubleEntry.Ledger.Codec
import DoubleEntry.Ledger.Error
import DoubleEntry.Ledger.Log
import DoubleEntry.Ledger.Operations
import DoubleEntry.Ledger.Program
import DoubleEntry.LoadTest.Report
import DoubleEntry.LoadTest.Run
import DoubleEntry.LoadTest.Settings
import DoubleEntry.LoadTest.Tour
import DoubleEntry.Main
import DoubleEntry.Power
import DoubleEntry.Session
import DoubleEntry.Sql.Connection
import DoubleEntry.Sql.Migration
import DoubleEntry.Sql.Schema
import DoubleEntry.Sql.Statement
import DoubleEntry.Sql.Store
import DoubleEntry.Sql.Url
import DoubleEntry.Startup
import DoubleEntry.Store.Book
import DoubleEntry.Store.Control
import DoubleEntry.Store.Process
import DoubleEntry.Store.Schedule
import DoubleEntry.Store.Scripted
import DoubleEntry.Store.Shared
import DoubleEntry.Text.Blank
import DoubleEntry.Text.Digits
import DoubleEntry.Text.Quoted
import DoubleEntry.Text.Unprintable
import DoubleEntry.Text.Utf8
import DoubleEntry.Time.Calendar
import DoubleEntry.Time.Moment
import DoubleEntry.Time.Reader
import DoubleEntry.Time.Span
import DoubleEntry.Word
import DoubleEntry.Proofs.Ledger.Conduct
import DoubleEntry.Proofs.Book.Writes
import DoubleEntry.Proofs.Program.Solo
import DoubleEntry.Proofs.Store.Turn
import DoubleEntry.Proofs.Store.Stages
import DoubleEntry.Proofs.Store.Poll
import DoubleEntry.Proofs.Http.Conduct
import DoubleEntry.Proofs.History.Basic
import DoubleEntry.Proofs.History.Sound
import DoubleEntry.Proofs.History.Records
import DoubleEntry.Proofs.History.Serial
import DoubleEntry.Proofs.Book.Balanced
import DoubleEntry.Proofs.Ledger.Posting
import DoubleEntry.Proofs.History.Books
import DoubleEntry.Proofs.History.Journal
import DoubleEntry.Proofs.Program.Play
import DoubleEntry.Proofs.Ledger.Protocol
import DoubleEntry.Proofs.History.Schedule
import DoubleEntry.Proofs.History.Requests
import DoubleEntry.Proofs.History.Covered
import DoubleEntry.Proofs.Sql.Agreement
import DoubleEntry.Proofs.Sql.Transaction
import DoubleEntry.Proofs.Sql.Limit
import DoubleEntry.Proofs.Book.Order
import DoubleEntry.Proofs.History.Growth
import DoubleEntry.Proofs.History.Lock
import DoubleEntry.Proofs.Units.Isolation
import DoubleEntry.Proofs.Book.Checked
import DoubleEntry.Proofs.History.Answers
import DoubleEntry.Proofs.History.Deadline
import DoubleEntry.Proofs.History.Rejections
import DoubleEntry.Proofs.History.Verdict
import DoubleEntry.Proofs.Units.Checked
import DoubleEntry.Proofs.Units.Trace
import DoubleEntry.Proofs.Amount.Rounding
import DoubleEntry.Proofs.Store.CopyCalls
import DoubleEntry.Proofs.Ledger.Exact
import DoubleEntry.Proofs.History.Exact
import DoubleEntry.Proofs.Decimal.Text
import DoubleEntry.Proofs.Json.Written
import DoubleEntry.Proofs.Http.Bodies
import DoubleEntry.Proofs.Http.Transfers
import DoubleEntry.Proofs.Ledger.Spending
import DoubleEntry.Proofs.History.Spending
import DoubleEntry.Proofs.Decimal.Numeral
import DoubleEntry.Proofs.Decimal.Canonical
import DoubleEntry.Proofs.Decimal.Scientific
import DoubleEntry.Proofs.Book.Dates
import DoubleEntry.Proofs.Program.Discipline
import DoubleEntry.Proofs.Store.Readings
import DoubleEntry.Proofs.Ledger.Dated
import DoubleEntry.Proofs.History.Dates
import DoubleEntry.Proofs.Json.Texts
import DoubleEntry.Proofs.Http.Hidden
import DoubleEntry.Proofs.History.Retold
import DoubleEntry.Proofs.History.Hidden
import DoubleEntry.Proofs.History.Uniform
import DoubleEntry.Proofs.LoadTest.Figures
import DoubleEntry.Proofs.Time.Calendar
import DoubleEntry.Proofs.Time.Text
import DoubleEntry.Proofs.Json.Yields
import DoubleEntry.Proofs.Http.Codec
import DoubleEntry.Proofs.History.Posted
import DoubleEntry.Proofs.History.Complete
import DoubleEntry.Proofs.LoadTest.Plans
import DoubleEntry.Proofs.LoadTest.InTurn
import DoubleEntry.Proofs.LoadTest.Tally
import DoubleEntry.Proofs.LoadTest.Percentile
import DoubleEntry.Proofs.LoadTest.Rates
import DoubleEntry.Proofs.History.Settled
import DoubleEntry.Proofs.LoadTest.Tour
import DoubleEntry.Proofs.Config.Sources
