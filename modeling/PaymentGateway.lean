import PaymentGateway.Account
import PaymentGateway.Batch.File
import PaymentGateway.Batch.OutcomeTable
import PaymentGateway.Call
import PaymentGateway.CallKind
import PaymentGateway.Client
import PaymentGateway.CommandLine.Arguments
import PaymentGateway.CommandLine.Network
import PaymentGateway.CommandLine.Session
import PaymentGateway.Csv.Records
import PaymentGateway.Date
import PaymentGateway.Decimal.Basic
import PaymentGateway.Decimal.Double
import PaymentGateway.Decimal.Reading
import PaymentGateway.Failure
import PaymentGateway.Fault
import PaymentGateway.Field
import PaymentGateway.FieldList
import PaymentGateway.Instrument
import PaymentGateway.Json.Basic
import PaymentGateway.Json.Codec
import PaymentGateway.Json.Reader
import PaymentGateway.Json.Records
import PaymentGateway.Main
import PaymentGateway.Memory
import PaymentGateway.Outcome
import PaymentGateway.Overrides
import PaymentGateway.Payments
import PaymentGateway.Proofs.FieldList.Insertion
import PaymentGateway.Proofs.Text.Utf8
import PaymentGateway.Proofs.Wire.Lines
import PaymentGateway.Proofs.Wire.Pieces
import PaymentGateway.Request
import PaymentGateway.RequestCheck
import PaymentGateway.Script
import PaymentGateway.Settings
import PaymentGateway.Settings.File
import PaymentGateway.Stores
import PaymentGateway.Text.Characters
import PaymentGateway.Text.Quoted
import PaymentGateway.Text.Reader
import PaymentGateway.Text.Utf8
import PaymentGateway.Timestamp
import PaymentGateway.Toml.Basic
import PaymentGateway.Toml.Document
import PaymentGateway.Toml.Scalar
import PaymentGateway.TransactionType
import PaymentGateway.Uuid
import PaymentGateway.Wire
import PaymentGateway.Proofs.Wire.RoundTrip
import PaymentGateway.Proofs.Client.Reading
import PaymentGateway.Proofs.Client.RoundTrip
import PaymentGateway.Proofs.Payments.Effects
import PaymentGateway.Proofs.Payments.Course
import PaymentGateway.Proofs.Memory.Services
import PaymentGateway.Proofs.Payments.Atomicity
import PaymentGateway.Proofs.FieldList.Lookup
import PaymentGateway.Proofs.Payments.References
import PaymentGateway.Proofs.Memory.Runs
import PaymentGateway.Proofs.Memory.Approvals
import PaymentGateway.Proofs.Memory.Interleaving
import PaymentGateway.Proofs.Memory.SharedLedger
import PaymentGateway.Proofs.FieldList.Catalog
import PaymentGateway.Proofs.Request.Fields
import PaymentGateway.Proofs.Payments.Means
import PaymentGateway.Proofs.Payments.Credentials
import PaymentGateway.Proofs.RequestCheck.Shapes
import PaymentGateway.Proofs.Memory.Execution
import PaymentGateway.Proofs.Memory.Isolation
import PaymentGateway.Proofs.Client.Line
import PaymentGateway.Proofs.Batch.Rows
import PaymentGateway.Proofs.Batch.Failures
import PaymentGateway.Proofs.FieldList.Order
import PaymentGateway.Proofs.Wire.Grammar
import PaymentGateway.Proofs.Client.Grammar
import PaymentGateway.Proofs.Client.Truncation
import PaymentGateway.Proofs.Memory.Rails
import PaymentGateway.Proofs.Payments.Pairs
import PaymentGateway.Proofs.RequestCheck.Secrets
import PaymentGateway.Proofs.Request.Secrets
import PaymentGateway.Proofs.Payments.Secrets
import PaymentGateway.Proofs.Payments.Secrecy
import PaymentGateway.Proofs.Memory.Secrecy
import PaymentGateway.Proofs.Memory.Hidden
import PaymentGateway.Proofs.Client.SentBack
import PaymentGateway.Proofs.Client.Procedure
import PaymentGateway.Proofs.Client.LifeCycle
import PaymentGateway.Proofs.Payments.Amounts
import PaymentGateway.Proofs.Memory.Amounts
import PaymentGateway.Proofs.Payments.Adding
import PaymentGateway.Proofs.Memory.Masking
import PaymentGateway.Proofs.Memory.StoredMethods
import PaymentGateway.Proofs.Payments.Placeholders
import PaymentGateway.Proofs.Memory.EmptyFields
import PaymentGateway.Proofs.Text.Digits
import PaymentGateway.Proofs.Decimal.RoundTrip
import PaymentGateway.Proofs.Json.Texts
import PaymentGateway.Proofs.Json.Documents
import PaymentGateway.Proofs.Text.Notations
import PaymentGateway.Proofs.Text.Instants
import PaymentGateway.Proofs.Json.Receipts
import PaymentGateway.Proofs.FieldList.Overlay
import PaymentGateway.Proofs.Request.Overlay
import PaymentGateway.Proofs.Payments.Contents
import PaymentGateway.Proofs.Batch.FixedCells
import PaymentGateway.Proofs.Batch.Cells
import PaymentGateway.Proofs.Batch.Columns
import PaymentGateway.Proofs.Decimal.Numeral
import PaymentGateway.Proofs.Decimal.Money
import PaymentGateway.Proofs.FieldList.Edits
import PaymentGateway.Proofs.Text.Trimming
import PaymentGateway.Proofs.Account.Names
import PaymentGateway.Proofs.RequestCheck.Logins
import PaymentGateway.Proofs.Settings.Logins
import PaymentGateway.Proofs.Csv.Grammar
import PaymentGateway.Proofs.Csv.Reading
import PaymentGateway.Proofs.Batch.OutcomeTable
