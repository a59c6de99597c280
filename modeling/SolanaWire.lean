import SolanaWire.Builtin
import SolanaWire.Builtin.AssociatedToken
import SolanaWire.Builtin.ComputeBudget
import SolanaWire.Builtin.System
import SolanaWire.Builtin.Token
import SolanaWire.Builtin.Vote
import SolanaWire.Bytes.Base58
import SolanaWire.Bytes.Hex
import SolanaWire.Bytes.LittleEndian
import SolanaWire.Bytes.Utf8
import SolanaWire.DecoderRegistry
import SolanaWire.Definition
import SolanaWire.Failure
import SolanaWire.Failure.Class
import SolanaWire.Instruction
import SolanaWire.Instruction.Decode
import SolanaWire.Instruction.OfMessage
import SolanaWire.Instruction.Projection
import SolanaWire.Instruction.Typed
import SolanaWire.InstructionError
import SolanaWire.InstructionError.Kind
import SolanaWire.Journal
import SolanaWire.Key
import SolanaWire.KeyTable
import SolanaWire.Layout.Enumeration
import SolanaWire.Layout.FieldType
import SolanaWire.Layout.IntFormat
import SolanaWire.Layout.Notation
import SolanaWire.Lock
import SolanaWire.Lock.Settling
import SolanaWire.Lock.Turn
import SolanaWire.Log
import SolanaWire.Log.Format
import SolanaWire.Log.Output
import SolanaWire.Log.Request
import SolanaWire.Log.Slot
import SolanaWire.Message
import SolanaWire.Number
import SolanaWire.Number.Binary64
import SolanaWire.Number.Notation
import SolanaWire.Number.Numeral
import SolanaWire.Number.Shortest
import SolanaWire.ProgramError
import SolanaWire.Proofs.Outcome
import SolanaWire.Proofs.Reading
import SolanaWire.Proofs.Utf8
import SolanaWire.Proofs.WireForm
import SolanaWire.Proofs.Writing
import SolanaWire.Repetition
import SolanaWire.ResolverTable
import SolanaWire.ResolverTable.Shared
import SolanaWire.ResolverTable.Use
import SolanaWire.Retry
import SolanaWire.Retry.Asynchronous
import SolanaWire.Rpc.Call
import SolanaWire.Rpc.Client
import SolanaWire.Rpc.Exchange
import SolanaWire.Rpc.Signatures
import SolanaWire.Settings
import SolanaWire.Text.CombiningClass
import SolanaWire.Text.ComposedForm
import SolanaWire.Text.Digit
import SolanaWire.Text.Label
import SolanaWire.Text.NameCharacter
import SolanaWire.Text.ParameterName
import SolanaWire.Text.PlainForm
import SolanaWire.Text.Printable
import SolanaWire.Text.Quoted
import SolanaWire.Text.Uppercase
import SolanaWire.Text.WordCharacter
import SolanaWire.TransactionError
import SolanaWire.TransactionError.Kind
import SolanaWire.Value
import SolanaWire.Value.Conversion
import SolanaWire.Value.Json
import SolanaWire.Variant
import SolanaWire.Variant.Declaration
import SolanaWire.Variant.Feature
import SolanaWire.Proofs.Parameters
import SolanaWire.Proofs.InstructionData
import SolanaWire.Proofs.RoundTrip
import SolanaWire.Proofs.Acceptance
import SolanaWire.Proofs.NormalForm
import SolanaWire.Proofs.Registration
import SolanaWire.Proofs.Resolution
import SolanaWire.Proofs.TypedDecoding
import SolanaWire.Proofs.ErrorPayloads
import SolanaWire.Proofs.CustomCodes
import SolanaWire.Proofs.Backoff
import SolanaWire.Proofs.Delivery
import SolanaWire.Proofs.Request
import SolanaWire.Proofs.History
import SolanaWire.Proofs.Paging
import SolanaWire.Proofs.Resolvers
import SolanaWire.Proofs.ExactValue
import SolanaWire.Proofs.Procedures
import SolanaWire.Proofs.Verdicts
import SolanaWire.Proofs.WholeMessage
import SolanaWire.Proofs.Exclusion
import SolanaWire.Proofs.Wakening
import SolanaWire.Proofs.SerialOrder
import SolanaWire.Proofs.SharedUse
import SolanaWire.Proofs.Atomicity
import SolanaWire.Proofs.Truncation
import SolanaWire.Proofs.Projections
import SolanaWire.Proofs.DigitTexts
import SolanaWire.Proofs.Lookups
import SolanaWire.Proofs.Spellings
import SolanaWire.Proofs.GivenDefinitions
import SolanaWire.Proofs.TypeIds
import SolanaWire.Proofs.EqualInstructions
import SolanaWire.Proofs.AccountLists
import SolanaWire.Proofs.Roles
import SolanaWire.Proofs.FirstPosition
import SolanaWire.Proofs.IntegerRange
import SolanaWire.Proofs.RepeatedCalls
import SolanaWire.Proofs.RequestFailures
import SolanaWire.Proofs.BackoffRange
import SolanaWire.Proofs.FailingResolvers
import SolanaWire.Proofs.AcceptedSettings
import SolanaWire.Proofs.SettingsCache
import SolanaWire.Proofs.FirstRegistration
import SolanaWire.Proofs.LatestRegistration
import SolanaWire.Proofs.ListedFailures
import SolanaWire.Proofs.EqualValues
import SolanaWire.Proofs.EqualErrors
import SolanaWire.Proofs.BoundedReading
