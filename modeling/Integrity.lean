import Integrity.Address
import Integrity.Amount
import Integrity.Audit.Scheduler
import Integrity.Audit.Seed
import Integrity.Audit.Selection
import Integrity.Authority
import Integrity.Bytes
import Integrity.Collaborator.Error
import Integrity.Collaborator.Ledger
import Integrity.Collaborator.Registry
import Integrity.Collaborator.Reputation
import Integrity.Collaborator.ValidatorPool
import Integrity.CommandLine.Host
import Integrity.CommandLine.Invocation
import Integrity.CommandLine.Run
import Integrity.CommandLine.Switch
import Integrity.CommandLine.Usage
import Integrity.Config.Basic
import Integrity.Config.Decode
import Integrity.Config.Load
import Integrity.Config.Patch
import Integrity.Config.Text
import Integrity.Datum
import Integrity.Dispute.Resolver
import Integrity.Dispute.Source
import Integrity.Engine.Basic
import Integrity.Engine.Build
import Integrity.Event
import Integrity.Event.Log
import Integrity.Event.Reader
import Integrity.Event.Schema
import Integrity.Event.Writer
import Integrity.Files.Error
import Integrity.Files.Tree
import Integrity.Hash.Blake3
import Integrity.Hash.Mixing
import Integrity.Job
import Integrity.Json.Scan
import Integrity.Json.Typed
import Integrity.Json.Value
import Integrity.Json.Writer
import Integrity.Logging.Filter
import Integrity.Main
import Integrity.Metrics
import Integrity.Number.Magnitude
import Integrity.Number.Notation
import Integrity.Number.Rounding
import Integrity.Number.Shortest
import Integrity.Operation
import Integrity.Pattern.Bracket
import Integrity.Pattern.Check
import Integrity.Pattern.Piece
import Integrity.Random.Stream
import Integrity.Reading
import Integrity.Role
import Integrity.Simulation.Demonstration
import Integrity.Simulation.Replay
import Integrity.Simulation.Sampling
import Integrity.Simulation.Ticks
import Integrity.Table
import Integrity.Temperature.Bounds
import Integrity.Temperature.ControlLaw
import Integrity.Temperature.Controller
import Integrity.Text.Blank
import Integrity.Text.Escape
import Integrity.Text.Hex
import Integrity.Text.Letter
import Integrity.Text.Numeral
import Integrity.Text.Visible
import Integrity.Time.Text
import Integrity.Time.Timestamp
import Integrity.Toml.Document
import Integrity.Toml.Number
import Integrity.Toml.Scan
import Integrity.Toml.Writer
import Integrity.Trail
import Integrity.Width
import Integrity.Proofs.Event.Order
import Integrity.Proofs.Reputation.Book
import Integrity.Proofs.Ledger.Conservation
import Integrity.Proofs.Operation.Run
import Integrity.Proofs.Operation.Charter
import Integrity.Proofs.Dispute.Step
import Integrity.Proofs.Dispute.Solvency
import Integrity.Proofs.Temperature.ControlLaw
import Integrity.Proofs.Temperature.Step
import Integrity.Proofs.Temperature.Safety
import Integrity.Proofs.Audit.Step
import Integrity.Proofs.Audit.Counts
import Integrity.Proofs.Audit.Penalties
import Integrity.Proofs.Engine.Alike
import Integrity.Proofs.Engine.Deletion
import Integrity.Proofs.Temperature.Replay
import Integrity.Proofs.Engine.TemperatureLog
import Integrity.Proofs.Dispute.Reconciliation
import Integrity.Proofs.Temperature.Control
import Integrity.Proofs.Audit.Control
import Integrity.Proofs.Dispute.Control
import Integrity.Proofs.Engine.Control
import Integrity.Proofs.Audit.Permanence
import Integrity.Proofs.Dispute.LifeCycle
import Integrity.Proofs.Audit.Trail
import Integrity.Proofs.Config.Valid
import Integrity.Proofs.Engine.Build
import Integrity.Proofs.Engine.Step
import Integrity.Proofs.Engine.Cells
import Integrity.Proofs.Engine.Instruments
import Integrity.Proofs.Audit.Auditors
import Integrity.Proofs.Engine.Null
import Integrity.Proofs.Json.Recovery
import Integrity.Proofs.Text.Hex
import Integrity.Proofs.Text.Lines
import Integrity.Proofs.Entries
import Integrity.Proofs.Time.Text
import Integrity.Proofs.Text.Numeral
import Integrity.Proofs.Text.Address
import Integrity.Proofs.Audit.Replay
import Integrity.Proofs.Dispute.Replay
import Integrity.Proofs.Engine.Retelling
import Integrity.Proofs.Event.Numbering
import Integrity.Proofs.Engine.Lane
import Integrity.Proofs.Engine.Interleaving
import Integrity.Proofs.Json.Controls
import Integrity.Proofs.Number.Magnitude
import Integrity.Proofs.Json.Values
import Integrity.Proofs.Event.Fields
import Integrity.Proofs.Event.Arrangement
import Integrity.Proofs.Event.Export
import Integrity.Proofs.Temperature.Obtained
import Integrity.Proofs.Engine.Start
import Integrity.Proofs.Toml.Strings
import Integrity.Proofs.Toml.Values
import Integrity.Proofs.Toml.Documents
import Integrity.Proofs.Config.Data
import Integrity.Proofs.Config.Text
import Integrity.Proofs.Toml.Range
import Integrity.Proofs.Config.Reload
import Integrity.Proofs.Temperature.Envelope
import Integrity.Proofs.Simulation.Replay
import Integrity.Proofs.Temperature.Accumulation
import Integrity.Proofs.Temperature.Coupling
import Integrity.Proofs.Simulation.Course
import Integrity.Proofs.Temperature.Narrowing
import Integrity.Proofs.Audit.Decision
import Integrity.Proofs.Audit.Comparison
import Integrity.Proofs.Audit.Remainder
import Integrity.Proofs.Words
import Integrity.Proofs.Audit.Frequency
import Integrity.Proofs.Validators.Rotation
import Integrity.Proofs.Dispute.Decision
import Integrity.Proofs.Dispute.Jury
import Integrity.Proofs.Validators.Fairness
import Integrity.Proofs.Simulation.Sampling
import Integrity.Proofs.Simulation.Steering
import Integrity.Proofs.Simulation.Review
import Integrity.Proofs.Simulation.Settlement
import Integrity.Proofs.Simulation.Demonstration
import Integrity.Proofs.Audit.Preimage
import Integrity.Proofs.Dispute.Escrow
