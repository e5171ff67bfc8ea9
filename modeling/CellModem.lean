import CellModem.Channel
import CellModem.Channel.Script
import CellModem.Channel.SerialPort
import CellModem.Channel.Simulator
import CellModem.CommandLine
import CellModem.CommandSet
import CellModem.Config
import CellModem.Core
import CellModem.Decoding
import CellModem.Driver
import CellModem.Error
import CellModem.Event
import CellModem.Facility
import CellModem.Fields
import CellModem.Framing
import CellModem.Hardware.Gpio
import CellModem.Hardware.Power
import CellModem.Host
import CellModem.Host.Creation
import CellModem.Host.Operation
import CellModem.Lifecycle
import CellModem.Main
import CellModem.Modem.BringUp
import CellModem.Modem.Model
import CellModem.Modem.Multitech
import CellModem.Modem.Power
import CellModem.Number.Binary32
import CellModem.Number.Decimal
import CellModem.Number.Integer
import CellModem.Number.Layout
import CellModem.Number.Reading
import CellModem.Number.Shortest
import CellModem.Operations.Hardware
import CellModem.Operations.Network
import CellModem.Operations.Reporting
import CellModem.Operations.Sim
import CellModem.Operations.Survey
import CellModem.Packet.Profile
import CellModem.Presence
import CellModem.Presence.Rehearsal
import CellModem.Presence.Watcher
import CellModem.Radio.Mode
import CellModem.Radio.NetworkSettings
import CellModem.Radio.Report
import CellModem.Radio.Survey
import CellModem.Registry
import CellModem.Reporting
import CellModem.Response
import CellModem.Routine
import CellModem.Sim.Detection
import CellModem.Sim.LogicalChannel
import CellModem.Sim.Status
import CellModem.Step
import CellModem.Text.Blank
import CellModem.Text.Hex
import CellModem.Text.Json
import CellModem.Text.Path
import CellModem.Text.Quoted
import CellModem.Text.Unshown
import CellModem.Text.Utf8
import CellModem.Toml.Document
import CellModem.Toml.Quotation
import CellModem.Toml.Scalar
import CellModem.Toml.Value
import CellModem.Tracing
import CellModem.Transaction
import CellModem.Vendor
import CellModem.Proofs.SerialLine.Moment
import CellModem.Proofs.SerialLine.Move
import CellModem.Proofs.SerialLine.Kept
import CellModem.Proofs.SerialLine.Order
import CellModem.Proofs.SerialLine.Machine
import CellModem.Proofs.SerialLine.Conversation
import CellModem.Proofs.SerialLine.Attribution
import CellModem.Proofs.Text.Utf8
import CellModem.Proofs.SerialLine.Framing
import CellModem.Proofs.SerialLine.Delivery
import CellModem.Proofs.Workflow.Evaluation
import CellModem.Proofs.Workflow.Reply
import CellModem.Proofs.Workflow.Deferral
import CellModem.Proofs.Presence.Site
import CellModem.Proofs.Presence.Settling
import CellModem.Proofs.Operations.Plan
import CellModem.Proofs.Operations.Slot
import CellModem.Proofs.Operations.World
import CellModem.Proofs.Operations.Occupation
import CellModem.Proofs.Operations.Discipline
import CellModem.Proofs.Operations.Cancellation
import CellModem.Proofs.Operations.Arguments
import CellModem.Proofs.Operations.Ways
import CellModem.Proofs.Operations.Service
import CellModem.Proofs.Operations.Memory
import CellModem.Proofs.Operations.Record
import CellModem.Proofs.Operations.Needs
import CellModem.Proofs.Operations.Refusal
import CellModem.Proofs.Interference.Course
import CellModem.Proofs.Interference.Session
import CellModem.Proofs.Interference.Progress
import CellModem.Proofs.Interference.Solitary
import CellModem.Proofs.Unsolicited.Routing
import CellModem.Proofs.Conduct.Routine
import CellModem.Proofs.Conduct.Attended
import CellModem.Proofs.Conduct.Relay
import CellModem.Proofs.Conduct.Channels
import CellModem.Proofs.Conduct.Impartial
import CellModem.Proofs.Conduct.Desk
import CellModem.Proofs.Conduct.Finality
import CellModem.Proofs.Unsolicited.Handing
import CellModem.Proofs.Lifetime.Account
import CellModem.Proofs.Lifetime.Deed
import CellModem.Proofs.Lifetime.BringUp
import CellModem.Proofs.Lifetime.Alternation
import CellModem.Proofs.Lifetime.Standing
import CellModem.Proofs.Lifetime.Furnishing
import CellModem.Proofs.Lifetime.Callers
import CellModem.Proofs.Lifetime.Teardown
import CellModem.Proofs.Lifetime.TakeDown
import CellModem.Proofs.Lifetime.SimEvents
import CellModem.Proofs.Lifetime.SimView
import CellModem.Proofs.Operations.CommandLines
import CellModem.Proofs.SerialLine.Segments
import CellModem.Proofs.Number.Integer
import CellModem.Proofs.Decoding.Fields
import CellModem.Proofs.Registry.History
import CellModem.Proofs.Registry.Offering
import CellModem.Proofs.Operations.Following
import CellModem.Proofs.Operations.Survey
import CellModem.Proofs.Decoding.Table
import CellModem.Proofs.Decoding.Cutting
import CellModem.Proofs.Operations.Profiles
import CellModem.Proofs.Operations.Bands
import CellModem.Proofs.Decoding.Places
import CellModem.Proofs.Operations.Reports
import CellModem.Proofs.Operations.Switches
import CellModem.Proofs.Conduct.Strand
import CellModem.Proofs.Lifetime.Enabling
import CellModem.Proofs.Lifetime.Boards
import CellModem.Proofs.Decoding.Cells
import CellModem.Proofs.Lifetime.SimCodes
import CellModem.Proofs.Presence.Vigil
import CellModem.Proofs.Presence.Rehearsed
