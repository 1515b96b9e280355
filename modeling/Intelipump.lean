import Intelipump.Api.Commands
import Intelipump.Api.EventStreams
import Intelipump.Api.LabSubmission
import Intelipump.Api.StreamOrder
import Intelipump.Api.StreamSlots
import Intelipump.Cloud.CommandCalls
import Intelipump.Cloud.CommandGuards
import Intelipump.Cloud.CommandIntake
import Intelipump.Cloud.CommandRecovery
import Intelipump.Cloud.Delivery
import Intelipump.Cloud.OutboxInvariant
import Intelipump.Cloud.OutboxLeases
import Intelipump.Cloud.OutboxOrder
import Intelipump.Cloud.OutboxTerminal
import Intelipump.Cloud.Redelivery
import Intelipump.Cloud.StationRuns
import Intelipump.Cloud.SyncWorker
import Intelipump.Controller.Batching
import Intelipump.Controller.Completion
import Intelipump.Controller.DecodedReports
import Intelipump.Controller.Health
import Intelipump.Controller.IdleSession
import Intelipump.Controller.LiveFilling
import Intelipump.Controller.MachineCalls
import Intelipump.Controller.MappedAgreement
import Intelipump.Controller.Observation
import Intelipump.Controller.Outbound
import Intelipump.Controller.Publications
import Intelipump.Controller.PumpSession
import Intelipump.Controller.QueueDiscipline
import Intelipump.Controller.Reachable
import Intelipump.Controller.ReadLoop
import Intelipump.Controller.SessionCore
import Intelipump.Controller.SessionModels
import Intelipump.Dart.Application.Bcd
import Intelipump.Dart.Application.BcdBijection
import Intelipump.Dart.Application.Constants
import Intelipump.Dart.Application.Decoder
import Intelipump.Dart.Application.Splitter
import Intelipump.Dart.Line.Control
import Intelipump.Dart.Line.Crc
import Intelipump.Dart.Line.ErrorDetection
import Intelipump.Dart.Line.Escaping
import Intelipump.Dart.Line.FrameBuilder
import Intelipump.Dart.Line.FrameInverse
import Intelipump.Dart.Line.FrameParser
import Intelipump.Dart.Line.InTransit
import Intelipump.Dart.Line.Stream
import Intelipump.Dart.Line.StreamInvariants
import Intelipump.Dart.Line.StreamRoundTrip
import Intelipump.Dart.Transport.Memory
import Intelipump.Domain
import Intelipump.Events.Broker
import Intelipump.Events.BrokerDelivery
import Intelipump.Exceptions
import Intelipump.Foundation.FillPlan
import Intelipump.Foundation.FlagStuffing
import Intelipump.Foundation.FullDuplex
import Intelipump.Foundation.HashChain
import Intelipump.Foundation.MissCounter
import Intelipump.Foundation.NumberedHistory
import Intelipump.Foundation.PriorityQueue
import Intelipump.Foundation.ReportedMaximum
import Intelipump.Foundation.Runs
import Intelipump.Foundation.ShiftRegister
import Intelipump.Foundation.StateEffect
import Intelipump.Foundation.StopAndWait
import Intelipump.Foundation.Tables
import Intelipump.Link.ControllerLoop
import Intelipump.Link.Corruption
import Intelipump.Link.Delivery
import Intelipump.Link.Dialogue
import Intelipump.Link.DialogueLine
import Intelipump.Link.FullDuplex
import Intelipump.Link.IdlePump
import Intelipump.Link.MeterReadings
import Intelipump.Link.OutboundExchange
import Intelipump.Link.PollAccounting
import Intelipump.Link.Polling
import Intelipump.Link.Reports
import Intelipump.Link.SilentPolls
import Intelipump.Link.StateAgreement
import Intelipump.Link.Station
import Intelipump.Link.WireLevel
import Intelipump.Persistence.AuditLog
import Intelipump.Persistence.AuditTampering
import Intelipump.Persistence.Ledger
import Intelipump.Persistence.Registry
import Intelipump.Persistence.Rows
import Intelipump.Persistence.Snapshots
import Intelipump.Persistence.SyncQueue
import Intelipump.Persistence.UnitOfWork
import Intelipump.Services.BridgeConsistency
import Intelipump.Services.BridgeSteps
import Intelipump.Services.CommunicationEvents
import Intelipump.Services.CompletionTarget
import Intelipump.Services.Deliveries
import Intelipump.Services.FillReports
import Intelipump.Services.FrozenSales
import Intelipump.Services.LabCommands
import Intelipump.Services.LedgerCalls
import Intelipump.Services.LedgerCoupling
import Intelipump.Services.LedgerSteps
import Intelipump.Services.LiveState
import Intelipump.Services.PersistenceBridge
import Intelipump.Services.PersistenceWorker
import Intelipump.Services.QueuedJobs
import Intelipump.Services.RecoveryService
import Intelipump.Services.Restart
import Intelipump.Services.SeededSessions
import Intelipump.Services.TransactionService
import Intelipump.Services.UnitFaults
import Intelipump.Simulator.Clock
import Intelipump.Simulator.CodecRoundTrip
import Intelipump.Simulator.Config
import Intelipump.Simulator.DeliveryCommands
import Intelipump.Simulator.DeliveryLimits
import Intelipump.Simulator.DeliverySteps
import Intelipump.Simulator.Encoding
import Intelipump.Simulator.FillLoop
import Intelipump.Simulator.Handling
import Intelipump.Simulator.HolsteredNozzle
import Intelipump.Simulator.Operations
import Intelipump.Simulator.PayloadSplit
import Intelipump.Simulator.PresetLifetime
import Intelipump.Simulator.Pump
import Intelipump.Simulator.PumpEvents
import Intelipump.Simulator.PumpFields
import Intelipump.Simulator.PumpReports
import Intelipump.Simulator.PumpTurns
import Intelipump.Simulator.Receive
import Intelipump.Simulator.ReplyWidths
import Intelipump.Simulator.Retransmission
import Intelipump.Simulator.SerialBridge
import Intelipump.Simulator.Session
import Intelipump.Simulator.SessionAdvance
import Intelipump.Simulator.SplitAdvance
import Intelipump.Simulator.Totals
import Intelipump.StateMachine.FaultClearing
import Intelipump.StateMachine.Guards
import Intelipump.StateMachine.Machine
import Intelipump.StateMachine.MachineRuns
import Intelipump.StateMachine.Models
import Intelipump.StateMachine.Reconciliation
import Intelipump.StateMachine.RunDiscipline
import Intelipump.StateMachine.Transitions
import Intelipump.StateMachine.Versions
import Intelipump.StateMachine.WayneMapper
import Intelipump.Text
