import StreamConformance.Cell.Fifo
import StreamConformance.Cell.Latch
import StreamConformance.Cell.Promise
import StreamConformance.Cell.Queue
import StreamConformance.Cell.Schedule
import StreamConformance.Chronicle
import StreamConformance.CommandLine
import StreamConformance.Config
import StreamConformance.Demand
import StreamConformance.Duration
import StreamConformance.Element
import StreamConformance.Expectation
import StreamConformance.Halt
import StreamConformance.Helper.Basic
import StreamConformance.Helper.Script
import StreamConformance.Log
import StreamConformance.Main
import StreamConformance.Manual.Publisher
import StreamConformance.Manual.Subscriber
import StreamConformance.Numeral
import StreamConformance.Panic
import StreamConformance.Probe.Blackbox
import StreamConformance.Probe.Interleaving
import StreamConformance.Probe.Whitebox
import StreamConformance.Proofs.Cell.BoundedSequence
import StreamConformance.Proofs.Cell.Branches
import StreamConformance.Proofs.Cell.Collection
import StreamConformance.Proofs.Cell.Monitor
import StreamConformance.Proofs.Cell.Promise
import StreamConformance.Proofs.Cell.Queue
import StreamConformance.Proofs.Cell.Waiting
import StreamConformance.Proofs.Cell.Widening
import StreamConformance.Proofs.Config.Accepted
import StreamConformance.Proofs.Helper.Supplier
import StreamConformance.Proofs.Manual.Conservation
import StreamConformance.Proofs.Manual.Journal
import StreamConformance.Proofs.Manual.Offers
import StreamConformance.Proofs.Manual.Publisher
import StreamConformance.Proofs.Manual.SignalRecord
import StreamConformance.Proofs.Manual.Subscriber
import StreamConformance.Proofs.Manual.Sufficiency
import StreamConformance.Proofs.Places
import StreamConformance.Proofs.Play.Basic
import StreamConformance.Proofs.Play.Reach
import StreamConformance.Proofs.Play.Scopes
import StreamConformance.Proofs.Probe.Accounting
import StreamConformance.Proofs.Probe.Calls
import StreamConformance.Proofs.Probe.Classification
import StreamConformance.Proofs.Probe.Record
import StreamConformance.Proofs.Probe.Reports
import StreamConformance.Proofs.Probe.Settlement
import StreamConformance.Proofs.Probe.Terminal
import StreamConformance.Proofs.Range.Admission
import StreamConformance.Proofs.Range.Emission
import StreamConformance.Proofs.Range.Registry
import StreamConformance.Proofs.Range.Steps
import StreamConformance.Proofs.Range.Stopping
import StreamConformance.Proofs.Range.Stranding
import StreamConformance.Proofs.Range.Supplier
import StreamConformance.Proofs.Range.Turns
import StreamConformance.Proofs.Range.Unheeded
import StreamConformance.Proofs.Report.Agreement
import StreamConformance.Proofs.Report.Arguments
import StreamConformance.Proofs.Report.Independence
import StreamConformance.Proofs.Report.Reading
import StreamConformance.Proofs.Rule.DemandFirst
import StreamConformance.Proofs.Rule.RegistersDemand
import StreamConformance.Proofs.Rule.RejectedSubscription
import StreamConformance.Proofs.Rule.Release
import StreamConformance.Proofs.Rule.SecondSubscription
import StreamConformance.Proofs.Rule.TerminalReentrancy
import StreamConformance.Proofs.Rule.TerminalReport
import StreamConformance.Proofs.Rule.Verdict
import StreamConformance.Proofs.Rule.WiderLimits
import StreamConformance.Proofs.Run.Account
import StreamConformance.Proofs.Run.Attestation
import StreamConformance.Proofs.Run.Balance
import StreamConformance.Proofs.Run.Calls
import StreamConformance.Proofs.Run.Chronology
import StreamConformance.Proofs.Run.Conduct
import StreamConformance.Proofs.Run.Extension
import StreamConformance.Proofs.Run.Passage
import StreamConformance.Proofs.Run.Relay
import StreamConformance.Proofs.Run.Supply
import StreamConformance.Proofs.Run.Widening
import StreamConformance.Proofs.Signal.Threads
import StreamConformance.Proofs.Specimen.Allegiance
import StreamConformance.Proofs.Specimen.Backlog
import StreamConformance.Proofs.Specimen.Failures
import StreamConformance.Proofs.Specimen.Opening
import StreamConformance.Proofs.Specimen.Scene
import StreamConformance.Proofs.Specimen.Steps
import StreamConformance.Proofs.Specimen.Traits
import StreamConformance.Proofs.Specimen.Verdicts
import StreamConformance.Proofs.Stage.Balance
import StreamConformance.Proofs.Stage.Extension
import StreamConformance.Proofs.Stage.Feed
import StreamConformance.Proofs.Stage.Prompting
import StreamConformance.Proofs.Stage.Quiescence
import StreamConformance.Proofs.Stage.Reconciliation
import StreamConformance.Proofs.Stage.Signalling
import StreamConformance.Proofs.Stage.Steps
import StreamConformance.Proofs.Stage.Supply
import StreamConformance.Proofs.Stage.Widening
import StreamConformance.Proofs.Stage.Wiring
import StreamConformance.Proofs.Text.Reading
import StreamConformance.Proofs.Text.Tokens
import StreamConformance.Query
import StreamConformance.Range.Basic
import StreamConformance.Range.Helper
import StreamConformance.Range.Interleaving
import StreamConformance.Refusal
import StreamConformance.Rehearsal
import StreamConformance.Report.Basic
import StreamConformance.Report.Trial
import StreamConformance.Rule.Basic
import StreamConformance.Rule.Catalog
import StreamConformance.Rule.Scenario
import StreamConformance.Run.Basic
import StreamConformance.Run.Play
import StreamConformance.Run.Specimen
import StreamConformance.Signal.Basic
import StreamConformance.Signal.Threads
import StreamConformance.Stage
import StreamConformance.StreamError
import StreamConformance.Subject.Basic
import StreamConformance.Subject.Script
import StreamConformance.Subject.Specimen
import StreamConformance.Text.Json
import StreamConformance.Text.Quoted
import StreamConformance.Text.Unprintable
import StreamConformance.Violation
import StreamConformance.Workbench.Basic
import StreamConformance.Workbench.Delivery
import StreamConformance.Workbench.Step
