import AccumulatorMachine.Barrier.Crowd
import AccumulatorMachine.Handoff.Exchange
import AccumulatorMachine.Main
import AccumulatorMachine.Program.Report
import AccumulatorMachine.Stepper.Page
import AccumulatorMachine.Proofs.Handoff.Relay
import AccumulatorMachine.Proofs.OpenRun.Messages
import AccumulatorMachine.Proofs.OpenRun.Progress
import AccumulatorMachine.Proofs.Driven.Interpreted
import AccumulatorMachine.Proofs.Hosted.Refined
import AccumulatorMachine.Proofs.Schedule.Course
import AccumulatorMachine.Proofs.OpenRun.Stop
import AccumulatorMachine.Proofs.Session
import AccumulatorMachine.Proofs.Session.Isolated
import AccumulatorMachine.Proofs.OpenRun.Stopped
import AccumulatorMachine.Proofs.Barrier.Batches
import AccumulatorMachine.Proofs.Barrier.Verdicts
import AccumulatorMachine.Proofs.Handoff.Parting
import AccumulatorMachine.Proofs.Session.Callback
import AccumulatorMachine.Proofs.Machine.Contended
import AccumulatorMachine.Proofs.Stepper
import AccumulatorMachine.Proofs.Stepper.Waiting
import AccumulatorMachine.Proofs.Stepper.TypedAhead
import AccumulatorMachine.Proofs.Session.Explained
import AccumulatorMachine.Proofs.Program.Foretold
import AccumulatorMachine.Proofs.Document
import AccumulatorMachine.Proofs.Stepper.Reached
import AccumulatorMachine.Proofs.Run.CleanUp
import AccumulatorMachine.Proofs.Document.Saved
import AccumulatorMachine.Proofs.Document.Opened
import AccumulatorMachine.Proofs.CommandLine.Attended
import AccumulatorMachine.Proofs.CommandLine.Agreement
import AccumulatorMachine.Proofs.Machine.Standstill
import AccumulatorMachine.Proofs.Instruction.Grammar
import AccumulatorMachine.Proofs.Instruction.Displayed
import AccumulatorMachine.Proofs.Machine.Arithmetic
import AccumulatorMachine.Proofs.Machine.Frame
import AccumulatorMachine.Proofs.Machine.Waiting
import AccumulatorMachine.Proofs.Machine.Woken
import AccumulatorMachine.Proofs.Machine.Echo
import AccumulatorMachine.Proofs.Mailbox
import AccumulatorMachine.Proofs.Completion
import AccumulatorMachine.Proofs.Stepper.Lifecycle
import AccumulatorMachine.Proofs.Document.Uses
import AccumulatorMachine.Proofs.Program.Report
