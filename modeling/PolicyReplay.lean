import PolicyReplay.Main
import PolicyReplay.CommandLine.Perform
import PolicyReplay.Controller.Scripted
import PolicyReplay.Files.Tree
import PolicyReplay.Proofs.Account
import PolicyReplay.Proofs.Session.Course
import PolicyReplay.Proofs.Session.Lockstep
import PolicyReplay.Proofs.Session.Closing
import PolicyReplay.Proofs.RoundRobin
import PolicyReplay.Proofs.Run.Preparation
import PolicyReplay.Proofs.Run.Phases
import PolicyReplay.Proofs.Run.Gating
import PolicyReplay.Proofs.Run.PolicyFirst
import PolicyReplay.Proofs.Counters
import PolicyReplay.Proofs.Session.Counting
import PolicyReplay.Proofs.Run.Result
import PolicyReplay.Proofs.Run.Distribution
import PolicyReplay.Proofs.Run.Tallies
import PolicyReplay.Proofs.Run.Accounting
import PolicyReplay.Proofs.Run.Conservation
import PolicyReplay.Proofs.Alike
import PolicyReplay.Proofs.Task
import PolicyReplay.Proofs.Session.Timing
import PolicyReplay.Proofs.Run.Interleaving
import PolicyReplay.Proofs.Run.Isolation
import PolicyReplay.Proofs.Query.Line
import PolicyReplay.Proofs.Query.Spelling
import PolicyReplay.Proofs.Query.Remainder
import PolicyReplay.Proofs.Wire.Stream
import PolicyReplay.Proofs.Wire.Split
import PolicyReplay.Proofs.Wire.Reading
import PolicyReplay.Proofs.Wire.Recording
import PolicyReplay.Proofs.Session.Streaming
import PolicyReplay.Proofs.Command.Decoding
import PolicyReplay.Proofs.Trace.Placeholder
import PolicyReplay.Proofs.Trace.Expansion
import PolicyReplay.Proofs.Text.Lines
import PolicyReplay.Proofs.Trace.FilledText
import PolicyReplay.Proofs.Command.Provenance
import PolicyReplay.Proofs.Trace.FirstFailure
import PolicyReplay.Proofs.Log.Filtering
import PolicyReplay.Proofs.Session.Telling
import PolicyReplay.Proofs.Run.Schedule
import PolicyReplay.Proofs.Run.Chronicle
import PolicyReplay.Proofs.Run.Grammar
import PolicyReplay.Proofs.Command.Outcome
import PolicyReplay.Proofs.Policy.Diagnosis
import PolicyReplay.Proofs.RoundRobin.Balance
import PolicyReplay.Proofs.Log.Line
import PolicyReplay.Proofs.Files.Sound
import PolicyReplay.Proofs.Files.Listing
import PolicyReplay.Proofs.Workload.Catalogue
import PolicyReplay.Proofs.Settings.Layers
import PolicyReplay.Proofs.Run.Records
import PolicyReplay.Proofs.CommandLine.Verdict
import PolicyReplay.Proofs.Trace.Completeness
import PolicyReplay.Proofs.Policy.Flattening
import PolicyReplay.Proofs.Text.Slice
import PolicyReplay.Proofs.Query.Slicing
import PolicyReplay.Proofs.Latency
