import RouterCall.Config.Section
import RouterCall.Files.Folder
import RouterCall.Main
import RouterCall.Proofs.Amount
import RouterCall.Proofs.Schema
import RouterCall.Proofs.Codec
import RouterCall.Proofs.Wire
import RouterCall.Proofs.Descriptor
import RouterCall.Proofs.Parameter
import RouterCall.Proofs.Command
import RouterCall.Proofs.Call
import RouterCall.Proofs.Verdict
import RouterCall.Proofs.FieldPath
import RouterCall.Proofs.Assembly
import RouterCall.Proofs.Checks
import RouterCall.Proofs.Location
import RouterCall.Proofs.FailFast
import RouterCall.Proofs.Policies
import RouterCall.Proofs.Unmodeled
import RouterCall.Proofs.Literal
import RouterCall.Proofs.Spelling
import RouterCall.Proofs.Settled
import RouterCall.Proofs.RoundTrip
import RouterCall.Proofs.Swap
import RouterCall.Proofs.Settings
import RouterCall.Proofs.Inspection
import RouterCall.Proofs.Role
import RouterCall.Proofs.Trade
import RouterCall.Proofs.FaultKind
import RouterCall.Proofs.Arguments
import RouterCall.Proofs.Summary
import RouterCall.Proofs.Report
import RouterCall.Proofs.Numeral
import RouterCall.Proofs.Override
import RouterCall.Proofs.RawSummary
import RouterCall.Proofs.Trace
import RouterCall.Proofs.Enclosing
import RouterCall.Proofs.Level
import RouterCall.Proofs.Printed
import RouterCall.Proofs.Arrangement
import RouterCall.Proofs.Word
import RouterCall.Proofs.Tables
import RouterCall.Proofs.BlockTokens
import RouterCall.Proofs.BlockNodes
import RouterCall.Proofs.Notations
